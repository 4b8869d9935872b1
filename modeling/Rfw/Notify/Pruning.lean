/-
# Pruning

The worker prunes its throttle now and then, so that keys that are not used any more do not pile
up.  A key is forgotten an hour after it was last sent, and no window is longer than that: whether
an event is sent or suppressed is therefore what it would be if nothing were ever forgotten.  (The
count that a message carries is another matter, see `Rfw.Notify.Throttle`.)
-/
import Rfw.Lib.RateLimit
import Rfw.Notify.Throttle

namespace Rfw.Notify

open Lib Lib.RateLimit Monitor

/-- The decision without the count. -/
def Admit.isSend : Admit → Bool
  | .send _ => true
  | .suppress => false

namespace Pruning

/-- What the worker does with its throttle. -/
inductive Op
  | offer (event : Event) (now : ℕ)
  | prune (now : ℕ)
deriving DecidableEq, Repr

/-- When it is done. -/
def Op.now : Op → ℕ
  | .offer _ now => now
  | .prune now => now

/-- The attempt to pass of a throttled event. -/
def Op.attempt : Op → Option (Attempt Str)
  | .offer event now => event.throttle.map fun kw => ⟨kw.1, kw.2, now⟩
  | .prune _ => none

/-- Whether an event is offered. -/
def Op.isOffer : Op → Bool
  | .offer _ _ => true
  | .prune _ => false

/-- One operation on the throttle. -/
def exec (t : Throttle) : Op → Throttle
  | .offer event now =>
      match event.throttle with
      | some (key, window) => (t.admitKey key window now).2
      | none => t
  | .prune now => t.prune now Throttle.maxIdle

/-- The decision of an operation. -/
def decision (t : Throttle) : Op → Option (Decision Str)
  | .offer event now =>
      match event.throttle with
      | some (key, window) => some ⟨⟨key, window, now⟩, (t.admitKey key window now).1.isSend⟩
      | none => none
  | .prune _ => none

/-- The throttle after a sequence of operations. -/
def execAll (t : Throttle) (ops : List Op) : Throttle := ops.foldl exec t

/-- The decisions of a sequence of operations. -/
def decisions : Throttle → List Op → List (Decision Str)
  | _, [] => []
  | t, op :: ops => (decision t op).toList ++ decisions (exec t op) ops

/-- Time does not run backwards. -/
def Timely (ops : List Op) : Prop := (ops.map Op.now).Pairwise (· ≤ ·)

/-! ## Windows -/

/-- The window that belongs to a key, which its first letter tells. -/
def windowOf (key : Str) : ℕ :=
  match key.head? with
  | some 'd' => throttleDns
  | some 'b' => throttleBind
  | some 'l' => throttleLimit
  | some 'r' => throttleReloadFailed
  | _ => throttleInternal

/-- All events of a key have the same window. -/
lemma window_eq {event : Event} {key : Str} {window : ℕ} (h : event.throttle = some (key, window)) :
    window = windowOf key := by
  cases event <;>
    simp only [Event.throttle, reduceCtorEq, Option.some.injEq, Prod.mk.injEq] at h <;>
    obtain ⟨rfl, rfl⟩ := h <;> rfl

/-- No window is empty, and none is longer than the time after which a key is forgotten. -/
lemma windowOf_bounds (key : Str) : 0 < windowOf key ∧ windowOf key ≤ Throttle.maxIdle := by
  unfold windowOf
  split <;> decide

/-! ## A throttle that forgets and one that does not -/

/-- The throttle agrees with a memory that never forgets, up to keys that were sent an hour ago. -/
structure Remembers (t : Throttle) (m : Memory Str) (clock : ℕ) : Prop where
  kept : ∀ key entry, t.get? key = some entry → m key = some entry.lastSent
  dropped : ∀ key last, m key = some last → t.get? key = none → last + Throttle.maxIdle ≤ clock
  past : ∀ key last, m key = some last → last ≤ clock

lemma remembers_empty (clock : ℕ) : Remembers .empty fresh clock where
  kept := by
    intro key entry h
    cases h
  dropped := by
    intro key last h
    cases h
  past := by
    intro key last h
    cases h

section Step

variable {t : Throttle} {m : Memory Str} {clock now : ℕ}

lemma Remembers.mono (h : Remembers t m clock) (hle : clock ≤ now) : Remembers t m now where
  kept := h.kept
  dropped := fun key last hm ht => (h.dropped key last hm ht).trans hle
  past := fun key last hm => (h.past key last hm).trans hle

/-- Pruning drops only keys that were sent an hour ago. -/
lemma Remembers.prune (h : Remembers t m clock) (hle : clock ≤ now) :
    Remembers (t.prune now Throttle.maxIdle) m now where
  kept := by
    intro key entry hget
    rw [Throttle.prune, Table.get?_filter, Option.filter_eq_some_iff] at hget
    exact h.kept key entry hget.1
  dropped := by
    intro key last hm hget
    rw [Throttle.prune, Table.get?_filter] at hget
    cases ht : t.get? key with
    | none => exact (h.dropped key last hm ht).trans hle
    | some entry =>
      obtain rfl : entry.lastSent = last := Option.some.inj ((h.kept key entry ht).symm.trans hm)
      have hold : ¬ now - entry.lastSent < Throttle.maxIdle := by
        simpa [ht, Option.filter_eq_none_iff] using hget
      have hpos : 0 < Throttle.maxIdle := by decide
      omega
  past := fun key last hm => (h.past key last hm).trans hle

/-- A decision is made as if nothing had been forgotten. -/
lemma Remembers.isSend (h : Remembers t m clock) (hle : clock ≤ now) {key : Str} {window : ℕ}
    (hwindow : window ≤ Throttle.maxIdle) :
    (t.admitKey key window now).1.isSend = sends m ⟨key, window, now⟩ := by
  rw [Throttle.admitKey, sends]
  cases hget : t.get? key with
  | some entry =>
    rw [h.kept key entry hget]
    by_cases hrecent : now - entry.lastSent < window
    · simp [hrecent, Admit.isSend]
    · have hpassed : window ≤ now - entry.lastSent := Nat.not_lt.mp hrecent
      simp [hrecent, hpassed, Admit.isSend]
  | none =>
    cases hm : m key with
    | none => rfl
    | some last =>
      -- the key was forgotten, which took longer than any window
      have hold := h.dropped key last hm hget
      have hpassed : window ≤ now - last := by omega
      simp [hpassed, Admit.isSend]

lemma get?_admitKey_of_ne (t : Throttle) {key key' : Str} (window now : ℕ) (h : key' ≠ key) :
    (t.admitKey key window now).2.get? key' = t.get? key' := by
  rw [Throttle.admitKey]
  split
  · split <;> exact Table.get?_insert_of_ne t _ h
  · exact Table.get?_insert_of_ne t _ h

/-- What the throttle stores under the key of an event. -/
lemma get?_admitKey (t : Throttle) (key key' : Str) (window now : ℕ) :
    ((t.admitKey key window now).2.get? key').map ThrottleEntry.lastSent =
      if key = key' ∧ (t.admitKey key window now).1.isSend = true then some now
      else (t.get? key').map ThrottleEntry.lastSent := by
  by_cases hkey : key = key'
  · subst hkey
    rw [Throttle.admitKey]
    cases hget : t.get? key with
    | some entry =>
      by_cases hrecent : now - entry.lastSent < window
      · simp [hrecent, Admit.isSend]
      · simp [hrecent, Admit.isSend]
    | none => simp [Admit.isSend]
  · rw [if_neg fun h => hkey h.1, get?_admitKey_of_ne t window now (Ne.symm hkey)]

/-- An event is remembered by both if it is sent, and by none if it is suppressed. -/
lemma Remembers.offer (h : Remembers t m clock) (hle : clock ≤ now) {key : Str} {window : ℕ}
    (hwindow : window ≤ Throttle.maxIdle) :
    Remembers (t.admitKey key window now).2 (next m ⟨key, window, now⟩) now := by
  have hstored := fun key' => get?_admitKey t key key' window now
  have hsend : (t.admitKey key window now).1.isSend = sends m ⟨key, window, now⟩ :=
    h.isSend hle hwindow
  have hnext := next_apply m ⟨key, window, now⟩
  refine ⟨fun key' entry hget => ?_, fun key' last hm hget => ?_, fun key' last hm => ?_⟩
  · have hentry := hstored key'
    rw [hget, hsend] at hentry
    rw [hnext]
    split
    · rename_i hsent
      rw [if_pos hsent] at hentry
      exact hentry.symm
    · rename_i hsent
      rw [if_neg hsent] at hentry
      obtain ⟨old, hold, hlast⟩ := Option.map_eq_some_iff.mp hentry.symm
      rw [← hlast]
      exact h.kept key' old hold
  · have hentry := hstored key'
    rw [hget, hsend] at hentry
    rw [hnext] at hm
    split at hm
    · rename_i hsent
      rw [if_pos hsent] at hentry
      cases hentry
    · rename_i hsent
      rw [if_neg hsent] at hentry
      have hnone : t.get? key' = none := Option.map_eq_none_iff.mp hentry.symm
      exact (h.dropped key' last hm hnone).trans hle
  · rw [hnext] at hm
    split at hm
    · exact (Option.some.inj hm).ge
    · exact (h.past key' last hm).trans hle

/-- One operation, on the throttle and on the memory that never forgets. -/
lemma Remembers.exec (h : Remembers t m clock) {op : Op} (hle : clock ≤ op.now) :
    (decision t op).toList = judge m op.attempt.toList ∧
      Remembers (exec t op) (remember m op.attempt.toList) op.now := by
  cases op with
  | prune now => exact ⟨rfl, h.prune hle⟩
  | offer event now =>
    rw [decision, Pruning.exec, Op.attempt]
    cases hthrottle : event.throttle with
    | none => exact ⟨rfl, h.mono hle⟩
    | some kw =>
      obtain ⟨key, window⟩ := kw
      have hwindow : window ≤ Throttle.maxIdle := by
        rw [window_eq hthrottle]
        exact (windowOf_bounds key).2
      have hsend : (t.admitKey key window now).1.isSend = sends m ⟨key, window, now⟩ :=
        h.isSend hle hwindow
      refine ⟨?_, h.offer hle hwindow⟩
      simp only [hsend]
      rfl

end Step

/-! ## Whole runs -/

/-- The attempts of a sequence of operations. -/
def attempts (ops : List Op) : List (Attempt Str) := ops.filterMap Op.attempt

lemma attempts_cons (op : Op) (ops : List Op) :
    attempts (op :: ops) = op.attempt.toList ++ attempts ops := by
  rw [attempts, List.filterMap_cons]
  cases op.attempt <;> rfl

/-- In every run the decisions are those of a throttle that never forgets. -/
lemma Remembers.run {t : Throttle} {m : Memory Str} {clock : ℕ} {ops : List Op}
    (h : Remembers t m clock) (htimely : Timely ops) (hle : ∀ op ∈ ops, clock ≤ op.now) :
    decisions t ops = judge m (attempts ops) ∧
      ∀ now, clock ≤ now → (∀ op ∈ ops, op.now ≤ now) →
        Remembers (execAll t ops) (remember m (attempts ops)) now := by
  induction ops generalizing t m clock with
  | nil => exact ⟨rfl, fun now hnow _ => h.mono hnow⟩
  | cons op ops ih =>
    obtain ⟨hfirst, hrest⟩ := List.pairwise_cons.mp htimely
    obtain ⟨hop, hops⟩ := List.forall_mem_cons.mp hle
    obtain ⟨hdecision, hexec⟩ := h.exec hop
    have hlater : ∀ op' ∈ ops, op.now ≤ op'.now := fun op' hop' =>
      hfirst op'.now (List.mem_map_of_mem hop')
    obtain ⟨hdecisions, hend⟩ := ih hexec hrest hlater
    refine ⟨?_, fun now _ hnow => ?_⟩
    · rw [decisions, attempts_cons, judge_append, hdecision, hdecisions]
    · obtain ⟨hop', hops'⟩ := List.forall_mem_cons.mp hnow
      rw [attempts_cons, remember, List.foldl_append]
      exact hend now hop' hops'

lemma decisions_eq {ops : List Op} (htimely : Timely ops) :
    decisions .empty ops = judge fresh (attempts ops) :=
  ((remembers_empty 0).run htimely fun _ _ => Nat.zero_le _).1

lemma Timely.sublist {ops ops' : List Op} (h : Timely ops) (hsub : ops'.Sublist ops) :
    Timely ops' := List.Pairwise.sublist (hsub.map Op.now) h

/-- Pruning makes no attempts. -/
lemma attempts_filter_isOffer (ops : List Op) :
    attempts (ops.filter Op.isOffer) = attempts ops := by
  rw [attempts, attempts, List.filterMap_filter]
  refine List.filterMap_congr fun op _ => ?_
  cases op <;> rfl

/-- The operations under a key make the attempts under that key. -/
lemma attempts_filter_key (ops : List Op) (key : Str) :
    attempts (ops.filter fun op => op.attempt.map Attempt.key = some key) =
      (attempts ops).filter fun a => a.key = key := by
  rw [attempts, attempts, List.filterMap_filter, List.filter_filterMap]
  refine List.filterMap_congr fun op _ => ?_
  cases op.attempt with
  | none => rfl
  | some a =>
    by_cases h : a.key = key
    · simp [h, Option.filter]
    · simp [h, Option.filter]

lemma window_of_mem_attempts {ops : List Op} {a : Attempt Str} (h : a ∈ attempts ops) :
    a.window = windowOf a.key := by
  obtain ⟨op, -, hop⟩ := List.mem_filterMap.mp h
  cases op with
  | prune now => cases hop
  | offer event now =>
    obtain ⟨kw, hthrottle, rfl⟩ := Option.map_eq_some_iff.mp hop
    exact window_eq hthrottle

/-- Right after pruning, every key in the throttle was last sent less than an hour before. -/
lemma last_of_pruned {before : List Op} {now : ℕ} (htimely : Timely (before ++ [.prune now]))
    {key : Str} {entry : ThrottleEntry}
    (hget : (execAll .empty (before ++ [.prune now])).get? key = some entry) :
    lastSent key (decisions .empty before) = some entry.lastSent ∧
      entry.lastSent ≤ now ∧ now < entry.lastSent + Throttle.maxIdle := by
  have hbefore : Timely before := htimely.sublist (List.sublist_append_left _ _)
  have hpast : ∀ op ∈ before, op.now ≤ now := by
    intro op hop
    rw [Timely, List.map_append, List.pairwise_append] at htimely
    exact htimely.2.2 op.now (List.mem_map_of_mem hop) now (List.mem_singleton_self _)
  obtain ⟨hdecisions, hend⟩ := (remembers_empty 0).run hbefore fun _ _ => Nat.zero_le _
  have hremembers := hend now (Nat.zero_le _) hpast
  -- what is left after pruning was there before, and is not old
  have hpruned : execAll .empty (before ++ [.prune now]) =
      (execAll .empty before).prune now Throttle.maxIdle := List.foldl_append
  rw [hpruned, Throttle.prune, Table.get?_filter, Option.filter_eq_some_iff] at hget
  obtain ⟨hkept, hrecent⟩ := hget
  have hlast := hremembers.kept key entry hkept
  refine ⟨?_, hremembers.past key _ hlast, ?_⟩
  · rw [hdecisions, ← hlast, remember_eq]
    simp [fresh]
  · have hdiff : now - entry.lastSent < Throttle.maxIdle := of_decide_eq_true hrecent
    omega

/-- **Pruning never changes who is rate-limited.**  In every run with nondecreasing times and
prunings at any places, the decisions are those of the same run without pruning; between two
messages of a key at least its window has passed; the decisions under a key are those of the run of
that key's events alone; and right after a pruning every remembered key was last sent less than an
hour before. -/
theorem decisions_pruned (ops : List Op) (htimely : Timely ops) :
    decisions .empty ops = decisions .empty (ops.filter Op.isOffer) ∧
    ((decisions .empty ops).Pairwise fun d d' =>
      d.key = d'.key → d.sent = true → d'.sent = true →
        d.window = d'.window ∧ d.now + d'.window ≤ d'.now) ∧
    (∀ key, (decisions .empty ops).filter (fun d => d.key = key) =
      decisions .empty (ops.filter fun op => op.attempt.map Attempt.key = some key)) ∧
    (∀ before now after, ops = before ++ .prune now :: after → ∀ key entry,
      (execAll .empty (before ++ [.prune now])).get? key = some entry →
        lastSent key (decisions .empty before) = some entry.lastSent ∧
        entry.lastSent ≤ now ∧ now < entry.lastSent + Throttle.maxIdle) := by
  refine ⟨?_, ?_, fun key => ?_, ?_⟩
  · rw [decisions_eq htimely, decisions_eq (htimely.sublist List.filter_sublist),
      attempts_filter_isOffer]
  · have hwindow : ∀ a ∈ attempts ops, a.window = windowOf a.key := fun a =>
      window_of_mem_attempts
    have hpos : ∀ a ∈ attempts ops, 0 < a.window := by
      intro a ha
      rw [hwindow a ha]
      exact (windowOf_bounds a.key).1
    rw [decisions_eq htimely]
    refine (pairwise_judge hpos).imp_of_mem fun hd hd' hspaced hkey hsent hsent' => ?_
    refine ⟨?_, hspaced hkey hsent hsent'⟩
    rw [hwindow _ (mem_of_mem_judge hd), hwindow _ (mem_of_mem_judge hd'), hkey]
  · rw [decisions_eq htimely, decisions_eq (htimely.sublist List.filter_sublist),
      attempts_filter_key]
    exact filter_judge rfl
  · rintro before now after rfl key entry hget
    have hprefix : Timely (before ++ [.prune now]) := by
      refine htimely.sublist (List.Sublist.append_left ?_ before)
      exact (List.nil_sublist after).cons_cons _
    exact last_of_pruned hprefix hget

/-- A key that is forgotten after an hour, next to one that is suppressed. -/
def demoOps : List Op :=
  [.offer Throttling.demoChange 0, .offer Throttling.demoChange (secs 1), .prune (secs 3600),
    .offer Throttling.demoChange (secs 3600)]

theorem decisions_pruned_demo :
    Timely demoOps ∧ (decisions .empty demoOps).map Decision.sent = [true, false, true] ∧
      decisions .empty demoOps = decisions .empty (demoOps.filter Op.isOffer) := by
  have htimely : Timely demoOps := by
    unfold Timely
    decide
  exact ⟨htimely, by decide, (decisions_pruned demoOps htimely).1⟩

/-- The worker offers each event, and prunes unless the event is suppressed. -/
lemma handle_eq_execAll (t : Throttle) (event : Event) (now : ℕ) :
    (t.handle event now).2 =
      execAll t (.offer event now ::
        if (t.handle event now).1.isSend then [.prune now] else []) := by
  cases hthrottle : event.throttle with
  | none => simp [Throttle.handle, hthrottle, Admit.isSend, execAll, exec]
  | some kw =>
    obtain ⟨key, window⟩ := kw
    cases hdecision : t.admitKey key window now with
    | mk outcome t' =>
      cases outcome with
      | send suppressed =>
        simp [Throttle.handle, hthrottle, hdecision, Admit.isSend, execAll, exec]
      | suppress => simp [Throttle.handle, hthrottle, hdecision, Admit.isSend, execAll, exec]

end Pruning

end Rfw.Notify
