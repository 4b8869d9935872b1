/-
# The throttle

`Throttle` admits the first event of a key, suppresses and counts the events that follow inside the
window, and hands the count to the next event that it admits.  The worker prunes the throttle
after every event that is not suppressed: an entry that was last sent an hour ago is forgotten,
together with the count it still holds.

So the counts are conserved in some runs and not in others, and `conserved_iff_keepsHeld` says in
which.
-/
import Rfw.Lib.Table
import Rfw.Lib.Transition
import Rfw.Notify.Event

namespace Rfw.Notify

open Lib Monitor

/-- `ThrottleEntry`. -/
structure ThrottleEntry where
  lastSent : ℕ
  suppressed : ℕ
deriving DecidableEq, Repr

/-- `Throttle`. -/
abbrev Throttle := Table Str ThrottleEntry

/-- Outcome of asking the throttle about an event. -/
inductive Admit
  /-- Deliver, mentioning this many suppressed predecessors. -/
  | send (suppressed : ℕ)
  | suppress
deriving DecidableEq, Repr

namespace Throttle

/-- `Throttle::admit`. -/
def admitKey (t : Throttle) (key : Str) (window now : ℕ) : Admit × Throttle :=
  match t.get? key with
  | some entry =>
      -- the time of the last message stays: the window is not extended
      if now - entry.lastSent < window then
        (.suppress, t.insert key { entry with suppressed := entry.suppressed + 1 })
      else (.send entry.suppressed, t.insert key { lastSent := now, suppressed := 0 })
  | none => (.send 0, t.insert key { lastSent := now, suppressed := 0 })

/-- `Throttle::prune`. -/
def prune (t : Throttle) (now maxIdle : ℕ) : Throttle :=
  t.filter fun _ e => now - e.lastSent < maxIdle

/-- The idle time after which `process` lets an entry be forgotten. -/
def maxIdle : ℕ := secs 3600

/-- The throttle's part of `Worker::process`. -/
def handle (t : Throttle) (event : Event) (now : ℕ) : Admit × Throttle :=
  match event.throttle with
  | some (key, window) =>
      match t.admitKey key window now with
      | (.suppress, t) => (.suppress, t)
      | (.send suppressed, t) => (.send suppressed, t.prune now maxIdle)
  | none => (.send 0, t.prune now maxIdle)

/-- The count that the throttle holds under a key. -/
def held (t : Throttle) (key : Str) : ℕ := ((t.get? key).map ThrottleEntry.suppressed).getD 0

end Throttle

/-! ## Runs of the worker, as the throttle sees them -/

namespace Throttling

/-- The throttle after some events, with what it decided under which key, latest first. -/
structure State where
  throttle : Throttle
  clock : ℕ
  log : List (Option Str × Admit)

/-- An event and the time at which it is processed. -/
structure Input where
  event : Event
  now : ℕ
deriving DecidableEq, Repr

/-- The throttle key of an event. -/
def Input.key (i : Input) : Option Str := i.event.throttle.map Prod.fst

/-- The throttle of a worker at its start. -/
def init : State := { throttle := .empty, clock := 0, log := [] }

/-- One event is processed. -/
def step (s : State) (i : Input) : Option State :=
  if s.clock ≤ i.now then
    some
      { throttle := (s.throttle.handle i.event i.now).2
        clock := i.now
        log := (i.key, (s.throttle.handle i.event i.now).1) :: s.log }
  else none

/-- The number of events suppressed under a key. -/
def suppressedUnder (key : Str) (log : List (Option Str × Admit)) : ℕ :=
  log.countP fun e => e = (some key, .suppress)

/-- The count that one decision carried for a key. -/
def carriedBy (key : Str) : Option Str × Admit → ℕ
  | (some k, .send suppressed) => if k = key then suppressed else 0
  | _ => 0

/-- The counts that the delivered events of a key carried. -/
def carriedUnder (key : Str) (log : List (Option Str × Admit)) : ℕ :=
  (log.map (carriedBy key)).sum

/-- Every suppressed event is in a count that was carried or is still held. -/
def Conserved (s : State) : Prop :=
  ∀ key, suppressedUnder key s.log = carriedUnder key s.log + s.throttle.held key

/-- The event falls into the window of an entry. -/
def suppresses (t : Throttle) (i : Input) : Bool :=
  match i.event.throttle with
  | some (key, window) =>
      match t.get? key with
      | some entry => decide (i.now - entry.lastSent < window)
      | none => false
  | none => false

/-- The condition on an event: if it is not suppressed, then every other key that holds a count was
last sent less than an hour ago. -/
def KeepsHeld (s : State) (i : Input) : Prop :=
  suppresses s.throttle i = false → ∀ key entry, s.throttle.get? key = some entry →
    i.key ≠ some key → 0 < entry.suppressed → i.now - entry.lastSent < Throttle.maxIdle

/-- The count that an event makes the throttle forget under a key. -/
def forgotten (t : Throttle) (i : Input) (key : Str) : ℕ :=
  if suppresses t i = true ∨ i.key = some key then 0
  else
    match t.get? key with
    | some entry =>
        if i.now - entry.lastSent < Throttle.maxIdle then 0 else entry.suppressed
    | none => 0

lemma keepsHeld_iff {s : State} {i : Input} :
    KeepsHeld s i ↔ ∀ key, forgotten s.throttle i key = 0 := by
  simp only [KeepsHeld, forgotten]
  constructor
  · intro h key
    by_cases hskip : suppresses s.throttle i = true ∨ i.key = some key
    · rw [if_pos hskip]
    · rw [if_neg hskip]
      rw [not_or, Bool.not_eq_true] at hskip
      cases hget : s.throttle.get? key with
      | none => rfl
      | some entry =>
        by_cases hzero : entry.suppressed = 0
        · simp only [hzero, ite_self]
        · exact if_pos (h hskip.1 key entry hget hskip.2 (Nat.pos_of_ne_zero hzero))
  · intro h hnot key entry hget hkey hpos
    have hkey' := h key
    rw [if_neg (by simp [hnot, hkey])] at hkey'
    by_contra hold
    simp only [hget, hold, if_false] at hkey'
    omega

/-! ## One event -/

lemma held_insert (t : Throttle) (k key : Str) (e : ThrottleEntry) :
    Throttle.held (t.insert k e) key = if key = k then e.suppressed else t.held key := by
  simp only [Throttle.held, Table.get?_insert]
  split <;> rfl

lemma held_prune (t : Throttle) (now maxIdle : ℕ) (key : Str) :
    (t.prune now maxIdle).held key =
      match t.get? key with
      | some e => if now - e.lastSent < maxIdle then e.suppressed else 0
      | none => 0 := by
  simp only [Throttle.held, Throttle.prune, Table.get?_filter]
  cases t.get? key with
  | none => rfl
  | some e =>
    by_cases h : now - e.lastSent < maxIdle
    · simp [Option.filter, h]
    · simp [Option.filter, h]

/-- A suppressed event adds one to the count of its key. -/
lemma handle_of_suppresses {t : Throttle} {i : Input} (h : suppresses t i = true) :
    ∃ key entry, i.key = some key ∧ t.get? key = some entry ∧
      t.handle i.event i.now =
        (.suppress, t.insert key { entry with suppressed := entry.suppressed + 1 }) := by
  simp only [suppresses] at h
  cases hthrottle : i.event.throttle with
  | none =>
    rw [hthrottle] at h
    cases h
  | some kw =>
    obtain ⟨key, window⟩ := kw
    rw [hthrottle] at h
    cases hget : t.get? key with
    | none =>
      simp only [hget] at h
      cases h
    | some entry =>
      simp only [hget, decide_eq_true_eq] at h
      refine ⟨key, entry, by simp [Input.key, hthrottle], hget, ?_⟩
      simp only [Throttle.handle, Throttle.admitKey, hthrottle, hget, h, if_true]

/-- An event that is sent takes the count of its key with it, and the throttle is pruned. -/
lemma handle_of_not_suppresses {t : Throttle} {i : Input} (h : suppresses t i = false) :
    (i.key = none ∧ t.handle i.event i.now = (.send 0, t.prune i.now Throttle.maxIdle)) ∨
      ∃ key, i.key = some key ∧ t.handle i.event i.now =
        (.send (t.held key),
          Throttle.prune (t.insert key { lastSent := i.now, suppressed := 0 }) i.now
            Throttle.maxIdle) := by
  simp only [suppresses] at h
  cases hthrottle : i.event.throttle with
  | none => exact Or.inl ⟨by simp [Input.key, hthrottle], by simp only [Throttle.handle, hthrottle]⟩
  | some kw =>
    obtain ⟨key, window⟩ := kw
    refine Or.inr ⟨key, by simp [Input.key, hthrottle], ?_⟩
    rw [hthrottle] at h
    cases hget : t.get? key with
    | none => simp [Throttle.handle, Throttle.admitKey, Throttle.held, hthrottle, hget]
    | some entry =>
      simp only [hget, decide_eq_false_iff_not] at h
      simp [Throttle.handle, Throttle.admitKey, Throttle.held, hthrottle, hget, h]

/-- Under a key other than its own, an event that is sent splits the count into what the pruned
throttle holds and what is forgotten. -/
lemma held_prune_add_forgotten {t t' : Throttle} {i : Input} (key : Str)
    (hsup : suppresses t i = false) (hkey : i.key ≠ some key) (hget : t'.get? key = t.get? key) :
    (t'.prune i.now Throttle.maxIdle).held key + forgotten t i key = t.held key := by
  have hother : ¬ (suppresses t i = true ∨ i.key = some key) := by simp [hsup, hkey]
  rw [held_prune, hget, forgotten, if_neg hother, Throttle.held]
  cases t.get? key with
  | none => rfl
  | some entry =>
    by_cases hfresh : i.now - entry.lastSent < Throttle.maxIdle
    · simp only [hfresh, if_true, Option.map_some, Option.getD_some]
      omega
    · simp only [hfresh, if_false, Option.map_some, Option.getD_some]
      omega

/-- The balance of one event under every key: what is suppressed is carried, held or forgotten. -/
lemma balance_step {s s' : State} {i : Input} (hstep : step s i = some s') (key : Str) :
    suppressedUnder key s'.log + (carriedUnder key s.log + s.throttle.held key) =
      suppressedUnder key s.log + (carriedUnder key s'.log + s'.throttle.held key) +
        forgotten s.throttle i key := by
  obtain ⟨-, hs'⟩ := Option.ite_none_right_eq_some.mp hstep
  obtain rfl := Option.some.inj hs'
  simp only [suppressedUnder, carriedUnder, List.countP_cons, List.map_cons, List.sum_cons]
  cases hsup : suppresses s.throttle i with
  | true =>
    obtain ⟨k, entry, hkey, hget, hhandle⟩ := handle_of_suppresses hsup
    have hheld : s.throttle.held k = entry.suppressed := by simp [Throttle.held, hget]
    rw [hhandle, held_insert, hkey]
    by_cases heq : key = k
    · -- one more is suppressed, and one more is held
      subst heq
      simp [carriedBy, forgotten, hsup, hheld]
      omega
    · have hne : k ≠ key := fun h => heq h.symm
      simp [carriedBy, forgotten, hsup, heq, hne]
  | false =>
    rcases handle_of_not_suppresses hsup with ⟨hkey, hhandle⟩ | ⟨k, hkey, hhandle⟩
    · -- an event without a key only prunes
      have hprune := held_prune_add_forgotten key hsup (by simp [hkey]) rfl
      rw [hhandle, hkey]
      simp [carriedBy]
      omega
    · rw [hhandle, hkey]
      by_cases heq : key = k
      · -- the count of the key is carried, and starts again at zero
        subst heq
        have hzero : forgotten s.throttle i key = 0 := if_pos (Or.inr hkey)
        rw [held_prune, Table.get?_insert_self, hzero]
        simp [carriedBy]
        omega
      · have hne : k ≠ key := fun h => heq h.symm
        have hprune := held_prune_add_forgotten key hsup (by simp [hkey, hne])
          (Table.get?_insert_of_ne s.throttle { lastSent := i.now, suppressed := 0 } heq)
        simp [carriedBy, hne]
        omega

/-- No count is ever invented. -/
def Sound (s : State) : Prop :=
  ∀ key, carriedUnder key s.log + s.throttle.held key ≤ suppressedUnder key s.log

/-- An event keeps the counts conserved exactly when it forgets none. -/
lemma conserved_step (s : State) (i : Input) (s' : State) (h : Sound s)
    (hstep : step s i = some s') : Sound s' ∧ (Conserved s' ↔ Conserved s ∧ KeepsHeld s i) := by
  have hbalance := balance_step hstep
  refine ⟨fun key => ?_, ?_⟩
  · have hb := hbalance key
    have hle := h key
    omega
  · rw [keepsHeld_iff]
    constructor
    · intro hcons
      refine ⟨fun key => ?_, fun key => ?_⟩
      · have hb := hbalance key
        have hle := h key
        have heq := hcons key
        omega
      · have hb := hbalance key
        have hle := h key
        have heq := hcons key
        omega
    · rintro ⟨hcons, hzero⟩ key
      have hb := hbalance key
      have heq := hcons key
      have hz := hzero key
      omega

/-- **When suppressed events are accounted for.**  After every sequence of events, the counts add
up under every key exactly when no event that was sent found another key that held a count and had
been idle for an hour. -/
theorem conserved_iff_keepsHeld (is : List Input) (s : State) (hrun : run step init is = some s) :
    Conserved s ↔ RunAll step KeepsHeld init is := by
  have hconserved : Conserved init := fun key => rfl
  have hsound : Sound init := fun key => le_refl _
  rw [run_iff_runAll conserved_step hsound hrun, and_iff_right hconserved]

/-- A changed DNS answer of a forwarder. -/
def demoChange : Event := .dnsChanged "l".toList "h".toList [] []

/-- The next change is only a minute away, and so the count is reported. -/
def reportedRun : List Input :=
  [⟨demoChange, 0⟩, ⟨demoChange, secs 1⟩, ⟨.started [], secs 2⟩, ⟨demoChange, secs 61⟩]

theorem conserved_reportedRun :
    ∃ s, run step init reportedRun = some s ∧
      (Conserved s ↔ RunAll step KeepsHeld init reportedRun) := by
  have hsome : (run step init reportedRun).isSome = true := by decide
  obtain ⟨s, hs⟩ := Option.isSome_iff_exists.mp hsome
  exact ⟨s, hs, conserved_iff_keepsHeld reportedRun s hs⟩

/-- One event of another kind an hour later makes the throttle forget the count. -/
def forgottenRun : List Input :=
  [⟨demoChange, 0⟩, ⟨demoChange, secs 1⟩, ⟨.started [], secs 3600⟩]

/-- Suppressed events can be lost. -/
theorem not_conserved_forgottenRun :
    ¬ ∀ is s, run step init is = some s → Conserved s := by
  intro hall
  have hend : ((run step init forgottenRun).map fun s =>
      (suppressedUnder "dns:l".toList s.log, carriedUnder "dns:l".toList s.log,
        s.throttle.held "dns:l".toList)) = some (1, 0, 0) := by decide
  obtain ⟨s, hs, hcounts⟩ := Option.map_eq_some_iff.mp hend
  obtain ⟨hsuppressed, hrest⟩ := Prod.mk.inj hcounts
  obtain ⟨hcarried, hheld⟩ := Prod.mk.inj hrest
  have hconserved := hall forgottenRun s hs "dns:l".toList
  rw [hsuppressed, hcarried, hheld] at hconserved
  cases hconserved

end Throttling

end Rfw.Notify
