/-
# Rate limits

A rate limiter that never forgets: it remembers for every key when the key was last let through,
and lets a new attempt through when the attempt's window has passed since then.  An implementation
that drops old keys is compared with it.
-/
import Mathlib.Data.List.Basic
import Mathlib.Logic.Function.Basic
import Mathlib.Order.Basic

namespace Lib.RateLimit

/-- Something that wants to pass under a key, with the window that applies to it. -/
structure Attempt (κ : Type*) where
  key : κ
  window : ℕ
  now : ℕ
deriving DecidableEq, Repr

/-- An attempt and whether it passed. -/
structure Decision (κ : Type*) extends Attempt κ where
  sent : Bool
deriving DecidableEq, Repr

/-- When each key last passed. -/
abbrev Memory (κ : Type*) := κ → Option ℕ

variable {κ : Type*}

/-- Nothing has passed yet. -/
def fresh : Memory κ := fun _ => none

/-- Whether an attempt passes. -/
def sends (m : Memory κ) (a : Attempt κ) : Bool :=
  match m a.key with
  | some last => decide (a.window ≤ a.now - last)
  | none => true

lemma sends_congr {m m' : Memory κ} {a : Attempt κ} (h : m a.key = m' a.key) :
    sends m a = sends m' a := by
  rw [sends, sends, h]

/-- What passes comes a window after the last time that is remembered. -/
lemma window_le_of_sends {m : Memory κ} {a : Attempt κ} (hpos : 0 < a.window)
    (h : sends m a = true) {last : ℕ} (hlast : m a.key = some last) :
    last + a.window ≤ a.now := by
  simp only [sends, hlast, decide_eq_true_eq] at h
  omega

variable [DecidableEq κ]

/-- The memory after an attempt. -/
def next (m : Memory κ) (a : Attempt κ) : Memory κ :=
  if sends m a then Function.update m a.key (some a.now) else m

/-- The decisions on a sequence of attempts. -/
def judge : Memory κ → List (Attempt κ) → List (Decision κ)
  | _, [] => []
  | m, a :: as => ⟨a, sends m a⟩ :: judge (next m a) as

/-- The memory after a sequence of attempts. -/
def remember (m : Memory κ) (as : List (Attempt κ)) : Memory κ := as.foldl next m

/-- The time of the last decision that let a key pass. -/
def lastSent (key : κ) (ds : List (Decision κ)) : Option ℕ :=
  (ds.reverse.find? fun d => d.key = key ∧ d.sent).map fun d => d.now

variable {m m' : Memory κ} {key : κ} {a : Attempt κ} {as : List (Attempt κ)}

lemma next_of_ne (h : a.key ≠ key) : next m a key = m key := by
  unfold next
  split
  · exact Function.update_of_ne (Ne.symm h) _ _
  · rfl

lemma next_of_sends (h : sends m a = true) : next m a a.key = some a.now := by
  rw [next, if_pos h, Function.update_self]

lemma next_of_not_sends (h : sends m a = false) : next m a = m := by
  rw [next, h]
  rfl

lemma next_apply (m : Memory κ) (a : Attempt κ) (key : κ) :
    next m a key = if a.key = key ∧ sends m a = true then some a.now else m key := by
  by_cases hkey : a.key = key
  · subst hkey
    cases hs : sends m a with
    | true => simp [next_of_sends hs]
    | false => simp [next_of_not_sends hs]
  · rw [next_of_ne hkey, if_neg fun h => hkey h.1]

/-- What is remembered of a key depends on the key alone. -/
lemma next_congr (h : m key = m' key) (hkey : a.key = key) : next m a key = next m' a key := by
  subst hkey
  cases hs : sends m a with
  | true => rw [next_of_sends hs, next_of_sends ((sends_congr h).symm.trans hs)]
  | false => rw [next_of_not_sends hs, next_of_not_sends ((sends_congr h).symm.trans hs), h]

lemma mem_of_mem_judge {d : Decision κ} (h : d ∈ judge m as) : d.toAttempt ∈ as := by
  induction as generalizing m with
  | nil => cases h
  | cons a as ih =>
    obtain rfl | h := List.mem_cons.mp h
    · exact List.mem_cons_self
    · exact List.mem_cons_of_mem a (ih h)

lemma judge_append (m : Memory κ) (as bs : List (Attempt κ)) :
    judge m (as ++ bs) = judge m as ++ judge (remember m as) bs := by
  induction as generalizing m with
  | nil => rfl
  | cons a as ih =>
    rw [List.cons_append, judge, judge, ih]
    rfl

/-- The decisions under a key are those on the attempts under that key. -/
lemma filter_judge (h : m key = m' key) :
    (judge m as).filter (fun d => d.key = key) =
      judge m' (as.filter fun a => a.key = key) := by
  induction as generalizing m m' with
  | nil => rfl
  | cons a as ih =>
    by_cases hkey : a.key = key
    · have hsends : sends m a = sends m' a := sends_congr (hkey ▸ h)
      rw [judge, List.filter_cons_of_pos (by simpa using hkey),
        List.filter_cons_of_pos (by simpa using hkey), judge, hsends, ih (next_congr h hkey)]
    · rw [judge, List.filter_cons_of_neg (by simpa using hkey),
        List.filter_cons_of_neg (by simpa using hkey)]
      exact ih ((next_of_ne hkey).trans h)

/-- Whatever passes under a key in a sequence comes a window after what was remembered before. -/
lemma window_le_of_mem_judge (hpos : ∀ a ∈ as, 0 < a.window) {d : Decision κ} (hd : d ∈ judge m as)
    (hsent : d.sent = true) {last : ℕ} (hlast : m d.key = some last) :
    last + d.window ≤ d.now := by
  induction as generalizing m last with
  | nil => cases hd
  | cons a as ih =>
    obtain ⟨ha, has⟩ := List.forall_mem_cons.mp hpos
    obtain rfl | hd := List.mem_cons.mp hd
    · exact window_le_of_sends ha hsent hlast
    · by_cases hkey : a.key = d.key
      · cases hs : sends m a with
        | true =>
          -- the key passes in between, later than what was remembered
          have hbetween := window_le_of_sends ha hs (hkey ▸ hlast)
          have hnext : next m a d.key = some a.now := hkey ▸ next_of_sends hs
          have hrest := ih has hd hnext
          omega
        | false =>
          rw [next_of_not_sends hs] at hd
          exact ih has hd hlast
      · exact ih has hd ((next_of_ne hkey).trans hlast)

/-- Between two attempts that pass under one key, at least the window has passed. -/
lemma pairwise_judge (hpos : ∀ a ∈ as, 0 < a.window) :
    (judge m as).Pairwise fun d d' =>
      d.key = d'.key → d.sent = true → d'.sent = true → d.now + d'.window ≤ d'.now := by
  induction as generalizing m with
  | nil => exact List.Pairwise.nil
  | cons a as ih =>
    obtain ⟨-, has⟩ := List.forall_mem_cons.mp hpos
    refine List.Pairwise.cons (fun d' hd' hkey hsent hsent' => ?_) (ih has)
    have hnext : next m a d'.key = some a.now := hkey ▸ next_of_sends hsent
    exact window_le_of_mem_judge has hd' hsent' hnext

lemma lastSent_cons (d : Decision κ) (ds : List (Decision κ)) :
    lastSent key (d :: ds) =
      (lastSent key ds).or (if d.key = key ∧ d.sent = true then some d.now else none) := by
  rw [lastSent, List.reverse_cons, List.find?_append, Option.map_or]
  by_cases h : d.key = key ∧ d.sent = true
  · rw [if_pos h, List.find?_cons_of_pos (by simpa using h)]
    rfl
  · rw [if_neg h, List.find?_cons_of_neg (by simpa using h)]
    rfl

/-- What is remembered of a key is the time of the last decision that let it pass. -/
lemma remember_eq (m : Memory κ) (as : List (Attempt κ)) (key : κ) :
    remember m as key = (lastSent key (judge m as)).or (m key) := by
  induction as generalizing m with
  | nil => rfl
  | cons a as ih =>
    have hnext : next m a key =
        (if a.key = key ∧ sends m a = true then some a.now else none).or (m key) := by
      rw [next_apply]
      split <;> rfl
    have hstep : remember m (a :: as) key = remember (next m a) as key := rfl
    rw [hstep, ih, hnext, judge, lastSent_cons, Option.or_assoc]

end Lib.RateLimit
