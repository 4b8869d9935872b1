/-
# Permits held by tasks

A semaphore hands out permits to tasks.  Tasks are kept in a list, in which a task is appended when
it is started and replaced when it moves on; `holds` says which of them hold a permit.  Nothing is
lost as long as a permit is taken with every task that starts with one and given back with every
task that lets go of one.
-/
import Mathlib.Data.List.Basic
import Mathlib.Tactic.Linarith

namespace Lib.Permits

variable {τ : Type*}

/-- Replacing one task changes a count by what the two tasks count for. -/
lemma countP_set_add {p : τ → Bool} {tasks : List τ} {i : ℕ} {a : τ} (b : τ)
    (h : tasks[i]? = some a) :
    (tasks.set i b).countP p + (p a).toNat = tasks.countP p + (p b).toNat := by
  induction tasks generalizing i with
  | nil => simp at h
  | cons c tasks ih =>
    cases i with
    | zero =>
      obtain rfl : c = a := by simpa using h
      simp only [List.set_cons_zero, List.countP_cons]
      cases p c <;> cases p b <;> simp
    | succ i =>
      have hrest := ih (i := i) (by simpa using h)
      simp only [List.set_cons_succ, List.countP_cons]
      omega

lemma countP_push {p : τ → Bool} (tasks : List τ) (t : τ) :
    (tasks ++ [t]).countP p = tasks.countP p + (p t).toNat := by
  rw [List.countP_append, List.countP_singleton]
  cases p t <;> rfl

/-- A task that is found after a replacement is the new one, or was there before. -/
lemma getElem?_set_cases {tasks : List τ} {i j : ℕ} {b c : τ} (h : (tasks.set i b)[j]? = some c) :
    j ≠ i ∧ tasks[j]? = some c ∨ j = i ∧ c = b := by
  rw [List.getElem?_set] at h
  split at h
  · rename_i hij
    split at h
    · exact .inr ⟨hij.symm, (Option.some.inj h).symm⟩
    · cases h
  · rename_i hij
    exact .inl ⟨fun hji => hij hji.symm, h⟩

/-- Every permit is left, or one task holds it. -/
def Conserved (capacity : ℕ) (holds : τ → Bool) (available : ℕ) (tasks : List τ) : Prop :=
  available + tasks.countP holds = capacity

variable {capacity available : ℕ} {holds : τ → Bool} {tasks : List τ}

lemma conserved_nil (capacity : ℕ) (holds : τ → Bool) :
    Conserved capacity holds capacity ([] : List τ) := by
  simp [Conserved]

/-- A task starts with a permit. -/
lemma Conserved.take {t : τ} (h : Conserved capacity holds (available + 1) tasks)
    (ht : holds t = true) : Conserved capacity holds available (tasks ++ [t]) := by
  unfold Conserved at h ⊢
  rw [countP_push, ht, Bool.toNat_true]
  omega

/-- A task moves on, and keeps what it holds. -/
lemma Conserved.keep {i : ℕ} {a b : τ} (h : Conserved capacity holds available tasks)
    (hget : tasks[i]? = some a) (hab : holds b = holds a) :
    Conserved capacity holds available (tasks.set i b) := by
  unfold Conserved at h ⊢
  have hset := countP_set_add (p := holds) b hget
  rw [hab] at hset
  omega

/-- A task gives its permit back. -/
lemma Conserved.give {i : ℕ} {a b : τ} (h : Conserved capacity holds available tasks)
    (hget : tasks[i]? = some a) (ha : holds a = true) (hb : holds b = false) :
    Conserved capacity holds (available + 1) (tasks.set i b) := by
  unfold Conserved at h ⊢
  have hset := countP_set_add (p := holds) b hget
  rw [ha, hb, Bool.toNat_true, Bool.toNat_false] at hset
  omega

/-- No more tasks hold a permit than there are permits. -/
lemma Conserved.countP_le (h : Conserved capacity holds available tasks) :
    tasks.countP holds ≤ capacity := by
  unfold Conserved at h
  omega

/-- Nothing is left exactly when as many tasks hold a permit as there are permits. -/
lemma Conserved.available_eq_zero_iff (h : Conserved capacity holds available tasks) :
    available = 0 ↔ tasks.countP holds = capacity := by
  unfold Conserved at h
  omega

/-- When no task holds a permit, all of them are left. -/
lemma Conserved.available_eq (h : Conserved capacity holds available tasks)
    (hnone : ∀ t ∈ tasks, holds t = false) : available = capacity := by
  have hzero : tasks.countP holds = 0 := List.countP_eq_zero.mpr fun t ht => by simp [hnone t ht]
  unfold Conserved at h
  omega

/-- What tasks use is bounded by their permits and by what is accounted for otherwise. -/
lemma sum_le_countP_mul_add {use surplus : τ → ℕ} {each : ℕ} (tasks : List τ)
    (h : ∀ t ∈ tasks, use t ≤ (holds t).toNat * each + surplus t) :
    (tasks.map use).sum ≤ tasks.countP holds * each + (tasks.map surplus).sum := by
  induction tasks with
  | nil => simp
  | cons t tasks ih =>
    obtain ⟨ht, htasks⟩ := List.forall_mem_cons.mp h
    have hrest := ih htasks
    rw [List.map_cons, List.map_cons, List.sum_cons, List.sum_cons, List.countP_cons]
    cases hholds : holds t with
    | true =>
      rw [hholds, Bool.toNat_true, one_mul] at ht
      rw [if_pos rfl, Nat.add_mul, one_mul]
      omega
    | false =>
      rw [hholds, Bool.toNat_false, zero_mul] at ht
      rw [if_neg Bool.false_ne_true, add_zero]
      omega

end Lib.Permits
