/-
# A program of loads against a list of stores

A memory has one cell for each key, and every load and every store of a cell is one indivisible
step.  One side stores new values into some cells, in a fixed order; the other side runs a program
of loads, whose later loads may depend on the values of the earlier ones.  A schedule says whose
step comes next.

When the program loads its cells in a fixed order, each at most once, `eval_of_run` says what it
returns under a schedule: what it returns alone, on a memory in which a cell has its new value
exactly when its store came before its load.
-/
import Rfw.Lib.Transition
import Mathlib.Data.List.Nodup
import Mathlib.Logic.Function.Basic

namespace Lib

/-- A program that only loads. -/
inductive Loads {κ : Type} (Val : κ → Type) (α : Type) : Type
  | pure (a : α)
  | load (k : κ) (next : Val k → Loads Val α)

namespace Loads

variable {κ : Type} {Val : κ → Type} {α β : Type}

/-- Run a program, and then another one on its result. -/
def bind : Loads Val α → (α → Loads Val β) → Loads Val β
  | .pure a, f => f a
  | .load k next, f => .load k fun v => (next v).bind f

instance : Monad (Loads Val) where
  pure := .pure
  bind := bind

/-- The load of one cell. -/
def read (k : κ) : Loads Val (Val k) := .load k .pure

/-- The result of a program that runs alone. -/
def eval (m : ∀ k, Val k) : Loads Val α → α
  | .pure a => a
  | .load k next => (next (m k)).eval m

/-- The result, once nothing is left to load. -/
def result? : Loads Val α → Option α
  | .pure a => some a
  | .load _ _ => none

lemma result?_eq_some {p : Loads Val α} {a : α} (h : p.result? = some a) : p = .pure a := by
  cases p with
  | pure b => rw [Option.some.inj h]
  | load k next => cases h

/-- The program loads the cells of a list in order, and may stop early. -/
def Follows : List κ → Loads Val α → Prop
  | _, .pure _ => True
  | [], .load _ _ => False
  | k' :: ks, .load k next => k = k' ∧ ∀ v, Follows ks (next v)

/-- Only the cells that are loaded matter. -/
lemma eval_congr {m m' : ∀ k, Val k} {ks : List κ} {p : Loads Val α} (h : p.Follows ks)
    (heq : ∀ k ∈ ks, m k = m' k) : p.eval m = p.eval m' := by
  induction p generalizing ks with
  | pure a => rfl
  | load k next ih =>
    cases ks with
    | nil => cases h
    | cons k' ks =>
      obtain ⟨rfl, h⟩ := h
      show (next (m k)).eval m = (next (m' k)).eval m'
      rw [← heq k List.mem_cons_self]
      exact ih _ (h _) fun k' hk' => heq k' (List.mem_cons_of_mem k hk')

end Loads

namespace Atomics

variable {κ : Type} [DecidableEq κ] {Val : κ → Type} {α : Type}

/-- A memory, the stores still to come, and the program of loads. -/
structure State (Val : κ → Type) (α : Type) where
  mem : ∀ k, Val k
  stores : List (Σ k, Val k)
  loads : Loads Val α

/-- Whose step comes next. -/
inductive Turn
  | store
  | load
deriving DecidableEq, Repr

/-- One step of one side. -/
def step (s : State Val α) : Turn → Option (State Val α)
  | .store =>
      match s.stores with
      | [] => none
      | ⟨k, v⟩ :: stores => some { s with mem := Function.update s.mem k v, stores }
  | .load =>
      match s.loads with
      | .pure _ => none
      | .load k next => some { s with loads := next (s.mem k) }

/-- The memory after some stores. -/
def storeAll : List (Σ k, Val k) → (∀ k, Val k) → ∀ k, Val k
  | [], m => m
  | ⟨k, v⟩ :: stores, m => storeAll stores (Function.update m k v)

/-- The number of stores before the load with this number, counted from zero. -/
def storesBefore : List Turn → ℕ → ℕ
  | [], _ => 0
  | .store :: ts, i => storesBefore ts i + 1
  | .load :: _, 0 => 0
  | .load :: ts, i + 1 => storesBefore ts i

/-- The store of the cell comes before its load, where `stores` and `loads` are the orders of the
two sides. -/
def Fresh (ts : List Turn) (stores loads : List κ) (k : κ) : Prop :=
  stores.idxOf k < storesBefore ts (loads.idxOf k)

instance (ts : List Turn) (stores loads : List κ) (k : κ) : Decidable (Fresh ts stores loads k) :=
  inferInstanceAs (Decidable (_ < _))

lemma storeAll_of_notMem {stores : List (Σ k, Val k)} {k : κ} (h : k ∉ stores.map Sigma.fst)
    (m : ∀ k, Val k) : storeAll stores m k = m k := by
  induction stores generalizing m with
  | nil => rfl
  | cons p stores ih =>
    rw [List.map_cons, List.mem_cons, not_or] at h
    rw [storeAll, ih h.2, Function.update_of_ne h.1]

/-- After some of the stores a cell has its new value exactly when its own store was one of them. -/
lemma storeAll_take {stores : List (Σ k, Val k)} (hnodup : (stores.map Sigma.fst).Nodup)
    (m : ∀ k, Val k) (n : ℕ) (k : κ) :
    storeAll (stores.take n) m k =
      if (stores.map Sigma.fst).idxOf k < n then storeAll stores m k else m k := by
  induction stores generalizing m n with
  | nil => simp [storeAll]
  | cons p stores ih =>
    obtain ⟨hp, hnodup⟩ := List.nodup_cons.mp hnodup
    cases n with
    | zero => rfl
    | succ n =>
      show storeAll (stores.take n) (Function.update m p.1 p.2) k = _
      rw [ih hnodup]
      by_cases hk : k = p.1
      · subst hk
        have hlast : storeAll stores (Function.update m p.1 p.2) p.1 = p.2 := by
          rw [storeAll_of_notMem hp, Function.update_self]
        rw [List.map_cons, List.idxOf_cons_self, if_pos (Nat.succ_pos n), storeAll, hlast,
          Function.update_self, ite_self]
      · rw [List.map_cons, List.idxOf_cons_ne _ (Ne.symm hk), storeAll,
          Function.update_of_ne hk]
        simp only [Nat.succ_eq_add_one, Nat.add_lt_add_iff_right]

/-- **What a program of loads returns.**  It returns what it returns alone on the memory in which
each cell is as it was at its load. -/
theorem eval_storesBefore_of_run {ts : List Turn} {s t : State Val α} {ks : List κ} {a : α}
    (hfollows : s.loads.Follows ks) (hnodup : ks.Nodup) (hrun : run step s ts = some t)
    (ha : t.loads = .pure a) :
    s.loads.eval (fun k => storeAll (s.stores.take (storesBefore ts (ks.idxOf k))) s.mem k) =
      a := by
  induction ts generalizing s ks with
  | nil =>
    obtain rfl : s = t := by simpa using hrun
    rw [ha]
    rfl
  | cons turn ts ih =>
    obtain ⟨s', hstep, hrun⟩ := run_cons_eq_some.mp hrun
    obtain ⟨mem, stores, loads⟩ := s
    cases turn with
    | store =>
      cases stores with
      | nil => cases hstep
      | cons p stores =>
        obtain rfl := Option.some.inj hstep
        exact ih (s := ⟨Function.update mem p.1 p.2, stores, loads⟩) hfollows hnodup hrun
    | load =>
      cases loads with
      | pure a => cases hstep
      | load k next =>
        obtain rfl := Option.some.inj hstep
        cases ks with
        | nil => cases hfollows
        | cons k' ks =>
          obtain ⟨rfl, hfollows⟩ := hfollows
          obtain ⟨hk, hnodup⟩ := List.nodup_cons.mp hnodup
          -- the first load sees the memory as it is now
          have hfirst : storeAll
              (stores.take (storesBefore (.load :: ts) ((k :: ks).idxOf k))) mem k = mem k := by
            rw [List.idxOf_cons_self]
            rfl
          rw [← ih (s := ⟨mem, stores, next (mem k)⟩) (hfollows _) hnodup hrun]
          simp only [Loads.eval, hfirst]
          refine Loads.eval_congr (hfollows _) fun k' hk' => ?_
          have hne : k ≠ k' := fun heq => hk (heq ▸ hk')
          rw [List.idxOf_cons_ne _ hne]
          rfl

/-- The same, with the old and the new value of every cell. -/
theorem eval_of_run {ts : List Turn} {s t : State Val α} {ks : List κ} {a : α}
    (hstores : (s.stores.map Sigma.fst).Nodup) (hfollows : s.loads.Follows ks)
    (hnodup : ks.Nodup) (hrun : run step s ts = some t) (ha : t.loads = .pure a) :
    a = s.loads.eval fun k =>
      if Fresh ts (s.stores.map Sigma.fst) ks k then storeAll s.stores s.mem k else s.mem k := by
  rw [← eval_storesBefore_of_run hfollows hnodup hrun ha]
  congr 1
  funext k
  exact storeAll_take hstores s.mem _ k

end Atomics

end Lib
