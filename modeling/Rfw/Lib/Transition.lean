/-
# Runs of an input-driven transition system

A system is a step function `step : σ → ι → Option σ`: in the state `s` the input `i` is either
not enabled (`none`) or leads to one state.  A run is the list of its inputs.  Nondeterminism,
interleaving and the outcome of every outside call are choices of inputs, so a statement about
all runs is a statement about all lists of inputs.
-/
import Mathlib.Data.List.Basic
import Mathlib.Data.List.Induction
import Mathlib.Data.Option.Basic
import Mathlib.Tactic.Linarith

namespace Lib

variable {σ ι : Type*}

/-- Take the inputs of a list in order; `none` as soon as one of them is not enabled. -/
def run (step : σ → ι → Option σ) : σ → List ι → Option σ
  | s, [] => some s
  | s, i :: is => (step s i).bind fun s' => run step s' is

/-- The condition `ok` holds of every input of a run, in the state in which it is taken. -/
def RunAll (step : σ → ι → Option σ) (ok : σ → ι → Prop) : σ → List ι → Prop
  | _, [] => True
  | s, i :: is => ok s i ∧ ∀ s', step s i = some s' → RunAll step ok s' is

/-- Whether a condition holds all along a run can be decided by taking the run. -/
instance RunAll.decidable (step : σ → ι → Option σ) (ok : σ → ι → Prop)
    [∀ s i, Decidable (ok s i)] : ∀ s is, Decidable (RunAll step ok s is)
  | _, [] => inferInstanceAs (Decidable True)
  | s, i :: is =>
    match h : step s i with
    | none => decidable_of_iff (ok s i) (by simp [RunAll, h])
    | some s' =>
      have := RunAll.decidable step ok s' is
      decidable_of_iff (ok s i ∧ RunAll step ok s' is) (by simp [RunAll, h])

variable {step : σ → ι → Option σ}

@[simp] lemma run_nil (s : σ) : run step s [] = some s := rfl

lemma run_cons (s : σ) (i : ι) (is : List ι) :
    run step s (i :: is) = (step s i).bind fun s' => run step s' is := rfl

lemma run_cons_eq_some {s t : σ} {i : ι} {is : List ι} :
    run step s (i :: is) = some t ↔ ∃ s', step s i = some s' ∧ run step s' is = some t := by
  rw [run_cons, Option.bind_eq_some_iff]

lemma run_append {s t : σ} {is js : List ι} :
    run step s (is ++ js) = some t ↔ ∃ m, run step s is = some m ∧ run step m js = some t := by
  induction is generalizing s with
  | nil => simp
  | cons i is ih =>
    simp only [List.cons_append, run_cons_eq_some, ih]
    constructor
    · rintro ⟨s', hs', m, hm, ht⟩
      exact ⟨m, ⟨s', hs', hm⟩, ht⟩
    · rintro ⟨m, ⟨s', hs', hm⟩, ht⟩
      exact ⟨s', hs', m, hm, ht⟩

/-- **The invariant rule.**  What every enabled step preserves holds at the end of every run. -/
theorem run_invariant {I : σ → Prop} (hstep : ∀ s i s', I s → step s i = some s' → I s')
    {s t : σ} {is : List ι} (hs : I s) (h : run step s is = some t) : I t := by
  induction is generalizing s with
  | nil =>
    obtain rfl : s = t := by simpa using h
    exact hs
  | cons i is ih =>
    obtain ⟨s', hs', h⟩ := run_cons_eq_some.mp h
    exact ih (hstep s i s' hs hs') h

/-- The invariant rule for runs whose inputs all meet a condition. -/
theorem run_invariant_of_runAll {I : σ → Prop} {ok : σ → ι → Prop}
    (hstep : ∀ s i s', I s → ok s i → step s i = some s' → I s') {s t : σ} {is : List ι}
    (hs : I s) (hok : RunAll step ok s is) (h : run step s is = some t) : I t := by
  induction is generalizing s with
  | nil =>
    obtain rfl : s = t := by simpa using h
    exact hs
  | cons i is ih =>
    obtain ⟨s', hs', h⟩ := run_cons_eq_some.mp h
    exact ih (hstep s i s' hs hok.1 hs') (hok.2 s' hs') h

/-- The invariant rule for a property that also looks at the inputs so far. -/
theorem run_invariant_history {I : List ι → σ → Prop} {s t : σ} {is : List ι} (hs : I [] s)
    (hstep : ∀ js m i m', I js m → step m i = some m' → I (js ++ [i]) m')
    (h : run step s is = some t) : I is t := by
  induction is using List.reverseRecOn generalizing t with
  | nil =>
    obtain rfl : s = t := by simpa using h
    exact hs
  | append_singleton js i ih =>
    obtain ⟨m, hm, ht⟩ := run_append.mp h
    obtain ⟨m', hm', ht⟩ := run_cons_eq_some.mp ht
    obtain rfl : m' = t := by simpa using ht
    exact hstep js m i m' (ih hm) hm'

/-- What holds at the end of a run but not at its start was brought about by one of its steps. -/
theorem exists_step_of_change {P : σ → Prop} {s t : σ} {is : List ι} (hs : ¬ P s) (ht : P t)
    (h : run step s is = some t) :
    ∃ pre i post m m', is = pre ++ i :: post ∧ run step s pre = some m ∧ step m i = some m' ∧
      ¬ P m ∧ P m' := by
  induction is generalizing s with
  | nil =>
    obtain rfl : s = t := by simpa using h
    exact absurd ht hs
  | cons i is ih =>
    obtain ⟨s', hs', h⟩ := run_cons_eq_some.mp h
    by_cases hP : P s'
    · exact ⟨[], i, is, s, s', rfl, rfl, hs', hs, hP⟩
    · obtain ⟨pre, j, post, m, m', rfl, hm, hrest⟩ := ih hP h
      exact ⟨i :: pre, j, post, m, m', rfl, run_cons_eq_some.mpr ⟨s', hs', hm⟩, hrest⟩

lemma run_singleton (s : σ) (i : ι) : run step s [i] = step s i := by
  rw [run_cons]
  cases step s i <;> rfl

/-- **The simulation rule.**  When each step of the one system is a run of the other one behind `f`,
possibly an empty one, each of its runs is. -/
theorem exists_run_of_simulation {τ κ : Type*} {step' : τ → κ → Option τ} {f : σ → τ}
    (hsim : ∀ s i s', step s i = some s' → ∃ js, run step' (f s) js = some (f s'))
    {s t : σ} {is : List ι} (h : run step s is = some t) :
    ∃ js, run step' (f s) js = some (f t) := by
  refine run_invariant (I := fun t => ∃ js, run step' (f s) js = some (f t)) ?_ ⟨[], rfl⟩ h
  rintro m i m' ⟨js, hjs⟩ hstep
  obtain ⟨ks, hks⟩ := hsim m i m' hstep
  exact ⟨js ++ ks, run_append.mpr ⟨f m, hjs, hks⟩⟩

/-- What a run is for another system, to which each input looks as `project` says. -/
def projectRun {κ : Type*} (step : σ → ι → Option σ) (project : σ → ι → List κ) :
    σ → List ι → List κ
  | _, [] => []
  | s, i :: is => project s i ++ (step s i).elim [] fun s' => projectRun step project s' is

/-- The simulation rule for a given projection of the inputs. -/
theorem run_projectRun {τ κ : Type*} {step' : τ → κ → Option τ} {f : σ → τ}
    {project : σ → ι → List κ}
    (hsim : ∀ s i s', step s i = some s' → run step' (f s) (project s i) = some (f s'))
    {s t : σ} {is : List ι} (h : run step s is = some t) :
    run step' (f s) (projectRun step project s is) = some (f t) := by
  induction is generalizing s with
  | nil =>
    obtain rfl : s = t := by simpa using h
    rfl
  | cons i is ih =>
    obtain ⟨s', hs', h⟩ := run_cons_eq_some.mp h
    rw [projectRun, hs', run_append]
    exact ⟨f s', hsim s i s' hs', ih h⟩

/-- A property that a step keeps exactly when its input meets `ok` holds at the end of a run
exactly when it holds at the start and every input of the run meets `ok`. -/
theorem run_iff_runAll {I P : σ → Prop} {ok : σ → ι → Prop}
    (hstep : ∀ s i s', I s → step s i = some s' → I s' ∧ (P s' ↔ P s ∧ ok s i))
    {s t : σ} {is : List ι} (hs : I s) (h : run step s is = some t) :
    P t ↔ P s ∧ RunAll step ok s is := by
  induction is generalizing s with
  | nil =>
    obtain rfl : s = t := by simpa using h
    simp [RunAll]
  | cons i is ih =>
    obtain ⟨s', hs', h⟩ := run_cons_eq_some.mp h
    obtain ⟨hI, hP⟩ := hstep s i s' hs hs'
    rw [ih hI h, hP, and_assoc, RunAll]
    have hrest : (∀ s'', step s i = some s'' → RunAll step ok s'' is) ↔ RunAll step ok s' is := by
      rw [hs']
      simp
    rw [hrest]

/-- The rule for a property of every state of a run: if a step from a good state leads to a good
state exactly when its input meets `ok`, then all states are good exactly when every input meets
`ok`. -/
theorem forall_reached_iff_runAll {I P : σ → Prop} {ok : σ → ι → Prop}
    (hstep : ∀ s i s', I s → P s → step s i = some s' → I s' ∧ (P s' ↔ ok s i))
    {s t : σ} {is : List ι} (hs : I s) (hP : P s) (h : run step s is = some t) :
    (∀ pre post m, is = pre ++ post → run step s pre = some m → P m) ↔ RunAll step ok s is := by
  induction is generalizing s with
  | nil =>
    refine ⟨fun _ => trivial, fun _ pre post m heq hm => ?_⟩
    obtain ⟨rfl, -⟩ := List.append_eq_nil_iff.mp heq.symm
    obtain rfl : s = m := by simpa using hm
    exact hP
  | cons i is ih =>
    obtain ⟨s', hs', h⟩ := run_cons_eq_some.mp h
    obtain ⟨hI, hiff⟩ := hstep s i s' hs hP hs'
    constructor
    · intro hall
      have hP' : P s' := hall [i] is s' rfl (by rw [run_cons, hs']; rfl)
      refine ⟨hiff.mp hP', fun s'' hs'' => ?_⟩
      obtain rfl : s' = s'' := Option.some.inj (hs'.symm.trans hs'')
      refine (ih hI hP' h).mp fun pre post m heq hm => ?_
      exact hall (i :: pre) post m (by rw [heq]; rfl) (by rw [run_cons, hs']; exact hm)
    · rintro ⟨hok, hrest⟩ pre post m heq hm
      have hP' : P s' := hiff.mpr hok
      cases pre with
      | nil =>
        obtain rfl : s = m := by simpa using hm
        exact hP
      | cons j pre =>
        obtain ⟨rfl, hpost⟩ := List.cons.inj heq
        rw [run_cons, hs'] at hm
        exact (ih hI hP' h).mpr (hrest s' hs') pre post m hpost hm

end Lib
