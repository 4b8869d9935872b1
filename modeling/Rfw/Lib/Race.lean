/-
# Races

Several attempts run at the same time, and each ends at its own time with a value or an error.
Whoever runs them looks at them in the order in which they end, takes the first value, and
otherwise keeps the last error.  `winner` is the result and `decidedAt` the time of it.
-/
import Mathlib.Data.List.Basic
import Mathlib.Data.List.Pairwise
import Mathlib.Tactic.Linarith

namespace Lib.Race

/-- An attempt that ended. -/
structure Finish (ε α : Type*) where
  time : ℕ
  outcome : Except ε α
deriving Repr

variable {ε α : Type*}

/-- The first value, or the last error. -/
def winner (last : ε) : List (Finish ε α) → Except ε α
  | [] => .error last
  | ⟨_, .ok a⟩ :: _ => .ok a
  | ⟨_, .error e⟩ :: fs => winner e fs

/-- When the last attempt that is looked at ended. -/
def decidedAt (last : ℕ) : List (Finish ε α) → ℕ
  | [] => last
  | ⟨time, .ok _⟩ :: _ => time
  | ⟨time, .error _⟩ :: fs => decidedAt time fs

/-- The attempts are listed in the order in which they ended. -/
def InOrder (fs : List (Finish ε α)) : Prop := fs.Pairwise fun f g => f.time ≤ g.time

variable {last : ε} {fs : List (Finish ε α)}

/-- A race is won by an attempt that succeeds no later than any other. -/
theorem of_winner_ok (start : ℕ) {a : α} (horder : InOrder fs) (h : winner last fs = .ok a) :
    ∃ f ∈ fs, f.outcome = .ok a ∧ decidedAt start fs = f.time ∧
      ∀ g ∈ fs, ∀ b, g.outcome = .ok b → f.time ≤ g.time := by
  induction fs generalizing last start with
  | nil => cases h
  | cons f fs ih =>
    obtain ⟨hfirst, hrest⟩ := List.pairwise_cons.mp horder
    obtain ⟨time, outcome⟩ := f
    cases outcome with
    | ok b =>
      obtain rfl := Except.ok.inj h
      refine ⟨_, List.mem_cons_self, rfl, rfl, fun g hg _ _ => ?_⟩
      obtain rfl | hg := List.mem_cons.mp hg
      · exact le_refl _
      · exact hfirst g hg
    | error e =>
      obtain ⟨f, hf, hok, hdecided, hbest⟩ := ih time hrest h
      refine ⟨f, List.mem_cons_of_mem _ hf, hok, hdecided, fun g hg b hb => ?_⟩
      obtain rfl | hg := List.mem_cons.mp hg
      · cases hb
      · exact hbest g hg b hb

/-- A race is lost when every attempt fails; the error is that of an attempt that failed last, and
the race takes as long as that attempt. -/
theorem of_winner_error (start : ℕ) {e : ε} (horder : InOrder fs) (h : winner last fs = .error e) :
    (∀ f ∈ fs, ∃ e', f.outcome = .error e') ∧
      (fs = [] ∧ e = last ∧ decidedAt start fs = start ∨
        ∃ f ∈ fs, f.outcome = .error e ∧ decidedAt start fs = f.time ∧
          ∀ g ∈ fs, g.time ≤ f.time) := by
  induction fs generalizing last start with
  | nil => exact ⟨nofun, .inl ⟨rfl, (Except.error.inj h).symm, rfl⟩⟩
  | cons f fs ih =>
    obtain ⟨hfirst, hrest⟩ := List.pairwise_cons.mp horder
    obtain ⟨time, outcome⟩ := f
    cases outcome with
    | ok b => cases h
    | error e' =>
      obtain ⟨hall, hlast⟩ := ih time hrest h
      refine ⟨fun f hf => ?_, .inr ?_⟩
      · obtain rfl | hf := List.mem_cons.mp hf
        · exact ⟨e', rfl⟩
        · exact hall f hf
      · rcases hlast with ⟨rfl, rfl, hdecided⟩ | ⟨f, hf, herror, hdecided, hlatest⟩
        · -- the only attempt
          refine ⟨_, List.mem_cons_self, rfl, hdecided, fun g hg => ?_⟩
          obtain rfl := List.mem_singleton.mp hg
          exact le_refl _
        · refine ⟨f, List.mem_cons_of_mem _ hf, herror, hdecided, fun g hg => ?_⟩
          obtain rfl | hg := List.mem_cons.mp hg
          · exact hfirst f hf
          · exact hlatest g hg

/-- A race is won as soon as one attempt succeeds. -/
lemma exists_winner_ok {f : Finish ε α} (hf : f ∈ fs) {a : α} (hok : f.outcome = .ok a) :
    ∃ b, winner last fs = .ok b := by
  induction fs generalizing last with
  | nil => cases hf
  | cons g fs ih =>
    obtain ⟨time, outcome⟩ := g
    cases outcome with
    | ok b => exact ⟨b, rfl⟩
    | error e =>
      obtain rfl | hf := List.mem_cons.mp hf
      · cases hok
      · exact ih hf

/-- A race does not outlast its attempts. -/
lemma decidedAt_le {bound : ℕ} (hstart : start ≤ bound) (h : ∀ f ∈ fs, f.time ≤ bound) :
    decidedAt start fs ≤ bound := by
  induction fs generalizing start with
  | nil => exact hstart
  | cons f fs ih =>
    obtain ⟨hf, hfs⟩ := List.forall_mem_cons.mp h
    obtain ⟨time, outcome⟩ := f
    cases outcome with
    | ok _ => exact hf
    | error _ => exact ih hf hfs

end Lib.Race
