/-
# Gates

A gate lets something through at most once in a window and holds back the rest.  It may read the
clock twice: once to decide, and once more to remember when it opened.  `Kept` says of a history
that every answer in it is the gate's own, and the facts below say what such a history looks like.

Histories are newest first.
-/
import Mathlib.Data.List.Basic
import Mathlib.Data.List.Pairwise
import Mathlib.Tactic.Linarith

namespace Lib.Gate

/-- One question to a gate: the reading on which it decides, and the reading that it remembers if
it opens. -/
structure Ask where
  checked : ℕ
  stamped : ℕ
deriving DecidableEq, Repr

/-- A question and whether the gate opened. -/
structure Answer extends Ask where
  opened : Bool
deriving DecidableEq, Repr

/-- Whether a gate opens that last opened at `last`. -/
def opens (spacing : ℕ) (last : Option ℕ) (checked : ℕ) : Bool :=
  match last with
  | none => true
  | some t => decide (spacing ≤ checked - t)

/-- When the gate last opened. -/
def lastOpened : List Answer → Option ℕ
  | [] => none
  | a :: as => if a.opened then some a.stamped else lastOpened as

/-- Every answer of the history is the gate's own. -/
def Kept (spacing : ℕ) : List Answer → Prop
  | [] => True
  | a :: as => a.opened = opens spacing (lastOpened as) a.checked ∧ Kept spacing as

variable {spacing : ℕ} {a : Answer} {as : List Answer}

/-- A gate that opens does so a window after it last opened. -/
lemma le_of_opens (hpos : 0 < spacing) {checked t : ℕ}
    (h : opens spacing (some t) checked = true) : t + spacing ≤ checked := by
  simp only [opens, decide_eq_true_eq] at h
  omega

/-- A gate stays closed only inside the window. -/
lemma of_not_opens {last : Option ℕ} {checked : ℕ} (h : opens spacing last checked = false) :
    ∃ t, last = some t ∧ checked < t + spacing := by
  cases last with
  | none => cases h
  | some t =>
    simp only [opens, decide_eq_false_iff_not] at h
    exact ⟨t, rfl, by omega⟩

lemma exists_of_lastOpened {t : ℕ} (h : lastOpened as = some t) :
    ∃ a ∈ as, a.opened = true ∧ a.stamped = t := by
  induction as with
  | nil => cases h
  | cons a as ih =>
    cases ha : a.opened with
    | true =>
      refine ⟨a, List.mem_cons_self, ha, ?_⟩
      rw [lastOpened, if_pos ha] at h
      exact Option.some.inj h
    | false =>
      rw [lastOpened, ha] at h
      obtain ⟨b, hb, hopened⟩ := ih h
      exact ⟨b, List.mem_cons_of_mem a hb, hopened⟩

/-- The latest opening is the last one that the gate remembers. -/
lemma stamped_le_lastOpened (hpos : 0 < spacing) (hkept : Kept spacing as)
    (hread : ∀ a ∈ as, a.checked ≤ a.stamped) (ha : a ∈ as) (hopened : a.opened = true) :
    ∃ t, lastOpened as = some t ∧ a.stamped ≤ t := by
  induction as with
  | nil => cases ha
  | cons b as ih =>
    obtain ⟨hb, has⟩ := List.forall_mem_cons.mp hread
    cases hop : b.opened with
    | true =>
      refine ⟨b.stamped, by rw [lastOpened, if_pos hop], ?_⟩
      obtain rfl | ha := List.mem_cons.mp ha
      · exact le_refl _
      · obtain ⟨t, ht, hle⟩ := ih hkept.2 has ha
        have hopens : opens spacing (some t) b.checked = true := by rw [← ht, ← hkept.1, hop]
        have := le_of_opens hpos hopens
        omega
    | false =>
      obtain rfl | ha := List.mem_cons.mp ha
      · rw [hopened] at hop
        cases hop
      · obtain ⟨t, ht, hle⟩ := ih hkept.2 has ha
        exact ⟨t, by rw [lastOpened, hop]; exact ht, hle⟩

/-- **A gate opens at most once in a window.** -/
theorem pairwise_of_kept (hpos : 0 < spacing) (hkept : Kept spacing as)
    (hread : ∀ a ∈ as, a.checked ≤ a.stamped) :
    as.Pairwise fun later earlier => later.opened = true → earlier.opened = true →
      earlier.stamped + spacing ≤ later.checked := by
  induction as with
  | nil => exact List.Pairwise.nil
  | cons a as ih =>
    obtain ⟨-, has⟩ := List.forall_mem_cons.mp hread
    refine List.Pairwise.cons (fun b hb hlater hearlier => ?_) (ih hkept.2 has)
    obtain ⟨t, ht, hle⟩ := stamped_le_lastOpened hpos hkept.2 has hb hearlier
    have hopens : opens spacing (some t) a.checked = true := by rw [← ht, ← hkept.1, hlater]
    have := le_of_opens hpos hopens
    omega

/-- **A gate stays closed only shortly after it opened.** -/
theorem exists_of_closed (hkept : Kept spacing as) {newer older : List Answer}
    (has : as = newer ++ a :: older) (hclosed : a.opened = false) :
    ∃ b ∈ older, b.opened = true ∧ lastOpened older = some b.stamped ∧
      a.checked < b.stamped + spacing := by
  induction newer generalizing as with
  | nil =>
    subst has
    obtain ⟨hanswer, -⟩ := hkept
    rw [hclosed] at hanswer
    obtain ⟨t, ht, hlt⟩ := of_not_opens hanswer.symm
    obtain ⟨b, hb, hopened, rfl⟩ := exists_of_lastOpened ht
    exact ⟨b, hb, hopened, ht, hlt⟩
  | cons c newer ih =>
    subst has
    exact ih hkept.2 rfl

end Lib.Gate
