/-
# Cutting a list into pieces

`chunks s l` cuts `l` from the left into pieces of `s` elements; only the last piece may be
shorter, and an empty list has no piece.  This file proves that the cut loses nothing
(`flatten_chunks`), counts the pieces (`length_chunks`), and that it recovers a sequence of pieces
of equal length from their concatenation (`chunks_flatten`).
-/
import Mathlib.Data.List.Basic
import Mathlib.Data.Nat.ModEq
import Mathlib.Tactic.Ring
import Mathlib.Tactic.Linarith

namespace Lib

variable {α : Type*}

/-- The loop of `chunks`: at most `fuel` pieces of `s` elements each. -/
def chunksGo : ℕ → ℕ → List α → List (List α)
  | 0, _, _ => []
  | _ + 1, _, [] => []
  | fuel + 1, s, a :: l => (a :: l).take s :: chunksGo fuel s ((a :: l).drop s)

/-- The pieces of `s` elements of a list, from left to right; the last one may be shorter. -/
def chunks (s : ℕ) (l : List α) : List (List α) := chunksGo l.length s l

@[simp] lemma chunks_nil (s : ℕ) : chunks s ([] : List α) = [] := rfl

lemma chunksGo_nil (fuel s : ℕ) : chunksGo fuel s ([] : List α) = [] := by
  cases fuel <;> rfl

/-- The fuel only has to cover the length of the list. -/
lemma chunksGo_eq {s : ℕ} (hs : 0 < s) :
    ∀ (fuel : ℕ) (l : List α), l.length ≤ fuel → chunksGo fuel s l = chunksGo l.length s l := by
  intro fuel
  induction fuel using Nat.strong_induction_on with
  | _ fuel ih =>
    intro l hl
    cases l with
    | nil => exact chunksGo_nil fuel s
    | cons a l =>
      obtain ⟨fuel, rfl⟩ : ∃ m, fuel = m + 1 := ⟨fuel - 1, by simp at hl; omega⟩
      have hlen : ((a :: l).drop s).length ≤ l.length := by simp; omega
      simp only [List.length_cons, chunksGo, List.cons.injEq, true_and]
      have hl' : l.length ≤ fuel := by simpa using hl
      rw [ih fuel (by omega) _ (by omega), ih l.length (by omega) _ hlen]

/-- One piece is cut off a nonempty list. -/
lemma chunks_of_ne_nil {s : ℕ} (hs : 0 < s) {l : List α} (hl : l ≠ []) :
    chunks s l = l.take s :: chunks s (l.drop s) := by
  cases l with
  | nil => exact absurd rfl hl
  | cons a l =>
    have hlen : ((a :: l).drop s).length ≤ l.length := by simp; omega
    simp only [chunks, List.length_cons, chunksGo, chunksGo_eq hs _ _ hlen]

/-- Induction along the pieces of a list. -/
lemma chunks_induction {s : ℕ} (hs : 0 < s) {motive : List α → Prop} (nil : motive [])
    (step : ∀ l, l ≠ [] → motive (l.drop s) → motive l) : ∀ l, motive l := by
  intro l
  induction hn : l.length using Nat.strong_induction_on generalizing l with
  | _ n ih =>
    by_cases hl : l = []
    · subst hl
      exact nil
    · have hpos : 0 < l.length := List.length_pos_iff.mpr hl
      exact step l hl (ih (l.drop s).length (by simp; omega) _ rfl)

lemma chunks_of_length_le {s : ℕ} {l : List α} (hl : l ≠ []) (hle : l.length ≤ s) :
    chunks s l = [l] := by
  have hpos : 0 < l.length := List.length_pos_iff.mpr hl
  rw [chunks_of_ne_nil (by omega) hl, List.take_of_length_le hle, List.drop_of_length_le hle,
    chunks_nil]

/-- Nothing is lost: the pieces concatenate to the list. -/
lemma flatten_chunks {s : ℕ} (hs : 0 < s) (l : List α) : (chunks s l).flatten = l := by
  induction l using chunks_induction hs with
  | nil => simp
  | step l hl ih => rw [chunks_of_ne_nil hs hl, List.flatten_cons, ih, List.take_append_drop]

/-- The number of pieces is the length divided by `s`, rounded up. -/
lemma length_chunks {s : ℕ} (hs : 0 < s) (l : List α) :
    (chunks s l).length = (l.length + s - 1) / s := by
  induction l using chunks_induction hs with
  | nil =>
    have : (s - 1) / s = 0 := Nat.div_eq_of_lt (by omega)
    simp [this]
  | step l hl ih =>
    have hpos : 0 < l.length := List.length_pos_iff.mpr hl
    rw [chunks_of_ne_nil hs hl, List.length_cons, ih, List.length_drop]
    by_cases hle : l.length ≤ s
    · have h1 : l.length - s + s - 1 = s - 1 := by omega
      have h2 : l.length + s - 1 = (l.length - 1) + 1 * s := by omega
      rw [h1, h2, Nat.add_mul_div_right _ _ hs, Nat.div_eq_of_lt (show s - 1 < s by omega),
        Nat.div_eq_of_lt (show l.length - 1 < s by omega)]
    · have h2 : l.length + s - 1 = (l.length - s + s - 1) + 1 * s := by omega
      rw [h2, Nat.add_mul_div_right _ _ hs]

lemma chunks_ne_nil {s : ℕ} (hs : 0 < s) {l : List α} (hl : l ≠ []) : chunks s l ≠ [] := by
  rw [chunks_of_ne_nil hs hl]
  exact List.cons_ne_nil _ _

/-- A list of `m` whole pieces can be cut off before or after cutting. -/
lemma chunks_append {s : ℕ} (hs : 0 < s) (m : ℕ) :
    ∀ l r : List α, l.length = m * s → chunks s (l ++ r) = chunks s l ++ chunks s r := by
  induction m with
  | zero =>
    intro l r hl
    have hnil : l = [] := List.eq_nil_of_length_eq_zero (by simpa using hl)
    simp [hnil]
  | succ m ih =>
    intro l r hl
    have hl' : l.length = m * s + s := by rw [hl]; ring
    have hne : l ≠ [] := List.length_pos_iff.mp (by omega)
    have hdrop : (l.drop s).length = m * s := by rw [List.length_drop]; omega
    rw [chunks_of_ne_nil hs hne, chunks_of_ne_nil hs (l := l ++ r) (by simp [hne]),
      List.take_append_of_le_length (by omega), List.drop_append_of_le_length (by omega),
      ih _ r hdrop, List.cons_append]

/-- A sequence of pieces that are all `s` long, except a last one of `1` to `s` elements. -/
def EqualPieces (s : ℕ) : List (List α) → Prop
  | [] => True
  | [d] => 0 < d.length ∧ d.length ≤ s
  | d :: d' :: ds => d.length = s ∧ EqualPieces s (d' :: ds)

instance decidableEqualPieces (s : ℕ) : ∀ ds : List (List α), Decidable (EqualPieces s ds)
  | [] => inferInstanceAs (Decidable True)
  | [d] => inferInstanceAs (Decidable (0 < d.length ∧ d.length ≤ s))
  | d :: d' :: ds =>
    have := decidableEqualPieces s (d' :: ds)
    inferInstanceAs (Decidable (d.length = s ∧ EqualPieces s (d' :: ds)))

lemma EqualPieces.head_length {s : ℕ} {d : List α} {ds : List (List α)}
    (h : EqualPieces s (d :: ds)) : 0 < d.length ∧ d.length ≤ s := by
  induction ds generalizing d with
  | nil => exact h
  | cons d' ds ih =>
    obtain ⟨hd, hrest⟩ := h
    have := ih hrest
    omega

/-- Cutting the concatenation of such a sequence gives the sequence back. -/
lemma chunks_flatten {s : ℕ} (hs : 0 < s) :
    ∀ ds : List (List α), EqualPieces s ds → chunks s ds.flatten = ds := by
  intro ds
  induction ds with
  | nil => intro _; simp
  | cons d ds ih =>
    intro h
    cases ds with
    | nil =>
      have hd : d ≠ [] := List.length_pos_iff.mp h.1
      simpa using chunks_of_length_le hd h.2
    | cons d' ds =>
      obtain ⟨hd, hrest⟩ := h
      rw [List.flatten_cons, chunks_append hs 1 d _ (by omega), ih hrest,
        chunks_of_length_le (List.length_pos_iff.mp (by omega)) (by omega)]
      rfl

end Lib
