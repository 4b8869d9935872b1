/-
# Sorting and removing duplicates

Sorting a list and then dropping each element that equals its predecessor gives a canonical form
of the set of its elements: two lists have the same form exactly when they have the same elements.
-/
import Mathlib.Data.List.Sort

namespace Lib

variable {α : Type*} [LinearOrder α]

/-- Drop each element that equals the next one. -/
def dedupAdjacent : List α → List α
  | [] => []
  | [a] => [a]
  | a :: b :: l => if a = b then dedupAdjacent (b :: l) else a :: dedupAdjacent (b :: l)

/-- Sort, then drop the duplicates. -/
def sortDedup (l : List α) : List α := dedupAdjacent (l.insertionSort (· ≤ ·))

lemma mem_dedupAdjacent {x : α} : ∀ {l : List α}, x ∈ dedupAdjacent l ↔ x ∈ l
  | [] => by simp [dedupAdjacent]
  | [a] => by simp [dedupAdjacent]
  | a :: b :: l => by
    have ih := mem_dedupAdjacent (x := x) (l := b :: l)
    by_cases h : a = b
    · simp only [dedupAdjacent, h, if_true, ih, List.mem_cons]
      tauto
    · simp only [dedupAdjacent, h, if_false, List.mem_cons] at ih ⊢
      rw [ih]

lemma sortedLT_dedupAdjacent :
    ∀ {l : List α}, l.Pairwise (· ≤ ·) → (dedupAdjacent l).Pairwise (· < ·)
  | [], _ => by simp [dedupAdjacent]
  | [a], _ => by simp [dedupAdjacent]
  | a :: b :: l, h => by
    have hrest := sortedLT_dedupAdjacent h.of_cons
    by_cases hab : a = b
    · simpa only [dedupAdjacent, hab, if_true] using hrest
    · simp only [dedupAdjacent, hab, if_false, List.pairwise_cons]
      refine ⟨fun x hx => ?_, hrest⟩
      have hlt : a < b := lt_of_le_of_ne (List.rel_of_pairwise_cons h List.mem_cons_self) hab
      rcases List.mem_cons.mp (mem_dedupAdjacent.mp hx) with rfl | hx
      · exact hlt
      · exact hlt.trans_le (List.rel_of_pairwise_cons h.of_cons hx)

@[simp] lemma mem_sortDedup {x : α} {l : List α} : x ∈ sortDedup l ↔ x ∈ l := by
  rw [sortDedup, mem_dedupAdjacent, List.mem_insertionSort]

lemma pairwise_sortDedup (l : List α) : (sortDedup l).Pairwise (· < ·) :=
  sortedLT_dedupAdjacent (List.pairwise_insertionSort _ l)

/-- The canonical forms agree exactly when the sets of elements do. -/
theorem sortDedup_eq_iff {a b : List α} : sortDedup a = sortDedup b ↔ ∀ x, x ∈ a ↔ x ∈ b := by
  constructor
  · intro h x
    rw [← mem_sortDedup, h, mem_sortDedup]
  · intro h
    refine (pairwise_sortDedup a).eq_of_mem_iff (pairwise_sortDedup b) fun x => ?_
    rw [mem_sortDedup, mem_sortDedup, h x]

end Lib
