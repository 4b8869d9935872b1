/-
# Splitting and decimal numbers

Facts about the text operations of `Rfw.Lib.Text` on texts of a known shape: a text that is put
together around a separator splits back into its parts, and a number that is written in decimal is
read back.
-/
import Rfw.Lib.Text
import Mathlib.Data.List.TakeWhile

namespace Lib.Str

/-! ## Splitting -/

section Split

variable {c : Char} {a b a' b' : Str}

lemma splitOnce_append (h : c ∉ a) : splitOnce c (a ++ c :: b) = some (a, b) := by
  have hne : ∀ x ∈ a, (decide (x ≠ c)) = true := by
    intro x hx
    simpa using ne_of_mem_of_not_mem hx h
  simp only [splitOnce]
  rw [List.dropWhile_append_of_pos hne, List.takeWhile_append_of_pos hne]
  simp

lemma splitOnce_eq_none (h : c ∉ a) : splitOnce c a = none := by
  have hne : ∀ x ∈ a, (decide (x ≠ c)) = true := by
    intro x hx
    simpa using ne_of_mem_of_not_mem hx h
  have hdrop : a.dropWhile (fun x => decide (x ≠ c)) = [] := List.dropWhile_eq_nil_iff.mpr hne
  simp only [splitOnce, hdrop]

lemma rsplitOnce_append (h : c ∉ b) : rsplitOnce c (a ++ c :: b) = some (a, b) := by
  have hrev : (a ++ c :: b).reverse = b.reverse ++ c :: a.reverse := by simp
  rw [rsplitOnce, hrev, splitOnce_append (by simpa using h)]
  simp

lemma split_append (h : c ∉ a) : split c (a ++ c :: b) = a :: split c b := by
  rw [split, List.splitOn_append_cons_self, List.splitOn_eq_singleton h]
  rfl

lemma split_eq_singleton (h : c ∉ a) : split c a = [a] := List.splitOn_eq_singleton h

lemma split_ne_nil (c : Char) (s : Str) : split c s ≠ [] := List.splitOn_ne_nil c s

lemma rsplitOnce_eq_none {s : Str} (h : c ∉ s) : rsplitOnce c s = none := by
  rw [rsplitOnce, splitOnce_eq_none (by simpa using h)]
  rfl

/-- The last occurrence of a character that is there. -/
lemma eq_append_cons_of_mem_last {s : Str} (h : c ∈ s) : ∃ a b, s = a ++ c :: b ∧ c ∉ b := by
  obtain ⟨b, a, hs, hb⟩ := List.eq_append_cons_of_mem (List.mem_reverse.mpr h)
  refine ⟨a.reverse, b.reverse, ?_, by simpa using hb⟩
  rw [← List.reverse_inj, hs]
  simp

lemma split_eq_singleton_iff {s : Str} : split c s = [a] ↔ s = a ∧ c ∉ a := by
  constructor
  · intro h
    by_cases hc : c ∈ s
    · obtain ⟨x, y, rfl, hx⟩ := List.eq_append_cons_of_mem hc
      rw [split_append hx] at h
      exact absurd (List.cons.inj h).2 (split_ne_nil c y)
    · rw [split_eq_singleton hc] at h
      obtain rfl := (List.cons.inj h).1
      exact ⟨rfl, hc⟩
  · rintro ⟨rfl, ha⟩
    exact split_eq_singleton ha

/-- The first part of a text that is split further ends at the first separator. -/
lemma split_eq_cons_cons {s p : Str} {ps : List Str} :
    split c s = a :: p :: ps ↔ ∃ t, s = a ++ c :: t ∧ c ∉ a ∧ split c t = p :: ps := by
  constructor
  · intro h
    by_cases hc : c ∈ s
    · obtain ⟨x, y, rfl, hx⟩ := List.eq_append_cons_of_mem hc
      rw [split_append hx] at h
      obtain ⟨rfl, hy⟩ := List.cons.inj h
      exact ⟨y, rfl, hx, hy⟩
    · rw [split_eq_singleton hc] at h
      cases (List.cons.inj h).2
  · rintro ⟨t, rfl, ha, ht⟩
    rw [split_append ha, ht]

/-- The last separator of a text determines what stands on its two sides. -/
lemma append_cons_inj_right (hb : c ∉ b) (hb' : c ∉ b') (h : a ++ c :: b = a' ++ c :: b') :
    a = a' ∧ b = b' := by
  have hsplit := congrArg (rsplitOnce c) h
  rw [rsplitOnce_append hb, rsplitOnce_append hb'] at hsplit
  simpa using hsplit

end Split

/-! ## Decimal numbers -/

lemma decimal_ne_nil (n : ℕ) : decimal n ≠ [] := Nat.toDigits_ne_nil

lemma isDigit_of_mem_decimal {n : ℕ} {c : Char} (h : c ∈ decimal n) : c.isDigit :=
  Nat.isDigit_of_mem_toDigits (by decide) (by decide) h

lemma not_mem_decimal {n : ℕ} {c : Char} (h : c.isDigit = false) : c ∉ decimal n := by
  intro hmem
  rw [isDigit_of_mem_decimal hmem] at h
  cases h

/-- A positive number has no leading zero. -/
lemma decimal_head {n : ℕ} (h : n ≠ 0) : ∃ c s, decimal n = c :: s ∧ c ≠ '0' := by
  induction n using Nat.strongRecOn with
  | ind n ih =>
    by_cases hn : n < 10
    · exact ⟨n.digitChar, [], Nat.toDigits_of_lt_base hn, by simpa using h⟩
    · obtain ⟨c, s, hs, hc⟩ := ih (n / 10) (by omega) (by omega)
      refine ⟨c, s ++ [(n % 10).digitChar], ?_, hc⟩
      rw [decimal] at hs
      rw [decimal, Nat.toDigits_of_base_le (by decide) (by omega), hs, List.cons_append]

lemma ofDigitChars_decimal (n : ℕ) : Nat.ofDigitChars 10 (decimal n) 0 = n :=
  Nat.ofDigitChars_ten_toDigits

lemma decimal_injective : Function.Injective decimal := by
  intro m n h
  rw [← ofDigitChars_decimal m, h, ofDigitChars_decimal]

lemma le_ofDigitChars (s : Str) (acc : ℕ) : acc ≤ Nat.ofDigitChars 10 s acc := by
  induction s generalizing acc with
  | nil => simp
  | cons c s ih =>
    rw [Nat.ofDigitChars_cons]
    have hstep : acc ≤ 10 * acc + (c.toNat - '0'.toNat) := by omega
    exact Nat.le_trans hstep (ih _)

/-- Digits whose value stays below the bound are read as that value. -/
lemma parseDigits_of_lt {bound : ℕ} {s : Str} (hs : ∀ c ∈ s, c.isDigit) {acc : ℕ}
    (h : Nat.ofDigitChars 10 s acc < bound) :
    parseDigits bound acc s = .ok (Nat.ofDigitChars 10 s acc) := by
  induction s generalizing acc with
  | nil => simp [parseDigits]
  | cons c s ih =>
    rw [Nat.ofDigitChars_cons, Nat.mul_comm] at h ⊢
    have hnext : acc * 10 + (c.toNat - '0'.toNat) < bound :=
      Nat.lt_of_le_of_lt (le_ofDigitChars s _) h
    simp only [parseDigits, hs c List.mem_cons_self, if_true, hnext]
    exact ih (fun x hx => hs x (List.mem_cons_of_mem c hx)) h

/-- What the loop of the parser accepts, from a value below the bound on. -/
lemma parseDigits_eq_ok {bound : ℕ} {s : Str} {acc n : ℕ} (hacc : acc < bound) :
    parseDigits bound acc s = .ok n ↔
      (∀ c ∈ s, c.isDigit) ∧ Nat.ofDigitChars 10 s acc = n ∧ n < bound := by
  constructor
  · intro h
    induction s generalizing acc with
    | nil =>
      obtain rfl := Except.ok.inj h
      exact ⟨List.forall_mem_nil _, rfl, hacc⟩
    | cons c s ih =>
      rw [parseDigits] at h
      split at h
      · rename_i hc
        dsimp only at h
        split at h
        · rename_i hnext
          obtain ⟨hs, hval, hn⟩ := ih hnext h
          refine ⟨List.forall_mem_cons.mpr ⟨hc, hs⟩, ?_, hn⟩
          rw [Nat.ofDigitChars_cons, Nat.mul_comm]
          exact hval
        · cases h
      · cases h
  · rintro ⟨hs, rfl, hn⟩
    exact parseDigits_of_lt hs hn

/-- The texts that are read as a number: one or more digits, after an optional plus sign. -/
lemma parseUnsigned_eq_ok {bound : ℕ} {s : Str} {n : ℕ} (hbound : 0 < bound) :
    parseUnsigned bound s = .ok n ↔
      ∃ digits, (s = digits ∨ s = '+' :: digits) ∧ digits ≠ [] ∧ (∀ c ∈ digits, c.isDigit) ∧
        Nat.ofDigitChars 10 digits 0 = n ∧ n < bound := by
  constructor
  · intro h
    unfold parseUnsigned at h
    split at h
    · cases h
    · cases h
    · rename_i rest hne
      exact ⟨rest, .inr rfl, fun hrest => hne (by rw [hrest]), (parseDigits_eq_ok hbound).mp h⟩
    · rename_i hne _ _
      exact ⟨s, .inl rfl, hne, (parseDigits_eq_ok hbound).mp h⟩
  · rintro ⟨digits, hs, hne, hdigits, hval, hn⟩
    have hparse : parseDigits bound 0 digits = .ok n :=
      (parseDigits_eq_ok hbound).mpr ⟨hdigits, hval, hn⟩
    obtain ⟨d, ds, rfl⟩ := List.exists_cons_of_ne_nil hne
    obtain rfl | rfl := hs
    · -- a digit is not a plus sign
      have hd : d ≠ '+' := by
        rintro rfl
        exact absurd (hdigits '+' List.mem_cons_self) (by decide)
      unfold parseUnsigned
      split
      · exact absurd ‹_› (List.cons_ne_nil d ds)
      · exact absurd (List.cons.inj ‹_›).1 hd
      · exact absurd (List.cons.inj ‹_›).1 hd
      · exact hparse
    · exact hparse

/-- A number written in decimal is read back. -/
lemma parseUnsigned_decimal {bound n : ℕ} (h : n < bound) :
    parseUnsigned bound (decimal n) = .ok n := by
  have hbound : 0 < bound := Nat.lt_of_le_of_lt (Nat.zero_le n) h
  rw [parseUnsigned_eq_ok hbound]
  exact ⟨decimal n, .inl rfl, decimal_ne_nil n, fun c hc => isDigit_of_mem_decimal hc,
    ofDigitChars_decimal n, h⟩

end Lib.Str
