/-
# Lossy decoding of UTF-8

`decodeLossy` reads bytes as UTF-8 and puts the replacement character in the place of each longest
run of bytes that begins a character and does not complete it, and of each byte that cannot begin
one.  The decoder is a machine that takes one byte after the other, so a byte below 128, which
never continues a character, separates what stands before it from what stands behind
(`decodeLossy_append_ascii`).  Of a text that was encoded the decoder loses nothing
(`decodeLossy_encode`).
-/
import Rfw.Lib.Text
import Mathlib.Data.Nat.Notation

namespace Lib.Utf8

/-- `U+FFFD`. -/
def replacement : Char := '\uFFFD'

/-- A character that is not complete. -/
structure Pending where
  /-- How many continuation bytes follow the next one. -/
  more : ℕ
  /-- The bounds of the next continuation byte. -/
  low : ℕ
  high : ℕ
  /-- The bits so far. -/
  code : ℕ
  continues : 0x80 ≤ low

/-- What a byte means at the start of a character. -/
inductive Lead
  | ascii (c : Char)
  | pending (p : Pending)
  | invalid

/-- The meaning of a byte at the start of a character.  The bounds of the second byte exclude
overlong forms, surrogates and what is above `U+10FFFF`. -/
def lead (b : UInt8) : Lead :=
  let n := b.toNat
  if n < 0x80 then .ascii (Char.ofNat n)
  else if n < 0xC2 then .invalid
  else if n < 0xE0 then .pending ⟨0, 0x80, 0xBF, n - 0xC0, by decide⟩
  else if n = 0xE0 then .pending ⟨1, 0xA0, 0xBF, 0, by decide⟩
  else if n = 0xED then .pending ⟨1, 0x80, 0x9F, 0xD, by decide⟩
  else if n < 0xF0 then .pending ⟨1, 0x80, 0xBF, n - 0xE0, by decide⟩
  else if n = 0xF0 then .pending ⟨2, 0x90, 0xBF, 0, by decide⟩
  else if n < 0xF4 then .pending ⟨2, 0x80, 0xBF, n - 0xF0, by decide⟩
  else if n = 0xF4 then .pending ⟨2, 0x80, 0x8F, 4, by decide⟩
  else .invalid

/-- Begin with a byte and continue with `rest`. -/
def begin_ (b : UInt8) (rest : Option Pending → Str) : Str :=
  match lead b with
  | .ascii c => c :: rest none
  | .pending p => rest (some p)
  | .invalid => replacement :: rest none

/-- The decoder, between two characters or inside one. -/
def decodeFrom : Option Pending → List UInt8 → Str
  | none, [] => []
  | some _, [] => [replacement]
  | none, b :: s => begin_ b fun p => decodeFrom p s
  | some p, b :: s =>
      if p.low ≤ b.toNat ∧ b.toNat ≤ p.high then
        let code := p.code * 64 + (b.toNat - 0x80)
        match p.more with
        | 0 => Char.ofNat code :: decodeFrom none s
        | more + 1 => decodeFrom (some ⟨more, 0x80, 0xBF, code, by decide⟩) s
      else replacement :: begin_ b fun p => decodeFrom p s

/-- `String::from_utf8_lossy`. -/
def decodeLossy (s : List UInt8) : Str := decodeFrom none s

example : decodeLossy [0xE2, 0x82, 0xAC, 0x41, 0xE2, 0x82, 0x41, 0xF0, 0x80, 0xC3] =
    ['€', 'A', replacement, 'A', replacement, replacement, replacement] := by decide

lemma begin_ascii {b : UInt8} (hb : b.toNat < 0x80) (rest : Option Pending → Str) :
    begin_ b rest = Char.ofNat b.toNat :: rest none := by
  simp only [begin_, lead, if_pos hb]

/-- Text can be added behind what a byte begins. -/
lemma begin_append (b : UInt8) (rest : Option Pending → Str) (t : Str) :
    begin_ b (fun p => rest p ++ t) = begin_ b rest ++ t := by
  unfold begin_
  split <;> rfl

/-- A byte that does not continue a character ends it, and begins another one. -/
lemma decodeFrom_of_not_continues {p : Pending} {b : UInt8}
    (h : ¬ (p.low ≤ b.toNat ∧ b.toNat ≤ p.high)) (s : List UInt8) :
    decodeFrom (some p) (b :: s) = replacement :: begin_ b fun p => decodeFrom p s := by
  rw [decodeFrom, if_neg h]

/-- A byte below 128 ends whatever is pending. -/
lemma decodeFrom_append_ascii {b : UInt8} (hb : b.toNat < 0x80) (p : Option Pending)
    (s t : List UInt8) :
    decodeFrom p (s ++ b :: t) = decodeFrom p s ++ Char.ofNat b.toNat :: decodeFrom none t := by
  induction s generalizing p with
  | nil =>
    cases p with
    | none => exact begin_ascii hb _
    | some p =>
      have hnot : ¬ (p.low ≤ b.toNat ∧ b.toNat ≤ p.high) := by
        have := p.continues
        omega
      rw [List.nil_append, decodeFrom_of_not_continues hnot, begin_ascii hb]
      rfl
  | cons d s ih =>
    have hbegin : begin_ d (fun p => decodeFrom p (s ++ b :: t)) =
        begin_ d (fun p => decodeFrom p s) ++ Char.ofNat b.toNat :: decodeFrom none t := by
      rw [← begin_append]
      exact congrArg (begin_ d) (funext ih)
    cases p with
    | none => exact hbegin
    | some p =>
      rw [List.cons_append, decodeFrom, decodeFrom]
      split_ifs with hrange
      · cases p.more with
        | zero => exact congrArg _ (ih none)
        | succ more => exact ih _
      · rw [hbegin]
        rfl

/-- A byte below 128 separates what stands before it from what stands behind. -/
lemma decodeLossy_append_ascii {b : UInt8} (hb : b.toNat < 0x80) (s t : List UInt8) :
    decodeLossy (s ++ b :: t) = decodeLossy s ++ Char.ofNat b.toNat :: decodeLossy t :=
  decodeFrom_append_ascii hb none s t

/-! ## Decoding what was encoded -/

/-- `str::as_bytes`. -/
def encode (s : Str) : List UInt8 := s.flatMap String.utf8EncodeChar

lemma toNat_ofNat {n : ℕ} (h : n < 256) : (UInt8.ofNat n).toNat = n := by
  rw [UInt8.toNat_ofNat', Nat.mod_eq_of_lt h]

/-- A byte within the bounds completes a character. -/
lemma decodeFrom_completes {p : Pending} {n : ℕ} (hn : n < 256) (h : p.low ≤ n ∧ n ≤ p.high)
    (hmore : p.more = 0) (s : List UInt8) :
    decodeFrom (some p) (UInt8.ofNat n :: s) =
      Char.ofNat (p.code * 64 + (n - 0x80)) :: decodeFrom none s := by
  rw [decodeFrom, toNat_ofNat hn, if_pos h, hmore]

/-- A byte within the bounds continues a character. -/
lemma decodeFrom_continues {p : Pending} {n more : ℕ} (hn : n < 256) (h : p.low ≤ n ∧ n ≤ p.high)
    (hmore : p.more = more + 1) (s : List UInt8) :
    decodeFrom (some p) (UInt8.ofNat n :: s) =
      decodeFrom (some ⟨more, 0x80, 0xBF, p.code * 64 + (n - 0x80), by decide⟩) s := by
  rw [decodeFrom, toNat_ofNat hn, if_pos h, hmore]

/-- The first byte of a character that has `more + 2` of them: it leaves `code` behind, and the
byte `n` may follow. -/
def Leads (b more code n : ℕ) : Prop :=
  ∃ p : Pending, lead (UInt8.ofNat b) = .pending p ∧ p.more = more ∧ p.code = code ∧
    p.low ≤ n ∧ n ≤ p.high

lemma leads_two {v : ℕ} (h : 0x80 ≤ v) (h' : v < 0x800) :
    Leads (v / 64 % 32 + 0xC0) 0 (v / 64) (v % 64 + 0x80) := by
  refine ⟨⟨0, 0x80, 0xBF, v / 64, by decide⟩, ?_, rfl, rfl, by dsimp only; omega⟩
  have hcode : v / 64 % 32 + 0xC0 - 0xC0 = v / 64 := by omega
  simp only [lead, toNat_ofNat (show v / 64 % 32 + 0xC0 < 256 by omega), hcode]
  rw [if_neg (by omega), if_neg (by omega), if_pos (by omega)]

lemma leads_three {v : ℕ} (h : 0x800 ≤ v) (h' : v < 0xD800 ∨ 0xDFFF < v ∧ v < 0x10000) :
    Leads (v / 4096 % 16 + 0xE0) 1 (v / 4096) (v / 64 % 64 + 0x80) := by
  have hb : v / 4096 % 16 + 0xE0 < 256 := by omega
  have hcode : v / 4096 % 16 + 0xE0 - 0xE0 = v / 4096 := by omega
  unfold Leads
  simp only [lead, toNat_ofNat hb, hcode]
  rw [if_neg (by omega), if_neg (by omega), if_neg (by omega)]
  split_ifs with hlow hhigh
  · exact ⟨_, rfl, rfl, by dsimp only; omega, by dsimp only; omega⟩
  · exact ⟨_, rfl, rfl, by dsimp only; omega, by dsimp only; omega⟩
  · exact ⟨_, rfl, rfl, rfl, by dsimp only; omega⟩
  · omega
  all_goals omega

lemma leads_four {v : ℕ} (h : 0x10000 ≤ v) (h' : v < 0x110000) :
    Leads (v / 262144 % 8 + 0xF0) 2 (v / 262144) (v / 4096 % 64 + 0x80) := by
  have hb : v / 262144 % 8 + 0xF0 < 256 := by omega
  have hcode : v / 262144 % 8 + 0xF0 - 0xF0 = v / 262144 := by omega
  unfold Leads
  simp only [lead, toNat_ofNat hb, hcode]
  rw [if_neg (by omega), if_neg (by omega), if_neg (by omega), if_neg (by omega),
    if_neg (by omega), if_neg (by omega)]
  split_ifs with hlow hmid hhigh
  · exact ⟨_, rfl, rfl, by dsimp only; omega, by dsimp only; omega⟩
  · exact ⟨_, rfl, rfl, by dsimp only, by dsimp only; omega⟩
  · exact ⟨_, rfl, rfl, by dsimp only; omega, by dsimp only; omega⟩
  · omega

/-- The decoder reads a character back. -/
lemma decodeFrom_encodeChar (c : Char) (s : List UInt8) :
    decodeFrom none (String.utf8EncodeChar c ++ s) = c :: decodeFrom none s := by
  have hvalid : c.toNat < 0xD800 ∨ 0xDFFF < c.toNat ∧ c.toNat < 0x110000 := c.valid
  have hc : Char.ofNat c.toNat = c := Char.ofNat_toNat c
  have hv : c.val.toNat = c.toNat := rfl
  unfold String.utf8EncodeChar
  rw [hv]
  generalize c.toNat = v at hvalid hc
  dsimp only
  split_ifs with h1 h2 h3
  · rw [List.singleton_append, decodeFrom, begin_ascii (by rw [toNat_ofNat] <;> omega),
      toNat_ofNat (by omega), hc]
  · obtain ⟨p, hlead, hmore, hcode, hrange⟩ := leads_two (v := v) (by omega) (by omega)
    have hall : v / 64 * 64 + (v % 64 + 0x80 - 0x80) = v := by omega
    rw [List.cons_append, List.singleton_append, decodeFrom, begin_, hlead]
    dsimp only
    rw [decodeFrom_completes (by omega) hrange hmore, hcode, hall, hc]
  · obtain ⟨p, hlead, hmore, hcode, hrange⟩ := leads_three (v := v) (by omega) (by omega)
    have hall :
        (v / 4096 * 64 + (v / 64 % 64 + 0x80 - 0x80)) * 64 + (v % 64 + 0x80 - 0x80) = v := by
      omega
    rw [List.cons_append, List.cons_append, List.singleton_append, decodeFrom, begin_, hlead]
    dsimp only
    rw [decodeFrom_continues (by omega) hrange hmore,
      decodeFrom_completes (by omega) (by dsimp only; omega) rfl, hcode, hall, hc]
  · obtain ⟨p, hlead, hmore, hcode, hrange⟩ := leads_four (v := v) (by omega) (by omega)
    have hall : ((v / 262144 * 64 + (v / 4096 % 64 + 0x80 - 0x80)) * 64 +
        (v / 64 % 64 + 0x80 - 0x80)) * 64 + (v % 64 + 0x80 - 0x80) = v := by omega
    rw [List.cons_append, List.cons_append, List.cons_append, List.singleton_append, decodeFrom,
      begin_, hlead]
    dsimp only
    rw [decodeFrom_continues (by omega) hrange hmore,
      decodeFrom_continues (by omega) (by dsimp only; omega) rfl,
      decodeFrom_completes (by omega) (by dsimp only; omega) rfl, hcode, hall, hc]

/-- **Decoding reads a text back.** -/
theorem decodeLossy_encode (s : Str) : decodeLossy (encode s) = s := by
  unfold decodeLossy encode
  induction s with
  | nil => rfl
  | cons c s ih => rw [List.flatMap_cons, decodeFrom_encodeChar, ih]

end Lib.Utf8
