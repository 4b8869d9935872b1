/-
# JSON

Values, the grammar of RFC 8259, and a parser.  The grammar is a relation between a text and the
value it stands for, one constructor for each production.  The parser reads a value from the front
of a text; `text_of_parse` says that it only accepts what the grammar derives.

A number stands for `mantissa * 10 ^ exponent`.  An escaped surrogate has to come in a pair, since
half a pair is not a character.
-/
import Rfw.Lib.Text
import Mathlib.Data.Int.Notation
import Mathlib.Data.List.TakeWhile

namespace Lib

/-- A JSON value.  Objects keep their members in order. -/
inductive Json
  | null
  | bool (b : Bool)
  | num (mantissa exponent : ℤ)
  | str (s : Str)
  | arr (vs : List Json)
  | obj (ms : List (Str × Json))

namespace Json

/-! ## Characters -/

/-- White space between tokens. -/
def isWs (c : Char) : Bool := c = ' ' || c = '\t' || c = '\n' || c = '\r'

/-- The value of a hexadecimal digit. -/
def hexVal (c : Char) : Option ℕ :=
  if '0' ≤ c ∧ c ≤ '9' then some (c.toNat - '0'.toNat)
  else if 'a' ≤ c ∧ c ≤ 'f' then some (c.toNat - 'a'.toNat + 10)
  else if 'A' ≤ c ∧ c ≤ 'F' then some (c.toNat - 'A'.toNat + 10)
  else none

/-- The value of four hexadecimal digits. -/
def hex4 (a b c d : Char) : Option ℕ := do
  let a ← hexVal a
  let b ← hexVal b
  let c ← hexVal c
  let d ← hexVal d
  return ((a * 16 + b) * 16 + c) * 16 + d

/-- The character after a backslash, when it stands for one on its own. -/
def shortEscape : Char → Option Char
  | '"' => some '"'
  | '\\' => some '\\'
  | '/' => some '/'
  | 'b' => some '\x08'
  | 'f' => some '\x0c'
  | 'n' => some '\n'
  | 'r' => some '\r'
  | 't' => some '\t'
  | _ => none

/-- The first half of a surrogate pair. -/
def isHigh (n : ℕ) : Bool := 0xD800 ≤ n && n < 0xDC00

/-- The second half of a surrogate pair. -/
def isLow (n : ℕ) : Bool := 0xDC00 ≤ n && n < 0xE000

/-- The character of a surrogate pair. -/
def ofPair (high low : ℕ) : Char :=
  Char.ofNat (0x10000 + (high - 0xD800) * 0x400 + (low - 0xDC00))

/-! ## The grammar -/

/-- White space. -/
def Ws (t : Str) : Prop := ∀ c ∈ t, isWs c = true

/-- One or more digits. -/
structure Digits (t : Str) : Prop where
  ne_nil : t ≠ []
  digits : ∀ c ∈ t, c.isDigit = true

/-- The integer part of a number: no leading zeros. -/
inductive IntPart : Str → Prop
  | zero : IntPart ['0']
  | digits {c : Char} {t : Str} (h : Digits (c :: t)) (hc : c ≠ '0') : IntPart (c :: t)

/-- The fraction of a number, with its digits. -/
inductive Frac : Str → Str → Prop
  | absent : Frac [] []
  | digits {t : Str} (h : Digits t) : Frac ('.' :: t) t

/-- The exponent of a number, with its value. -/
inductive Exp : Str → ℤ → Prop
  | absent : Exp [] 0
  | plain {c : Char} {t : Str} (hc : c = 'e' ∨ c = 'E') (h : Digits t) :
      Exp (c :: t) (Nat.ofDigitChars 10 t 0)
  | plus {c : Char} {t : Str} (hc : c = 'e' ∨ c = 'E') (h : Digits t) :
      Exp (c :: '+' :: t) (Nat.ofDigitChars 10 t 0)
  | minus {c : Char} {t : Str} (hc : c = 'e' ∨ c = 'E') (h : Digits t) :
      Exp (c :: '-' :: t) (-(Nat.ofDigitChars 10 t 0))

/-- A number. -/
inductive Number : Str → Json → Prop
  | pos {i f t x : Str} {e : ℤ} (hi : IntPart i) (hf : Frac f t) (hx : Exp x e) :
      Number (i ++ f ++ x) (.num (Nat.ofDigitChars 10 (i ++ t) 0) (e - t.length))
  | neg {i f t x : Str} {e : ℤ} (hi : IntPart i) (hf : Frac f t) (hx : Exp x e) :
      Number ('-' :: (i ++ f ++ x)) (.num (-(Nat.ofDigitChars 10 (i ++ t) 0)) (e - t.length))

/-- The characters of a string, with what they stand for. -/
inductive Chars : Str → Str → Prop
  | nil : Chars [] []
  | plain {c : Char} {t s : Str} (hquote : c ≠ '"') (hslash : c ≠ '\\') (hc : 0x20 ≤ c.toNat)
      (h : Chars t s) : Chars (c :: t) (c :: s)
  | short {e c : Char} {t s : Str} (he : shortEscape e = some c) (h : Chars t s) :
      Chars ('\\' :: e :: t) (c :: s)
  | unicode {a b c d : Char} {n : ℕ} {t s : Str} (hn : hex4 a b c d = some n)
      (hhigh : isHigh n = false) (hlow : isLow n = false) (h : Chars t s) :
      Chars ('\\' :: 'u' :: a :: b :: c :: d :: t) (Char.ofNat n :: s)
  | pair {a b c d a' b' c' d' : Char} {n n' : ℕ} {t s : Str} (hn : hex4 a b c d = some n)
      (hhigh : isHigh n = true) (hn' : hex4 a' b' c' d' = some n') (hlow : isLow n' = true)
      (h : Chars t s) :
      Chars ('\\' :: 'u' :: a :: b :: c :: d :: '\\' :: 'u' :: a' :: b' :: c' :: d' :: t)
        (ofPair n n' :: s)

mutual

/-- A value. -/
inductive Value : Str → Json → Prop
  | null : Value ['n', 'u', 'l', 'l'] .null
  | true : Value ['t', 'r', 'u', 'e'] (.bool true)
  | false : Value ['f', 'a', 'l', 's', 'e'] (.bool false)
  | num {t : Str} {v : Json} (h : Number t v) : Value t v
  | str {t s : Str} (h : Chars t s) : Value ('"' :: t ++ ['"']) (.str s)
  | arrNil {w : Str} (hw : Ws w) : Value ('[' :: w ++ [']']) (.arr [])
  | arr {t : Str} {vs : List Json} (h : Elements t vs) : Value ('[' :: t ++ [']']) (.arr vs)
  | objNil {w : Str} (hw : Ws w) : Value ('\x7b' :: w ++ ['\x7d']) (.obj [])
  | obj {t : Str} {ms : List (Str × Json)} (h : Members t ms) :
      Value ('\x7b' :: t ++ ['\x7d']) (.obj ms)

/-- The values of an array. -/
inductive Elements : Str → List Json → Prop
  | last {w t w' : Str} {v : Json} (hw : Ws w) (h : Value t v) (hw' : Ws w') :
      Elements (w ++ t ++ w') [v]
  | cons {w t w' ts : Str} {v : Json} {vs : List Json} (hw : Ws w) (h : Value t v) (hw' : Ws w')
      (hs : Elements ts vs) : Elements (w ++ t ++ w' ++ ',' :: ts) (v :: vs)

/-- The members of an object. -/
inductive Members : Str → List (Str × Json) → Prop
  | last {w k w₁ w₂ t w' s : Str} {v : Json} (hw : Ws w) (hk : Chars k s) (hw₁ : Ws w₁)
      (hw₂ : Ws w₂) (h : Value t v) (hw' : Ws w') :
      Members (w ++ '"' :: k ++ '"' :: w₁ ++ ':' :: w₂ ++ t ++ w') [(s, v)]
  | cons {w k w₁ w₂ t w' s ts : Str} {v : Json} {ms : List (Str × Json)} (hw : Ws w)
      (hk : Chars k s) (hw₁ : Ws w₁) (hw₂ : Ws w₂) (h : Value t v) (hw' : Ws w')
      (hs : Members ts ms) :
      Members (w ++ '"' :: k ++ '"' :: w₁ ++ ':' :: w₂ ++ t ++ w' ++ ',' :: ts) ((s, v) :: ms)

end

/-- A JSON text: a value with white space around it. -/
def Text (t : Str) (v : Json) : Prop := ∃ w u w', t = w ++ u ++ w' ∧ Ws w ∧ Value u v ∧ Ws w'

/-! ## The parser -/

/-- Skip white space. -/
def skipWs (s : Str) : Str := s.dropWhile isWs

/-- Put a character before a string that was read. -/
def push (c : Char) : Option (Str × Str) → Option (Str × Str)
  | some (s, rest) => some (c :: s, rest)
  | none => none

/-- Read a string after its opening quote, up to the closing one. -/
def chars : Str → Option (Str × Str)
  | '"' :: s => some ([], s)
  | '\\' :: 'u' :: a :: b :: c :: d :: s =>
      match hex4 a b c d with
      | none => none
      | some n =>
          if isHigh n then
            -- only its other half may follow
            match s with
            | '\\' :: 'u' :: a' :: b' :: c' :: d' :: s =>
                match hex4 a' b' c' d' with
                | none => none
                | some n' => if isLow n' then push (ofPair n n') (chars s) else none
            | _ => none
          else if isLow n then none
          else push (Char.ofNat n) (chars s)
  | '\\' :: e :: s =>
      match shortEscape e with
      | none => none
      | some c => push c (chars s)
  | c :: s => if c = '\\' ∨ c.toNat < 0x20 then none else push c (chars s)
  | [] => none

/-- Read one or more digits. -/
def digits (s : Str) : Option (Str × Str) :=
  if s.takeWhile Char.isDigit = [] then none
  else some (s.takeWhile Char.isDigit, s.dropWhile Char.isDigit)

/-- Read the integer part of a number. -/
def intPart : Str → Option (Str × Str)
  | '0' :: s => some (['0'], s)
  | s => digits s

/-- Read the fraction of a number, if there is one. -/
def fracPart : Str → Option (Str × Str)
  | '.' :: s => digits s
  | s => some ([], s)

/-- Read the digits of an exponent after its letter. -/
def expDigits : Str → Option (ℤ × Str)
  | '+' :: s => (digits s).map fun p => (Nat.ofDigitChars 10 p.1 0, p.2)
  | '-' :: s => (digits s).map fun p => (-(Nat.ofDigitChars 10 p.1 0), p.2)
  | s => (digits s).map fun p => (Nat.ofDigitChars 10 p.1 0, p.2)

/-- Read the exponent of a number, if there is one. -/
def expPart : Str → Option (ℤ × Str)
  | 'e' :: s => expDigits s
  | 'E' :: s => expDigits s
  | s => some (0, s)

/-- Read a number without its sign: mantissa and exponent. -/
def magnitude (s : Str) : Option (ℕ × ℤ × Str) := do
  let (i, s) ← intPart s
  let (f, s) ← fracPart s
  let (e, s) ← expPart s
  return (Nat.ofDigitChars 10 (i ++ f) 0, e - f.length, s)

/-- Read a number. -/
def number : Str → Option (Json × Str)
  | '-' :: s => (magnitude s).map fun p => (.num (-p.1) p.2.1, p.2.2)
  | s => (magnitude s).map fun p => (.num p.1 p.2.1, p.2.2)

mutual

/-- Read a value, with a bound on the recursion. -/
def value : ℕ → Str → Option (Json × Str)
  | 0, _ => none
  | fuel + 1, s =>
      match s with
      | 'n' :: 'u' :: 'l' :: 'l' :: s => some (.null, s)
      | 't' :: 'r' :: 'u' :: 'e' :: s => some (.bool true, s)
      | 'f' :: 'a' :: 'l' :: 's' :: 'e' :: s => some (.bool false, s)
      | '"' :: s => (chars s).map fun p => (.str p.1, p.2)
      | '[' :: s =>
          match skipWs s with
          | ']' :: s => some (.arr [], s)
          | _ => (elements fuel s).map fun p => (.arr p.1, p.2)
      | '\x7b' :: s =>
          match skipWs s with
          | '\x7d' :: s => some (.obj [], s)
          | _ => (members fuel s).map fun p => (.obj p.1, p.2)
      | s => number s

/-- Read the values of an array, up to its closing bracket. -/
def elements : ℕ → Str → Option (List Json × Str)
  | 0, _ => none
  | fuel + 1, s =>
      match value fuel (skipWs s) with
      | none => none
      | some (v, s) =>
          match skipWs s with
          | ',' :: s => (elements fuel s).map fun p => (v :: p.1, p.2)
          | ']' :: s => some ([v], s)
          | _ => none

/-- Read the members of an object, up to its closing brace. -/
def members : ℕ → Str → Option (List (Str × Json) × Str)
  | 0, _ => none
  | fuel + 1, s =>
      match skipWs s with
      | '"' :: s =>
          match chars s with
          | none => none
          | some (k, s) =>
              match skipWs s with
              | ':' :: s =>
                  match value fuel (skipWs s) with
                  | none => none
                  | some (v, s) =>
                      match skipWs s with
                      | ',' :: s => (members fuel s).map fun p => ((k, v) :: p.1, p.2)
                      | '\x7d' :: s => some ([(k, v)], s)
                      | _ => none
              | _ => none
      | _ => none

end

/-- Parse a JSON text.  Every level of nesting takes two steps of recursion and at least two
characters, and every further value of an array or object one step, so the bound is never met. -/
def parse (s : Str) : Option Json :=
  match value (2 * s.length + 1) (skipWs s) with
  | none => none
  | some (v, rest) => if skipWs rest = [] then some v else none

/-! ## What the parser accepts -/

lemma ws_skipWs (s : Str) : ∃ w, s = w ++ skipWs s ∧ Ws w := by
  refine ⟨s.takeWhile isWs, List.takeWhile_append_dropWhile.symm, fun c hc => ?_⟩
  exact List.mem_takeWhile_imp hc

lemma push_eq_some {c : Char} {x : Option (Str × Str)} {s rest : Str}
    (h : push c x = some (s, rest)) : ∃ s', x = some (s', rest) ∧ s = c :: s' := by
  match x, h with
  | some (s', rest'), h =>
    obtain ⟨rfl, rfl⟩ := Prod.mk.inj (Option.some.inj h)
    exact ⟨s', rfl, rfl⟩

lemma chars_of_chars {s cs rest : Str} (h : chars s = some (cs, rest)) :
    ∃ t, s = t ++ '"' :: rest ∧ Chars t cs := by
  fun_induction chars s generalizing cs rest with
  | case1 s =>
    obtain ⟨rfl, rfl⟩ := Prod.mk.inj (Option.some.inj h)
    exact ⟨[], rfl, .nil⟩
  | case4 a b c d n hn hhigh a' b' c' d' s n' hn' hlow ih =>
    obtain ⟨cs', hs, rfl⟩ := push_eq_some h
    obtain ⟨t, rfl, ht⟩ := ih hs
    exact ⟨_, rfl, .pair hn hhigh hn' hlow ht⟩
  | case8 a b c d s n hn hhigh hlow ih =>
    obtain ⟨cs', hs, rfl⟩ := push_eq_some h
    obtain ⟨t, rfl, ht⟩ := ih hs
    exact ⟨_, rfl, .unicode hn (Bool.eq_false_iff.mpr hhigh) (Bool.eq_false_iff.mpr hlow) ht⟩
  | case10 e s _ c he ih =>
    obtain ⟨cs', hs, rfl⟩ := push_eq_some h
    obtain ⟨t, rfl, ht⟩ := ih hs
    exact ⟨_, rfl, .short he ht⟩
  | case12 c s hquote _ _ hc ih =>
    obtain ⟨cs', hs, rfl⟩ := push_eq_some h
    obtain ⟨t, rfl, ht⟩ := ih hs
    rw [not_or, Nat.not_lt] at hc
    exact ⟨_, rfl, .plain hquote hc.1 hc.2 ht⟩
  | _ => cases h

lemma digits_of_digits {s ds rest : Str} (h : digits s = some (ds, rest)) :
    s = ds ++ rest ∧ Digits ds := by
  unfold digits at h
  split at h
  · cases h
  · rename_i hne
    obtain ⟨rfl, rfl⟩ := Prod.mk.inj (Option.some.inj h)
    exact ⟨List.takeWhile_append_dropWhile.symm, hne, fun c hc => List.mem_takeWhile_imp hc⟩

lemma intPart_of_intPart {s i rest : Str} (h : intPart s = some (i, rest)) :
    s = i ++ rest ∧ IntPart i := by
  unfold intPart at h
  split at h
  · obtain ⟨rfl, rfl⟩ := Prod.mk.inj (Option.some.inj h)
    exact ⟨rfl, .zero⟩
  · rename_i hzero
    obtain ⟨rfl, hi⟩ := digits_of_digits h
    cases i with
    | nil => exact absurd rfl hi.ne_nil
    | cons c i => exact ⟨rfl, .digits hi fun hc => hzero (i ++ rest) (by rw [hc]; rfl)⟩

lemma frac_of_fracPart {s f rest : Str} (h : fracPart s = some (f, rest)) :
    ∃ t, s = t ++ rest ∧ Frac t f := by
  unfold fracPart at h
  split at h
  · obtain ⟨rfl, hf⟩ := digits_of_digits h
    exact ⟨'.' :: f, rfl, .digits hf⟩
  · obtain ⟨rfl, rfl⟩ := Prod.mk.inj (Option.some.inj h)
    exact ⟨[], rfl, .absent⟩

lemma exp_of_expDigits {c : Char} (hc : c = 'e' ∨ c = 'E') {s rest : Str} {e : ℤ}
    (h : expDigits s = some (e, rest)) : ∃ t, c :: s = t ++ rest ∧ Exp t e := by
  unfold expDigits at h
  split at h <;> obtain ⟨⟨ds, rest'⟩, hds, heq⟩ := Option.map_eq_some_iff.mp h <;>
    obtain ⟨rfl, rfl⟩ := Prod.mk.inj heq <;> obtain ⟨rfl, hd⟩ := digits_of_digits hds
  · exact ⟨c :: '+' :: ds, rfl, .plus hc hd⟩
  · exact ⟨c :: '-' :: ds, rfl, .minus hc hd⟩
  · exact ⟨c :: ds, rfl, .plain hc hd⟩

lemma exp_of_expPart {s rest : Str} {e : ℤ} (h : expPart s = some (e, rest)) :
    ∃ t, s = t ++ rest ∧ Exp t e := by
  unfold expPart at h
  split at h
  · exact exp_of_expDigits (Or.inl rfl) h
  · exact exp_of_expDigits (Or.inr rfl) h
  · obtain ⟨rfl, rfl⟩ := Prod.mk.inj (Option.some.inj h)
    exact ⟨[], rfl, .absent⟩

lemma parts_of_magnitude {s rest : Str} {m : ℕ} {e : ℤ} (h : magnitude s = some (m, e, rest)) :
    ∃ i f t x e', s = i ++ f ++ x ++ rest ∧ IntPart i ∧ Frac f t ∧ Exp x e' ∧
      m = Nat.ofDigitChars 10 (i ++ t) 0 ∧ e = e' - t.length := by
  simp only [magnitude, Option.bind_eq_bind, Option.bind_eq_some_iff, Prod.exists] at h
  obtain ⟨i, s₁, hs₁, t, s₂, hs₂, e', s₃, hs₃, hm⟩ := h
  obtain ⟨rfl, hi⟩ := intPart_of_intPart hs₁
  obtain ⟨f, rfl, hf⟩ := frac_of_fracPart hs₂
  obtain ⟨x, rfl, hx⟩ := exp_of_expPart hs₃
  obtain ⟨rfl, hrest⟩ := Prod.mk.inj (Option.some.inj hm)
  obtain ⟨rfl, rfl⟩ := Prod.mk.inj hrest
  exact ⟨i, f, t, x, e', by simp, hi, hf, hx, rfl, rfl⟩

lemma number_of_number {s rest : Str} {v : Json} (h : number s = some (v, rest)) :
    ∃ t, s = t ++ rest ∧ Number t v := by
  unfold number at h
  split at h <;> obtain ⟨⟨m, e, rest'⟩, hm, heq⟩ := Option.map_eq_some_iff.mp h <;>
    obtain ⟨rfl, rfl⟩ := Prod.mk.inj heq <;>
    obtain ⟨i, f, t, x, e', rfl, hi, hf, hx, rfl, rfl⟩ := parts_of_magnitude hm
  · exact ⟨'-' :: (i ++ f ++ x), rfl, .neg hi hf hx⟩
  · exact ⟨i ++ f ++ x, rfl, .pos hi hf hx⟩

/-- What a call of the parser with some fuel accepts is derived by the grammar. -/
structure Sound (fuel : ℕ) : Prop where
  value : ∀ {s rest v}, value fuel s = some (v, rest) → ∃ t, s = t ++ rest ∧ Value t v
  elements : ∀ {s rest vs}, elements fuel s = some (vs, rest) →
    ∃ t, s = t ++ ']' :: rest ∧ Elements t vs
  members : ∀ {s rest ms}, members fuel s = some (ms, rest) →
    ∃ t, s = t ++ '\x7d' :: rest ∧ Members t ms

lemma value_sound {fuel : ℕ} (ih : Sound fuel) {s rest : Str} {v : Json}
    (h : value (fuel + 1) s = some (v, rest)) : ∃ t, s = t ++ rest ∧ Value t v := by
  unfold value at h
  split at h
  · obtain ⟨rfl, rfl⟩ := Prod.mk.inj (Option.some.inj h)
    exact ⟨_, rfl, .null⟩
  · obtain ⟨rfl, rfl⟩ := Prod.mk.inj (Option.some.inj h)
    exact ⟨_, rfl, .true⟩
  · obtain ⟨rfl, rfl⟩ := Prod.mk.inj (Option.some.inj h)
    exact ⟨_, rfl, .false⟩
  · obtain ⟨⟨cs, rest'⟩, hcs, heq⟩ := Option.map_eq_some_iff.mp h
    obtain ⟨rfl, rfl⟩ := Prod.mk.inj heq
    obtain ⟨t, rfl, ht⟩ := chars_of_chars hcs
    exact ⟨'"' :: t ++ ['"'], by simp, .str ht⟩
  · -- an array
    rename_i s
    obtain ⟨w, hs, hw⟩ := ws_skipWs s
    split at h
    · rename_i s' hclose
      obtain ⟨rfl, rfl⟩ := Prod.mk.inj (Option.some.inj h)
      rw [hclose] at hs
      exact ⟨'[' :: w ++ [']'], by rw [hs]; simp, .arrNil hw⟩
    · obtain ⟨⟨vs, rest'⟩, hvs, heq⟩ := Option.map_eq_some_iff.mp h
      obtain ⟨rfl, rfl⟩ := Prod.mk.inj heq
      obtain ⟨t, rfl, ht⟩ := ih.elements hvs
      exact ⟨'[' :: t ++ [']'], by simp, .arr ht⟩
  · -- an object
    rename_i s
    obtain ⟨w, hs, hw⟩ := ws_skipWs s
    split at h
    · rename_i s' hclose
      obtain ⟨rfl, rfl⟩ := Prod.mk.inj (Option.some.inj h)
      rw [hclose] at hs
      exact ⟨'\x7b' :: w ++ ['\x7d'], by rw [hs]; simp, .objNil hw⟩
    · obtain ⟨⟨ms, rest'⟩, hms, heq⟩ := Option.map_eq_some_iff.mp h
      obtain ⟨rfl, rfl⟩ := Prod.mk.inj heq
      obtain ⟨t, rfl, ht⟩ := ih.members hms
      exact ⟨'\x7b' :: t ++ ['\x7d'], by simp, .obj ht⟩
  · obtain ⟨t, rfl, ht⟩ := number_of_number h
    exact ⟨t, rfl, .num ht⟩

lemma elements_sound {fuel : ℕ} (ih : Sound fuel) {s rest : Str} {vs : List Json}
    (h : elements (fuel + 1) s = some (vs, rest)) :
    ∃ t, s = t ++ ']' :: rest ∧ Elements t vs := by
  unfold elements at h
  obtain ⟨w, hs, hw⟩ := ws_skipWs s
  split at h
  · cases h
  · rename_i v s₁ hv
    obtain ⟨t, hskip, ht⟩ := ih.value hv
    obtain ⟨w', hs₁, hw'⟩ := ws_skipWs s₁
    rw [hskip] at hs
    split at h
    · rename_i s₂ hcomma
      obtain ⟨⟨vs', rest'⟩, hvs, heq⟩ := Option.map_eq_some_iff.mp h
      obtain ⟨rfl, rfl⟩ := Prod.mk.inj heq
      obtain ⟨ts, rfl, hts⟩ := ih.elements hvs
      rw [hcomma] at hs₁
      exact ⟨w ++ t ++ w' ++ ',' :: ts, by rw [hs, hs₁]; simp, .cons hw ht hw' hts⟩
    · rename_i s₂ hclose
      obtain ⟨rfl, rfl⟩ := Prod.mk.inj (Option.some.inj h)
      rw [hclose] at hs₁
      exact ⟨w ++ t ++ w', by rw [hs, hs₁]; simp, .last hw ht hw'⟩
    · cases h

lemma members_sound {fuel : ℕ} (ih : Sound fuel) {s rest : Str} {ms : List (Str × Json)}
    (h : members (fuel + 1) s = some (ms, rest)) :
    ∃ t, s = t ++ '\x7d' :: rest ∧ Members t ms := by
  unfold members at h
  -- the key, the colon, the value and what ends the member, each with the space before it
  obtain ⟨w, hs, hw⟩ := ws_skipWs s
  split at h
  · rename_i s₁ hquote
    split at h
    · cases h
    · rename_i k s₂ hk
      obtain ⟨kt, rfl, hkt⟩ := chars_of_chars hk
      obtain ⟨w₁, hs₂, hw₁⟩ := ws_skipWs s₂
      split at h
      · rename_i s₃ hcolon
        obtain ⟨w₂, hs₃, hw₂⟩ := ws_skipWs s₃
        split at h
        · cases h
        · rename_i v s₄ hv
          obtain ⟨t, hskip, ht⟩ := ih.value hv
          obtain ⟨w', hs₄, hw'⟩ := ws_skipWs s₄
          rw [hquote, hs₂, hcolon, hs₃, hskip] at hs
          split at h
          · rename_i s₅ hcomma
            obtain ⟨⟨ms', rest'⟩, hms, heq⟩ := Option.map_eq_some_iff.mp h
            obtain ⟨rfl, rfl⟩ := Prod.mk.inj heq
            obtain ⟨ts, rfl, hts⟩ := ih.members hms
            rw [hcomma] at hs₄
            exact ⟨w ++ '"' :: kt ++ '"' :: w₁ ++ ':' :: w₂ ++ t ++ w' ++ ',' :: ts,
              by rw [hs, hs₄]; simp, .cons hw hkt hw₁ hw₂ ht hw' hts⟩
          · rename_i s₅ hclose
            obtain ⟨rfl, rfl⟩ := Prod.mk.inj (Option.some.inj h)
            rw [hclose] at hs₄
            exact ⟨w ++ '"' :: kt ++ '"' :: w₁ ++ ':' :: w₂ ++ t ++ w',
              by rw [hs, hs₄]; simp, .last hw hkt hw₁ hw₂ ht hw'⟩
          · cases h
      · cases h
  · cases h

lemma sound (fuel : ℕ) : Sound fuel := by
  induction fuel with
  | zero => exact ⟨by simp [value], by simp [elements], by simp [members]⟩
  | succ fuel ih => exact ⟨value_sound ih, elements_sound ih, members_sound ih⟩

/-- **The parser only accepts JSON texts**, and returns the value that the text stands for. -/
theorem text_of_parse {s : Str} {v : Json} (h : parse s = some v) : Text s v := by
  unfold parse at h
  split at h
  · cases h
  · rename_i v' rest hv
    split at h
    · rename_i hend
      obtain rfl := Option.some.inj h
      obtain ⟨w, hs, hw⟩ := ws_skipWs s
      obtain ⟨t, hskip, ht⟩ := (sound _).value hv
      obtain ⟨w', hrest, hw'⟩ := ws_skipWs rest
      rw [hend, List.append_nil] at hrest
      rw [hskip, hrest, ← List.append_assoc] at hs
      exact ⟨w, t, w', hs, hw, ht, hw'⟩
    · cases h

end Json

end Lib
