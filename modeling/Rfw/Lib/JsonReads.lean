/-
# Texts that the JSON parser reads back

`Reads t v` says that the parser reads the value `v` from a text that starts with `t`, whatever
follows.  It holds of the scalars and is kept by arrays and objects that are written without white
space, so a writer's output is read back by putting these rules together.
-/
import Rfw.Lib.Decimal
import Rfw.Lib.Json

namespace Lib.Json

/-- What follows does not go on with a number. -/
def Ends (rest : Str) : Prop :=
  ∀ c s, rest = c :: s → c.isDigit = false ∧ c ≠ '.' ∧ c ≠ 'e' ∧ c ≠ 'E'

/-- The parser reads a value from the front of a text.  The recursion needs at most two steps for
each character. -/
structure Reads (t : Str) (v : Json) : Prop where
  /-- The text starts with a token that does not close a bracket. -/
  head : ∃ c s, t = c :: s ∧ isWs c = false ∧ c ≠ ']'
  value : ∀ fuel rest, 2 * t.length ≤ fuel → Ends rest → value fuel (t ++ rest) = some (v, rest)

lemma ends_nil : Ends [] := nofun

lemma ends_cons {c : Char} (h : c.isDigit = false ∧ c ≠ '.' ∧ c ≠ 'e' ∧ c ≠ 'E') (s : Str) :
    Ends (c :: s) := by
  rintro c' s' heq
  obtain ⟨rfl, -⟩ := List.cons.inj heq
  exact h

lemma skipWs_cons {c : Char} (h : isWs c = false) (s : Str) : skipWs (c :: s) = c :: s := by
  rw [skipWs, List.dropWhile_cons_of_neg (by simp [h])]

lemma Reads.skipWs {t : Str} {v : Json} (h : Reads t v) (rest : Str) :
    skipWs (t ++ rest) = t ++ rest := by
  obtain ⟨c, s, rfl, hc, -⟩ := h.head
  exact skipWs_cons hc (s ++ rest)

/-! ## Scalars -/

/-- A literal is read without looking at what follows. -/
lemma reads_of_literal {t : Str} {v : Json} (hhead : ∃ c s, t = c :: s ∧ isWs c = false ∧ c ≠ ']')
    (h : ∀ fuel rest, Json.value (fuel + 1) (t ++ rest) = some (v, rest)) : Reads t v where
  head := hhead
  value fuel rest hfuel _ := by
    obtain ⟨c, s, rfl, -, -⟩ := hhead
    obtain ⟨fuel, rfl⟩ : ∃ f, fuel = f + 1 := ⟨fuel - 1, by rw [List.length_cons] at hfuel; omega⟩
    exact h fuel rest

lemma reads_null : Reads "null".toList .null :=
  reads_of_literal ⟨'n', "ull".toList, rfl, by decide, by decide⟩ fun _ _ => rfl

lemma reads_true : Reads "true".toList (.bool true) :=
  reads_of_literal ⟨'t', "rue".toList, rfl, by decide, by decide⟩ fun _ _ => rfl

lemma reads_false : Reads "false".toList (.bool false) :=
  reads_of_literal ⟨'f', "alse".toList, rfl, by decide, by decide⟩ fun _ _ => rfl

lemma reads_str {t s : Str} (h : ∀ rest, chars (t ++ '"' :: rest) = some (s, rest)) :
    Reads ('"' :: t ++ ['"']) (.str s) := by
  refine reads_of_literal ⟨'"', t ++ ['"'], rfl, by decide, by decide⟩ fun fuel rest => ?_
  have htext : '"' :: t ++ ['"'] ++ rest = '"' :: (t ++ '"' :: rest) := by simp
  rw [htext]
  show (chars (t ++ '"' :: rest)).map _ = _
  rw [h rest]
  rfl

/-- Characters of a string that stand for themselves. -/
def Plain (t : Str) : Prop := ∀ c ∈ t, c ≠ '"' ∧ c ≠ '\\' ∧ 0x20 ≤ c.toNat

instance (t : Str) : Decidable (Plain t) := List.decidableBAll _ t

lemma chars_plain_cons {c : Char} (h : c ≠ '"' ∧ c ≠ '\\' ∧ 0x20 ≤ c.toNat) (s : Str) :
    chars (c :: s) = push c (chars s) := by
  obtain ⟨hquote, hslash, hc⟩ := h
  rw [chars]
  · exact if_neg fun hor => hor.elim hslash (Nat.not_lt.mpr hc)
  · exact hquote
  · exact fun _ _ _ _ _ heq _ => hslash heq
  · exact fun _ _ heq _ => hslash heq

lemma chars_plain {t : Str} (h : Plain t) (rest : Str) :
    chars (t ++ '"' :: rest) = some (t, rest) := by
  induction t with
  | nil => rfl
  | cons c t ih =>
    rw [List.cons_append, chars_plain_cons (h c List.mem_cons_self),
      ih fun d hd => h d (List.mem_cons_of_mem c hd)]
    rfl

/-- The digits of a text, up to something else. -/
lemma digits_append {ds rest : Str} (hne : ds ≠ []) (hds : ∀ c ∈ ds, c.isDigit = true)
    (hrest : Ends rest) : digits (ds ++ rest) = some (ds, rest) := by
  have htake : rest.takeWhile Char.isDigit = [] := by
    cases rest with
    | nil => rfl
    | cons c s => exact List.takeWhile_cons_of_neg (by simp [(hrest c s rfl).1])
  have hdrop : rest.dropWhile Char.isDigit = rest := by
    cases rest with
    | nil => rfl
    | cons c s => exact List.dropWhile_cons_of_neg (by simp [(hrest c s rfl).1])
  rw [digits, List.takeWhile_append_of_pos hds, List.dropWhile_append_of_pos hds, htake, hdrop,
    List.append_nil, if_neg hne]

lemma fracPart_of_ends {rest : Str} (h : Ends rest) : fracPart rest = some ([], rest) := by
  unfold fracPart
  split
  · exact absurd rfl (h _ _ rfl).2.1
  · rfl

lemma expPart_of_ends {rest : Str} (h : Ends rest) : expPart rest = some (0, rest) := by
  unfold expPart
  split
  · exact absurd rfl (h _ _ rfl).2.2.1
  · exact absurd rfl (h _ _ rfl).2.2.2
  · rfl

lemma intPart_decimal (n : ℕ) {rest : Str} (h : Ends rest) :
    intPart (Str.decimal n ++ rest) = some (Str.decimal n, rest) := by
  by_cases hn : n = 0
  · subst hn
    rfl
  · obtain ⟨c, s, hs, hc⟩ := Str.decimal_head hn
    have hdigits : digits (Str.decimal n ++ rest) = some (Str.decimal n, rest) :=
      digits_append (Str.decimal_ne_nil n) (fun c hc => Str.isDigit_of_mem_decimal hc) h
    rw [hs] at hdigits ⊢
    unfold intPart
    split
    · rename_i heq
      exact absurd (List.cons.inj heq).1 hc
    · exact hdigits

/-- A number in decimal is read back. -/
lemma number_decimal (n : ℕ) {rest : Str} (h : Ends rest) :
    number (Str.decimal n ++ rest) = some (.num n 0, rest) := by
  have hmagnitude : magnitude (Str.decimal n ++ rest) = some (n, 0, rest) := by
    simp only [magnitude, intPart_decimal n h, Option.bind_eq_bind, Option.bind_some,
      fracPart_of_ends h, expPart_of_ends h, List.append_nil, Str.ofDigitChars_decimal]
    rfl
  have hminus : ∀ s, Str.decimal n ++ rest ≠ '-' :: s := by
    intro s heq
    obtain ⟨c, ds, hds⟩ := List.exists_cons_of_ne_nil (Str.decimal_ne_nil n)
    have hc : c ∈ Str.decimal n := by rw [hds]; exact List.mem_cons_self
    rw [hds] at heq
    obtain ⟨rfl, -⟩ := List.cons.inj heq
    exact Str.not_mem_decimal (by decide) hc
  unfold number
  split
  · exact absurd ‹_› (hminus _)
  · rw [hmagnitude]
    rfl

lemma reads_decimal (n : ℕ) : Reads (Str.decimal n) (.num n 0) := by
  obtain ⟨c, ds, hds⟩ := List.exists_cons_of_ne_nil (Str.decimal_ne_nil n)
  have hdigit : c.isDigit = true :=
    Str.isDigit_of_mem_decimal (n := n) (by rw [hds]; exact List.mem_cons_self)
  have hne : ∀ d : Char, d.isDigit = false → c ≠ d := by
    rintro d hd rfl
    rw [hdigit] at hd
    cases hd
  refine ⟨⟨c, ds, hds, ?_, hne ']' (by decide)⟩, fun fuel rest hfuel hrest => ?_⟩
  · simp only [isWs, hne ' ' (by decide), hne '\t' (by decide), hne '\n' (by decide),
      hne '\r' (by decide), decide_false, Bool.or_self]
  · obtain ⟨fuel, rfl⟩ : ∃ f, fuel = f + 1 :=
      ⟨fuel - 1, by rw [hds, List.length_cons] at hfuel; omega⟩
    have hnumber := number_decimal n hrest
    rw [hds, List.cons_append] at hnumber ⊢
    -- a digit starts none of the other values
    unfold Json.value
    split
    all_goals
      first
      | exact hnumber
      | rename_i heq
        exact absurd (List.cons.inj heq).1 (hne _ (by decide))

/-! ## Arrays and objects -/

/-- Texts with commas between them. -/
def joinComma : List Str → Str
  | [] => []
  | [t] => t
  | t :: u :: ts => t ++ ',' :: joinComma (u :: ts)

lemma joinComma_cons (t : Str) (ts : List Str) :
    joinComma (t :: ts) = t ++ ts.flatMap fun u => ',' :: u := by
  induction ts generalizing t with
  | nil => exact (List.append_nil t).symm
  | cons u ts ih => rw [joinComma, ih, List.flatMap_cons, List.cons_append]

/-- The values of an array are read back. -/
lemma elements_joinComma {ps : List (Str × Json)} (hne : ps ≠ [])
    (h : ∀ p ∈ ps, Reads p.1 p.2) (rest : Str) (fuel : ℕ)
    (hfuel : 2 * (joinComma (ps.map Prod.fst)).length + 1 ≤ fuel) :
    elements fuel (joinComma (ps.map Prod.fst) ++ ']' :: rest) =
      some (ps.map Prod.snd, rest) := by
  obtain ⟨fuel, rfl⟩ : ∃ f, fuel = f + 1 := ⟨fuel - 1, by omega⟩
  match ps, hne with
  | [p], _ =>
    have hp := h p List.mem_cons_self
    have hvalue := hp.value fuel (']' :: rest)
      (by simp only [List.map_cons, List.map_nil, joinComma] at hfuel; omega)
      (ends_cons (by decide) rest)
    simp only [List.map_cons, List.map_nil, joinComma, elements]
    rw [hp.skipWs, hvalue]
    rfl
  | p :: q :: ps, _ =>
    have hp := h p List.mem_cons_self
    have hlen : (joinComma ((p :: q :: ps).map Prod.fst)).length =
        p.1.length + 1 + (joinComma ((q :: ps).map Prod.fst)).length := by
      simp only [List.map_cons, joinComma, List.length_append, List.length_cons]
      omega
    have hvalue := hp.value fuel (',' :: (joinComma ((q :: ps).map Prod.fst) ++ ']' :: rest))
      (by omega) (ends_cons (by decide) _)
    have hrest := elements_joinComma (List.cons_ne_nil q ps)
      (fun x hx => h x (List.mem_cons_of_mem p hx)) rest fuel (by omega)
    simp only [List.map_cons, joinComma, elements, List.append_assoc, List.cons_append] at *
    rw [hp.skipWs, hvalue]
    simp only [skipWs_cons (show isWs ',' = false from rfl), hrest]
    rfl

lemma reads_arr {ps : List (Str × Json)} (h : ∀ p ∈ ps, Reads p.1 p.2) :
    Reads ('[' :: joinComma (ps.map Prod.fst) ++ [']']) (.arr (ps.map Prod.snd)) := by
  refine ⟨⟨'[', _, rfl, by decide, by decide⟩, fun fuel rest hfuel _ => ?_⟩
  simp only [List.length_append, List.length_cons, List.length_nil] at hfuel
  obtain ⟨fuel, rfl⟩ : ∃ f, fuel = f + 1 := ⟨fuel - 1, by omega⟩
  have htext : '[' :: joinComma (ps.map Prod.fst) ++ [']'] ++ rest =
      '[' :: (joinComma (ps.map Prod.fst) ++ ']' :: rest) := by simp
  rw [htext]
  cases ps with
  | nil => rfl
  | cons p ps =>
    obtain ⟨c, s, hc, hws, hclose⟩ := (h p List.mem_cons_self).head
    have helements := elements_joinComma (List.cons_ne_nil p ps) h rest fuel (by omega)
    obtain ⟨u, hu⟩ : ∃ u, joinComma ((p :: ps).map Prod.fst) = c :: u := by
      cases ps with
      | nil => exact ⟨s, hc⟩
      | cons q ps => exact ⟨s ++ ',' :: joinComma ((q :: ps).map Prod.fst), by
          rw [List.map_cons, List.map_cons, joinComma, hc]; rfl⟩
    rw [hu, List.cons_append] at helements ⊢
    simp only [Json.value, skipWs_cons hws, helements]
    split
    · rename_i heq
      exact absurd (List.cons.inj heq).1 hclose
    · rfl

/-- A member of an object, with the text of its value. -/
structure Member where
  key : Str
  text : Str
  value : Json

/-- The text of a member. -/
def Member.write (m : Member) : Str := '"' :: m.key ++ '"' :: ':' :: m.text

/-- The members of an object are read back. -/
lemma members_joinComma {ms : List Member} (hne : ms ≠ [])
    (h : ∀ m ∈ ms, Plain m.key ∧ Reads m.text m.value) (rest : Str) (fuel : ℕ)
    (hfuel : 2 * (joinComma (ms.map Member.write)).length + 1 ≤ fuel) :
    members fuel (joinComma (ms.map Member.write) ++ '\x7d' :: rest) =
      some (ms.map fun m => (m.key, m.value), rest) := by
  obtain ⟨fuel, rfl⟩ : ∃ f, fuel = f + 1 := ⟨fuel - 1, by omega⟩
  -- one member, whatever comes after its value
  have hone : ∀ m ∈ ms, ∀ rest', Ends rest' → 2 * m.write.length ≤ fuel →
      chars (m.key ++ '"' :: ':' :: (m.text ++ rest')) = some (m.key, ':' :: (m.text ++ rest')) ∧
        Json.value fuel (skipWs (m.text ++ rest')) = some (m.value, rest') := by
    intro m hm rest' hrest' hlen
    obtain ⟨hkey, hreads⟩ := h m hm
    have htext : m.text.length ≤ m.write.length := by
      simp only [Member.write, List.length_append, List.length_cons]
      omega
    exact ⟨chars_plain hkey _, by rw [hreads.skipWs, hreads.value fuel rest' (by omega) hrest']⟩
  match ms, hne with
  | [m], _ =>
    obtain ⟨hkey, hvalue⟩ := hone m List.mem_cons_self ('\x7d' :: rest)
      (ends_cons (by decide) rest)
      (by simp only [List.map_cons, List.map_nil, joinComma] at hfuel; omega)
    simp only [List.map_cons, List.map_nil, joinComma, members, Member.write, List.append_assoc,
      List.cons_append, skipWs_cons (show isWs '"' = false from rfl), hkey,
      skipWs_cons (show isWs ':' = false from rfl), hvalue,
      skipWs_cons (show isWs '\x7d' = false from rfl)]
  | m :: m' :: ms, _ =>
    have hlen : (joinComma ((m :: m' :: ms).map Member.write)).length =
        m.write.length + 1 + (joinComma ((m' :: ms).map Member.write)).length := by
      simp only [List.map_cons, joinComma, List.length_append, List.length_cons]
      omega
    obtain ⟨hkey, hvalue⟩ := hone m List.mem_cons_self
      (',' :: (joinComma ((m' :: ms).map Member.write) ++ '\x7d' :: rest))
      (ends_cons (by decide) _) (by omega)
    have hrest := members_joinComma (List.cons_ne_nil m' ms)
      (fun x hx => h x (List.mem_cons_of_mem m hx)) rest fuel (by omega)
    have htext : joinComma ((m :: m' :: ms).map Member.write) ++ '\x7d' :: rest =
        '"' :: (m.key ++ '"' :: ':' :: (m.text ++
          ',' :: (joinComma ((m' :: ms).map Member.write) ++ '\x7d' :: rest))) := by
      simp [joinComma, Member.write]
    rw [htext]
    simp only [members, skipWs_cons (show isWs '"' = false from rfl), hkey,
      skipWs_cons (show isWs ':' = false from rfl), hvalue,
      skipWs_cons (show isWs ',' = false from rfl), hrest]
    rfl

lemma reads_obj {ms : List Member} (h : ∀ m ∈ ms, Plain m.key ∧ Reads m.text m.value) :
    Reads ('\x7b' :: joinComma (ms.map Member.write) ++ ['\x7d'])
      (.obj (ms.map fun m => (m.key, m.value))) := by
  refine ⟨⟨'\x7b', _, rfl, by decide, by decide⟩, fun fuel rest hfuel _ => ?_⟩
  simp only [List.length_append, List.length_cons, List.length_nil] at hfuel
  obtain ⟨fuel, rfl⟩ : ∃ f, fuel = f + 1 := ⟨fuel - 1, by omega⟩
  have htext : '\x7b' :: joinComma (ms.map Member.write) ++ ['\x7d'] ++ rest =
      '\x7b' :: (joinComma (ms.map Member.write) ++ '\x7d' :: rest) := by simp
  rw [htext]
  cases ms with
  | nil => rfl
  | cons m ms =>
    have hmembers := members_joinComma (List.cons_ne_nil m ms) h rest fuel (by omega)
    obtain ⟨u, hu⟩ : ∃ u, joinComma ((m :: ms).map Member.write) = '"' :: u := by
      cases ms with
      | nil => exact ⟨_, rfl⟩
      | cons m' ms => exact ⟨_, rfl⟩
    rw [hu, List.cons_append] at hmembers ⊢
    simp only [Json.value, skipWs_cons (show isWs '"' = false from rfl), hmembers]
    rfl

/-- **A text that is read back is parsed.** -/
theorem parse_of_reads {t : Str} {v : Json} (h : Reads t v) : parse t = some v := by
  have hskip := h.skipWs []
  have hvalue := h.value (2 * t.length + 1) [] (by omega) ends_nil
  rw [List.append_nil] at hskip hvalue
  rw [parse, hskip, hvalue]
  rfl

end Lib.Json
