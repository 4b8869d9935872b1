/-
# The text exposition format of metrics

A page is a list of lines: for each metric a `# HELP` line, a `# TYPE` line and the samples, each
with one label.  `readLine` reads a line back; it looks for the end of a label value at the first
quote that is not escaped, and leaves the value as it stands.  `readValue` also undoes the escape
sequences of a label value.

The facts below are about pages that are put together from blocks, one for each metric.
-/
import Rfw.Lib.Decimal
import Mathlib.Data.List.Nodup

namespace Lib.Exposition

/-- A line of a page.  The label of a sample is the text between its quotes. -/
inductive Line
  | help (name doc : Str)
  | type (name kind : Str)
  | sample (name label : Str) (value : ℕ)
deriving DecidableEq, Repr

/-- The start of a help line. -/
def helpMark : Str := ['#', ' ', 'H', 'E', 'L', 'P', ' ']

/-- The start of a type line. -/
def typeMark : Str := ['#', ' ', 'T', 'Y', 'P', 'E', ' ']

/-- What stands before a label value, after the brace. -/
def labelOpen : Str := ['l', 'a', 'b', 'e', 'l', '=', '"']

/-- What stands after the quote of a label value. -/
def labelClose : Str := ['\x7d', ' ']

namespace Line

/-- The metric that a line is about. -/
def name : Line → Str
  | help name _ => name
  | type name _ => name
  | sample name _ _ => name

/-- The text of a line, without its newline. -/
def text : Line → Str
  | help name doc => helpMark ++ (name ++ ' ' :: doc)
  | type name kind => typeMark ++ (name ++ ' ' :: kind)
  | sample name label value =>
      name ++ '\x7b' :: (labelOpen ++ (label ++ '"' :: (labelClose ++ Str.decimal value)))

/-- Metric name and label of a sample. -/
def series : Line → Option (Str × Str)
  | sample name label _ => some (name, label)
  | _ => none

end Line

/-! ## Reading a line -/

/-- A label value, up to the first quote without a backslash. -/
def scanLabel : Str → Option (Str × Str)
  | '"' :: s => some ([], s)
  | '\\' :: c :: s => (scanLabel s).map fun p => ('\\' :: c :: p.1, p.2)
  | c :: s => (scanLabel s).map fun p => (c :: p.1, p.2)
  | [] => none

/-- The meaning of a label value, up to the first quote without a backslash: there are three escape
sequences, for the backslash, the quote and the line feed, and any other one is invalid. -/
def readValue : Str → Option (Str × Str)
  | '"' :: s => some ([], s)
  | '\\' :: '\\' :: s => (readValue s).map fun p => ('\\' :: p.1, p.2)
  | '\\' :: '"' :: s => (readValue s).map fun p => ('"' :: p.1, p.2)
  | '\\' :: 'n' :: s => (readValue s).map fun p => ('\n' :: p.1, p.2)
  | '\\' :: _ => none
  | c :: s => (readValue s).map fun p => (c :: p.1, p.2)
  | [] => none

/-- A decimal number, up to the end of the line. -/
def readNat (s : Str) : Option ℕ :=
  if s ≠ [] ∧ s.all Char.isDigit = true then some (Nat.ofDigitChars 10 s 0) else none

/-- A sample. -/
def readSample (s : Str) : Option Line := do
  let (name, s) ← Str.splitOnce '\x7b' s
  let s ← Str.stripStart labelOpen s
  let (label, s) ← scanLabel s
  let s ← Str.stripStart labelClose s
  let value ← readNat s
  return .sample name label value

/-- A line of a page. -/
def readLine (s : Str) : Option Line :=
  match Str.stripStart helpMark s with
  | some rest => (Str.splitOnce ' ' rest).map fun p => .help p.1 p.2
  | none =>
      match Str.stripStart typeMark s with
      | some rest => (Str.splitOnce ' ' rest).map fun p => .type p.1 p.2
      | none => readSample s

/-! ## Blocks -/

/-- A metric with its samples. -/
structure Block where
  name : Str
  doc : Str
  kind : Str
  /-- Label and value of each sample. -/
  samples : List (Str × ℕ)

/-- The lines of a block. -/
def Block.lines (b : Block) : List Line :=
  .help b.name b.doc :: .type b.name b.kind :: b.samples.map fun p => .sample b.name p.1 p.2

/-- The text of some lines. -/
def render (lines : List Line) : Str := lines.flatMap fun l => l.text ++ ['\n']

/-- The samples of one metric. -/
def samplesOf (name : Str) (lines : List Line) : List (Str × ℕ) :=
  lines.filterMap fun
    | .sample n label value => if n = name then some (label, value) else none
    | _ => none

/-- A text that can stand between the quotes of a label. -/
structure Quotable (label : Str) : Prop where
  newline : '\n' ∉ label
  scan : ∀ rest, scanLabel (label ++ '"' :: rest) = some (label, rest)

/-- A metric name: it does not look like a comment, and does not contain what follows it. -/
structure IsName (name : Str) : Prop where
  head : name.head?.any (· ≠ '#') = true
  newline : '\n' ∉ name
  space : ' ' ∉ name
  brace : '\x7b' ∉ name

instance (name : Str) : Decidable (IsName name) :=
  decidable_of_iff
    (name.head?.any (· ≠ '#') = true ∧ '\n' ∉ name ∧ ' ' ∉ name ∧ '\x7b' ∉ name)
    ⟨fun ⟨hhead, hnewline, hspace, hbrace⟩ => ⟨hhead, hnewline, hspace, hbrace⟩,
      fun ⟨hhead, hnewline, hspace, hbrace⟩ => ⟨hhead, hnewline, hspace, hbrace⟩⟩

/-- A block whose lines can be read back. -/
structure Block.WellFormed (b : Block) : Prop where
  name : IsName b.name
  doc : '\n' ∉ b.doc
  kind : '\n' ∉ b.kind
  samples : ∀ p ∈ b.samples, Quotable p.1

/-! ## Lines are read back -/

lemma stripStart_append (p s : Str) : Str.stripStart p (p ++ s) = some s := by
  rw [Str.stripStart, if_pos (List.isPrefixOf_iff_prefix.mpr (List.prefix_append p s)),
    List.drop_left]

lemma readNat_decimal (n : ℕ) : readNat (Str.decimal n) = some n := by
  have hdigits : (Str.decimal n).all Char.isDigit = true :=
    List.all_eq_true.mpr fun c hc => Str.isDigit_of_mem_decimal hc
  rw [readNat, if_pos ⟨Str.decimal_ne_nil n, hdigits⟩, Str.ofDigitChars_decimal]

lemma readLine_help {name doc : Str} (h : IsName name) :
    readLine (Line.help name doc).text = some (.help name doc) := by
  rw [readLine, Line.text, stripStart_append]
  simp only [Str.splitOnce_append h.space, Option.map_some]

lemma readLine_type {name kind : Str} (h : IsName name) :
    readLine (Line.type name kind).text = some (.type name kind) := by
  have hhelp : Str.stripStart helpMark (typeMark ++ (name ++ ' ' :: kind)) = none := rfl
  rw [readLine, Line.text, hhelp]
  simp only [stripStart_append, Str.splitOnce_append h.space, Option.map_some]

lemma readLine_sample {name label : Str} (h : IsName name) (hlabel : Quotable label) (value : ℕ) :
    readLine (Line.sample name label value).text = some (.sample name label value) := by
  have hsample : readSample (Line.sample name label value).text =
      some (.sample name label value) := by
    simp only [readSample, Line.text, Str.splitOnce_append h.brace, stripStart_append,
      hlabel.scan, readNat_decimal, Option.bind_eq_bind, Option.bind_some]
    rfl
  obtain ⟨c, s, hname, hc⟩ : ∃ c s, name = c :: s ∧ c ≠ '#' := by
    have hhead := h.head
    cases name with
    | nil => cases hhead
    | cons c s => exact ⟨c, s, rfl, by simpa using hhead⟩
  -- a name does not begin like a comment
  have hcomment : ∀ p, Str.stripStart ('#' :: p) (Line.sample name label value).text = none := by
    intro p
    have hne : ('#' == c) = false := by simpa using Ne.symm hc
    rw [Line.text, hname, Str.stripStart, List.cons_append, List.isPrefixOf, hne]
    rfl
  rw [readLine]
  have hhelp : Str.stripStart helpMark (Line.sample name label value).text = none := hcomment _
  have htype : Str.stripStart typeMark (Line.sample name label value).text = none := hcomment _
  rw [hhelp, htype]
  exact hsample

/-- Every line of a well-formed block is read back, and is one line. -/
lemma Block.WellFormed.line {b : Block} (h : b.WellFormed) {l : Line} (hl : l ∈ b.lines) :
    readLine l.text = some l ∧ '\n' ∉ l.text := by
  have hmark : '\n' ∉ helpMark ∧ '\n' ∉ typeMark := by decide
  have hquote : '\n' ∉ labelOpen ∧ '\n' ∉ labelClose := by decide
  have hname := h.name.newline
  rw [Block.lines, List.mem_cons, List.mem_cons, List.mem_map] at hl
  rcases hl with rfl | rfl | ⟨⟨label, value⟩, hp, rfl⟩
  · refine ⟨readLine_help h.name, ?_⟩
    simp [Line.text, hmark, hname, h.doc]
  · refine ⟨readLine_type h.name, ?_⟩
    simp [Line.text, hmark, hname, h.kind]
  · have hlabel := h.samples _ hp
    refine ⟨readLine_sample h.name hlabel value, ?_⟩
    have hdecimal : '\n' ∉ Str.decimal value := Str.not_mem_decimal (by decide)
    simp [Line.text, hquote, hname, hlabel.newline, hdecimal]

/-- The lines of a page are what stands between its newlines. -/
lemma split_render {lines : List Line} (h : ∀ l ∈ lines, '\n' ∉ l.text) :
    Str.split '\n' (render lines) = lines.map Line.text ++ [[]] := by
  induction lines with
  | nil => rfl
  | cons l lines ih =>
    have hl := h l List.mem_cons_self
    have hrender : render (l :: lines) = l.text ++ '\n' :: render lines := by simp [render]
    rw [hrender, Str.split_append hl, ih fun l' hl' => h l' (List.mem_cons_of_mem l hl')]
    rfl

/-! ## Pages made from blocks -/

section Page

variable {bs : List Block} {name : Str}

lemma name_of_mem_lines {b : Block} {l : Line} (h : l ∈ b.lines) : l.name = b.name := by
  rw [Block.lines, List.mem_cons, List.mem_cons, List.mem_map] at h
  rcases h with rfl | rfl | ⟨p, -, rfl⟩ <;> rfl

lemma mem_samples_of_mem_lines {b : Block} {n label : Str} {value : ℕ}
    (h : .sample n label value ∈ b.lines) : (label, value) ∈ b.samples := by
  rw [Block.lines, List.mem_cons, List.mem_cons, List.mem_map] at h
  rcases h with h | h | ⟨p, hp, heq⟩
  · cases h
  · cases h
  · obtain ⟨-, rfl, rfl⟩ := Line.sample.inj heq
    exact hp

/-- A metric appears on a page when it has a block there. -/
lemma exists_line_iff :
    (∃ l ∈ bs.flatMap Block.lines, l.name = name) ↔ name ∈ bs.map Block.name := by
  constructor
  · rintro ⟨l, hl, rfl⟩
    obtain ⟨b, hb, hl⟩ := List.mem_flatMap.mp hl
    exact List.mem_map.mpr ⟨b, hb, (name_of_mem_lines hl).symm⟩
  · intro h
    obtain ⟨b, hb, rfl⟩ := List.mem_map.mp h
    exact ⟨.help b.name b.doc, List.mem_flatMap.mpr ⟨b, hb, List.mem_cons_self⟩, rfl⟩

lemma samplesOf_append (ls ls' : List Line) :
    samplesOf name (ls ++ ls') = samplesOf name ls ++ samplesOf name ls' := List.filterMap_append

lemma samplesOf_self (b : Block) : samplesOf b.name b.lines = b.samples := by
  have hsamples : (b.samples.map fun p => Line.sample b.name p.1 p.2).filterMap (fun
      | .sample n label value => if n = b.name then some (label, value) else none
      | _ => none) = b.samples := by
    rw [List.filterMap_map]
    simp
  exact hsamples

/-- Lines of other metrics do not matter. -/
lemma samplesOf_eq_nil {ls : List Line} (h : ∀ l ∈ ls, l.name ≠ name) : samplesOf name ls = [] := by
  refine List.filterMap_eq_nil_iff.mpr fun l hl => ?_
  cases l with
  | sample n label value => exact if_neg (h _ hl)
  | _ => rfl

/-- Each block of a page has its samples, when no two blocks are about the same metric. -/
lemma samplesOf_of_mem (hnodup : (bs.map Block.name).Nodup) {b : Block} (hb : b ∈ bs) :
    samplesOf b.name (bs.flatMap Block.lines) = b.samples := by
  induction bs with
  | nil => cases hb
  | cons b' bs ih =>
    rw [List.map_cons, List.nodup_cons] at hnodup
    rw [List.flatMap_cons, samplesOf_append]
    rcases List.mem_cons.mp hb with rfl | hb
    · have hrest : samplesOf b.name (bs.flatMap Block.lines) = [] := by
        refine samplesOf_eq_nil fun l hl hname => hnodup.1 ?_
        exact exists_line_iff.mp ⟨l, hl, hname⟩
      rw [samplesOf_self, hrest, List.append_nil]
    · have hfirst : samplesOf b.name b'.lines = [] := by
        refine samplesOf_eq_nil fun l hl hname => hnodup.1 ?_
        rw [← name_of_mem_lines hl, hname]
        exact List.mem_map_of_mem hb
      rw [hfirst, List.nil_append, ih hnodup.2 hb]

lemma series_lines (b : Block) :
    b.lines.filterMap Line.series = b.samples.map fun p => (b.name, p.1) := by
  have hsamples : (b.samples.map fun p => Line.sample b.name p.1 p.2).filterMap Line.series =
      b.samples.map fun p => (b.name, p.1) := by
    rw [List.filterMap_map]
    exact congrFun List.filterMap_eq_map' b.samples
  exact hsamples

/-- No two samples of a page share metric name and label, when no two blocks are about the same
metric and no block has a label twice. -/
lemma nodup_series (hnodup : (bs.map Block.name).Nodup)
    (hlabels : ∀ b ∈ bs, (b.samples.map Prod.fst).Nodup) :
    ((bs.flatMap Block.lines).filterMap Line.series).Nodup := by
  induction bs with
  | nil => exact List.nodup_nil
  | cons b bs ih =>
    rw [List.map_cons, List.nodup_cons] at hnodup
    rw [List.flatMap_cons, List.filterMap_append, List.nodup_append]
    refine ⟨?_, ih hnodup.2 fun b' hb' => hlabels b' (List.mem_cons_of_mem b hb'), ?_⟩
    · have hb := hlabels b List.mem_cons_self
      rw [series_lines, ← Function.comp_def (fun l => (b.name, l)) Prod.fst, ← List.map_map]
      exact hb.map fun l l' h => (Prod.mk.inj h).2
    · -- the names differ
      rintro p hp q hq rfl
      rw [series_lines] at hp
      obtain ⟨x, -, rfl⟩ := List.mem_map.mp hp
      obtain ⟨l, hl, hseries⟩ := List.mem_filterMap.mp hq
      apply hnodup.1
      refine exists_line_iff.mp ⟨l, hl, ?_⟩
      cases l with
      | sample n label value => exact (Prod.mk.inj (Option.some.inj hseries)).1
      | _ => cases hseries

end Page

end Lib.Exposition
