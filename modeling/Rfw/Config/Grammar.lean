/-
# The grammar of the textual form

`parse_forwarder_spec` splits a text at its last slash, at every colon and, in a port field, at
the first hyphen, and reads numbers in two ways.  Here the texts it accepts are written down as a
grammar, without reference to the splits, and the parser is shown to accept these and no others.
Rendering an entry gives a text of the grammar that means the entry.
-/
import Rfw.Config.Expansion

namespace Rfw

open Lib

/-- One or more ASCII digits. -/
def IsDigits (s : Str) : Prop := s ≠ [] ∧ ∀ c ∈ s, c.isDigit = true

/-- The value of a text of digits. -/
def digitsValue (s : Str) : ℕ := Nat.ofDigitChars 10 s 0

/-- A port field, with the first and the last port that it denotes. -/
inductive PortField : Str → ℕ → ℕ → Prop
  | single {s : Str} (digits : IsDigits s) (le : digitsValue s ≤ 65535) :
      PortField s (digitsValue s) (digitsValue s)
  | plus {s : Str} (digits : IsDigits s) (le : digitsValue s ≤ 65535) :
      PortField ('+' :: s) (digitsValue s) (digitsValue s)
  | range {a b : Str} (digitsA : IsDigits a) (digitsB : IsDigits b) (pos : 1 ≤ digitsValue a)
      (le : digitsValue a ≤ digitsValue b) (le_max : digitsValue b ≤ 65535)
      (count_le : digitsValue b - digitsValue a + 1 ≤ 4096) :
      PortField (a ++ '-' :: b) (digitsValue a) (digitsValue b)

/-- A text with its protocol suffix, if any: the body before the suffix and the protocol. -/
inductive Suffixed : Str → Str → Protocol → Prop
  | bare {s : Str} (no_slash : '/' ∉ s) : Suffixed s s .tcp
  | slash {body suffix : Str} {p : Protocol} (last : '/' ∉ suffix)
      (letters : suffix.map Char.toLower = p.asStr) : Suffixed (body ++ '/' :: suffix) body p

/-- The four fields of a body with three colons. -/
structure Fields (body localHost local_ remoteHost remote : Str) : Prop where
  eq : body = localHost ++ ':' :: (local_ ++ ':' :: (remoteHost ++ ':' :: remote))
  colons : body.count ':' = 3

/-- A text of the grammar. -/
def InGrammar (s : Str) : Prop :=
  ∃ body p localHost local_ remoteHost remote a b c d, Suffixed s body p ∧
    Fields body localHost local_ remoteHost remote ∧
    PortField local_ a b ∧ PortField remote c d ∧ b - a + 1 = d - c + 1

/-- A text of the grammar that means the entry `spec`. -/
def Means (s : Str) (spec : ForwarderSpec) : Prop :=
  ∃ body local_ remote, Suffixed s body spec.protocol ∧
    Fields body spec.localHost local_ spec.remoteHost remote ∧
    PortField local_ spec.local_.start.toNat spec.local_.end_.toNat ∧
    PortField remote spec.remote.start.toNat spec.remote.end_.toNat ∧
    spec.local_.len = spec.remote.len

/-! ## Port fields -/

namespace PortSpan

lemma parsePort_eq_ok {s : Str} {p : UInt16} :
    parsePort s = .ok p ↔
      ∃ digits, (s = digits ∨ s = '+' :: digits) ∧ IsDigits digits ∧
        digitsValue digits = p.toNat := by
  have hmap : parsePort s = .ok p ↔ Str.parseUnsigned 65536 s = .ok p.toNat := by
    rw [parsePort]
    cases hparse : Str.parseUnsigned 65536 s with
    | error e =>
      constructor
      · intro h
        cases h
      · intro h
        cases h
    | ok n =>
      have hlt : n < 65536 := by
        obtain ⟨-, -, -, -, -, hlt⟩ := (Str.parseUnsigned_eq_ok (by decide)).mp hparse
        exact hlt
      constructor
      · intro h
        obtain rfl := Except.ok.inj h
        exact congrArg Except.ok (UInt16.toNat_ofNat_of_lt hlt).symm
      · intro h
        obtain rfl := Except.ok.inj h
        exact congrArg Except.ok UInt16.ofNat_toNat
  rw [hmap, Str.parseUnsigned_eq_ok (by decide)]
  constructor
  · rintro ⟨digits, hs, hne, hdigits, hval, -⟩
    exact ⟨digits, hs, ⟨hne, hdigits⟩, hval⟩
  · rintro ⟨digits, hs, ⟨hne, hdigits⟩, hval⟩
    exact ⟨digits, hs, hne, hdigits, hval, p.toNat_lt⟩

lemma parseBound_eq_ok {raw what s : Str} {p : UInt16} :
    parseBound raw what s = .ok p ↔ IsDigits s ∧ digitsValue s = p.toNat := by
  have hguard : (s.isEmpty || !s.all Char.isDigit) = false ↔ IsDigits s := by
    simp [IsDigits]
  constructor
  · intro h
    rw [parseBound] at h
    split at h
    · cases h
    · rename_i hcond
      have hdigits : IsDigits s := hguard.mp (Bool.eq_false_of_not_eq_true hcond)
      obtain ⟨digits, rfl | rfl, hd, hval⟩ := parsePort_eq_ok.mp (mapError_eq_ok.mp h)
      · exact ⟨hd, hval⟩
      · -- a bound does not start with a plus sign
        have hplus := hdigits.2 '+' List.mem_cons_self
        exact absurd hplus (by decide)
  · rintro ⟨hdigits, hval⟩
    rw [parseBound, hguard.mpr hdigits]
    exact mapError_eq_ok.mpr (parsePort_eq_ok.mpr ⟨s, .inl rfl, hdigits, hval⟩)

/-- A field without a hyphen is a single port. -/
lemma parse_eq_ok_of_single {s what : Str} {span : PortSpan} (hs : '-' ∉ s) :
    parse s what = .ok span ↔ span.start = span.end_ ∧ parsePort s = .ok span.start := by
  rw [parse, Str.splitOnce_eq_none hs]
  dsimp only
  rw [mapError_eq_ok]
  cases hport : parsePort s with
  | error e =>
    constructor
    · intro h
      cases h
    · rintro ⟨-, h⟩
      cases h
  | ok p =>
    constructor
    · intro h
      obtain rfl := Except.ok.inj h
      exact ⟨rfl, rfl⟩
    · rintro ⟨heq, h⟩
      obtain ⟨start, end_, hle⟩ := span
      obtain rfl : start = end_ := heq
      obtain rfl := Except.ok.inj h
      rfl

/-- A field with a hyphen is a range. -/
lemma parse_eq_ok_of_range {a b what : Str} {span : PortSpan} (ha : '-' ∉ a) :
    parse (a ++ '-' :: b) what = .ok span ↔
      IsDigits a ∧ IsDigits b ∧ digitsValue a = span.start.toNat ∧
        digitsValue b = span.end_.toNat ∧ span.start ≠ 0 ∧ span.len ≤ maxRangePorts := by
  rw [parse, Str.splitOnce_append ha]
  simp only [bind_eq_ok, mapError_eq_ok, parseBound_eq_ok, range_eq_ok]
  constructor
  · rintro ⟨p, ⟨ha, hp⟩, q, ⟨hb, hq⟩, hne, rfl, rfl, hlen⟩
    exact ⟨ha, hb, hp, hq, hne, hlen⟩
  · rintro ⟨ha, hb, hp, hq, hne, hlen⟩
    exact ⟨span.start, ⟨ha, hp⟩, span.end_, ⟨hb, hq⟩, hne, rfl, rfl, hlen⟩

end PortSpan

lemma IsDigits.not_mem {s : Str} (h : IsDigits s) {c : Char} (hc : c.isDigit = false) : c ∉ s := by
  intro hmem
  rw [h.2 c hmem] at hc
  cases hc

namespace PortField

variable {s : Str} {m n : ℕ}

/-- A port field is a single port or a range, and the first hyphen tells which. -/
lemma inv (h : PortField s m n) :
    (m = n ∧ n ≤ 65535 ∧ ∃ digits, (s = digits ∨ s = '+' :: digits) ∧ IsDigits digits ∧
      digitsValue digits = m) ∨
    (∃ a b, s = a ++ '-' :: b ∧ IsDigits a ∧ IsDigits b ∧ digitsValue a = m ∧ digitsValue b = n ∧
      1 ≤ m ∧ m ≤ n ∧ n ≤ 65535 ∧ n - m + 1 ≤ 4096) := by
  cases h with
  | single digits le => exact .inl ⟨rfl, le, s, .inl rfl, digits, rfl⟩
  | plus digits le => exact .inl ⟨rfl, le, _, .inr rfl, digits, rfl⟩
  | @range a b digitsA digitsB pos le le_max count_le =>
    exact .inr ⟨a, b, rfl, digitsA, digitsB, rfl, rfl, pos, le, le_max, count_le⟩

lemma le_max (h : PortField s m n) : m ≤ n ∧ n ≤ 65535 := by
  obtain ⟨rfl, hn, -⟩ | ⟨a, b, -, -, -, -, -, -, hle, hn, -⟩ := h.inv
  · exact ⟨Nat.le_refl m, hn⟩
  · exact ⟨hle, hn⟩

/-- The ports that a field denotes are a span. -/
lemma exists_span (h : PortField s m n) :
    ∃ span : PortSpan, span.start.toNat = m ∧ span.end_.toNat = n := by
  obtain ⟨hle, hmax⟩ := h.le_max
  have hm : (UInt16.ofNat m).toNat = m := UInt16.toNat_ofNat_of_lt (Nat.lt_succ_of_le (by omega))
  have hn : (UInt16.ofNat n).toNat = n := UInt16.toNat_ofNat_of_lt (Nat.lt_succ_of_le hmax)
  refine ⟨⟨UInt16.ofNat m, UInt16.ofNat n, ?_⟩, hm, hn⟩
  rw [UInt16.le_iff_toNat_le, hm, hn]
  exact hle

end PortField

/-- The port fields that are read as a span are those that denote its ports. -/
lemma PortSpan.parse_eq_ok {s what : Str} {span : PortSpan} :
    parse s what = .ok span ↔ PortField s span.start.toNat span.end_.toNat := by
  have hmax : maxRangePorts = 4096 := rfl
  have hend : span.end_.toNat < 65536 := span.end_.toNat_lt
  have hle : span.start.toNat ≤ span.end_.toNat := UInt16.le_iff_toNat_le.mp span.start_le_end
  have hlen := span.len_eq
  have hzero : span.start ≠ 0 ↔ span.start.toNat ≠ 0 := by
    rw [ne_eq, ← UInt16.toNat_inj]
    rfl
  constructor
  · intro h
    by_cases hs : '-' ∈ s
    · obtain ⟨a, b, rfl, ha⟩ := List.eq_append_cons_of_mem hs
      obtain ⟨hda, hdb, hva, hvb, hne, hcount⟩ := (parse_eq_ok_of_range ha).mp h
      rw [hzero] at hne
      rw [← hva, ← hvb]
      exact .range hda hdb (by omega) (by omega) (by omega) (by omega)
    · obtain ⟨heq, hport⟩ := (parse_eq_ok_of_single hs).mp h
      obtain ⟨digits, rfl | rfl, hd, hval⟩ := parsePort_eq_ok.mp hport
      · rw [← heq, ← hval]
        exact .single hd (by omega)
      · rw [← heq, ← hval]
        exact .plus hd (by omega)
  · intro h
    obtain ⟨heq, -, digits, hs, hd, hval⟩ | ⟨a, b, rfl, ha, hb, hva, hvb, hpos, -, -, hcount⟩ :=
      h.inv
    · have hno : '-' ∉ s := by
        have hdash : '-' ∉ digits := hd.not_mem (by decide)
        obtain rfl | rfl := hs
        · exact hdash
        · simpa using hdash
      rw [parse_eq_ok_of_single hno]
      exact ⟨UInt16.toNat_inj.mp heq, parsePort_eq_ok.mpr ⟨digits, hs, hd, hval⟩⟩
    · rw [parse_eq_ok_of_range (ha.not_mem (by decide)), hzero]
      exact ⟨ha, hb, hva, hvb, by omega, by omega⟩

/-! ## The suffix and the fields -/

lemma parseProtocolSuffix_eq_ok {s suffix : Str} {p : Protocol} :
    parseProtocolSuffix s suffix = .ok p ↔ suffix.map Char.toLower = p.asStr := by
  have htcp : Str.eqIgnoreAsciiCase suffix "tcp".toList = true ↔
      suffix.map Char.toLower = Protocol.tcp.asStr := beq_iff_eq
  have hudp : Str.eqIgnoreAsciiCase suffix "udp".toList = true ↔
      suffix.map Char.toLower = Protocol.udp.asStr := beq_iff_eq
  rw [parseProtocolSuffix]
  constructor
  · intro h
    split at h
    · obtain rfl := Except.ok.inj h
      exact htcp.mp ‹_›
    · split at h
      · obtain rfl := Except.ok.inj h
        exact hudp.mp ‹_›
      · cases h
  · intro h
    cases p with
    | tcp => exact if_pos (htcp.mpr h)
    | udp =>
      have hnot : ¬ Str.eqIgnoreAsciiCase suffix "tcp".toList = true := by
        rw [htcp, h]
        decide
      rw [if_neg hnot]
      exact if_pos (hudp.mpr h)

/-- What the parser does once the protocol suffix is gone. -/
def parseBody (s body : Str) (protocol : Protocol) : Except Str ForwarderSpec :=
  match Str.split ':' body with
  | [localHost, local_, remoteHost, remote] => do
      let local_ ← PortSpan.parse local_ "local".toList
      let remote ← PortSpan.parse remote "remote".toList
      ForwarderSpec.new localHost local_ remoteHost remote protocol
  | _ =>
      .error ("Invalid forwarder format '".toList ++ s ++
        "': expected local_host:local_port[-end]:remote_host:remote_port[-end][/tcp|/udp]".toList)

/-- The first stage of the parser: the protocol suffix. -/
lemma parseForwarderSpec_eq_ok_iff_suffixed {s : Str} {spec : ForwarderSpec} :
    parseForwarderSpec s = .ok spec ↔
      ∃ body p, Suffixed s body p ∧ parseBody s body p = .ok spec := by
  rw [parseForwarderSpec]
  constructor
  · intro h
    by_cases hs : '/' ∈ s
    · obtain ⟨b, suffix, rfl, hlast⟩ := Str.eq_append_cons_of_mem_last hs
      rw [Str.rsplitOnce_append hlast] at h
      obtain ⟨p, hp, h⟩ := bind_eq_ok.mp h
      exact ⟨b, p, .slash hlast (parseProtocolSuffix_eq_ok.mp hp), h⟩
    · rw [Str.rsplitOnce_eq_none hs] at h
      exact ⟨s, .tcp, .bare hs, h⟩
  · rintro ⟨body, p, hsuffixed, h⟩
    cases hsuffixed with
    | bare no_slash =>
      rw [Str.rsplitOnce_eq_none no_slash]
      exact h
    | slash last letters =>
      rw [Str.rsplitOnce_append last]
      exact bind_eq_ok.mpr ⟨p, parseProtocolSuffix_eq_ok.mpr letters, h⟩

/-- A body splits into four fields exactly when it has three colons, around these fields. -/
lemma split_eq_four {body lh l rh r : Str} :
    Str.split ':' body = [lh, l, rh, r] ↔ Fields body lh l rh r := by
  constructor
  · intro h
    obtain ⟨t, rfl, hlh, h⟩ := Str.split_eq_cons_cons.mp h
    obtain ⟨t, rfl, hl, h⟩ := Str.split_eq_cons_cons.mp h
    obtain ⟨t, rfl, hrh, h⟩ := Str.split_eq_cons_cons.mp h
    obtain ⟨rfl, hr⟩ := Str.split_eq_singleton_iff.mp h
    refine ⟨rfl, ?_⟩
    simp [List.count_eq_zero_of_not_mem, hlh, hl, hrh, hr]
  · rintro ⟨rfl, hcolons⟩
    -- with three colons between them, the fields have none
    have hcount : lh.count ':' + l.count ':' + rh.count ':' + r.count ':' = 0 := by
      simp only [List.count_append, List.count_cons_self] at hcolons
      omega
    have hno : ∀ t : Str, t.count ':' = 0 → ':' ∉ t := fun t => List.count_eq_zero.mp
    rw [Str.split_append (hno lh (by omega)), Str.split_append (hno l (by omega)),
      Str.split_append (hno rh (by omega)), Str.split_eq_singleton (hno r (by omega))]

lemma new_eq_ok {lh rh : Str} {local_ remote : PortSpan} {p : Protocol} {spec : ForwarderSpec} :
    ForwarderSpec.new lh local_ rh remote p = .ok spec ↔
      ⟨lh, local_, rh, remote, p⟩ = spec ∧ local_.len = remote.len := by
  by_cases hlen : local_.len = remote.len
  · rw [new_of_len_eq hlen, Except.ok.injEq]
    exact ⟨fun h => ⟨h, hlen⟩, And.left⟩
  · rw [ForwarderSpec.new, if_pos hlen]
    constructor
    · intro h
      cases h
    · rintro ⟨-, h⟩
      exact absurd h hlen

/-- The second stage: the four fields. -/
lemma parseBody_eq_ok {s body : Str} {p : Protocol} {spec : ForwarderSpec} :
    parseBody s body p = .ok spec ↔
      p = spec.protocol ∧ ∃ l r, Fields body spec.localHost l spec.remoteHost r ∧
        PortField l spec.local_.start.toNat spec.local_.end_.toNat ∧
        PortField r spec.remote.start.toNat spec.remote.end_.toNat ∧
        spec.local_.len = spec.remote.len := by
  constructor
  · intro h
    rw [parseBody] at h
    split at h
    · rename_i lh l rh r hsplit
      simp only [bind_eq_ok, PortSpan.parse_eq_ok, new_eq_ok] at h
      obtain ⟨local_, hlocal, remote, hremote, rfl, hlen⟩ := h
      exact ⟨rfl, l, r, split_eq_four.mp hsplit, hlocal, hremote, hlen⟩
    · cases h
  · rintro ⟨rfl, l, r, hfields, hlocal, hremote, hlen⟩
    rw [parseBody, split_eq_four.mpr hfields]
    simp only [bind_eq_ok, PortSpan.parse_eq_ok, new_eq_ok]
    exact ⟨spec.local_, hlocal, spec.remote, hremote, rfl, hlen⟩

/-- The parser reads a text as what it means. -/
lemma parseForwarderSpec_eq_ok {s : Str} {spec : ForwarderSpec} :
    parseForwarderSpec s = .ok spec ↔ Means s spec := by
  rw [parseForwarderSpec_eq_ok_iff_suffixed]
  constructor
  · rintro ⟨body, p, hsuffixed, h⟩
    obtain ⟨rfl, l, r, h⟩ := parseBody_eq_ok.mp h
    exact ⟨body, l, r, hsuffixed, h⟩
  · rintro ⟨body, l, r, hsuffixed, h⟩
    exact ⟨body, spec.protocol, hsuffixed, parseBody_eq_ok.mpr ⟨rfl, l, r, h⟩⟩

/-- A text of the grammar means some entry. -/
lemma exists_means_iff {s : Str} : (∃ spec, Means s spec) ↔ InGrammar s := by
  constructor
  · rintro ⟨spec, body, l, r, hsuffixed, hfields, hlocal, hremote, hlen⟩
    rw [PortSpan.len_eq, PortSpan.len_eq] at hlen
    exact ⟨body, spec.protocol, spec.localHost, l, spec.remoteHost, r, _, _, _, _, hsuffixed,
      hfields, hlocal, hremote, hlen⟩
  · rintro ⟨body, p, lh, l, rh, r, a, b, c, d, hsuffixed, hfields, hlocal, hremote, hlen⟩
    obtain ⟨local_, rfl, rfl⟩ := hlocal.exists_span
    obtain ⟨remote, rfl, rfl⟩ := hremote.exists_span
    refine ⟨⟨lh, local_, rh, remote, p⟩, body, l, r, hsuffixed, hfields, hlocal, hremote, ?_⟩
    rw [PortSpan.len_eq, PortSpan.len_eq]
    exact hlen

/-! ## Rendering -/

/-- The text of an entry: hosts and spans as they are shown, and the protocol. -/
def ForwarderSpec.render (s : ForwarderSpec) : Str :=
  s.localHost ++ ':' :: (s.local_.display ++ ':' :: (s.remoteHost ++ ':' :: s.remote.display)) ++
    '/' :: s.protocol.asStr

/-- The digits of a port denote it. -/
lemma isDigits_showPort (p : UInt16) : IsDigits (showPort p) :=
  ⟨Str.decimal_ne_nil _, fun _ hc => Str.isDigit_of_mem_decimal hc⟩

lemma digitsValue_showPort (p : UInt16) : digitsValue (showPort p) = p.toNat :=
  Str.ofDigitChars_decimal p.toNat

/-- The text of a span that the program makes denotes its ports. -/
lemma PortSpan.Built.portField_display {span : PortSpan} (h : span.Built) :
    PortField span.display span.start.toNat span.end_.toNat := by
  have hend : span.end_.toNat < 65536 := span.end_.toNat_lt
  have hle : span.start.toNat ≤ span.end_.toNat := UInt16.le_iff_toNat_le.mp span.start_le_end
  rw [display]
  split
  · rename_i heq
    have hfield := PortField.single (isDigits_showPort span.start)
      (by rw [digitsValue_showPort]; omega)
    rw [digitsValue_showPort] at hfield
    rw [← heq]
    exact hfield
  · rename_i hne
    cases h with
    | single port => exact absurd rfl hne
    | @range a b _ h =>
      obtain ⟨hzero, rfl, rfl, hlen⟩ := range_eq_ok.mp h
      rw [ne_eq, ← UInt16.toNat_inj] at hzero
      rw [len_eq] at hlen
      have hmax : maxRangePorts = 4096 := rfl
      have hfield := PortField.range (isDigits_showPort span.start) (isDigits_showPort span.end_)
      simp only [digitsValue_showPort] at hfield
      rw [List.append_assoc]
      exact hfield (Nat.pos_of_ne_zero hzero) hle (by omega) (by omega)

lemma not_mem_display (span : PortSpan) : ':' ∉ span.display := by
  have hport : ∀ p : UInt16, ':' ∉ showPort p := fun p =>
    ForwarderConfig.not_mem_showPort (by decide)
  rw [PortSpan.display]
  split
  · exact hport _
  · simp [hport]

/-- The text of an entry means it. -/
lemma ForwarderSpec.Built.means_render {spec : ForwarderSpec} (h : spec.Built)
    (hl : ':' ∉ spec.localHost) (hr : ':' ∉ spec.remoteHost) : Means spec.render spec := by
  have hlower : spec.protocol.asStr.map Char.toLower = spec.protocol.asStr := by
    cases spec.protocol <;> decide
  refine ⟨_, _, _, .slash (not_mem_asStr _) hlower, ⟨rfl, ?_⟩, h.local_.portField_display,
    h.remote.portField_display, h.len_eq⟩
  simp [List.count_eq_zero_of_not_mem, hl, hr, not_mem_display]

/-- **The parser accepts exactly its grammar and undoes rendering.**  A text is accepted if and
only if it is in the grammar, with the entry that it means; and the text of an entry that the
program makes, with hosts without a colon, is read back as that entry. -/
theorem parseForwarderSpec_grammar :
    (∀ s, (∃ spec, parseForwarderSpec s = .ok spec) ↔ InGrammar s) ∧
    (∀ s spec, parseForwarderSpec s = .ok spec ↔ Means s spec) ∧
    (∀ spec : ForwarderSpec, spec.Built → ':' ∉ spec.localHost → ':' ∉ spec.remoteHost →
      parseForwarderSpec spec.render = .ok spec) := by
  refine ⟨fun s => ?_, fun s spec => parseForwarderSpec_eq_ok, fun spec hbuilt hl hr => ?_⟩
  · simp only [parseForwarderSpec_eq_ok]
    exact exists_means_iff
  · exact parseForwarderSpec_eq_ok.mpr (hbuilt.means_render hl hr)

/-- A one-port range, a local host with a slash and an empty remote host. -/
theorem parseForwarderSpec_grammar_demo :
    parseForwarderSpec "a/b:443-443::+80/UDP".toList =
        .ok ⟨"a/b".toList, .single 443, [], .single 80, .udp⟩ ∧
      InGrammar "a/b:443-443::+80/UDP".toList ∧
      parseForwarderSpec "a/b:443::80/udp".toList =
        .ok ⟨"a/b".toList, .single 443, [], .single 80, .udp⟩ := by
  have hparse : parseForwarderSpec "a/b:443-443::+80/UDP".toList =
      .ok ⟨"a/b".toList, .single 443, [], .single 80, .udp⟩ := by decide
  have hrange : PortSpan.range 443 443 = .ok (.single 443) := by decide
  have hbuilt : (⟨"a/b".toList, .single 443, [], .single 80, .udp⟩ : ForwarderSpec).Built :=
    ⟨.range hrange, .single 80, by decide⟩
  refine ⟨hparse, (parseForwarderSpec_grammar.1 _).mp ⟨_, hparse⟩, ?_⟩
  exact parseForwarderSpec_grammar.2.2 _ hbuilt (by decide) (by decide)

end Rfw
