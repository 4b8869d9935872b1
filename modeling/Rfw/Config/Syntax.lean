/-
# The two syntaxes of a forwarder

A forwarder is written as a text on the command line and in the environment, and as an entry with
optional range ends in the YAML file.  `intoSpec_agrees` compares the two: an entry and the text
with the same hosts, ports and protocol mean the same, and the inferred end of a remote range is
the one that makes both ranges equally long.
-/
import Rfw.Config.Labels
import Rfw.Config.Load

namespace Rfw

open Lib ForwarderConfig

/-- The ports of one side, as the textual form has them. -/
def portsText (port : UInt16) : Option UInt16 → Str
  | none => showPort port
  | some end_ => showPort port ++ '-' :: showPort end_

/-- The textual form of an entry. -/
def RawForwarder.text (r : RawForwarder) : Str :=
  r.localHost ++ ':' :: (portsText r.localPort r.localPortEnd ++ ':' :: (r.remoteHost ++
    ':' :: (portsText r.remotePort r.remotePortEnd))) ++ '/' :: r.protocol.asStr

/-! ## Reading ports -/

namespace PortSpan

lemma parsePort_showPort (p : UInt16) : parsePort (showPort p) = .ok p := by
  rw [parsePort, showPort, Str.parseUnsigned_decimal p.toNat_lt]
  exact congrArg Except.ok (UInt16.ofNat_toNat)

lemma parseBound_showPort (raw what : Str) (p : UInt16) :
    parseBound raw what (showPort p) = .ok p := by
  have hne : (showPort p).isEmpty = false := by
    rw [List.isEmpty_eq_false_iff]
    exact Str.decimal_ne_nil _
  have hdigits : (showPort p).all Char.isDigit = true :=
    List.all_eq_true.mpr fun c hc => Str.isDigit_of_mem_decimal hc
  rw [parseBound, hne, hdigits, parsePort_showPort]
  rfl

lemma parse_showPort (what : Str) (p : UInt16) : parse (showPort p) what = .ok (single p) := by
  have hsplit : Str.splitOnce '-' (showPort p) = none :=
    Str.splitOnce_eq_none (not_mem_showPort (by decide))
  rw [parse, hsplit, parsePort_showPort]
  rfl

/-- A range of ports is read as `range` checks it. -/
lemma parse_range_eq_ok {what : Str} {a b : UInt16} {span : PortSpan} :
    parse (showPort a ++ '-' :: showPort b) what = .ok span ↔ range a b = .ok span := by
  have hsplit : Str.splitOnce '-' (showPort a ++ '-' :: showPort b) =
      some (showPort a, showPort b) := Str.splitOnce_append (not_mem_showPort (by decide))
  rw [parse, hsplit]
  simp only [parseBound_showPort]
  exact mapError_eq_ok

/-- The ranges that are valid. -/
lemma range_eq_ok {a b : UInt16} {span : PortSpan} :
    range a b = .ok span ↔
      a ≠ 0 ∧ span.start = a ∧ span.end_ = b ∧ span.len ≤ maxRangePorts := by
  constructor
  · intro h
    unfold range at h
    split at h
    · cases h
    · rename_i hzero
      split at h
      · dsimp only at h
        split at h
        · cases h
        · rename_i hlen
          obtain rfl := Except.ok.inj h
          exact ⟨hzero, rfl, rfl, Nat.not_lt.mp hlen⟩
      · cases h
  · rintro ⟨hzero, rfl, rfl, hlen⟩
    rw [range, if_neg hzero, dif_pos span.start_le_end]
    exact if_neg (Nat.not_lt.mpr hlen)

/-- A valid range has the ports that it was made from. -/
lemma of_range_eq_ok {a b : UInt16} {span : PortSpan} (h : range a b = .ok span) :
    span.start = a ∧ span.end_ = b ∧ span.len ≤ maxRangePorts :=
  (range_eq_ok.mp h).2

/-- The number of ports of a span, without wrapping. -/
lemma len_eq (s : PortSpan) : s.len = s.end_.toNat - s.start.toNat + 1 := by
  rw [len, UInt16.toNat_sub_of_le _ _ s.start_le_end]

end PortSpan

lemma not_mem_portsText {port : UInt16} {end_ : Option UInt16} : ':' ∉ portsText port end_ := by
  have hport : ∀ p : UInt16, ':' ∉ showPort p := fun p => not_mem_showPort (by decide)
  cases end_ with
  | none => exact hport port
  | some e => simp [portsText, hport]

lemma not_mem_asStr (p : Protocol) : '/' ∉ p.asStr := by
  cases p <;> decide

lemma parseProtocolSuffix_asStr (s : Str) (p : Protocol) :
    parseProtocolSuffix s p.asStr = .ok p := by
  cases p <;> rfl

/-- The textual form of an entry splits into the parts of the entry. -/
lemma parseForwarderSpec_text (r : RawForwarder) (hl : ':' ∉ r.localHost)
    (hr : ':' ∉ r.remoteHost) :
    parseForwarderSpec r.text = (do
      let local_ ← PortSpan.parse (portsText r.localPort r.localPortEnd) "local".toList
      let remote ← PortSpan.parse (portsText r.remotePort r.remotePortEnd) "remote".toList
      ForwarderSpec.new r.localHost local_ r.remoteHost remote r.protocol) := by
  rw [parseForwarderSpec, RawForwarder.text, Str.rsplitOnce_append (not_mem_asStr _)]
  simp only [parseProtocolSuffix_asStr, pure_bind]
  rw [Str.split_append hl, Str.split_append not_mem_portsText, Str.split_append hr,
    Str.split_eq_singleton not_mem_portsText]
  rfl

/-! ## Entries -/

section Entry

variable {lh rh : Str} {lp rp : UInt16} {p : Protocol}

/-- Two spans of the same length make an entry. -/
lemma new_of_len_eq {local_ remote : PortSpan} (h : local_.len = remote.len) :
    ForwarderSpec.new lh local_ rh remote p = .ok ⟨lh, local_, rh, remote, p⟩ :=
  if_neg (not_not.mpr h)

lemma intoSpec_single :
    RawForwarder.intoSpec ⟨lh, lp, none, rh, rp, none, p⟩ =
      .ok ⟨lh, .single lp, rh, .single rp, p⟩ := by
  have hlen : (PortSpan.single lp).len = (PortSpan.single rp).len := by
    rw [PortSpan.len_eq, PortSpan.len_eq]
    simp [PortSpan.single]
  exact new_of_len_eq hlen

/-- An entry with both ends is made from the two ranges. -/
lemma intoSpec_range_eq_ok {le re : UInt16} {spec : ForwarderSpec} :
    RawForwarder.intoSpec ⟨lh, lp, some le, rh, rp, some re, p⟩ = .ok spec ↔
      ∃ local_, PortSpan.range lp le = .ok local_ ∧ ∃ remote, PortSpan.range rp re = .ok remote ∧
        ForwarderSpec.new lh local_ rh remote p = .ok spec := by
  unfold RawForwarder.intoSpec
  simp only [bind_eq_ok, mapError_eq_ok, pure_bind]

/-- So is the textual form. -/
lemma parse_range_text_eq_ok (hl : ':' ∉ lh) (hr : ':' ∉ rh) {le re : UInt16}
    {spec : ForwarderSpec} :
    parseForwarderSpec (RawForwarder.text ⟨lh, lp, some le, rh, rp, some re, p⟩) = .ok spec ↔
      ∃ local_, PortSpan.range lp le = .ok local_ ∧ ∃ remote, PortSpan.range rp re = .ok remote ∧
        ForwarderSpec.new lh local_ rh remote p = .ok spec := by
  rw [parseForwarderSpec_text _ hl hr]
  simp only [bind_eq_ok, portsText, PortSpan.parse_range_eq_ok]

/-- The end of the remote range that an entry with only a local end gets. -/
lemma len_inferred {le : UInt16} {local_ : PortSpan} (h : PortSpan.range lp le = .ok local_) :
    rp.toNat + local_.len - 1 = rp.toNat + (le.toNat - lp.toNat) := by
  obtain ⟨rfl, rfl, -⟩ := PortSpan.of_range_eq_ok h
  rw [PortSpan.len_eq]
  omega

lemma intoSpec_inferred {le : UInt16} {local_ : PortSpan} (h : PortSpan.range lp le = .ok local_)
    (hsum : rp.toNat + (le.toNat - lp.toNat) < 65536) :
    RawForwarder.intoSpec ⟨lh, lp, some le, rh, rp, none, p⟩ =
      RawForwarder.intoSpec ⟨lh, lp, some le, rh, rp,
        some (UInt16.ofNat (rp.toNat + (le.toNat - lp.toNat))), p⟩ := by
  unfold RawForwarder.intoSpec
  simp only [h, Except.mapError, bind, Except.bind, len_inferred h, if_pos hsum]

lemma intoSpec_past_end {le : UInt16} {local_ : PortSpan} (h : PortSpan.range lp le = .ok local_)
    (hsum : 65536 ≤ rp.toNat + (le.toNat - lp.toNat)) :
    ∃ e, RawForwarder.intoSpec ⟨lh, lp, some le, rh, rp, none, p⟩ = .error e := by
  have hnot : ¬ rp.toNat + (le.toNat - lp.toNat) < 65536 := Nat.not_lt.mpr hsum
  unfold RawForwarder.intoSpec
  simp only [h, Except.mapError, bind, Except.bind, len_inferred h, if_neg hnot]
  exact ⟨_, rfl⟩

lemma intoSpec_of_invalid {le : UInt16} {e : Str} (h : PortSpan.range lp le = .error e) :
    ∃ e, RawForwarder.intoSpec ⟨lh, lp, some le, rh, rp, none, p⟩ = .error e := by
  unfold RawForwarder.intoSpec
  simp only [h]
  exact ⟨_, rfl⟩

/-- The inferred end makes the two ranges equally long. -/
lemma len_eq_of_inferred {le : UInt16} {local_ remote : PortSpan}
    (hlocal : PortSpan.range lp le = .ok local_)
    (hsum : rp.toNat + (le.toNat - lp.toNat) < 65536)
    (hremote : PortSpan.range rp (UInt16.ofNat (rp.toNat + (le.toNat - lp.toNat))) = .ok remote) :
    local_.len = remote.len := by
  obtain ⟨hlstart, hlend, -⟩ := PortSpan.of_range_eq_ok hlocal
  obtain ⟨hrstart, hrend, -⟩ := PortSpan.of_range_eq_ok hremote
  have hle : lp.toNat ≤ le.toNat := by
    rw [← hlstart, ← hlend]
    exact UInt16.le_iff_toNat_le.mp local_.start_le_end
  have hend : (UInt16.ofNat (rp.toNat + (le.toNat - lp.toNat))).toNat =
      rp.toNat + (le.toNat - lp.toNat) := UInt16.toNat_ofNat_of_lt hsum
  rw [PortSpan.len_eq, PortSpan.len_eq, hlstart, hlend, hrstart, hrend, hend]
  omega

end Entry

/-- **The textual form and the YAML entry mean the same.**  For hosts without a colon: without ends
both give the same entry; with both ends one succeeds exactly when the other does, with the same
entry; an entry with only a local end behaves as with the remote end that makes the ranges equally
long, and fails if there is none; and an entry with only a remote end fails.  The computation of
that end does not leave `u32`, and the two lengths never differ. -/
theorem intoSpec_agrees (lh rh : Str) (hl : ':' ∉ lh) (hr : ':' ∉ rh) (lp rp : UInt16)
    (p : Protocol) :
    (∃ spec, RawForwarder.intoSpec ⟨lh, lp, none, rh, rp, none, p⟩ = .ok spec ∧
      parseForwarderSpec (RawForwarder.text ⟨lh, lp, none, rh, rp, none, p⟩) = .ok spec) ∧
    (∀ le re spec, RawForwarder.intoSpec ⟨lh, lp, some le, rh, rp, some re, p⟩ = .ok spec ↔
      parseForwarderSpec (RawForwarder.text ⟨lh, lp, some le, rh, rp, some re, p⟩) = .ok spec) ∧
    (∀ le : UInt16,
      ((∃ local_, PortSpan.range lp le = .ok local_) ∧
          rp.toNat + (le.toNat - lp.toNat) ≤ 65535 →
        RawForwarder.intoSpec ⟨lh, lp, some le, rh, rp, none, p⟩ =
          RawForwarder.intoSpec ⟨lh, lp, some le, rh, rp,
            some (UInt16.ofNat (rp.toNat + (le.toNat - lp.toNat))), p⟩) ∧
      (¬ ((∃ local_, PortSpan.range lp le = .ok local_) ∧
          rp.toNat + (le.toNat - lp.toNat) ≤ 65535) →
        ∃ e, RawForwarder.intoSpec ⟨lh, lp, some le, rh, rp, none, p⟩ = .error e) ∧
      (∀ local_, PortSpan.range lp le = .ok local_ →
        1 ≤ local_.len ∧ rp.toNat + local_.len < 2 ^ 32 ∧
        (rp.toNat + (le.toNat - lp.toNat) ≤ 65535 → ∀ remote,
          PortSpan.range rp (UInt16.ofNat (rp.toNat + (le.toNat - lp.toNat))) = .ok remote →
            ForwarderSpec.new lh local_ rh remote p = .ok ⟨lh, local_, rh, remote, p⟩))) ∧
    (∀ re, ∃ e, RawForwarder.intoSpec ⟨lh, lp, none, rh, rp, some re, p⟩ = .error e) := by
  refine ⟨⟨_, intoSpec_single, ?_⟩, fun le re spec => ?_, fun le => ⟨?_, ?_, ?_⟩, fun re => ?_⟩
  · rw [parseForwarderSpec_text _ hl hr]
    simp only [portsText, PortSpan.parse_showPort]
    exact intoSpec_single
  · rw [intoSpec_range_eq_ok, parse_range_text_eq_ok hl hr]
  · rintro ⟨⟨local_, hlocal⟩, hsum⟩
    exact intoSpec_inferred hlocal (Nat.lt_succ_of_le hsum)
  · intro hnot
    -- the local range is invalid, or the remote one would run past the last port
    cases hlocal : PortSpan.range lp le with
    | error e => exact intoSpec_of_invalid hlocal
    | ok local_ =>
      have hsum : 65536 ≤ rp.toNat + (le.toNat - lp.toNat) := by
        by_contra hlt
        exact hnot ⟨⟨local_, hlocal⟩, by omega⟩
      exact intoSpec_past_end hlocal hsum
  · intro local_ hlocal
    obtain ⟨-, -, hmax⟩ := PortSpan.of_range_eq_ok hlocal
    have hpos : 1 ≤ local_.len := Nat.succ_pos _
    have hport : rp.toNat < 65536 := rp.toNat_lt
    refine ⟨hpos, ?_, fun hsum remote hremote => ?_⟩
    · have hrange : maxRangePorts = 4096 := rfl
      omega
    · exact new_of_len_eq (len_eq_of_inferred hlocal (Nat.lt_succ_of_le hsum) hremote)
  · exact ⟨_, rfl⟩

/-- Hosts with a slash and a hyphen. -/
theorem intoSpec_agrees_demo :
    RawForwarder.intoSpec ⟨"a/b".toList, 8000, some 8001, "c-d".toList, 80, some 81, .udp⟩ =
        .ok ⟨"a/b".toList, ⟨8000, 8001, by decide⟩, "c-d".toList, ⟨80, 81, by decide⟩, .udp⟩ ∧
      parseForwarderSpec "a/b:8000-8001:c-d:80-81/udp".toList =
        .ok ⟨"a/b".toList, ⟨8000, 8001, by decide⟩, "c-d".toList, ⟨80, 81, by decide⟩, .udp⟩ := by
  have hspec : RawForwarder.intoSpec
      ⟨"a/b".toList, 8000, some 8001, "c-d".toList, 80, some 81, .udp⟩ =
        .ok ⟨"a/b".toList, ⟨8000, 8001, by decide⟩, "c-d".toList, ⟨80, 81, by decide⟩, .udp⟩ := by
    decide
  have hagrees := intoSpec_agrees "a/b".toList "c-d".toList (by decide) (by decide) 8000 80 .udp
  exact ⟨hspec, (hagrees.2.1 8001 81 _).mp hspec⟩

end Rfw
