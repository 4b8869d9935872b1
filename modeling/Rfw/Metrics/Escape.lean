/-
# Snapshots and escaped labels

The metrics server renders one list of snapshots in two formats.  Both quote the labels with the
same `escape`.
-/
import Rfw.Config.Forwarders
import Rfw.Lib.Decimal

namespace Rfw.Metrics

open Lib

/-- Immutable snapshot of a forwarder's counters at one instant. -/
structure StatsSnapshot where
  label : Str
  protocol : Protocol
  bytesSent : ℕ
  bytesReceived : ℕ
  datagramsSent : ℕ
  datagramsReceived : ℕ
  datagramsDropped : ℕ
  activeConnections : ℕ
  rejectedConnections : ℕ
  rateSentBps : ℕ
  rateRecvBps : ℕ
  /-- Whether the forwarder's listener is currently bound. -/
  listening : Bool
  /-- Last probe verdict on the target; `none` before the first probe. -/
  targetReachable : Option Bool
deriving DecidableEq, Repr

/-- `char::is_control`: the category Cc. -/
def isControl (c : Char) : Bool :=
  c.toNat < 0x20 || (0x7F ≤ c.toNat && c.toNat ≤ 0x9F)

/-- The format `{:04x}`. -/
def hexPad4 (n : ℕ) : Str :=
  List.replicate (4 - (Nat.toDigits 16 n).length) '0' ++ Nat.toDigits 16 n

/-- What `escape` writes for one character. -/
def escapeChar : Char → Str
  | '\\' => ['\\', '\\']
  | '"' => ['\\', '"']
  | '\n' => ['\\', 'n']
  | '\r' => ['\\', 'r']
  | '\t' => ['\\', 't']
  | c => if isControl c then '\\' :: 'u' :: hexPad4 c.toNat else [c]

/-- `escape`. -/
def escape (label : Str) : Str := label.flatMap escapeChar

lemma escape_cons (c : Char) (label : Str) : escape (c :: label) = escapeChar c ++ escape label :=
  rfl

/-! ## The cases of `escape` -/

/-- A backslash and one more character. -/
def escapeLetter : Char → Option Char
  | '\\' => some '\\'
  | '"' => some '"'
  | '\n' => some 'n'
  | '\r' => some 'r'
  | '\t' => some 't'
  | _ => none

/-- A character is escaped with a letter, escaped as a number, or stands for itself. -/
inductive EscapeCase (c : Char) : Prop
  | letter (e : Char) (he : escapeLetter c = some e) (h : escapeChar c = ['\\', e])
  | number (hc : isControl c = true) (h : escapeChar c = '\\' :: 'u' :: hexPad4 c.toNat)
  | itself (hslash : c ≠ '\\') (hquote : c ≠ '"') (hc : isControl c = false)
      (h : escapeChar c = [c])

lemma escapeCase (c : Char) : EscapeCase c := by
  by_cases hslash : c = '\\'
  · subst hslash
    exact .letter '\\' rfl rfl
  by_cases hquote : c = '"'
  · subst hquote
    exact .letter '"' rfl rfl
  by_cases hn : c = '\n'
  · subst hn
    exact .letter 'n' rfl rfl
  by_cases hr : c = '\r'
  · subst hr
    exact .letter 'r' rfl rfl
  by_cases ht : c = '\t'
  · subst ht
    exact .letter 't' rfl rfl
  have hrest : escapeChar c = if isControl c then '\\' :: 'u' :: hexPad4 c.toNat else [c] :=
    escapeChar.eq_6 c hslash hquote hn hr ht
  cases hc : isControl c with
  | true => exact .number hc (by rw [hrest, hc]; rfl)
  | false => exact .itself hslash hquote hc (by rw [hrest, hc]; rfl)

/-- A control character is in the first block of 256. -/
lemma toNat_lt_of_isControl {c : Char} (h : isControl c = true) : c.toNat < 0x100 := by
  simp only [isControl, Bool.or_eq_true, Bool.and_eq_true, decide_eq_true_eq] at h
  omega

lemma le_toNat_of_not_isControl {c : Char} (h : isControl c = false) : 0x20 ≤ c.toNat := by
  simp only [isControl, Bool.or_eq_false_iff, decide_eq_false_iff_not] at h
  omega

/-! ## Escaped numbers -/

/-- A number below 256 has two hexadecimal digits, after two zeros. -/
lemma hexPad4_eq {n : ℕ} (h : n < 0x100) :
    hexPad4 n = ['0', '0', (n / 16).digitChar, (n % 16).digitChar] := by
  by_cases hn : n < 16
  · rw [hexPad4, Nat.toDigits_of_lt_base hn, Nat.div_eq_of_lt hn, Nat.mod_eq_of_lt hn]
    rfl
  · have hlast : Nat.toDigits 16 (n / 16) = [(n / 16).digitChar] :=
      Nat.toDigits_of_lt_base (by omega)
    rw [hexPad4, Nat.toDigits_of_base_le (by decide) (by omega), hlast]
    rfl

/-- The hexadecimal digits are neither quotes, backslashes nor newlines. -/
lemma digitChar_plain {k : ℕ} (h : k < 16) :
    k.digitChar ≠ '"' ∧ k.digitChar ≠ '\\' ∧ k.digitChar ≠ '\n' := by
  revert k
  decide

lemma mem_hexPad4 {n : ℕ} (h : n < 0x100) {c : Char} (hc : c ∈ hexPad4 n) :
    c ≠ '"' ∧ c ≠ '\\' ∧ c ≠ '\n' := by
  rw [hexPad4_eq h] at hc
  simp only [List.mem_cons, List.not_mem_nil, or_false] at hc
  rcases hc with rfl | rfl | rfl | rfl
  · decide
  · decide
  · exact digitChar_plain (by omega)
  · exact digitChar_plain (by omega)

end Rfw.Metrics
