/-
# The texts inside a message

Every string that comes from outside goes through `mono` or `plain` before it becomes a part of a
message: control characters become blanks, runs of blanks become one, and what is too long is cut
and marked with an ellipsis.  Addresses are written as the standard library writes them.
-/
import Rfw.Lib.Decimal
import Rfw.Metrics.Escape
import Rfw.Net
import Rfw.Notify.Event
import Mathlib.Data.Nat.Digits.Defs

namespace Rfw.Notify

open Lib Metrics

/-- `MAX_TEXT_CHARS`. -/
def maxTextChars : ℕ := 4000

/-- `MAX_DETAIL_CHARS`. -/
def maxDetailChars : ℕ := 300

/-! ## Bounded texts -/

/-- `truncate_chars`. -/
def truncateChars (s : Str) (max : ℕ) : Str :=
  if s.length ≤ max then s else s.take (max - 1) ++ ['…']

/-- A blank for a control character. -/
def blanked (c : Char) : Char := if isControl c then ' ' else c

/-- The loop of `strip_control`; `lastSpace` says whether the character before was a blank. -/
def stripLoop : Bool → Str → Str
  | _, [] => []
  | lastSpace, c :: s =>
      if blanked c = ' ' then
        if lastSpace then stripLoop true s else ' ' :: stripLoop true s
      else blanked c :: stripLoop false s

/-- `strip_control`. -/
def stripControl (s : Str) : Str := Str.trim (stripLoop false s)

/-- The backtick of monospace. -/
def backtick : Char := Char.ofNat 96

/-- The character that stands for a backtick inside monospace. -/
def apostrophe : Char := Char.ofNat 39

/-- `mono`. -/
def mono (s : Str) : Str :=
  let inner := truncateChars (s.map fun c => if c = backtick then apostrophe else c) maxDetailChars
  [backtick] ++ stripControl inner ++ [backtick]

/-- `plain`. -/
def plain (s : Str) : Str := truncateChars (stripControl s) maxDetailChars

lemma length_truncateChars_le (s : Str) (max : ℕ) (h : 0 < max) :
    (truncateChars s max).length ≤ max := by
  unfold truncateChars
  split_ifs with hs
  · exact hs
  · simp only [List.length_append, List.length_take, List.length_singleton]
    omega

/-- A cut does not add anything but the ellipsis. -/
lemma mem_truncateChars {s : Str} {max : ℕ} {c : Char} (h : c ∈ truncateChars s max) :
    c ∈ s ∨ c = '…' := by
  unfold truncateChars at h
  split_ifs at h with hs
  · exact .inl h
  · obtain h | h := List.mem_append.mp h
    · exact .inl (List.mem_of_mem_take h)
    · exact .inr (List.mem_singleton.mp h)

lemma length_trim_le (s : Str) : (Str.trim s).length ≤ s.length := by
  unfold Str.trim
  have hright := (List.dropWhile_suffix Str.isWhitespace
    (l := (s.dropWhile Str.isWhitespace).reverse)).length_le
  have hleft := (List.dropWhile_suffix Str.isWhitespace (l := s)).length_le
  simp only [List.length_reverse] at hright ⊢
  omega

lemma mem_of_mem_trim {s : Str} {c : Char} (h : c ∈ Str.trim s) : c ∈ s := by
  unfold Str.trim at h
  have h := (List.dropWhile_suffix _).mem (List.mem_reverse.mp h)
  exact (List.dropWhile_suffix _).mem (List.mem_reverse.mp h)

lemma length_stripLoop_le (last : Bool) (s : Str) : (stripLoop last s).length ≤ s.length := by
  induction s generalizing last with
  | nil => exact Nat.le_refl 0
  | cons c s ih =>
    have htrue := ih true
    have hfalse := ih false
    simp only [stripLoop]
    split_ifs <;> simp only [List.length_cons] <;> omega

lemma isControl_blanked (c : Char) : isControl (blanked c) = false := by
  unfold blanked
  split_ifs with h
  · decide
  · exact Bool.not_eq_true _ ▸ h

/-- No control character is left. -/
lemma isControl_of_mem_stripLoop {last : Bool} {s : Str} {c : Char} (h : c ∈ stripLoop last s) :
    isControl c = false := by
  induction s generalizing last with
  | nil => cases h
  | cons d s ih =>
    simp only [stripLoop] at h
    split_ifs at h with hd hl
    · exact ih h
    · obtain rfl | h := List.mem_cons.mp h
      · decide
      · exact ih h
    · obtain rfl | h := List.mem_cons.mp h
      · exact isControl_blanked d
      · exact ih h

lemma length_stripControl_le (s : Str) : (stripControl s).length ≤ s.length :=
  (length_trim_le _).trans (length_stripLoop_le false s)

/-- A stripped text is a single line. -/
lemma newline_not_mem_stripControl (s : Str) : '\n' ∉ stripControl s := by
  intro h
  have hcontrol := isControl_of_mem_stripLoop (mem_of_mem_trim h)
  exact absurd hcontrol (by decide)

lemma newline_not_mem_plain (s : Str) : '\n' ∉ plain s := by
  intro h
  obtain h | h := mem_truncateChars h
  · exact newline_not_mem_stripControl s h
  · exact absurd h (by decide)

lemma length_plain_le (s : Str) : (plain s).length ≤ 300 :=
  length_truncateChars_le _ maxDetailChars (by decide)

lemma length_mono_le (s : Str) : (mono s).length ≤ 302 := by
  have hstrip := length_stripControl_le
    (truncateChars (s.map fun c => if c = backtick then apostrophe else c) maxDetailChars)
  have htrunc := length_truncateChars_le (s.map fun c => if c = backtick then apostrophe else c)
    maxDetailChars (by decide)
  simp only [maxDetailChars] at hstrip htrunc
  simp only [mono, maxDetailChars, List.length_append, List.length_singleton]
  omega

lemma le_length_mono (s : Str) : 2 ≤ (mono s).length := by
  simp only [mono, List.length_append, List.length_singleton]
  omega

/-! ## Addresses -/

/-- The lower-case hexadecimal form of a number. -/
def hexadecimal (n : ℕ) : Str := Nat.toDigits 16 n

/-- `Display` of an IPv4 address. -/
def displayV4 (bits : BitVec 32) : Str :=
  let n := bits.toNat
  Str.decimal (n / 2 ^ 24 % 256) ++ ['.'] ++ Str.decimal (n / 2 ^ 16 % 256) ++ ['.'] ++
    Str.decimal (n / 2 ^ 8 % 256) ++ ['.'] ++ Str.decimal (n % 256)

/-- `Ipv6Addr::segments`. -/
def segmentsV6 (bits : BitVec 128) : List ℕ :=
  (List.range 8).map fun i => bits.toNat / 2 ^ (16 * (7 - i)) % 2 ^ 16

/-- A stretch of segments. -/
structure Span where
  start : ℕ
  len : ℕ
deriving DecidableEq, Repr

/-- The scan for the longest stretch of zero segments, the first one of its length: `i` is the
index of the segment at hand. -/
def zeroSpan : ℕ → Span → Span → List ℕ → Span
  | _, longest, _, [] => longest
  | i, longest, current, segment :: rest =>
      if segment = 0 then
        let current : Span :=
          if current.len = 0 then { start := i, len := 1 }
          else { current with len := current.len + 1 }
        zeroSpan (i + 1) (if longest.len < current.len then current else longest) current rest
      else zeroSpan (i + 1) longest { start := 0, len := 0 } rest

/-- The segments of a slice, between colons. -/
def fmtSubslice (chunk : List ℕ) : Str := [':'].intercalate (chunk.map hexadecimal)

/-- `Display` of an IPv6 address. -/
def displayV6 (bits : BitVec 128) : Str :=
  if bits.toNat / 2 ^ 32 = 0xffff then
    "::ffff:".toList ++ displayV4 (BitVec.ofNat 32 bits.toNat)
  else
    let segments := segmentsV6 bits
    let zeroes := zeroSpan 0 { start := 0, len := 0 } { start := 0, len := 0 } segments
    if 1 < zeroes.len then
      fmtSubslice (segments.take zeroes.start) ++ "::".toList ++
        fmtSubslice (segments.drop (zeroes.start + zeroes.len))
    else fmtSubslice segments

/-- `Display` of an address. -/
def displayIp : IpAddr → Str
  | .v4 bits => displayV4 bits
  | .v6 bits => displayV6 bits

/-- `Display` of a socket address. -/
def displayAddr : SocketAddr → Str
  | .v4 ip port => displayV4 ip ++ [':'] ++ showPort port
  | .v6 ip port _ scopeId =>
      if scopeId = 0 then ['['] ++ displayV6 ip ++ "]:".toList ++ showPort port
      else ['['] ++ displayV6 ip ++ ['%'] ++ Str.decimal scopeId.toNat ++ "]:".toList ++
        showPort port

example : displayAddr (.v6 (BitVec.ofNat 128 (0x20010db8 * 2 ^ 96 + 1)) 443 0 0) =
    "[2001:db8::1]:443".toList := by decide

/-- `join_ips`. -/
def joinIps (ips : List IpAddr) : Str :=
  if ips = [] then "(none)".toList else ", ".toList.intercalate (ips.map displayIp)

/-- `join_mono`. -/
def joinMono (items : List Str) : Str := ", ".toList.intercalate (items.map mono)

/-- The length of a joined list: the items and two characters between each two of them. -/
lemma length_joinMono_add {items : List Str} (h : items ≠ []) :
    (joinMono items).length + 2 = (items.map fun s => (mono s).length + 2).sum := by
  induction items with
  | nil => exact absurd rfl h
  | cons s items ih =>
    cases items with
    | nil => simp [joinMono]
    | cons t items =>
      have ih := ih (by simp)
      simp only [joinMono, List.map_cons, List.intercalate_cons_cons, List.length_append,
        List.sum_cons] at ih ⊢
      have hsep : ", ".toList.length = 2 := rfl
      omega

/-! ## The time -/

/-- A number that is padded with zeros to a width. -/
def zeroPad (width n : ℕ) : Str :=
  List.replicate (width - (Str.decimal n).length) '0' ++ Str.decimal n

lemma newline_not_mem_zeroPad (width n : ℕ) : '\n' ∉ zeroPad width n := by
  intro h
  obtain h | h := List.mem_append.mp h
  · exact absurd (List.eq_of_mem_replicate h) (by decide)
  · exact Str.not_mem_decimal (by decide) h

/-- The fields of a date and a time of day. -/
structure Civil where
  year : ℕ
  month : ℕ
  day : ℕ
  hour : ℕ
  minute : ℕ
  second : ℕ
deriving DecidableEq, Repr

/-- The civil date of a number of Unix seconds. -/
def civil (unixSecs : ℕ) : Civil :=
  let days := unixSecs / 86400
  let rem := unixSecs % 86400
  let z := days + 719468
  let era := z / 146097
  let doe := z % 146097
  let yoe := (doe - doe / 1460 + doe / 36524 - doe / 146096) / 365
  let y := yoe + era * 400
  let doy := doe - (365 * yoe + yoe / 4 - yoe / 100)
  let mp := (5 * doy + 2) / 153
  let d := doy - (153 * mp + 2) / 5 + 1
  let month := if mp < 10 then mp + 3 else mp - 9
  { year := if month ≤ 2 then y + 1 else y
    month := month
    day := d
    hour := rem / 3600
    minute := rem % 3600 / 60
    second := rem % 60 }

/-- `format_utc`. -/
def formatUtc (unixSecs : ℕ) : Str :=
  let c := civil unixSecs
  zeroPad 4 c.year ++ ['-'] ++ zeroPad 2 c.month ++ ['-'] ++ zeroPad 2 c.day ++ [' '] ++
    zeroPad 2 c.hour ++ [':'] ++ zeroPad 2 c.minute ++ [':'] ++ zeroPad 2 c.second ++
    " UTC".toList

example : formatUtc 951827696 = "2000-02-29 12:34:56 UTC".toList := by decide

lemma newline_not_mem_formatUtc (unixSecs : ℕ) : '\n' ∉ formatUtc unixSecs := by
  have hend : '\n' ∉ " UTC".toList := by decide
  simp only [formatUtc, List.mem_append, List.mem_singleton, newline_not_mem_zeroPad, hend]
  decide

lemma length_decimal_le {n k : ℕ} (hk : 0 < k) (h : n < 10 ^ k) : (Str.decimal n).length ≤ k :=
  Nat.toDigits_length 10 n k hk h

lemma length_zeroPad_le {width n k : ℕ} (hwidth : width ≤ k) (hk : 0 < k) (h : n < 10 ^ k) :
    (zeroPad width n).length ≤ k := by
  have hdigits := length_decimal_le hk h
  simp only [zeroPad, List.length_append, List.length_replicate]
  omega

/-- No field of a date is larger than the clock allows. -/
lemma civil_le (unixSecs : ℕ) :
    (civil unixSecs).year ≤ unixSecs + 10000 ∧ (civil unixSecs).month ≤ unixSecs + 10000 ∧
    (civil unixSecs).day ≤ unixSecs + 146098 ∧ (civil unixSecs).hour ≤ unixSecs ∧
    (civil unixSecs).minute ≤ unixSecs ∧ (civil unixSecs).second ≤ unixSecs := by
  unfold civil
  dsimp only
  -- the day of the era, the year of the era and the day of the year, each by its bound
  have hera : (unixSecs / 86400 + 719468) / 146097 * 400 ≤ unixSecs + 2000 := by omega
  have hdoe : (unixSecs / 86400 + 719468) % 146097 < 146097 := Nat.mod_lt _ (by decide)
  generalize (unixSecs / 86400 + 719468) / 146097 * 400 = era at hera ⊢
  generalize (unixSecs / 86400 + 719468) % 146097 = doe at hdoe ⊢
  have hyoe : (doe - doe / 1460 + doe / 36524 - doe / 146096) / 365 ≤ 801 := by omega
  generalize (doe - doe / 1460 + doe / 36524 - doe / 146096) / 365 = yoe at hyoe ⊢
  have hdoy : doe - (365 * yoe + yoe / 4 - yoe / 100) ≤ doe := Nat.sub_le _ _
  generalize doe - (365 * yoe + yoe / 4 - yoe / 100) = doy at hdoy ⊢
  refine ⟨?_, ?_, ?_, ?_, ?_, ?_⟩
  · split_ifs <;> omega
  · split_ifs <;> omega
  all_goals omega

/-- The time of a clock with 64 bits, with room to spare. -/
lemma length_formatUtc_le {unixSecs : ℕ} (h : unixSecs < 2 ^ 64) :
    (formatUtc unixSecs).length ≤ 129 := by
  obtain ⟨hyear, hmonth, hday, hhour, hminute, hsecond⟩ := civil_le unixSecs
  have hpad : ∀ width n, width ≤ 20 → n < 10 ^ 20 → (zeroPad width n).length ≤ 20 :=
    fun _ _ hwidth hn => length_zeroPad_le hwidth (by decide) hn
  have := hpad 4 (civil unixSecs).year (by decide) (by omega)
  have := hpad 2 (civil unixSecs).month (by decide) (by omega)
  have := hpad 2 (civil unixSecs).day (by decide) (by omega)
  have := hpad 2 (civil unixSecs).hour (by decide) (by omega)
  have := hpad 2 (civil unixSecs).minute (by decide) (by omega)
  have := hpad 2 (civil unixSecs).second (by decide) (by omega)
  have hend : " UTC".toList.length = 4 := rfl
  simp only [formatUtc, List.length_append, List.length_singleton, hend]
  omega

end Rfw.Notify
