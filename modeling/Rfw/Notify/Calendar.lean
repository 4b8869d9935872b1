/-
# The date in the footer

`format_utc` finds the date by the divisions of `civil_from_days`, in a year that begins in March
and in eras of 400 years.  It is followed here in the machine integers of the source, where every
operation is checked: none of them overflows on any number of seconds, and the date and time that
are printed are those of the calendar.
-/
import Rfw.Lib.Calendar
import Rfw.Lib.Decimal
import Rfw.Notify.Text

namespace Rfw.Notify

open Lib

/-! ## The machine integers -/

/-- The value of an operation on `u64`, none if the operation overflows. -/
def u64 (n : ℕ) : Option ℕ := if n < 2 ^ 64 then some n else none

/-- The value of an operation on `i64`, none if the operation overflows. -/
def i64 (n : ℤ) : Option ℤ := if -2 ^ 63 ≤ n ∧ n < 2 ^ 63 then some n else none

/-- The cast `as i64` of a `u64`, which wraps. -/
def asI64 (n : ℕ) : ℤ := (n : ℤ).bmod (2 ^ 64)

lemma u64_eq {n : ℕ} (h : n < 2 ^ 64) : u64 n = some n := if_pos h

lemma i64_eq {n : ℤ} {k : ℕ} (h : n = k) (hk : k < 2 ^ 63) : i64 n = some (k : ℤ) := by
  subst h
  exact if_pos ⟨by omega, by omega⟩

lemma u64_bind {α : Type} {n : ℕ} {f : ℕ → Option α} {r : Option α} (h : n < 2 ^ 64)
    (hf : f n = r) : (u64 n >>= f) = r := by
  rw [u64_eq h]
  exact hf

lemma i64_bind {α : Type} {n : ℤ} {k : ℕ} {f : ℤ → Option α} {r : Option α} (h : n = k)
    (hk : k < 2 ^ 63) (hf : f k = r) : (i64 n >>= f) = r := by
  rw [i64_eq h hk]
  exact hf

lemma asI64_eq {n : ℕ} (h : n < 2 ^ 63) : asI64 n = n := by
  exact Int.bmod_eq_of_le (by omega) (by omega)

/-! ## `format_utc` in machine integers -/

/-- The fields that `format_utc` computes.  The division of `i64` truncates; `div_euclid` and
`rem_euclid` are the division and the remainder of the integers. -/
def civilChecked (unixSecs : UInt64) : Option DateTime := do
  let quot ← u64 (unixSecs.toNat / 86400)
  let days := asI64 quot
  let rem ← u64 (unixSecs.toNat % 86400)
  let h ← u64 (rem / 3600)
  let remHour ← u64 (rem % 3600)
  let m ← u64 (remHour / 60)
  let s ← u64 (rem % 60)
  let z ← i64 (days + 719468)
  let era ← i64 (z / 146097)
  let doe ← i64 (z % 146097)
  -- `(doe - doe / 1460 + doe / 36_524 - doe / 146_096) / 365`
  let q₁ ← i64 (doe.tdiv 1460)
  let a₁ ← i64 (doe - q₁)
  let q₂ ← i64 (doe.tdiv 36524)
  let a₂ ← i64 (a₁ + q₂)
  let q₃ ← i64 (doe.tdiv 146096)
  let a₃ ← i64 (a₂ - q₃)
  let yoe ← i64 (a₃.tdiv 365)
  let years ← i64 (era * 400)
  let y ← i64 (yoe + years)
  -- `doe - (365 * yoe + yoe / 4 - yoe / 100)`
  let b₁ ← i64 (365 * yoe)
  let b₂ ← i64 (yoe.tdiv 4)
  let b₃ ← i64 (b₁ + b₂)
  let b₄ ← i64 (yoe.tdiv 100)
  let b₅ ← i64 (b₃ - b₄)
  let doy ← i64 (doe - b₅)
  -- `(5 * doy + 2) / 153`
  let c₁ ← i64 (5 * doy)
  let c₂ ← i64 (c₁ + 2)
  let mp ← i64 (c₂.tdiv 153)
  -- `doy - (153 * mp + 2) / 5 + 1`
  let d₁ ← i64 (153 * mp)
  let d₂ ← i64 (d₁ + 2)
  let d₃ ← i64 (d₂.tdiv 5)
  let d₄ ← i64 (doy - d₃)
  let d ← i64 (d₄ + 1)
  let month ← (if mp < 10 then i64 (mp + 3) else i64 (mp - 9))
  let year ← (if month ≤ 2 then i64 (y + 1) else some y)
  some { year := year, month := month, day := d, hour := h, minute := m, second := s }

/-- A signed number that is padded with zeros to a width, after its sign. -/
def zeroPadInt (width : ℕ) (n : ℤ) : Str :=
  if n < 0 then '-' :: zeroPad (width - 1) n.natAbs else zeroPad width n.natAbs

/-- The `format!` of `format_utc`. -/
def printUtc (t : DateTime) : Str :=
  zeroPadInt 4 t.year ++ ['-'] ++ zeroPadInt 2 t.month ++ ['-'] ++ zeroPadInt 2 t.day ++ [' '] ++
    zeroPadInt 2 t.hour ++ [':'] ++ zeroPadInt 2 t.minute ++ [':'] ++ zeroPadInt 2 t.second ++
    " UTC".toList

/-- `format_utc`, none if an operation overflows. -/
def formatUtcChecked (unixSecs : UInt64) : Option Str := (civilChecked unixSecs).map printUtc

example : formatUtcChecked 4102444799 = some "2099-12-31 23:59:59 UTC".toList := by decide

/-- The same fields as integers. -/
def Civil.toDateTime (c : Civil) : DateTime where
  year := c.year
  month := c.month
  day := c.day
  hour := c.hour
  minute := c.minute
  second := c.second

@[simp] lemma zeroPadInt_natCast (width k : ℕ) : zeroPadInt width (k : ℤ) = zeroPad width k :=
  if_neg (by omega)

lemma printUtc_toDateTime_civil (n : ℕ) : printUtc (civil n).toDateTime = formatUtc n := by
  simp only [printUtc, formatUtc, Civil.toDateTime, zeroPadInt_natCast]

/-! ## Reading the text -/

/-- A field of the text: digits, at least as many as the width. -/
def readField (width : ℕ) (s : Str) : Option ℤ :=
  if width ≤ s.length ∧ s ≠ [] ∧ s.all Char.isDigit then some (Nat.ofDigitChars 10 s 0) else none

/-- What a reader of `YYYY-MM-DD hh:mm:ss UTC` sees. -/
def readUtc (s : Str) : Option DateTime :=
  match Str.split '-' s with
  | [year, month, rest] =>
      match Str.split ' ' rest with
      | [day, clock, zone] =>
          match Str.split ':' clock with
          | [hour, minute, second] =>
              if zone = "UTC".toList then do
                let year ← readField 4 year
                let month ← readField 2 month
                let day ← readField 2 day
                let hour ← readField 2 hour
                let minute ← readField 2 minute
                let second ← readField 2 second
                some { year, month, day, hour, minute, second }
              else none
          | _ => none
      | _ => none
  | _ => none

lemma isDigit_of_mem_zeroPad {width n : ℕ} {c : Char} (h : c ∈ zeroPad width n) : c.isDigit := by
  obtain h | h := List.mem_append.mp h
  · rw [List.eq_of_mem_replicate h]
    decide
  · exact Str.isDigit_of_mem_decimal h

lemma not_mem_zeroPad {width n : ℕ} {c : Char} (hc : c.isDigit = false) : c ∉ zeroPad width n := by
  intro h
  rw [isDigit_of_mem_zeroPad h] at hc
  cases hc

/-- The zeros in front of a number do not change it. -/
lemma ofDigitChars_zeroPad (width n : ℕ) : Nat.ofDigitChars 10 (zeroPad width n) 0 = n := by
  rw [zeroPad, Nat.ofDigitChars_append, Nat.ofDigitChars_replicate_zero, Nat.mul_zero]
  exact Str.ofDigitChars_decimal n

lemma readField_zeroPad (width n : ℕ) : readField width (zeroPad width n) = some (n : ℤ) := by
  have hwidth : width ≤ (zeroPad width n).length := by
    simp only [zeroPad, List.length_append, List.length_replicate]
    omega
  have hne : zeroPad width n ≠ [] := List.append_ne_nil_of_right_ne_nil _ (Str.decimal_ne_nil n)
  have hdigits : (zeroPad width n).all Char.isDigit = true :=
    List.all_eq_true.mpr fun c hc => isDigit_of_mem_zeroPad hc
  rw [readField, if_pos ⟨hwidth, hne, hdigits⟩, ofDigitChars_zeroPad]

/-- The text determines the fields that it was printed from. -/
lemma readUtc_printUtc (c : Civil) : readUtc (printUtc c.toDateTime) = some c.toDateTime := by
  have hdash : ∀ width n, '-' ∉ zeroPad width n := fun _ _ => not_mem_zeroPad (by decide)
  have hblank : ∀ width n, ' ' ∉ zeroPad width n := fun _ _ => not_mem_zeroPad (by decide)
  have hcolon : ∀ width n, ':' ∉ zeroPad width n := fun _ _ => not_mem_zeroPad (by decide)
  have hutc : " UTC".toList = ' ' :: "UTC".toList := by decide
  have hclock : Str.split ':' (zeroPad 2 c.hour ++ ':' :: (zeroPad 2 c.minute ++
      ':' :: zeroPad 2 c.second)) = [zeroPad 2 c.hour, zeroPad 2 c.minute, zeroPad 2 c.second] := by
    rw [Str.split_append (hcolon _ _), Str.split_append (hcolon _ _),
      Str.split_eq_singleton (hcolon _ _)]
  have hrest : Str.split ' ' (zeroPad 2 c.day ++ ' ' :: (zeroPad 2 c.hour ++ ':' ::
      (zeroPad 2 c.minute ++ ':' :: zeroPad 2 c.second) ++ ' ' :: "UTC".toList)) =
      [zeroPad 2 c.day, zeroPad 2 c.hour ++ ':' :: (zeroPad 2 c.minute ++ ':' ::
        zeroPad 2 c.second), "UTC".toList] := by
    rw [Str.split_append (hblank _ _), Str.split_append (by simp [hblank]),
      Str.split_eq_singleton (by decide)]
  have htext : printUtc c.toDateTime = zeroPad 4 c.year ++ '-' :: (zeroPad 2 c.month ++ '-' ::
      (zeroPad 2 c.day ++ ' ' :: (zeroPad 2 c.hour ++ ':' :: (zeroPad 2 c.minute ++ ':' ::
        zeroPad 2 c.second) ++ ' ' :: "UTC".toList))) := by
    simp only [printUtc, Civil.toDateTime, zeroPadInt_natCast, hutc, List.append_assoc,
      List.nil_append, List.cons_append]
  have hsplit : Str.split '-' (printUtc c.toDateTime) = [zeroPad 4 c.year, zeroPad 2 c.month,
      zeroPad 2 c.day ++ ' ' :: (zeroPad 2 c.hour ++ ':' :: (zeroPad 2 c.minute ++ ':' ::
        zeroPad 2 c.second) ++ ' ' :: "UTC".toList)] := by
    rw [htext, Str.split_append (hdash _ _), Str.split_append (hdash _ _),
      Str.split_eq_singleton (by simp [hdash])]
  unfold readUtc
  simp only [hsplit, hrest, hclock, readField_zeroPad]
  rfl

example : readUtc "2099-12-31 23:59:59 UTC".toList = some ⟨2099, 12, 31, 23, 59, 59⟩ := by decide

/-! ## The year of the era -/

section Era

variable {doe q yoe c : ℕ}

/-- The three divisions correct the number of the day to 365 days a year.  Here `c` is the century
of the day and `q` counts the leap days before it as if no century were without one. -/
structure Corrected (doe q c yoe : ℕ) : Prop where
  century : 36524 * c ≤ doe ∧ doe < 36524 * (c + 1)
  century_lt : c < 4
  leap : 1460 * q ≤ doe ∧ doe < 1460 * (q + 1)
  year : 365 * yoe + q ≤ doe + c ∧ doe + c < 365 * (yoe + 1) + q

lemma corrected_of_lt (h : doe < 146096)
    (hyoe : yoe = (doe - doe / 1460 + doe / 36524 - doe / 146096) / 365) :
    Corrected doe (doe / 1460) (doe / 36524) yoe := by
  have hlast : doe / 146096 = 0 := by omega
  rw [hlast, Nat.sub_zero] at hyoe
  refine ⟨by omega, by omega, by omega, by omega⟩

lemma Corrected.century_eq (h : Corrected doe q c yoe) : yoe / 100 = c := by
  obtain ⟨hcentury, hlt, hleap, hyear⟩ := h
  interval_cases c <;> omega

/-- The day does not lie before its year. -/
lemma Corrected.start_le (h : Corrected doe q c yoe) : 365 * yoe + yoe / 4 ≤ doe + yoe / 100 := by
  have hc := h.century_eq
  obtain ⟨hcentury, hlt, hleap, hyear⟩ := h
  interval_cases c <;> omega

/-- The day does not lie behind its year.  The last year of a century is shorter than the rule of
the fourth years says, and that of the fourth century is not. -/
lemma Corrected.lt_end (h : Corrected doe q c yoe) :
    doe + (yoe + 1) / 100 < 365 * (yoe + 1) + (yoe + 1) / 4 + (yoe + 1) / 400 := by
  have hc := h.century_eq
  obtain ⟨hcentury, hlt, hleap, hyear⟩ := h
  obtain hend | hmid : yoe + 1 = 100 * (c + 1) ∨ (yoe + 1) / 100 = c := by omega
  · interval_cases c <;> omega
  · have : doe + c < 365 * (yoe + 1) + (yoe + 1) / 4 := by interval_cases c <;> omega
    omega

/-- What the rest of the computation relies on of the year of the era. -/
lemma yoe_spec (h : doe < 146097)
    (hyoe : yoe = (doe - doe / 1460 + doe / 36524 - doe / 146096) / 365) :
    yoe ≤ 399 ∧ 365 * yoe + yoe / 4 ≤ doe + yoe / 100 ∧
    doe + (yoe + 1) / 100 < 365 * (yoe + 1) + (yoe + 1) / 4 + (yoe + 1) / 400 := by
  -- only on the last day of an era do all three divisions count
  obtain rfl | hlt : doe = 146096 ∨ doe < 146096 := by omega
  · subst hyoe
    decide
  · have hcorrected := corrected_of_lt hlt hyoe
    have hcentury := hcorrected.century_eq
    exact ⟨by omega, hcorrected.start_le, hcorrected.lt_end⟩

end Era

/-! ## The month of the year -/

section Month

variable {y doy mp month year : ℤ}

/-- The months of the year that begins in March of `y`: the first ten are months of `y`, and the
last two are months of the year after it. -/
lemma march_month (hmp : 0 ≤ mp ∧ mp ≤ 11) (hmonth : month = if mp < 10 then mp + 3 else mp - 9)
    (hyear : year = if month ≤ 2 then y + 1 else y) :
    daysBeforeYear year + daysBeforeMonth year month =
      daysBeforeYear y + daysBeforeMonth y 3 + (153 * mp + 2) / 5 := by
  by_cases hlt : mp < 10
  · rw [if_pos hlt] at hmonth
    rw [if_neg (by omega)] at hyear
    rw [hyear, hmonth, daysBeforeMonth_add_three y hmp.1 (by omega)]
    ring
  · rw [if_neg hlt] at hmonth
    rw [if_pos (by omega)] at hyear
    have hjan : daysBeforeMonth (y + 1) (1 + 1) = 31 := by
      rw [daysBeforeMonth_succ _ le_rfl, daysBeforeMonth_one]
      rfl
    rw [hyear, daysBeforeYear_succ, yearLength, daysBeforeMonth_three]
    obtain rfl | rfl : mp = 10 ∨ mp = 11 := by omega
    · rw [hmonth, show (10 : ℤ) - 9 = 1 from rfl, daysBeforeMonth_one]
      omega
    · rw [hmonth, show (11 : ℤ) - 9 = 1 + 1 from rfl, hjan]
      omega

/-- The day lies in its month.  For February the length of the year decides. -/
lemma march_day (hdoy : 0 ≤ doy ∧ doy < 365 + leapDays (y + 1)) (hmp : mp = (5 * doy + 2) / 153)
    (hmonth : month = if mp < 10 then mp + 3 else mp - 9)
    (hyear : year = if month ≤ 2 then y + 1 else y) :
    (1 ≤ month ∧ month ≤ 12) ∧
    1 ≤ doy - (153 * mp + 2) / 5 + 1 ∧ doy - (153 * mp + 2) / 5 + 1 ≤ monthLength year month := by
  have hleap : leapDays (y + 1) ≤ 1 := leapDays_le_one _
  by_cases hlt : mp < 10
  · rw [if_pos hlt] at hmonth
    have hlength := monthLength_add_three year (by omega : 0 ≤ mp) (by omega)
    rw [hmonth]
    omega
  · rw [if_neg hlt] at hmonth
    rw [if_pos (by omega)] at hyear
    obtain rfl | rfl : mp = 10 ∨ mp = 11 := by omega
    · have hlength : monthLength year month = 31 := by rw [hmonth]; rfl
      omega
    · have hlength : monthLength year month = 28 + leapDays (y + 1) := by rw [hmonth, hyear]; rfl
      omega

end Month

/-! ## The whole computation -/

section Stages

/-- The values that `format_utc` passes through, under its names. -/
structure Stages (n era doe yoe doy mp : ℕ) : Prop where
  era_eq : era = (n / 86400 + 719468) / 146097
  doe_eq : doe = (n / 86400 + 719468) % 146097
  yoe_eq : yoe = (doe - doe / 1460 + doe / 36524 - doe / 146096) / 365
  doy_eq : doy = doe - (365 * yoe + yoe / 4 - yoe / 100)
  mp_eq : mp = (5 * doy + 2) / 153

lemma exists_stages (n : ℕ) : ∃ era doe yoe doy mp, Stages n era doe yoe doy mp :=
  ⟨_, _, _, _, _, rfl, rfl, rfl, rfl, rfl⟩

variable {n era doe yoe doy mp : ℕ}

namespace Stages

lemma civil_eq (h : Stages n era doe yoe doy mp) :
    civil n =
      { year := if (if mp < 10 then mp + 3 else mp - 9) ≤ 2 then yoe + era * 400 + 1
          else yoe + era * 400
        month := if mp < 10 then mp + 3 else mp - 9
        day := doy - (153 * mp + 2) / 5 + 1
        hour := n % 86400 / 3600
        minute := n % 86400 % 3600 / 60
        second := n % 86400 % 60 } := by
  unfold civil
  dsimp only
  rw [← h.era_eq, ← h.doe_eq, ← h.yoe_eq, ← h.doy_eq, ← h.mp_eq]

lemma doe_lt (h : Stages n era doe yoe doy mp) : doe < 146097 := by
  rw [h.doe_eq]
  exact Nat.mod_lt _ (by decide)

lemma yoe_le (h : Stages n era doe yoe doy mp) : yoe ≤ 399 := (yoe_spec h.doe_lt h.yoe_eq).1

/-- No subtraction of natural numbers is cut off. -/
lemma doy_add (h : Stages n era doe yoe doy mp) : doy + 365 * yoe + yoe / 4 = doe + yoe / 100 := by
  have hstart := (yoe_spec h.doe_lt h.yoe_eq).2.1
  rw [h.doy_eq]
  omega

lemma doy_lt (h : Stages n era doe yoe doy mp) :
    (doy : ℤ) < 365 + leapDays ((yoe + era * 400 : ℕ) + 1) := by
  have hend := (yoe_spec h.doe_lt h.yoe_eq).2.2
  have hle := h.yoe_le
  have hdoy := h.doy_add
  rw [leapDays_add_one]
  omega

lemma mp_le (h : Stages n era doe yoe doy mp) : mp ≤ 11 := by
  have hlt := h.doy_lt
  have hleap := leapDays_le_one ((yoe + era * 400 : ℕ) + 1)
  rw [h.mp_eq]
  omega

/-- The day that the computation starts from is the one of the year and the day it finds. -/
lemma days_eq (h : Stages n era doe yoe doy mp) :
    daysBeforeYear (yoe + era * 400 : ℕ) + daysBeforeMonth (yoe + era * 400 : ℕ) 3 + doy =
      (n / 86400 : ℕ) := by
  have hle := h.yoe_le
  have hdoy := h.doy_add
  have hera := h.era_eq
  have hdoe := h.doe_eq
  rw [daysBefore_march]
  omega

/-- The date is one of the calendar, and its days are those since 1970. -/
lemma civil_date (h : Stages n era doe yoe doy mp) {t : DateTime} (ht : t = (civil n).toDateTime) :
    (1 ≤ t.month ∧ t.month ≤ 12) ∧ (1 ≤ t.day ∧ t.day ≤ monthLength t.year t.month) ∧
    t.days = (n / 86400 : ℕ) := by
  have hmp : (mp : ℤ) = (5 * doy + 2) / 153 := by
    have := h.mp_eq
    omega
  have hmonth : t.month = if (mp : ℤ) < 10 then (mp : ℤ) + 3 else mp - 9 := by
    simp only [ht, h.civil_eq, Civil.toDateTime]
    split_ifs <;> omega
  have hyear : t.year = if t.month ≤ 2 then ((yoe + era * 400 : ℕ) : ℤ) + 1
      else (yoe + era * 400 : ℕ) := by
    simp only [ht, h.civil_eq, Civil.toDateTime]
    split_ifs <;> omega
  have hday : t.day = doy - (153 * mp + 2) / 5 + 1 := by
    simp only [ht, h.civil_eq, Civil.toDateTime]
    omega
  obtain ⟨hmem, hday_mem⟩ := march_day ⟨by omega, h.doy_lt⟩ hmp hmonth hyear
  refine ⟨hmem, hday ▸ hday_mem, ?_⟩
  have hle := h.mp_le
  rw [DateTime.days, march_month ⟨by omega, by omega⟩ hmonth hyear, hday, ← h.days_eq]
  ring

end Stages

end Stages

/-- The fields that `civil` computes are a date and a time of the calendar. -/
lemma civil_valid (n : ℕ) : (civil n).toDateTime.Valid := by
  obtain ⟨era, doe, yoe, doy, mp, h⟩ := exists_stages n
  obtain ⟨hmonth, hday, -⟩ := h.civil_date rfl
  refine ⟨hmonth, hday, ?_, ?_, ?_⟩ <;> simp only [Civil.toDateTime, civil] <;> omega

/-- They count the seconds that `civil` starts from. -/
lemma civil_seconds (n : ℕ) : (civil n).toDateTime.seconds = n := by
  obtain ⟨era, doe, yoe, doy, mp, h⟩ := exists_stages n
  obtain ⟨-, -, hdays⟩ := h.civil_date rfl
  rw [DateTime.seconds, hdays]
  simp only [Civil.toDateTime, civil]
  omega

/-- No operation of `format_utc` overflows. -/
lemma civilChecked_eq (unixSecs : UInt64) :
    civilChecked unixSecs = some (civil unixSecs.toNat).toDateTime := by
  have hn := unixSecs.toNat_lt
  unfold civilChecked
  generalize unixSecs.toNat = n at hn
  obtain ⟨era, doe, yoe, doy, mp, h⟩ := exists_stages n
  -- the number of the day and the time of the day
  iterate 6 refine u64_bind (by omega) ?_
  rw [asI64_eq (by omega)]
  -- the era, and the day of the era
  have hdays : n / 86400 ≤ 213503982334601 := by omega
  have hera := h.era_eq
  have hdoe := h.doe_eq
  refine i64_bind (k := n / 86400 + 719468) (by omega) (by omega) ?_
  refine i64_bind (k := era) (by omega) (by omega) ?_
  refine i64_bind (k := doe) (by omega) (by omega) ?_
  have hera_lt : era < 2 ^ 31 := by omega
  have hdoe_lt := h.doe_lt
  clear hn hdays hera hdoe
  -- the year of the era
  have hyoe := h.yoe_eq
  refine i64_bind (k := doe / 1460) rfl (by omega) ?_
  refine i64_bind (k := doe - doe / 1460) (by omega) (by omega) ?_
  refine i64_bind (k := doe / 36524) rfl (by omega) ?_
  refine i64_bind (k := doe - doe / 1460 + doe / 36524) (by omega) (by omega) ?_
  refine i64_bind (k := doe / 146096) rfl (by omega) ?_
  refine i64_bind (k := doe - doe / 1460 + doe / 36524 - doe / 146096) (by omega) (by omega) ?_
  refine i64_bind (k := yoe) (by rw [hyoe]; rfl) (by omega) ?_
  have hyoe_le := h.yoe_le
  clear hyoe
  refine i64_bind (k := era * 400) (by omega) (by omega) ?_
  refine i64_bind (k := yoe + era * 400) (by omega) (by omega) ?_
  -- the day of the year
  have hdoy := h.doy_eq
  have hadd := h.doy_add
  refine i64_bind (k := 365 * yoe) (by omega) (by omega) ?_
  refine i64_bind (k := yoe / 4) rfl (by omega) ?_
  refine i64_bind (k := 365 * yoe + yoe / 4) (by omega) (by omega) ?_
  refine i64_bind (k := yoe / 100) rfl (by omega) ?_
  refine i64_bind (k := 365 * yoe + yoe / 4 - yoe / 100) (by omega) (by omega) ?_
  refine i64_bind (k := doy) (by omega) (by omega) ?_
  have hdoy_le : doy < 146097 := by omega
  clear hdoy hadd
  -- the month, and the day of the month
  have hmp := h.mp_eq
  have hmp_le := h.mp_le
  refine i64_bind (k := 5 * doy) (by omega) (by omega) ?_
  refine i64_bind (k := 5 * doy + 2) (by omega) (by omega) ?_
  refine i64_bind (k := mp) (by rw [hmp]; rfl) (by omega) ?_
  refine i64_bind (k := 153 * mp) (by omega) (by omega) ?_
  refine i64_bind (k := 153 * mp + 2) (by omega) (by omega) ?_
  refine i64_bind (k := (153 * mp + 2) / 5) rfl (by omega) ?_
  refine i64_bind (k := doy - (153 * mp + 2) / 5) (by omega) (by omega) ?_
  refine i64_bind (k := doy - (153 * mp + 2) / 5 + 1) (by omega) (by omega) ?_
  rw [← apply_ite i64]
  refine i64_bind (k := if mp < 10 then mp + 3 else mp - 9) (by split_ifs <;> omega)
    (by split_ifs <;> omega) ?_
  rw [h.civil_eq]
  generalize (if mp < 10 then mp + 3 else mp - 9) = month
  by_cases hmonth : month ≤ 2
  · rw [if_pos (by omega), if_pos hmonth]
    refine i64_bind (k := yoe + era * 400 + 1) (by omega) (by omega) ?_
    rfl
  · rw [if_neg (by omega), if_neg hmonth]
    rfl

/-- `format_utc` inverts the calendar.  On every number of seconds none of its operations overflows,
and the fields that it prints, which can be read back from the text, are the only date and time of
the calendar that is this number of seconds after the start of 1970. -/
theorem formatUtc_inverse (unixSecs : UInt64) :
    ∃ t : DateTime,
      civilChecked unixSecs = some t ∧
      formatUtcChecked unixSecs = some (printUtc t) ∧
      printUtc t = formatUtc unixSecs.toNat ∧
      readUtc (printUtc t) = some t ∧
      t.Valid ∧ t.seconds = unixSecs.toNat ∧
      ∀ t' : DateTime, t'.Valid → t'.seconds = unixSecs.toNat → t' = t := by
  have hchecked := civilChecked_eq unixSecs
  have hvalid := civil_valid unixSecs.toNat
  have hseconds := civil_seconds unixSecs.toNat
  refine ⟨_, hchecked, by rw [formatUtcChecked, hchecked]; rfl,
    printUtc_toDateTime_civil _, readUtc_printUtc _, hvalid, hseconds, ?_⟩
  intro t' hvalid' hseconds'
  exact DateTime.seconds_injOn hvalid' hvalid (hseconds'.trans hseconds.symm)

end Rfw.Notify
