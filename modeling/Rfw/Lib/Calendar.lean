/-
# The proleptic Gregorian calendar

The calendar that the rules of today give when they are carried back and forth without end.  A date
is counted from the first of January 1970: the days of the whole years, of the whole months and of
the month that has begun.  Nothing here computes a date from a number of days; that the days of a
date determine it is proved from the lengths of the years and of the months.
-/
import Mathlib.Algebra.Order.BigOperators.Group.Finset
import Mathlib.Data.Int.ConditionallyCompleteOrder
import Mathlib.Data.Int.SuccPred
import Mathlib.Tactic.IntervalCases
import Mathlib.Tactic.Ring

namespace Lib

/-! ## Years and months -/

/-- Every fourth year is a leap year, but of the centuries only every fourth is. -/
def IsLeap (y : ℤ) : Prop := 4 ∣ y ∧ (100 ∣ y → 400 ∣ y)

instance : DecidablePred IsLeap := fun y =>
  inferInstanceAs (Decidable (4 ∣ y ∧ (100 ∣ y → 400 ∣ y)))

/-- The number of leap days of a year. -/
def leapDays (y : ℤ) : ℤ := if IsLeap y then 1 else 0

def yearLength (y : ℤ) : ℤ := 365 + leapDays y

/-- The days of the `m`-th month of the year `y`. -/
def monthLength (y m : ℤ) : ℤ :=
  if m = 2 then 28 + leapDays y else if m = 4 ∨ m = 6 ∨ m = 9 ∨ m = 11 then 30 else 31

/-- The days of a year before its `m`-th month. -/
def daysBeforeMonth (y m : ℤ) : ℤ := ∑ k ∈ Finset.range (m - 1).toNat, monthLength y (1 + k)

/-- The days from the start of 1970 to the start of the year `y`: those of the years from 1970 on,
less those of the years from 1969 back to `y`. -/
def daysBeforeYear (y : ℤ) : ℤ :=
  ∑ k ∈ Finset.range (y - 1970).toNat, yearLength (1970 + k) -
    ∑ k ∈ Finset.range (1970 - y).toNat, yearLength (1969 - k)

lemma leapDays_nonneg (y : ℤ) : 0 ≤ leapDays y := by
  unfold leapDays
  split_ifs <;> decide

lemma leapDays_le_one (y : ℤ) : leapDays y ≤ 1 := by
  unfold leapDays
  split_ifs <;> decide

lemma yearLength_pos (y : ℤ) : 0 < yearLength y := by
  have := leapDays_nonneg y
  unfold yearLength
  omega

lemma monthLength_pos (y m : ℤ) : 0 < monthLength y m := by
  have := leapDays_nonneg y
  unfold monthLength
  split_ifs <;> omega

lemma daysBeforeYear_succ (y : ℤ) :
    daysBeforeYear (y + 1) = daysBeforeYear y + yearLength y := by
  unfold daysBeforeYear
  obtain h | h := le_or_gt 1970 y
  · have hyear : 1970 + ((y - 1970).toNat : ℤ) = y := by omega
    rw [show (y + 1 - 1970).toNat = (y - 1970).toNat + 1 by omega, Finset.sum_range_succ, hyear,
      show (1970 - (y + 1)).toNat = 0 by omega, show (1970 - y).toNat = 0 by omega]
    ring
  · have hyear : 1969 - ((1970 - (y + 1)).toNat : ℤ) = y := by omega
    rw [show (1970 - y).toNat = (1970 - (y + 1)).toNat + 1 by omega, Finset.sum_range_succ, hyear,
      show (y + 1 - 1970).toNat = 0 by omega, show (y - 1970).toNat = 0 by omega]
    ring

lemma daysBeforeYear_strictMono : StrictMono daysBeforeYear :=
  strictMono_int_of_lt_succ fun y => by
    have := yearLength_pos y
    rw [daysBeforeYear_succ]
    omega

@[simp] lemma daysBeforeMonth_one (y : ℤ) : daysBeforeMonth y 1 = 0 := by simp [daysBeforeMonth]

lemma daysBeforeMonth_succ (y : ℤ) {m : ℤ} (hm : 1 ≤ m) :
    daysBeforeMonth y (m + 1) = daysBeforeMonth y m + monthLength y m := by
  have hmonth : 1 + ((m - 1).toNat : ℤ) = m := by omega
  unfold daysBeforeMonth
  rw [show (m + 1 - 1).toNat = (m - 1).toNat + 1 by omega, Finset.sum_range_succ, hmonth]

lemma daysBeforeMonth_mono (y : ℤ) : Monotone (daysBeforeMonth y) := by
  intro m m' h
  have hrange : Finset.range (m - 1).toNat ⊆ Finset.range (m' - 1).toNat :=
    Finset.range_subset_range.mpr (by omega)
  exact Finset.sum_le_sum_of_subset_of_nonneg hrange fun k _ _ => (monthLength_pos y _).le

/-! ## The year that begins in March -/

lemma daysBeforeMonth_three (y : ℤ) : daysBeforeMonth y 3 = 59 + leapDays y := by
  have hjan : monthLength y 1 = 31 := rfl
  have hfeb : monthLength y (1 + 1) = 28 + leapDays y := rfl
  rw [show (3 : ℤ) = 1 + 1 + 1 from rfl, daysBeforeMonth_succ y (by decide),
    daysBeforeMonth_succ y (by decide), daysBeforeMonth_one, hjan, hfeb]
  ring

/-- With February at the end of the year a leap day is the last of its year, and the three rules
are the steps of three divisions. -/
lemma leapDays_add_one (y : ℤ) :
    leapDays (y + 1) =
      ((y + 1) / 4 - y / 4) - ((y + 1) / 100 - y / 100) + ((y + 1) / 400 - y / 400) := by
  simp only [leapDays, IsLeap]
  split_ifs <;> omega

/-- The days before the first of March. -/
lemma daysBefore_march (y : ℤ) :
    daysBeforeYear y + daysBeforeMonth y 3 = 365 * y + y / 4 - y / 100 + y / 400 - 719468 := by
  rw [daysBeforeMonth_three]
  -- both sides grow by 365 days and by the leap day of the next year
  induction y using Int.inductionOn' (b := 1970) with
  | zero => decide
  | succ y _ ih =>
    have hleap := leapDays_add_one y
    rw [daysBeforeYear_succ, yearLength]
    omega
  | pred y _ ih =>
    have hleap := leapDays_add_one (y - 1)
    have hyear := daysBeforeYear_succ (y - 1)
    rw [yearLength] at hyear
    rw [sub_add_cancel] at hleap hyear
    omega

/-- From March on every five months have 153 days. -/
lemma monthLength_add_three (y : ℤ) {k : ℤ} (hk : 0 ≤ k) (hk' : k ≤ 9) :
    monthLength y (k + 3) = (153 * (k + 1) + 2) / 5 - (153 * k + 2) / 5 := by
  interval_cases k <;> rfl

lemma daysBeforeMonth_add_three (y : ℤ) {k : ℤ} (hk : 0 ≤ k) (hk' : k ≤ 10) :
    daysBeforeMonth y (k + 3) = daysBeforeMonth y 3 + (153 * k + 2) / 5 := by
  induction k, hk using Int.leInduction with
  | base => simp
  | succ k hk ih =>
    have ih := ih (by omega)
    have hlength := monthLength_add_three y hk (by omega)
    rw [show k + 1 + 3 = k + 3 + 1 by ring, daysBeforeMonth_succ y (by omega)]
    omega

/-- The months fill the year. -/
lemma daysBeforeMonth_thirteen (y : ℤ) : daysBeforeMonth y 13 = yearLength y := by
  rw [show (13 : ℤ) = 10 + 3 from rfl, daysBeforeMonth_add_three y (by decide) le_rfl,
    daysBeforeMonth_three, yearLength]
  omega

/-! ## Dates and times -/

/-- A date with a time of day. -/
structure DateTime where
  year : ℤ
  month : ℤ
  day : ℤ
  hour : ℤ
  minute : ℤ
  second : ℤ
deriving DecidableEq, Repr

namespace DateTime

/-- The date is one of the calendar, and the time is one of the day. -/
structure Valid (t : DateTime) : Prop where
  month : 1 ≤ t.month ∧ t.month ≤ 12
  day : 1 ≤ t.day ∧ t.day ≤ monthLength t.year t.month
  hour : 0 ≤ t.hour ∧ t.hour < 24
  minute : 0 ≤ t.minute ∧ t.minute < 60
  second : 0 ≤ t.second ∧ t.second < 60

/-- The days from the first of January 1970 to the date. -/
def days (t : DateTime) : ℤ :=
  daysBeforeYear t.year + daysBeforeMonth t.year t.month + (t.day - 1)

/-- The seconds from the start of 1970, without leap seconds. -/
def seconds (t : DateTime) : ℤ :=
  86400 * t.days + 3600 * t.hour + 60 * t.minute + t.second

/-- A value lies between two neighbouring values of a monotone function in one place at most. -/
lemma eq_of_mem_step {f : ℤ → ℤ} (hf : Monotone f) {k k' n : ℤ} (hk : f k ≤ n) (hlt : n < f (k + 1))
    (hk' : f k' ≤ n) (hlt' : n < f (k' + 1)) : k = k' := by
  have hle : k < k' + 1 := hf.reflect_lt (hk.trans_lt hlt')
  have hge : k' < k + 1 := hf.reflect_lt (hk'.trans_lt hlt)
  omega

variable {t t' : DateTime}

lemma Valid.day_lt (h : t.Valid) :
    daysBeforeMonth t.year t.month + (t.day - 1) < daysBeforeMonth t.year (t.month + 1) := by
  have := h.day.2
  rw [daysBeforeMonth_succ _ h.month.1]
  omega

lemma Valid.days_lt (h : t.Valid) : t.days < daysBeforeYear (t.year + 1) := by
  have hmonth := daysBeforeMonth_mono t.year (by have := h.month.2; omega : t.month + 1 ≤ 13)
  have := h.day_lt
  rw [daysBeforeMonth_thirteen] at hmonth
  rw [daysBeforeYear_succ, days]
  omega

lemma Valid.le_days (h : t.Valid) : daysBeforeYear t.year ≤ t.days := by
  have hmonth := daysBeforeMonth_mono t.year h.month.1
  have := h.day.1
  rw [daysBeforeMonth_one] at hmonth
  rw [days]
  omega

/-- The seconds determine the date and the time: first the year, then the month. -/
lemma seconds_injOn : Set.InjOn seconds {t | t.Valid} := by
  intro t h t' h' heq
  have := h.hour
  have := h'.hour
  have := h.minute
  have := h'.minute
  have := h.second
  have := h'.second
  simp only [seconds] at heq
  have hdays : t.days = t'.days := by omega
  have hyear : t.year = t'.year := eq_of_mem_step daysBeforeYear_strictMono.monotone
    h.le_days h.days_lt (hdays ▸ h'.le_days) (hdays ▸ h'.days_lt)
  have hmonth : t.month = t'.month := by
    have hlt := h.day_lt
    have hlt' := h'.day_lt
    have := h.day.1
    have := h'.day.1
    simp only [days, hyear] at hdays hlt
    exact eq_of_mem_step (daysBeforeMonth_mono t'.year)
      (n := daysBeforeMonth t'.year t.month + (t.day - 1)) (by omega) hlt (by omega) (by omega)
  have hday : t.day = t'.day := by
    simp only [days, hyear, hmonth] at hdays
    omega
  obtain ⟨year, month, day, hour, minute, second⟩ := t
  obtain ⟨year', month', day', hour', minute', second'⟩ := t'
  simp only [mk.injEq] at *
  omega

end DateTime

end Lib
