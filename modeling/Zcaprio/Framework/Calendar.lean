import Mathlib.Algebra.Order.Ring.Int
import Mathlib.Tactic.IntervalCases

/-!
# The proleptic Gregorian calendar

Dates as records that carry their own validity, the day count that makes the
calendar order an order of integers, completed years between two dates, and
the date a number of years before a given one with the leap day clamped to
February 28.
-/

namespace Zcaprio.Calendar

/-- Gregorian leap years. -/
def isLeap (year : ℤ) : Bool := year % 4 = 0 ∧ (year % 100 ≠ 0 ∨ year % 400 = 0)

/-- Length of a month; `0` outside January to December. -/
def daysInMonth (year : ℤ) (month : ℕ) : ℕ :=
  match month with
  | 1 | 3 | 5 | 7 | 8 | 10 | 12 => 31
  | 4 | 6 | 9 | 11 => 30
  | 2 => if isLeap year then 29 else 28
  | _ => 0

/-- A calendar date that exists. -/
structure Date where
  year : ℤ
  month : ℕ
  day : ℕ
  valid : 1 ≤ day ∧ day ≤ daysInMonth year month
  deriving DecidableEq

theorem isLeap_iff (year : ℤ) :
    isLeap year = true ↔ year % 4 = 0 ∧ (year % 100 ≠ 0 ∨ year % 400 = 0) := by
  simp [isLeap]

namespace Date

@[ext] theorem ext {a b : Date} (hy : a.year = b.year) (hm : a.month = b.month)
    (hd : a.day = b.day) : a = b := by
  cases a; cases b; simp_all

/-- Calendar order: year, then month, then day. -/
instance : LE Date where
  le a b := a.year < b.year ∨ a.year = b.year ∧
    (a.month < b.month ∨ a.month = b.month ∧ a.day ≤ b.day)

instance : LT Date where
  lt a b := a.year < b.year ∨ a.year = b.year ∧
    (a.month < b.month ∨ a.month = b.month ∧ a.day < b.day)

theorem le_iff (a b : Date) : a ≤ b ↔ a.year < b.year ∨ a.year = b.year ∧
    (a.month < b.month ∨ a.month = b.month ∧ a.day ≤ b.day) := Iff.rfl

theorem lt_iff (a b : Date) : a < b ↔ a.year < b.year ∨ a.year = b.year ∧
    (a.month < b.month ∨ a.month = b.month ∧ a.day < b.day) := Iff.rfl

instance (a b : Date) : Decidable (a ≤ b) := decidable_of_iff _ (le_iff a b).symm
instance (a b : Date) : Decidable (a < b) := decidable_of_iff _ (lt_iff a b).symm

instance : LinearOrder Date where
  le_refl a := (le_iff a a).mpr (by omega)
  le_trans a b c hab hbc := by simp only [le_iff] at *; omega
  lt_iff_le_not_ge a b := by
    rw [le_iff, le_iff, lt_iff]
    omega
  le_antisymm a b hab hba := by
    simp only [le_iff] at hab hba
    exact Date.ext (by omega) (by omega) (by omega)
  le_total a b := by
    rw [le_iff, le_iff]
    omega
  toDecidableLE := inferInstance
  toDecidableLT := inferInstance

theorem year_le {a b : Date} (h : a ≤ b) : a.year ≤ b.year := by
  rw [le_iff] at h
  omega

theorem month_bounds (a : Date) : 1 ≤ a.month ∧ a.month ≤ 12 := by
  obtain ⟨h1, h2⟩ := a.valid
  unfold daysInMonth at h2
  split at h2 <;> omega

theorem day_le (a : Date) : a.day ≤ 31 := by
  have h := a.valid.2
  unfold daysInMonth at h
  split at h <;> first | omega | (split at h <;> omega)

end Date

/-! ## Day numbers -/

/-- Days from the start of year 1 to the start of `year`. -/
def daysBeforeYear (year : ℤ) : ℤ :=
  365 * (year - 1) + (year - 1) / 4 - (year - 1) / 100 + (year - 1) / 400

/-- Days from the start of `year` to the start of `month`. -/
def daysBeforeMonth (year : ℤ) (month : ℕ) : ℕ :=
  match month with
  | 2 => 31
  | 3 => 59 + (isLeap year).toNat
  | 4 => 90 + (isLeap year).toNat
  | 5 => 120 + (isLeap year).toNat
  | 6 => 151 + (isLeap year).toNat
  | 7 => 181 + (isLeap year).toNat
  | 8 => 212 + (isLeap year).toNat
  | 9 => 243 + (isLeap year).toNat
  | 10 => 273 + (isLeap year).toNat
  | 11 => 304 + (isLeap year).toNat
  | 12 => 334 + (isLeap year).toNat
  | _ => 0

/-- The day count of a date; January 1 of year 1 is day 1. -/
def Date.dayNumber (d : Date) : ℤ :=
  daysBeforeYear d.year + daysBeforeMonth d.year d.month + d.day

/-- Consecutive years start a year's length apart. -/
theorem daysBeforeYear_succ (year : ℤ) :
    daysBeforeYear (year + 1) = daysBeforeYear year + 365 + (isLeap year).toNat := by
  unfold daysBeforeYear
  -- the three quotients step together exactly at the leap year
  rcases hleap : isLeap year with _ | _
  · have h := mt (isLeap_iff year).mpr (by simp [hleap])
    simp only [Bool.toNat_false]
    omega
  · have h := (isLeap_iff year).mp hleap
    simp only [Bool.toNat_true]
    omega

theorem daysBeforeMonth_succ {year : ℤ} {month : ℕ} (h1 : 1 ≤ month) (h2 : month < 12) :
    daysBeforeMonth year (month + 1) = daysBeforeMonth year month + daysInMonth year month := by
  interval_cases month <;> cases h : isLeap year <;> simp [daysBeforeMonth, daysInMonth, h]

/-- A whole number of years adds at least that many years' days. -/
theorem daysBeforeYear_add (year : ℤ) (n : ℕ) :
    daysBeforeYear year + 365 * n ≤ daysBeforeYear (year + n) := by
  induction n with
  | zero => simp
  | succ n ih =>
      have h := daysBeforeYear_succ (year + n)
      push_cast
      rw [← add_assoc, h]
      omega

theorem daysBeforeMonth_mono {year : ℤ} {m m' : ℕ} (h1 : 1 ≤ m) (h : m < m') (h2 : m' ≤ 12) :
    daysBeforeMonth year m + daysInMonth year m ≤ daysBeforeMonth year m' := by
  obtain ⟨k, rfl⟩ := Nat.exists_eq_add_of_lt h
  induction k with
  | zero =>
      rw [Nat.add_zero, daysBeforeMonth_succ h1 (by omega)]
  | succ k ih =>
      rw [show m + (k + 1) + 1 = (m + k + 1) + 1 by omega,
        daysBeforeMonth_succ (by omega) (by omega)]
      have := ih (by omega) (by omega)
      omega

/-- The last day of a year. -/
theorem dayOfYear_le {year : ℤ} {m d : ℕ} (hm : 1 ≤ m) (hm' : m ≤ 12)
    (hd : d ≤ daysInMonth year m) :
    daysBeforeMonth year m + d ≤ 365 + (isLeap year).toNat := by
  have hdec : daysBeforeMonth year 12 + daysInMonth year 12 = 365 + (isLeap year).toNat := by
    simp [daysBeforeMonth, daysInMonth]; omega
  rcases Nat.lt_or_ge m 12 with h | h
  · have hlast : daysBeforeMonth year m + daysInMonth year m ≤ daysBeforeMonth year 12 :=
      daysBeforeMonth_mono hm h (Nat.le_refl 12)
    omega
  · obtain rfl : m = 12 := by omega
    omega

theorem Date.dayNumber_lt_of_lt {a b : Date} (h : a < b) : a.dayNumber < b.dayNumber := by
  obtain ⟨ha1, ha2⟩ := a.valid
  obtain ⟨hb1, hb2⟩ := b.valid
  obtain ⟨ham, ham'⟩ := a.month_bounds
  obtain ⟨hbm, hbm'⟩ := b.month_bounds
  unfold Date.dayNumber
  rcases (Date.lt_iff a b).mp h with hy | ⟨hy, hm | ⟨hm, hd⟩⟩
  · -- an earlier year ends before the later one starts
    have hlast := dayOfYear_le ham ham' ha2
    have hnext := daysBeforeYear_succ a.year
    have hgrow := daysBeforeYear_add (a.year + 1) (b.year - a.year - 1).toNat
    have hb : a.year + 1 + ((b.year - a.year - 1).toNat : ℤ) = b.year := by omega
    rw [hb] at hgrow
    omega
  · -- an earlier month of the same year ends before the later one starts
    have hlast : daysBeforeMonth a.year a.month + daysInMonth a.year a.month ≤
        daysBeforeMonth a.year b.month := daysBeforeMonth_mono ham hm hbm'
    rw [← hy]
    omega
  · rw [← hy, ← hm]
    omega

/-- Day numbers count days: the calendar order is the order of the numbers. -/
theorem Date.dayNumber_lt_iff {a b : Date} : a.dayNumber < b.dayNumber ↔ a < b := by
  constructor
  · intro h
    rcases lt_trichotomy a b with hab | rfl | hba
    · exact hab
    · exact absurd h (lt_irrefl _)
    · exact absurd (Date.dayNumber_lt_of_lt hba) (by omega)
  · exact Date.dayNumber_lt_of_lt

theorem Date.dayNumber_le_iff {a b : Date} : a.dayNumber ≤ b.dayNumber ↔ a ≤ b := by
  rw [← not_lt, Date.dayNumber_lt_iff, not_lt]

theorem Date.dayNumber_injective : Function.Injective Date.dayNumber := by
  intro a b h
  exact le_antisymm (Date.dayNumber_le_iff.mp (le_of_eq h))
    (Date.dayNumber_le_iff.mp (le_of_eq h.symm))

/-- The next day. -/
def Date.next (d : Date) : Date :=
  if h : d.day < daysInMonth d.year d.month then
    ⟨d.year, d.month, d.day + 1, by omega⟩
  else if h' : d.month < 12 then
    ⟨d.year, d.month + 1, 1, by
      have := d.month_bounds
      obtain ⟨y, m, day, hv⟩ := d
      simp only at this h' ⊢
      -- every month has a first day
      interval_cases m <;> simp [daysInMonth]
      split <;> omega⟩
  else
    ⟨d.year + 1, 1, 1, by simp [daysInMonth]⟩

/-- The count is exact: the next day has the next number. -/
theorem Date.dayNumber_next (d : Date) : d.next.dayNumber = d.dayNumber + 1 := by
  obtain ⟨hm, hm'⟩ := d.month_bounds
  obtain ⟨hd, hd'⟩ := d.valid
  unfold Date.next
  split
  · simp [Date.dayNumber]; omega
  · split
    · have h : daysBeforeMonth d.year (d.month + 1) =
          daysBeforeMonth d.year d.month + daysInMonth d.year d.month :=
        daysBeforeMonth_succ hm ‹_›
      simp only [Date.dayNumber, h]
      omega
    · -- December 31
      obtain hdec : d.month = 12 := by omega
      have h := daysBeforeYear_succ d.year
      simp only [Date.dayNumber, hdec, h, daysBeforeMonth, daysInMonth] at *
      omega

/-! ## Years between dates -/

/-- Completed years of someone born on `birth`, at the date `asOf`. -/
def completedYears (birth asOf : Date) : ℤ :=
  asOf.year - birth.year -
    if asOf.month < birth.month ∨ asOf.month = birth.month ∧ asOf.day < birth.day then 1 else 0

/-- February 29 becomes February 28, every other day stays. -/
def clampLeapDay (month day : ℕ) : ℕ := if month = 2 ∧ day = 29 then 28 else day

/-- Only February depends on the year. -/
theorem daysInMonth_of_ne_february {year year' : ℤ} {month : ℕ} (h : month ≠ 2) :
    daysInMonth year month = daysInMonth year' month := by
  unfold daysInMonth
  split <;> simp_all

theorem clampLeapDay_valid (d : Date) (year : ℤ) :
    1 ≤ clampLeapDay d.month d.day ∧
      clampLeapDay d.month d.day ≤ daysInMonth year d.month := by
  obtain ⟨h1, h2⟩ := d.valid
  unfold clampLeapDay
  by_cases h : d.month = 2
  · have h28 : 28 ≤ daysInMonth year d.month := by
      rw [h]; cases hl : isLeap year <;> simp [daysInMonth, hl]
    have h29 : daysInMonth d.year d.month ≤ 29 := by
      rw [h]; cases hl : isLeap d.year <;> simp [daysInMonth, hl]
    split <;> omega
  · -- outside February the day stays, and so does the length of the month
    rw [if_neg (fun hc => h hc.1), ← daysInMonth_of_ne_february h]
    exact ⟨h1, h2⟩

/-- The date `n` years before `d`, clamped. -/
def Date.yearsBefore (d : Date) (n : ℤ) : Date :=
  ⟨d.year - n, d.month, clampLeapDay d.month d.day, clampLeapDay_valid d _⟩

/-- The leap day of a leap year: the one day the clamp moves although it
exists in the earlier year. -/
def Date.clampMoves (d : Date) (n : ℤ) : Prop :=
  d.month = 2 ∧ d.day = 29 ∧ isLeap (d.year - n) = true

instance (d : Date) (n : ℤ) : Decidable (d.clampMoves n) := by
  unfold Date.clampMoves; infer_instance

/-- Two leap days `n` years apart. -/
def LeapDaysApart (birth asOf : Date) (n : ℤ) : Prop :=
  (birth.month = 2 ∧ birth.day = 29) ∧ (asOf.month = 2 ∧ asOf.day = 29) ∧
    birth.year = asOf.year - n

instance (birth asOf : Date) (n : ℤ) : Decidable (LeapDaysApart birth asOf n) := by
  unfold LeapDaysApart; infer_instance

/-- On leap days `n` years apart exactly `n` years are completed. -/
theorem completedYears_of_leapDaysApart {birth asOf : Date} {n : ℤ}
    (h : LeapDaysApart birth asOf n) : completedYears birth asOf = n := by
  obtain ⟨⟨hm, hd⟩, ⟨hm', hd'⟩, hyear⟩ := h
  unfold completedYears
  rw [hm, hd, hm', hd', hyear]
  simp

/-- Born no later than the clamped date `n` years before `asOf` is the same as
having completed `n` years, except for someone born on the leap day the clamp moved. -/
theorem le_yearsBefore_iff_and {birth asOf : Date} {n : ℤ} :
    birth ≤ asOf.yearsBefore n ↔
      n ≤ completedYears birth asOf ∧ ¬ LeapDaysApart birth asOf n := by
  have hfebruary : birth.month = 2 → birth.day ≤ 29 := by
    intro hm
    have hvalid := birth.valid.2
    rw [hm] at hvalid
    cases hl : isLeap birth.year <;> simp [daysInMonth, hl] at hvalid <;> omega
  rw [Date.le_iff]
  simp only [Date.yearsBefore, completedYears, clampLeapDay, LeapDaysApart]
  by_cases hleapDay : asOf.month = 2 ∧ asOf.day = 29
  · -- compared with February 28, where the anniversary is February 29
    rw [if_pos hleapDay]
    split <;> omega
  · rw [if_neg hleapDay]
    split <;> omega

/-- Where the threshold year has no leap day there is no exception. -/
theorem le_yearsBefore_iff {birth asOf : Date} {n : ℤ} (h : ¬ asOf.clampMoves n) :
    birth ≤ asOf.yearsBefore n ↔ n ≤ completedYears birth asOf := by
  rw [le_yearsBefore_iff_and]
  refine and_iff_left ?_
  rintro ⟨⟨hm, hd⟩, hasOf, hyear⟩
  apply h
  refine ⟨hasOf.1, hasOf.2, ?_⟩
  -- someone was born on February 29 of that year
  have hvalid := birth.valid.2
  rw [hm, hd, hyear] at hvalid
  cases hl : isLeap (asOf.year - n)
  · simp [daysInMonth, hl] at hvalid
  · rfl

/-- Later dates and fewer years give later dates, clamped or not. -/
theorem Date.yearsBefore_mono {a b : Date} {m n : ℤ} (hab : a ≤ b) (hmn : m ≤ n) :
    a.yearsBefore n ≤ b.yearsBefore m := by
  rw [Date.le_iff] at hab ⊢
  simp only [Date.yearsBefore, clampLeapDay]
  -- in one threshold year both the years and the dates' years agree
  rcases hab with hyear | ⟨hyear, hmonth | ⟨hmonth, hday⟩⟩
  · exact Or.inl (by omega)
  · omega
  · split <;> split <;> omega

end Zcaprio.Calendar
