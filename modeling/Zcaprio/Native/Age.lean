import Zcaprio.Framework.Calendar
import Zcaprio.Native.Encoding

/-!
# Birth days

`age.rs` over the date library it uses. Dates, their order, their day
difference and their `%Y-%m-%d` text are the Gregorian ones; the library's
lenient parser is a parameter of which only one fact is used, that it reads
back what the formatter wrote.
-/

namespace Zcaprio

open Calendar

/-! ## The date library -/

abbrev NaiveDate := Date

namespace NaiveDate

/-- The years the library can represent. -/
def minYear : ℤ := -262143
def maxYear : ℤ := 262142

/-- `NaiveDate::from_ymd_opt`. -/
def fromYmdOpt (year : ℤ) (month day : ℕ) : Option NaiveDate :=
  if h : (minYear ≤ year ∧ year ≤ maxYear) ∧ 1 ≤ day ∧ day ≤ daysInMonth year month then
    some ⟨year, month, day, h.2⟩
  else none

/-- A date in the representable years is the one its fields name. -/
theorem fromYmdOpt_self (d : NaiveDate) (h : minYear ≤ d.year ∧ d.year ≤ maxYear) :
    fromYmdOpt d.year d.month d.day = some d := by
  unfold fromYmdOpt
  rw [dif_pos ⟨h, d.valid⟩]

def digit (n : ℕ) : Char := Char.ofNat (48 + n % 10)

def twoDigits (n : ℕ) : List Char := [digit (n / 10), digit n]

def fourDigits (n : ℕ) : List Char := [digit (n / 1000), digit (n / 100), digit (n / 10), digit n]

/-- `%Y`: four digits, and a sign outside the years 0 to 9999. -/
def formatYear (year : ℤ) : List Char :=
  if 0 ≤ year ∧ year ≤ 9999 then fourDigits year.toNat
  else (if year < 0 then '-' else '+') ::
    if year.natAbs ≤ 9999 then fourDigits year.natAbs else Nat.toDigits 10 year.natAbs

/-- `format("%Y-%m-%d")`. -/
def format (d : NaiveDate) : String :=
  String.ofList (formatYear d.year ++ '-' :: twoDigits d.month ++ '-' :: twoDigits d.day)

end NaiveDate

/-- The date library's `NaiveDate::parse_from_str` at `%Y-%m-%d`. -/
class Chrono where
  parseFromStr : String → Option NaiveDate
  parse_format : ∀ d : NaiveDate, 0 ≤ d.year → d.year ≤ 9999 →
    parseFromStr (NaiveDate.format d) = some d

/-! ## Birth days -/

def firstSupportedDay : String := "1900-01-01"
def lastSupportedDay : String := "2099-12-31"

/-- The dates these two texts name. -/
def firstDate : NaiveDate := ⟨1900, 1, 1, by decide⟩
def lastDate : NaiveDate := ⟨2099, 12, 31, by decide⟩

/-- A date within the protocol's supported range. -/
structure BirthDay where
  date : NaiveDate
  supported : firstDate ≤ date ∧ date ≤ lastDate
  deriving DecidableEq

/-- The length of the supported range. -/
theorem dayNumber_lastDate : lastDate.dayNumber = firstDate.dayNumber + 73048 := by
  decide

theorem supported_iff_year (d : NaiveDate) :
    (firstDate ≤ d ∧ d ≤ lastDate) ↔ 1900 ≤ d.year ∧ d.year ≤ 2099 := by
  have hm := d.month_bounds
  have h1 := d.valid.1
  have h31 := d.day_le
  rw [Date.le_iff, Date.le_iff]
  simp only [firstDate, lastDate]
  omega

namespace BirthDay

@[ext] theorem ext {a b : BirthDay} (h : a.date = b.date) : a = b := by
  cases a; cases b; simp_all

/-- The derived order compares the dates. -/
instance : LT BirthDay where
  lt a b := a.date < b.date

instance : LE BirthDay where
  le a b := a.date ≤ b.date

theorem lt_iff (a b : BirthDay) : a < b ↔ a.date < b.date := Iff.rfl

theorem le_iff (a b : BirthDay) : a ≤ b ↔ a.date ≤ b.date := Iff.rfl

instance (a b : BirthDay) : Decidable (a ≤ b) := inferInstanceAs (Decidable (a.date ≤ b.date))

theorem year_bounds (b : BirthDay) : 1900 ≤ b.date.year ∧ b.date.year ≤ 2099 :=
  (supported_iff_year b.date).mp b.supported

/-- `to_iso_string`. -/
def toIsoString (b : BirthDay) : String := NaiveDate.format b.date

section Parsing

variable [Chrono]

theorem firstSupportedDay_parses : Chrono.parseFromStr firstSupportedDay = some firstDate := by
  have h : firstSupportedDay = NaiveDate.format firstDate := by decide
  rw [h]
  exact Chrono.parse_format firstDate (by decide) (by decide)

theorem lastSupportedDay_parses : Chrono.parseFromStr lastSupportedDay = some lastDate := by
  have h : lastSupportedDay = NaiveDate.format lastDate := by decide
  rw [h]
  exact Chrono.parse_format lastDate (by decide) (by decide)

/-- The two `expect`s on the fixed supported days never fire. -/
def firstDay : NaiveDate :=
  (Chrono.parseFromStr firstSupportedDay).get (by rw [firstSupportedDay_parses]; rfl)

def lastDay : NaiveDate :=
  (Chrono.parseFromStr lastSupportedDay).get (by rw [lastSupportedDay_parses]; rfl)

@[simp] theorem firstDay_eq : firstDay = firstDate := by
  simp [firstDay, firstSupportedDay_parses]

@[simp] theorem lastDay_eq : lastDay = lastDate := by
  simp [lastDay, lastSupportedDay_parses]

/-- Parses a date in canonical form: parse, check the range, and compare with
the text the formatter writes. -/
def parseIso (value : String) : Except PrimitiveError BirthDay :=
  match Chrono.parseFromStr value with
  | none => .error .InvalidDate
  | some date =>
    -- the last test makes the lenient parser strict
    if h : date < firstDay ∨ date > lastDay ∨ NaiveDate.format date ≠ value then
      .error .InvalidDate
    else
      .ok ⟨date, by
        rw [firstDay_eq, lastDay_eq] at h
        simp only [not_or, not_lt, gt_iff_lt] at h
        exact ⟨h.1, h.2.1⟩⟩

/-- Whole days since 1900-01-01: the signed day difference, cast to 32 bits. -/
def daysSince1900 (b : BirthDay) : ℕ :=
  ((b.date.dayNumber - firstDay.dayNumber) % 2 ^ 32).toNat

/-- `from_date`: through the text form. -/
def fromDate (value : NaiveDate) : Except PrimitiveError BirthDay :=
  parseIso (NaiveDate.format value)

/-- `Deserialize` through `TryFrom<String>`; the error is the displayed text. -/
def deserialize (value : String) : Except String BirthDay :=
  (parseIso value).mapError PrimitiveError.message

/-- The text of a birth day is accepted and names it. -/
theorem parseIso_toIsoString (b : BirthDay) : parseIso b.toIsoString = .ok b := by
  have hy := b.year_bounds
  have hparse := Chrono.parse_format b.date (by omega) (by omega)
  have hrange : ¬ (b.date < firstDay ∨ b.date > lastDay ∨
      NaiveDate.format b.date ≠ b.toIsoString) := by
    rw [firstDay_eq, lastDay_eq]
    simp only [not_or, not_lt, gt_iff_lt, ne_eq, not_not]
    exact ⟨b.supported.1, b.supported.2, rfl⟩
  simp only [parseIso, toIsoString, hparse]
  exact dif_neg hrange

theorem deserialize_toIsoString (b : BirthDay) : deserialize b.toIsoString = .ok b := by
  rw [deserialize, parseIso_toIsoString]
  rfl

/-- Dates in the supported range become birth days. -/
theorem fromDate_of_supported {d : NaiveDate} (h : firstDate ≤ d ∧ d ≤ lastDate) :
    fromDate d = .ok ⟨d, h⟩ :=
  parseIso_toIsoString ⟨d, h⟩

/-- Dates with a four-digit year outside it are rejected. -/
theorem fromDate_of_not_supported {d : NaiveDate} (h0 : 0 ≤ d.year) (h1 : d.year ≤ 9999)
    (h : ¬ (firstDate ≤ d ∧ d ≤ lastDate)) : fromDate d = .error .InvalidDate := by
  have hparse := Chrono.parse_format d h0 h1
  have hrange : d < firstDay ∨ d > lastDay ∨ NaiveDate.format d ≠ NaiveDate.format d := by
    rw [firstDay_eq, lastDay_eq]
    rw [not_and_or, not_le, not_le] at h
    tauto
  simp only [fromDate, parseIso, hparse]
  exact dif_pos hrange

/-- The 32-bit cast neither wraps nor truncates. -/
theorem daysSince1900_eq (b : BirthDay) :
    (b.daysSince1900 : ℤ) = b.date.dayNumber - firstDate.dayNumber := by
  have hlow : firstDate.dayNumber ≤ b.date.dayNumber := Date.dayNumber_le_iff.mpr b.supported.1
  have hhigh : b.date.dayNumber ≤ lastDate.dayNumber := Date.dayNumber_le_iff.mpr b.supported.2
  have hrange := dayNumber_lastDate
  unfold daysSince1900
  rw [firstDay_eq, Int.emod_eq_of_lt (by omega) (by omega), Int.toNat_of_nonneg]
  omega

theorem daysSince1900_le (b : BirthDay) : b.daysSince1900 ≤ 73048 := by
  have hhigh : b.date.dayNumber ≤ lastDate.dayNumber := Date.dayNumber_le_iff.mpr b.supported.2
  have hrange := dayNumber_lastDate
  have := b.daysSince1900_eq
  omega

/-- Day numbers order birth days as the calendar does. -/
theorem daysSince1900_lt_iff {a b : BirthDay} : a.daysSince1900 < b.daysSince1900 ↔ a < b := by
  rw [lt_iff, ← Date.dayNumber_lt_iff]
  have ha := a.daysSince1900_eq
  have hb := b.daysSince1900_eq
  omega

end Parsing

end BirthDay

/-! ## Demo identities -/

/-- Raw identity input. The display name is any text. -/
structure RawDemoIdentity where
  displayName : String
  birthDate : BirthDay

/-- A wire object: the text of each field. -/
structure RawDemoIdentityText where
  displayName : String
  birthDate : String

/-- The derived `Serialize`. -/
def RawDemoIdentity.serialize (identity : RawDemoIdentity) : RawDemoIdentityText where
  displayName := identity.displayName
  birthDate := identity.birthDate.toIsoString

/-- The derived `Deserialize`. -/
def RawDemoIdentity.deserialize [Chrono] (text : RawDemoIdentityText) :
    Except String RawDemoIdentity := do
  let birthDate ← BirthDay.deserialize text.birthDate
  return { displayName := text.displayName, birthDate }

end Zcaprio
