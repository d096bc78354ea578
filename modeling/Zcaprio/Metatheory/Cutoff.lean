import Zcaprio.Circuit.Template

/-!
# Cutoff dates

The date an age threshold is compared with is the clamped calendar date so
many years before. It is computed without panic exactly when its year is at
least 1900.
-/

namespace Zcaprio

open Calendar

/-- The date a threshold is compared with. -/
def cutoffDate (policy : VerificationPolicy) (years : UInt8) : NaiveDate :=
  policy.asOf.date.yearsBefore years.toNat

/-- Signed days from the first supported day. -/
def days (d : NaiveDate) : ℤ := d.dayNumber - firstDate.dayNumber

theorem days_le_iff {d e : NaiveDate} : days d ≤ days e ↔ d ≤ e := by
  unfold days
  rw [← Date.dayNumber_le_iff]
  omega

/-- The threshold year is in the supported range. -/
def CutoffSupported (policy : VerificationPolicy) (years : UInt8) : Prop :=
  1900 ≤ policy.asOf.date.year - years.toNat

instance (policy : VerificationPolicy) (years : UInt8) :
    Decidable (CutoffSupported policy years) := inferInstanceAs (Decidable (_ ≤ _))

theorem year_cutoffDate (policy : VerificationPolicy) (years : UInt8) :
    (cutoffDate policy years).year = policy.asOf.date.year - years.toNat := rfl

/-- A cutoff is a supported date exactly when its year is at least 1900. -/
theorem cutoffSupported_iff (policy : VerificationPolicy) (years : UInt8) :
    CutoffSupported policy years ↔
      firstDate ≤ cutoffDate policy years ∧ cutoffDate policy years ≤ lastDate := by
  have hyear := policy.asOf.year_bounds
  rw [supported_iff_year, year_cutoffDate, CutoffSupported]
  omega

/-- The first `expect` never fires: the clamped date exists. -/
theorem birthdayCutoff_eq {ε : Type} (policy : VerificationPolicy) (years : UInt8) :
    (birthdayCutoff policy.asOf.date years : Exec ε NaiveDate) = .ok (cutoffDate policy years) := by
  have hyear := policy.asOf.year_bounds
  have hyears := years.toNat_lt
  have hrange : NaiveDate.minYear ≤ (cutoffDate policy years).year ∧
      (cutoffDate policy years).year ≤ NaiveDate.maxYear := by
    rw [year_cutoffDate, NaiveDate.minYear, NaiveDate.maxYear]
    omega
  have hymd : NaiveDate.fromYmdOpt (policy.asOf.date.year - years.toNat) policy.asOf.date.month
      (clampLeapDay policy.asOf.date.month policy.asOf.date.day) =
        some (cutoffDate policy years) := NaiveDate.fromYmdOpt_self _ hrange
  rw [clampLeapDay] at hymd
  simp only [birthdayCutoff, hymd]
  rfl

section Chrono

variable [Chrono] {ε : Type} {policy : VerificationPolicy} {years : UInt8}

/-- The element a supported threshold is compared with. -/
def cutoffElement (policy : VerificationPolicy) (years : UInt8) : Fr :=
  ((days (cutoffDate policy years)).toNat : Fr)

theorem days_birthDay (b : BirthDay) : days b.date = b.daysSince1900 := b.daysSince1900_eq.symm

omit [Chrono] in
theorem days_cutoff_bounds (h : CutoffSupported policy years) :
    0 ≤ days (cutoffDate policy years) ∧ days (cutoffDate policy years) ≤ 73048 := by
  obtain ⟨hlow, hhigh⟩ := (cutoffSupported_iff policy years).mp h
  have hl := Date.dayNumber_le_iff.mpr hlow
  have hh := Date.dayNumber_le_iff.mpr hhigh
  have hrange := dayNumber_lastDate
  simp only [days]
  omega

theorem cutoff_of_supported (h : CutoffSupported policy years) :
    (cutoff policy years : Exec ε Fr) = .ok (cutoffElement policy years) := by
  have hdate := BirthDay.fromDate_of_supported ((cutoffSupported_iff policy years).mp h)
  rw [cutoff, birthdayCutoff_eq]
  simp only [bind, Except.bind, hdate, Exec.expect]
  unfold cutoffElement
  rw [days_birthDay ⟨cutoffDate policy years, _⟩, Int.toNat_natCast]
  rfl

/-- Before 1900 the second `expect` fires. -/
theorem cutoff_of_not_supported (h : ¬ CutoffSupported policy years) :
    (cutoff policy years : Exec ε Fr) =
      .error (.panic "a supported cutoff is a supported birthday") := by
  have hyear := policy.asOf.year_bounds
  have hyears := years.toNat_lt
  have hdate := BirthDay.fromDate_of_not_supported (d := cutoffDate policy years)
    (by rw [year_cutoffDate]; omega) (by rw [year_cutoffDate]; omega)
    (fun hs => h ((cutoffSupported_iff policy years).mpr hs))
  rw [cutoff, birthdayCutoff_eq]
  simp only [bind, Except.bind, hdate, Exec.expect]

end Chrono

end Zcaprio
