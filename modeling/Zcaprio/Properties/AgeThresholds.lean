import Zcaprio.Instances.Reference
import Zcaprio.Metatheory.Honest

/-!
# Age thresholds

The Boolean of an age claim against the completed years on the policy date. The
lower bound loses the holders born on the leap day that the cutoff is moved
from; the upper bound compares strictly, with the cutoff of the lower one, so it
misses the year in which a holder has exactly the given age.
-/

namespace Zcaprio

open Trace Calendar

/-! ## The lower bound -/

section AgeAbove

variable [Gadgets] [Chrono]

/-- The Boolean of `AgeAbove(n)` is "at least `n` completed years" exactly unless
birth day and policy date are leap days `n` years apart. -/
theorem ageAbove_completedYears_iff (issuer : IssuerPublicKey)
    (credential : SignedAttributeCredential) (policy : VerificationPolicy) (years : UInt8)
    (hsupported : 1900 ≤ policy.asOf.date.year - years.toNat) :
    ∃ root cs, run (DirectTemplate.relation ⟨issuer, .AgeAbove years⟩ (some credential) policy) [] =
        (.ok root, cs) ∧
      ((Boolean.value (complete cs.input cs.shape) root = true ↔
          completedYears credential.birthDay.date policy.asOf.date ≥ years.toNat) ↔
        ¬ LeapDaysApart credential.birthDay.date policy.asOf.date years.toNat) := by
  obtain ⟨root, cs, hrun, hvalue⟩ := DirectTemplate.relation_value ⟨issuer, .AgeAbove years⟩
    credential policy hsupported
  refine ⟨root, cs, hrun, ?_⟩
  rw [hvalue, SignedAttributeCredential.meets_ageAbove_iff, cutoffDate, le_yearsBefore_iff_and]
  constructor
  · intro h hapart
    -- exactly `n` years are completed, and the code says no
    have hcompleted := completedYears_of_leapDaysApart hapart
    exact (h.mpr hcompleted.ge).2 hapart
  · intro hapart
    exact and_iff_left hapart

end AgeAbove

section LeapDay

open Reference

/-- Born on the leap day of 2000. -/
def leapDayAttributes : CredentialAttributes :=
  { attributes with birthDay := ⟨⟨2000, 2, 29, by decide⟩, by decide⟩ }

theorem leapDay_issue_isSome :
    (issuer.credentials.issue leapDayAttributes nonces).isSome = true := by
  set_option maxRecDepth 4000 in
  decide

def leapDayCredential : SignedAttributeCredential :=
  (issuer.credentials.issue leapDayAttributes nonces).get leapDay_issue_isSome

theorem leapDayCredential_birthDay :
    leapDayCredential.birthDay.date = leapDayAttributes.birthDay.date := by
  have hissue : issuer.credentials.issue leapDayAttributes nonces = some leapDayCredential :=
    (Option.some_get leapDay_issue_isSome).symm
  rw [(SignedAttributeCredential.issue_stores hissue).1]

/-- The policy date 24 years later. -/
def leapDayPolicy : VerificationPolicy := ⟨⟨⟨2024, 2, 29, by decide⟩, by decide⟩⟩

/-- On that birthday the holder has 24 completed years, and is not at least 24. -/
theorem ageAbove_leap_day :
    ∃ root cs, run (DirectTemplate.relation ⟨issuer.publicKey, .AgeAbove 24⟩
        (some leapDayCredential) leapDayPolicy) [] = (.ok root, cs) ∧
      Boolean.value (complete cs.input cs.shape) root = false ∧
      completedYears leapDayCredential.birthDay.date leapDayPolicy.asOf.date = 24 := by
  obtain ⟨root, cs, hrun, hvalue⟩ := DirectTemplate.relation_value
    ⟨issuer.publicKey, .AgeAbove 24⟩ leapDayCredential leapDayPolicy (by decide)
  refine ⟨root, cs, hrun, ?_, ?_⟩
  · rw [← Bool.not_eq_true, hvalue, SignedAttributeCredential.meets_ageAbove_iff,
      leapDayCredential_birthDay]
    decide
  · rw [leapDayCredential_birthDay]
    decide

/-- They are at least 23. -/
theorem ageAbove_completedYears_leap_day :
    ∃ root cs, run (DirectTemplate.relation ⟨issuer.publicKey, .AgeAbove 23⟩
        (some leapDayCredential) leapDayPolicy) [] = (.ok root, cs) ∧
      Boolean.value (complete cs.input cs.shape) root = true := by
  obtain ⟨root, cs, hrun, hiff⟩ := ageAbove_completedYears_iff issuer.publicKey leapDayCredential
    leapDayPolicy 23 (by decide)
  refine ⟨root, cs, hrun, (hiff.mpr ?_).mpr ?_⟩
  · rw [leapDayCredential_birthDay]
    decide
  · rw [leapDayCredential_birthDay]
    decide

end LeapDay

/-! ## The upper bound -/

section AgeBelow

variable [Gadgets] [Chrono]

/-- The Boolean of `AgeBelow(n)` is "at most `n` completed years" exactly where the
completed years are not `n`, or else on leap days `n` years apart. -/
theorem ageBelow_completedYears_iff (issuer : IssuerPublicKey)
    (credential : SignedAttributeCredential) (policy : VerificationPolicy) (years : UInt8)
    (hsupported : 1900 ≤ policy.asOf.date.year - years.toNat) :
    ∃ root cs, run (DirectTemplate.relation ⟨issuer, .AgeBelow years⟩ (some credential) policy) [] =
        (.ok root, cs) ∧
      ((Boolean.value (complete cs.input cs.shape) root = true ↔
          completedYears credential.birthDay.date policy.asOf.date ≤ years.toNat) ↔
        completedYears credential.birthDay.date policy.asOf.date ≠ years.toNat ∨
          LeapDaysApart credential.birthDay.date policy.asOf.date years.toNat) := by
  obtain ⟨root, cs, hrun, hvalue⟩ := DirectTemplate.relation_value ⟨issuer, .AgeBelow years⟩
    credential policy hsupported
  refine ⟨root, cs, hrun, ?_⟩
  rw [hvalue, SignedAttributeCredential.meets_ageBelow_iff, cutoffDate, le_yearsBefore_iff_and,
    not_and_or, not_not, not_le]
  have hcompleted : LeapDaysApart credential.birthDay.date policy.asOf.date years.toNat →
      completedYears credential.birthDay.date policy.asOf.date = years.toNat :=
    completedYears_of_leapDaysApart
  constructor
  · intro h
    by_cases hage : completedYears credential.birthDay.date policy.asOf.date = years.toNat
    · rcases h.mpr hage.le with hlt | hapart
      · exact absurd hage hlt.ne
      · exact Or.inr hapart
    · exact Or.inl hage
  · rintro (hage | hapart)
    · constructor
      · rintro (hlt | hapart)
        · exact hlt.le
        · exact (hcompleted hapart).le
      · intro hle
        exact Or.inl (lt_of_le_of_ne hle hage)
    · exact iff_of_true (Or.inr hapart) (hcompleted hapart).le

end AgeBelow

section SameAge

open Reference

/-- A date in the year the holder is 18. -/
def sameAgePolicy : VerificationPolicy := ⟨⟨⟨2018, 6, 15, by decide⟩, by decide⟩⟩

/-- With 18 completed years the holder is not at most 18. -/
theorem ageBelow_same_age :
    ∃ root cs, run (DirectTemplate.relation ⟨issuer.publicKey, .AgeBelow 18⟩
        (some credential) sameAgePolicy) [] = (.ok root, cs) ∧
      Boolean.value (complete cs.input cs.shape) root = false ∧
      completedYears credential.birthDay.date sameAgePolicy.asOf.date = 18 := by
  obtain ⟨root, cs, hrun, hvalue⟩ := DirectTemplate.relation_value
    ⟨issuer.publicKey, .AgeBelow 18⟩ credential sameAgePolicy (by decide)
  refine ⟨root, cs, hrun, ?_, ?_⟩
  · rw [← Bool.not_eq_true, hvalue, SignedAttributeCredential.meets_ageBelow_iff,
      credential_birthDay]
    decide
  · rw [credential_birthDay]
    decide

/-- They are at most 19. -/
theorem ageBelow_completedYears_same_age :
    ∃ root cs, run (DirectTemplate.relation ⟨issuer.publicKey, .AgeBelow 19⟩
        (some credential) sameAgePolicy) [] = (.ok root, cs) ∧
      Boolean.value (complete cs.input cs.shape) root = true := by
  obtain ⟨root, cs, hrun, hiff⟩ := ageBelow_completedYears_iff issuer.publicKey credential
    sameAgePolicy 19 (by decide)
  refine ⟨root, cs, hrun, (hiff.mpr ?_).mpr ?_⟩
  · rw [credential_birthDay]
    decide
  · rw [credential_birthDay]
    decide

end SameAge

end Zcaprio
