import Zcaprio.Framework.Collision
import Zcaprio.Metatheory.Honest

/-!
# Openings of one message

The message of an opening is three commitments, so it determines the values of
the opening, up to a collision of the sponge.
-/

namespace Zcaprio

namespace Opening

/-- Two openings with the same attributes, salt and secret. -/
structure SameValues (opening opening' : Opening) : Prop where
  birthDay : opening.birthDay = opening'.birthDay
  country : opening.country = opening'.country
  role : opening.role = opening'.role
  salt : opening.salt = opening'.salt
  secret : opening.secret = opening'.secret

/-- Two openings one of whose commitments is a collision. -/
inductive Collide [Hashes] (opening opening' : Opening) : Prop where
  | age (h : Collision poseidonHash [ageDomain, opening.birthDay, opening.salt]
      [ageDomain, opening'.birthDay, opening'.salt])
  | owner (h : Collision poseidonHash [ownerDomain, opening.secret] [ownerDomain, opening'.secret])
  | attributes (h : Collision poseidonHash
      [attributeDomain, opening.country, opening.role, opening.salt]
      [attributeDomain, opening'.country, opening'.role, opening'.salt])

/-- Openings of one message have the same values, or collide. -/
theorem sameValues_or_collide [Hashes] {opening opening' : Opening}
    (h : opening.message = opening'.message) :
    opening.SameValues opening' ∨ opening.Collide opening' := by
  obtain ⟨hage, howner, hattributes⟩ := credentialMessage_inj h
  have hage := congrArg AgeCommitment.fieldElement hage
  have howner := congrArg OwnerCommitment.fieldElement howner
  have hattributes := congrArg AttributeCommitment.fieldElement hattributes
  rcases eq_or_collision (h := poseidonHash) hage with hage | hage
  · rcases eq_or_collision (h := poseidonHash) howner with howner | howner
    · rcases eq_or_collision (h := poseidonHash) hattributes with hattributes | hattributes
      · simp only [List.cons.injEq, and_true, true_and] at hage howner hattributes
        exact Or.inl ⟨hage.1, hattributes.1, hattributes.2.1, hage.2, howner⟩
      · exact Or.inr (.attributes hattributes)
    · exact Or.inr (.owner howner)
  · exact Or.inr (.age hage)

/-- A claim speaks about the values only. -/
theorem SameValues.claimHolds {opening opening' : Opening} (h : opening.SameValues opening')
    {policy : VerificationPolicy} {claim : ClaimKind} (hclaim : ClaimHolds policy opening claim) :
    ClaimHolds policy opening' claim := by
  cases claim with
  | AgeAbove years | AgeBelow years =>
      rw [ClaimHolds, ← h.birthDay]
      exact hclaim
  | CountryIsEu =>
      rw [ClaimHolds, ← h.country]
      exact hclaim
  | Role role =>
      rw [ClaimHolds, ← h.role]
      exact hclaim
  | Custom => exact hclaim

end Opening

end Zcaprio
