import Zcaprio.Native.Issuer

/-!
# Signing and verifying

The verifier accepts exactly what the signing loop can return. The secret key
turns a signature back into its nonce, so signatures and usable nonces are one
to one: a fresh nonce gives each valid signature alike, whatever the secret key.
-/

namespace Zcaprio

variable [Curve] [Hashes]

namespace IssuerKeyPair

variable {keyPair : IssuerKeyPair} {message : Vector Fr 4} {signature : IssuerSignature}

/-- The nonce of a signature. -/
def nonceOf (keyPair : IssuerKeyPair) (signature : IssuerSignature) : JubJubScalar :=
  signature.proverResponse + signature.verifierChallenge * keyPair.secretKey

omit [Hashes] in
/-- The verifier hashes the transcript that the nonce has. -/
theorem fromSignature_eq :
    SchnorrTranscript.fromSignature keyPair.publicKey signature message =
      SchnorrTranscript.fromCommitment
        (mul schnorrParameters.generator (keyPair.nonceOf signature)) message := by
  have hresponse : keyPair.nonceOf signature - signature.verifierChallenge * keyPair.secretKey =
      signature.proverResponse := add_sub_cancel_right _ _
  have hcommitment :=
    commitment_recomputed keyPair (keyPair.nonceOf signature) signature.verifierChallenge
  rw [hresponse] at hcommitment
  rw [SchnorrTranscript.fromSignature, hcommitment]

/-- One nonce makes a signature that is valid and has this nonce. -/
theorem sign_singleton_iff {nonce : JubJubScalar} :
    keyPair.sign message [nonce] = some signature ↔
      signature.isValid keyPair.publicKey message = true ∧ keyPair.nonceOf signature = nonce := by
  constructor
  · intro h
    refine ⟨sign_isValid h, ?_⟩
    rw [sign] at h
    split at h
    · obtain rfl := Option.some.inj h
      exact sub_add_cancel _ _
    · cases h
  · rintro ⟨hvalid, rfl⟩
    rw [IssuerSignature.isValid_iff, fromSignature_eq] at hvalid
    rw [sign]
    split
    · rename_i challenge hchallenge
      obtain rfl : challenge = signature.verifierChallenge :=
        Option.some.inj (hchallenge.symm.trans hvalid)
      rw [nonceOf, add_sub_cancel_right]
    · rename_i hnone
      rw [hvalid] at hnone
      cases hnone

/-- The loop returns the valid signatures. -/
theorem exists_sign_iff :
    (∃ nonces, keyPair.sign message nonces = some signature) ↔
      signature.isValid keyPair.publicKey message = true := by
  constructor
  · rintro ⟨nonces, h⟩
    exact sign_isValid h
  · intro hvalid
    exact ⟨[keyPair.nonceOf signature], sign_singleton_iff.mpr ⟨hvalid, rfl⟩⟩

/-- A credential is issued on its commitments when its signature is made, under
the current schema and the fingerprint of the key. -/
theorem issue_iff {credential : AgeCredential} {nonces : List JubJubScalar} :
    keyPair.issue credential.ageCommitment credential.ownerCommitment
        credential.attributeCommitment nonces = some credential ↔
      credential.schemaVersion = ageCredentialSchemaV2 ∧
        credential.issuerKeyFingerprint = keyPair.publicKey.fingerprint ∧
        keyPair.sign credential.message nonces = some credential.signature := by
  rcases credential with ⟨fingerprint, version, age, owner, attributes, signature⟩
  simp only [issue, Option.map_eq_some_iff, AgeCredential.mk.injEq, AgeCredential.message,
    true_and]
  constructor
  · rintro ⟨signature', hsign, hfingerprint, hversion, hsignature⟩
    subst hversion hsignature
    exact ⟨rfl, hfingerprint.symm, hsign⟩
  · rintro ⟨hversion, hfingerprint, hsign⟩
    subst hversion
    exact ⟨signature, hsign, hfingerprint.symm, rfl, rfl⟩

end IssuerKeyPair

open IssuerKeyPair in
/-- Verification accepts exactly the credentials that the key pair can issue, the
identity apart, and for each of them there is exactly one nonce. -/
theorem AgeCredential.verify_exact (keyPair : IssuerKeyPair) (credential : AgeCredential) :
    (credential.verify keyPair.publicKey = .ok () ↔
      keyPair.publicKey.isIdentity = false ∧
        ∃ nonces, keyPair.issue credential.ageCommitment credential.ownerCommitment
          credential.attributeCommitment nonces = some credential) ∧
    (credential.verify keyPair.publicKey = .ok () →
      ∃! nonce, keyPair.issue credential.ageCommitment credential.ownerCommitment
        credential.attributeCommitment [nonce] = some credential) := by
  simp only [verify_ok_iff, issue_iff]
  constructor
  · rw [← exists_sign_iff]
    constructor
    · rintro ⟨hversion, hidentity, hfingerprint, nonces, hsign⟩
      exact ⟨hidentity, nonces, hversion, hfingerprint, hsign⟩
    · rintro ⟨hidentity, nonces, hversion, hfingerprint, hsign⟩
      exact ⟨hversion, hidentity, hfingerprint, nonces, hsign⟩
  · rintro ⟨hversion, -, hfingerprint, hvalid⟩
    refine ⟨keyPair.nonceOf credential.signature, ?_, ?_⟩
    · exact ⟨hversion, hfingerprint, sign_singleton_iff.mpr ⟨hvalid, rfl⟩⟩
    · rintro nonce ⟨-, -, hsign⟩
      exact (sign_singleton_iff.mp hsign).2.symm

end Zcaprio
