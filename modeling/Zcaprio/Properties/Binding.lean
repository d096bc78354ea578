import Zcaprio.Instances.Reference

/-!
# What a signature binds

One signature verifies under one key only, and for one message unless the
truncated hash collides.
-/

namespace Zcaprio

section Binding

variable [Curve] [Hashes]

/-- Two different byte strings whose digests map to the scalar. -/
structure ChallengeCollision (challenge : JubJubScalar) (transcript transcript' : List UInt8) :
    Prop where
  different : transcript ≠ transcript'
  left : fromRandomBytes (Hashes.blake2s256 transcript) = some challenge
  right : fromRandomBytes (Hashes.blake2s256 transcript') = some challenge

/-- The transcript of a credential that verifies hashes to the challenge it carries. -/
theorem challenge_of_verify {credential : AgeCredential} {key : IssuerPublicKey}
    (h : credential.verify key = .ok ()) :
    fromRandomBytes (Hashes.blake2s256
        (credentialChallengeTranscript key credential.signature credential.message)) =
      some credential.signature.verifierChallenge := by
  obtain ⟨-, -, -, hvalid⟩ := (AgeCredential.verify_ok_iff credential key).mp h
  exact IssuerSignature.isValid_iff.mp hvalid

omit [Hashes] in
/-- Under one key and signature the transcript determines the three commitments. -/
theorem commitments_of_transcript {credential credential' : AgeCredential} {key : IssuerPublicKey}
    {signature : IssuerSignature}
    (h : credentialChallengeTranscript key signature credential.message =
      credentialChallengeTranscript key signature credential'.message) :
    credential.ageCommitment = credential'.ageCommitment ∧
      credential.ownerCommitment = credential'.ownerCommitment ∧
      credential.attributeCommitment = credential'.attributeCommitment := by
  -- the recomputed point depends on the key and the signature only
  have htranscript : SchnorrTranscript.fromSignature key signature credential.message =
      SchnorrTranscript.fromSignature key signature credential'.message := by
    rcases hl : SchnorrTranscript.fromSignature key signature credential.message with ⟨bytes⟩
    rcases hr : SchnorrTranscript.fromSignature key signature credential'.message with ⟨bytes'⟩
    unfold credentialChallengeTranscript at h
    rw [hl, hr] at h
    exact congrArg _ h
  exact credentialMessage_inj (SchnorrTranscript.fromCommitment_injective _ htranscript)

/-- Two credentials with one fingerprint and one signature verify under one key;
they have the same commitments, or their transcripts are a collision. -/
theorem signature_binds {credential credential' : AgeCredential} {key key' : IssuerPublicKey}
    (h : credential.verify key = .ok ()) (h' : credential'.verify key' = .ok ())
    (hfingerprint : credential.issuerKeyFingerprint = credential'.issuerKeyFingerprint)
    (hsignature : credential.signature = credential'.signature) :
    key = key' ∧
      ((credential.ageCommitment = credential'.ageCommitment ∧
          credential.ownerCommitment = credential'.ownerCommitment ∧
          credential.attributeCommitment = credential'.attributeCommitment) ∨
        ChallengeCollision credential.signature.verifierChallenge
          (credentialChallengeTranscript key credential.signature credential.message)
          (credentialChallengeTranscript key credential.signature credential'.message)) := by
  obtain ⟨-, -, hkey, -⟩ := (AgeCredential.verify_ok_iff credential key).mp h
  obtain ⟨-, -, hkey', -⟩ := (AgeCredential.verify_ok_iff credential' key').mp h'
  have hsame : key = key' := by
    apply IssuerPublicKey.fingerprint_injective
    rw [← hkey, hfingerprint, hkey']
  subst hsame
  refine ⟨rfl, ?_⟩
  have hleft := challenge_of_verify h
  have hright := challenge_of_verify h'
  rw [← hsignature] at hright
  by_cases htranscript :
      credentialChallengeTranscript key credential.signature credential.message =
        credentialChallengeTranscript key credential.signature credential'.message
  · exact Or.inl (commitments_of_transcript htranscript)
  · exact Or.inr ⟨htranscript, hleft, hright⟩

end Binding

namespace Reference

/-- Another age commitment, with which the transcript has the same checksum. -/
def collidingAge : AgeCommitment :=
  ⟨((credential.credential.ageCommitment.fieldElement.val + 1 - 3 * 256 : ℕ) : Fr)⟩

theorem issue_colliding_isSome :
    (issuer.issue collidingAge credential.credential.ownerCommitment
      credential.credential.attributeCommitment nonces).isSome = true := by
  set_option maxRecDepth 4000 in
  decide

/-- A credential on it, signed with the nonce the issued one was signed with. -/
def colliding : AgeCredential :=
  (issuer.issue collidingAge credential.credential.ownerCommitment
    credential.credential.attributeCommitment nonces).get issue_colliding_isSome

theorem colliding_signature : colliding.signature = credential.credential.signature := by
  set_option maxRecDepth 4000 in
  decide

theorem colliding_ageCommitment :
    credential.credential.ageCommitment ≠ colliding.ageCommitment := by
  set_option maxRecDepth 4000 in
  decide

end Reference

open Reference in
/-- A checksum is no collision-resistant hash: two credentials with one signature verify. -/
theorem signature_binds_colliding :
    ∃ transcript transcript', ChallengeCollision credential.credential.signature.verifierChallenge
      transcript transcript' := by
  obtain ⟨hschema, hfingerprint, -, -, -, hvalid⟩ :=
    IssuerKeyPair.issue_eq_some (Option.some_get issue_colliding_isSome).symm
  have hverify : colliding.verify issuer.publicKey = .ok () :=
    (AgeCredential.verify_ok_iff _ _).mpr ⟨hschema, issuer_not_identity, hfingerprint, hvalid⟩
  obtain ⟨-, -, hissued, -⟩ := (AgeCredential.verify_ok_iff _ _).mp credential_verify
  obtain ⟨-, hsame | hcollision⟩ := signature_binds credential_verify hverify
    (hissued.trans hfingerprint.symm) colliding_signature.symm
  · exact absurd hsame.1 colliding_ageCommitment
  · exact ⟨_, _, hcollision⟩

end Zcaprio
