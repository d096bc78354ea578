import Zcaprio.Metatheory.Encoding
import Zcaprio.Metatheory.Openings
import Zcaprio.Properties.Binding
import Zcaprio.Properties.Preimages

/-!
# What a credential hash binds

The hash covers the fingerprint, the schema version and the signature, and none
of the commitments or attributes. Still it binds all of them: the signature binds
the commitments, and these bind the attributes.
-/

namespace Zcaprio

section Hash

variable [Curve] [Hashes]

namespace SignedAttributeCredential

/-- The bytes `hash` feeds to the hasher. -/
def hashInput (credential : SignedAttributeCredential) : List UInt8 :=
  utf8 credential.credential.issuerKeyFingerprint.value ++ [credential.credential.schemaVersion] ++
    credential.credential.signature.proverResponseBytes ++
    credential.credential.signature.verifierChallengeBytes

theorem hash_bytes (credential : SignedAttributeCredential) :
    credential.hash.bytes = Hashes.blake2s256 credential.hashInput := rfl

omit [Hashes] in
/-- A fingerprint is the 64 digits of a point. -/
theorem length_fingerprint (key : IssuerPublicKey) : (utf8 key.fingerprint.value).length = 64 := by
  have hpair : ∀ b : UInt8, (hexPair b).length = 2 := fun _ => rfl
  rw [IssuerPublicKey.fingerprint_value, utf8_hex, List.length_flatMap]
  simp [hpair, Curve.length_serialize]

omit [Hashes] in
/-- With fingerprints of one length the input determines the key and the signature. -/
theorem hashInput_inj {credential credential' : SignedAttributeCredential}
    (hkey : credential.credential.issuerKeyFingerprint = credential.issuer.fingerprint)
    (hkey' : credential'.credential.issuerKeyFingerprint = credential'.issuer.fingerprint)
    (h : credential.hashInput = credential'.hashInput) :
    credential.issuer = credential'.issuer ∧
      credential.credential.signature = credential'.credential.signature := by
  unfold hashInput at h
  rw [hkey, hkey', List.append_assoc, List.append_assoc, List.append_assoc, List.append_assoc] at h
  obtain ⟨hfingerprint, hrest⟩ := List.append_inj h (by rw [length_fingerprint, length_fingerprint])
  obtain ⟨-, hsignature⟩ := List.append_inj hrest rfl
  obtain ⟨hresponse, hchallenge⟩ := List.append_inj hsignature
    (by rw [IssuerSignature.proverResponseBytes, IssuerSignature.proverResponseBytes,
      length_canonical, length_canonical])
  constructor
  · apply IssuerPublicKey.fingerprint_injective
    rcases hf : credential.issuer.fingerprint with ⟨value, valid⟩
    rcases hf' : credential'.issuer.fingerprint with ⟨value', valid'⟩
    rw [hf, hf'] at hfingerprint
    obtain rfl : value = value' := utf8_injective hfingerprint
    rfl
  · rcases hs : credential.credential.signature with ⟨response, challenge⟩
    rcases hs' : credential'.credential.signature with ⟨response', challenge'⟩
    rw [hs, hs'] at hresponse hchallenge
    obtain rfl : response = response' := canonical_injective jubJubModulus_lt hresponse
    obtain rfl : challenge = challenge' := canonical_injective jubJubModulus_lt hchallenge
    rfl

variable [Chrono]

omit [Hashes] in
/-- The openings of credentials show their attributes. -/
theorem eq_of_sameValues {credential credential' : SignedAttributeCredential}
    (h : credential.opening.SameValues credential'.opening)
    (hissuer : credential.issuer = credential'.issuer)
    (hcredential : credential.credential = credential'.credential) : credential = credential' := by
  have hbirthDay := BirthDay.ext_daysSince1900 h.birthDay
  have hcountry := Country.fieldElement_injective h.country
  have hrole := Role.fieldElement_injective h.role
  have hsalt := h.salt
  have hsecret := h.secret
  rcases credential with ⟨birthDay, country, role, ⟨salt⟩, ⟨secret⟩, issuer, issued⟩
  rcases credential' with ⟨birthDay', country', role', ⟨salt'⟩, ⟨secret'⟩, issuer', issued'⟩
  obtain rfl : birthDay = birthDay' := hbirthDay
  obtain rfl : country = country' := hcountry
  obtain rfl : role = role' := hrole
  obtain rfl : salt = salt' := hsalt
  obtain rfl : secret = secret' := hsecret
  obtain rfl : issuer = issuer' := hissuer
  obtain rfl : issued = issued' := hcredential
  rfl

/-- Issued credentials of one hash are one credential, or they contain a
collision of the hash, of the challenges, or of the commitments. -/
theorem hash_binds {credential credential' : SignedAttributeCredential} (h : credential.Issued)
    (h' : credential'.Issued) (hhash : credential.hash = credential'.hash) :
    credential = credential' ∨
      Collision Hashes.blake2s256 credential.hashInput credential'.hashInput ∨
      ChallengeCollision credential.credential.signature.verifierChallenge
        (credentialChallengeTranscript credential.issuer credential.credential.signature
          credential.credential.message)
        (credentialChallengeTranscript credential.issuer credential.credential.signature
          credential'.credential.message) ∨
      credential.opening.Collide credential'.opening := by
  obtain ⟨hopens, hschema, hfingerprint, hvalid⟩ := h.spec
  obtain ⟨hopens', hschema', hfingerprint', hvalid'⟩ := h'.spec
  have hbytes := congrArg CredentialHash.bytes hhash
  rw [hash_bytes, hash_bytes] at hbytes
  rcases eq_or_collision hbytes with hinput | hcollision
  swap
  · exact Or.inr (Or.inl hcollision)
  obtain ⟨hissuer, hsignature⟩ := hashInput_inj hfingerprint hfingerprint' hinput
  rw [← hissuer, ← hsignature, IssuerSignature.isValid_iff] at hvalid'
  rw [IssuerSignature.isValid_iff] at hvalid
  by_cases htranscript : credentialChallengeTranscript credential.issuer
      credential.credential.signature credential.credential.message =
    credentialChallengeTranscript credential.issuer credential.credential.signature
      credential'.credential.message
  swap
  · exact Or.inr (Or.inr (Or.inl ⟨htranscript, hvalid, hvalid'⟩))
  -- one transcript: the messages are one, and so are the commitments
  obtain ⟨hage, howner, hattributes⟩ := commitments_of_transcript htranscript
  have hmessage : credential.opening.message = credential'.opening.message := by
    rw [message_opening hopens hschema, message_opening hopens' hschema', AgeCredential.message,
      AgeCredential.message, hage, howner, hattributes, hschema, hschema']
  rcases Opening.sameValues_or_collide hmessage with hvalues | hcollide
  · left
    apply eq_of_sameValues hvalues hissuer
    rcases hc : credential.credential with ⟨f, v, a, o, t, s⟩
    rcases hc' : credential'.credential with ⟨f', v', a', o', t', s'⟩
    simp only [hc, hc'] at hage howner hattributes hschema hschema' hsignature hfingerprint hfingerprint'
    rw [hage, howner, hattributes, hschema, hschema', hsignature, hfingerprint, hfingerprint', hissuer]
  · exact Or.inr (Or.inr (Or.inr hcollide))

end SignedAttributeCredential

end Hash

/-! ## Two credentials of one checksum -/

namespace Reference

theorem issue_204_isSome : (issuer.credentials.issue attributes [204]).isSome = true := by
  set_option maxRecDepth 4000 in
  decide

theorem issue_286_isSome : (issuer.credentials.issue attributes [286]).isSome = true := by
  set_option maxRecDepth 4000 in
  decide

/-- The same attributes, signed twice. -/
def earlier : SignedAttributeCredential :=
  (issuer.credentials.issue attributes [204]).get issue_204_isSome

def later : SignedAttributeCredential :=
  (issuer.credentials.issue attributes [286]).get issue_286_isSome

theorem earlier_hash : earlier.hash = later.hash := by
  set_option maxRecDepth 4000 in
  decide

theorem earlier_signature : earlier.credential.signature ≠ later.credential.signature := by
  set_option maxRecDepth 4000 in
  decide

end Reference

open Reference in
/-- They are different credentials, so one of the hashes collides. -/
theorem hash_binds_earlier :
    Collision Hashes.blake2s256 earlier.hashInput later.hashInput ∨
      ChallengeCollision earlier.credential.signature.verifierChallenge
        (credentialChallengeTranscript earlier.issuer earlier.credential.signature
          earlier.credential.message)
        (credentialChallengeTranscript earlier.issuer earlier.credential.signature
          later.credential.message) ∨
      earlier.opening.Collide later.opening := by
  have hearlier : earlier.Issued := ⟨issuer, attributes, [204], (Option.some_get issue_204_isSome).symm⟩
  have hlater : later.Issued := ⟨issuer, attributes, [286], (Option.some_get issue_286_isSome).symm⟩
  rcases SignedAttributeCredential.hash_binds hearlier hlater earlier_hash with hsame | hcollision
  · exact absurd (congrArg (fun c => c.credential.signature) hsame) earlier_signature
  · exact hcollision

end Zcaprio
