import Zcaprio.Instances.Reference
import Zcaprio.Metatheory.Credential

/-!
# The circuit and the native verifier

Both accept the same credentials: the same values, the same bytes of the
transcript, and the same digests as scalars.
-/

namespace Zcaprio

open Trace

section Agreement

/-- The values of the circuit's allocations: the attributes, and the bytes of two scalars. -/
def CredentialAttributes.opening [Chrono] (attributes : CredentialAttributes)
    (response challenge : Vector UInt8 32) : Opening where
  birthDay := (attributes.birthDay.daysSince1900 : Fr)
  country := attributes.country.fieldElement
  role := attributes.role.fieldElement
  salt := attributes.ageSalt.fieldElement
  secret := attributes.walletSecret.fieldElement
  response := response.toList
  challenge := challenge.toList
  length_response := response.length_toList
  length_challenge := challenge.length_toList

/-- The two comparisons on bits are `from_random_bytes`: on a digest that is no
scalar no challenge passes them. -/
theorem challenge_bits_iff_fromRandomBytes {digest : List UInt8} (hdigest : digest.length = 32)
    (s : JubJubScalar) :
    ((Digits.toBits (canonical s)).take 251 = (Digits.toBits digest).take 251 ∧
      (Digits.toBits (canonical s)).drop 251 = List.replicate 5 false) ↔
    fromRandomBytes digest = some s := by
  rw [challenge_bits_iff (length_canonical s) hdigest, ofBytes_canonical jubJubModulus_lt,
    fromRandomBytes_eq_some_iff]
  exact eq_comm

/-- The bytes of a signature, as the circuit allocates them. -/
def IssuerSignature.responseVector (signature : IssuerSignature) : Vector UInt8 32 :=
  ⟨signature.proverResponseBytes.toArray, length_canonical signature.proverResponse⟩

def IssuerSignature.challengeVector (signature : IssuerSignature) : Vector UInt8 32 :=
  ⟨signature.verifierChallengeBytes.toArray, length_canonical signature.verifierChallenge⟩

variable [Gadgets] [Chrono]

/-- The commitments of the circuit and of the native credential make one message. -/
theorem message_presented (key : IssuerPublicKey) (attributes : CredentialAttributes)
    (response challenge : Vector UInt8 32) (signature : IssuerSignature) :
    (presented key attributes signature).message =
      (attributes.opening response challenge).message := rfl

/-- Signed attributes are those the native verifier accepts for some signature of these bytes. -/
theorem signed_iff_verify {key : IssuerPublicKey} (hkey : key.isIdentity = false)
    (attributes : CredentialAttributes) (response challenge : Vector UInt8 32) :
    (attributes.opening response challenge).Signed key ↔
      ∃ signature : IssuerSignature, signature.proverResponseBytes = response.toList ∧
        signature.verifierChallengeBytes = challenge.toList ∧
        (presented key attributes signature).verify key = .ok () := by
  rw [Opening.Signed, SignedBy]
  refine exists_congr fun signature => and_congr_right fun _ => and_congr_right fun _ => ?_
  have hschema : (presented key attributes signature).schemaVersion = ageCredentialSchemaV2 := rfl
  have hfingerprint :
      (presented key attributes signature).issuerKeyFingerprint = key.fingerprint := by
    rw [presented]
  have hsignature : (presented key attributes signature).signature = signature := rfl
  rw [AgeCredential.verify_ok_iff, message_presented key attributes response challenge, hsignature]
  simp only [hschema, hkey, hfingerprint, true_and]

/-- The constraints `CredentialRelation.enforce` records for a non-identity key
can be satisfied with these values exactly when the bytes are canonical scalars
and the native verifier accepts the credential of these values. The bytes the
circuit hashes are the native transcript, and its comparison of the digest with
the challenge is `from_random_bytes`. -/
theorem circuit_agrees_with_verify {key : IssuerPublicKey} (hkey : key.isIdentity = false)
    (attributes : CredentialAttributes) (response challenge : Vector UInt8 32)
    (supplied : Option SignedAttributeCredential) :
    ∃ relation cs, run (CredentialRelation.enforce key supplied) [] = (.ok relation, cs) ∧
      (Satisfiable (attributes.opening response challenge).input cs.shape ↔
        ∃ signature : IssuerSignature, signature.proverResponseBytes = response.toList ∧
          signature.verifierChallengeBytes = challenge.toList ∧
          (presented key attributes signature).verify key = .ok ()) ∧
      (∃ (step : ℕ) (transcript : List UInt8Var),
        cs.shape[step]? = some (.call (.evaluateBlake2s (bitsOf transcript))) ∧
        ∀ (w : Assignment Fr) (signature : IssuerSignature),
          Extends w (attributes.opening response challenge).input 0 cs.shape →
          Computes w 0 cs.shape ∨ Satisfies w 0 cs.shape →
          signature.proverResponseBytes = response.toList →
          signature.verifierChallengeBytes = challenge.toList →
          (bitsOf transcript).map (Boolean.value w) =
            Digits.toBits (credentialChallengeTranscript key signature
              (presented key attributes signature).message)) ∧
      ∀ (digest : List UInt8) (s : JubJubScalar), digest.length = 32 →
        (((Digits.toBits (canonical s)).take 251 = (Digits.toBits digest).take 251 ∧
            (Digits.toBits (canonical s)).drop 251 = List.replicate 5 false) ↔
          fromRandomBytes digest = some s) := by
  refine ⟨_, _, (CredentialRelation.enforce_emits key supplied 0).run, ?_, ?_, ?_⟩
  · rw [credentialBlock_satisfiable_iff]
    exact signed_iff_verify hkey attributes response challenge
  · -- eight events of the opening, nine of the head and four of the message come first
    refine ⟨21, transcriptVar 4 8, rfl, ?_⟩
    intro w signature hextends hrows hresponse hchallenge
    have hdetermined : Determined w 0 (credentialBlock key supplied 0).shape :=
      hrows.elim determined_of_computes determined_of_satisfies
    obtain ⟨-, hopening⟩ := (holds_of_extends hextends).spec
    have htranscript : (bitsOf (transcriptVar 4 8)).map (Boolean.value w) = _ :=
      credentialBlock_transcript hdetermined
        (by rw [hopening]; exact hresponse) (by rw [hopening]; exact hchallenge)
    rw [htranscript, hopening, message_presented key attributes response challenge]
  · intro digest s hdigest
    exact challenge_bits_iff_fromRandomBytes hdigest s

end Agreement

open Reference in
/-- The values of the issued credential satisfy the circuit of its issuer. -/
theorem circuit_agrees_with_verify_staff :
    let signature := credential.credential.signature
    ∃ relation cs, run (CredentialRelation.enforce issuer.publicKey none) [] = (.ok relation, cs) ∧
      Satisfiable (attributes.opening signature.responseVector signature.challengeVector).input
        cs.shape := by
  intro signature
  obtain ⟨relation, cs, hrun, hagree, -⟩ := circuit_agrees_with_verify issuer_not_identity attributes
    signature.responseVector signature.challengeVector none
  refine ⟨relation, cs, hrun, hagree.mpr ⟨signature, rfl, rfl, ?_⟩⟩
  rw [← SignedAttributeCredential.issue_presented credential_issue]
  exact credential_verify

end Zcaprio
