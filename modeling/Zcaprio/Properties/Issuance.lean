import Zcaprio.Instances.Reference

/-!
# Issued credentials

They verify, their commitments open to the stored values, and transport keeps
them as they are.
-/

namespace Zcaprio

section Issuance

variable [Curve] [Hashes] [Chrono]

/-- The transcript of a nonce for the message of the attributes hashes to a scalar. -/
def NonceHashes (attributes : CredentialAttributes) (nonce : JubJubScalar) : Prop :=
  ((SchnorrTranscript.fromCommitment (mul schnorrParameters.generator nonce)
    (credentialMessage (commitAge attributes.birthDay attributes.ageSalt)
      (commitOwner attributes.walletSecret)
      (commitAttributes attributes.country attributes.role attributes.ageSalt)
      ageCredentialSchemaV2)).challenge).isSome

/-- From a stream in which some nonce hashes to a scalar, issuing returns a
credential, and looks at no nonce after the first such one. -/
theorem issue_returns (keyPair : IssuerKeyPair) {attributes : CredentialAttributes}
    {nonces : ℕ → JubJubScalar} {i : ℕ} (hi : NonceHashes attributes (nonces i)) :
    ∃ credential, ∀ n, i < n →
      keyPair.credentials.issue attributes ((List.range n).map nonces) = some credential := by
  have hsome : (keyPair.sign _ ((List.range (i + 1)).map nonces)).isSome :=
    IssuerKeyPair.sign_isSome.mpr
      ⟨nonces i, List.mem_map.mpr ⟨i, List.mem_range.mpr (Nat.lt_succ_self i), rfl⟩, hi⟩
  have hissue : (keyPair.credentials.issue attributes ((List.range (i + 1)).map nonces)).isSome := by
    unfold IssuerCredentials.issue IssuerKeyPair.issue
    rw [Option.isSome_map, Option.isSome_map]
    exact hsome
  obtain ⟨credential, hcredential⟩ := Option.isSome_iff_exists.mp hissue
  refine ⟨credential, fun n hn => ?_⟩
  -- a longer prefix of the stream continues the first one
  obtain ⟨k, rfl⟩ : ∃ k, n = i + 1 + k := ⟨n - (i + 1), by omega⟩
  rw [List.range_add, List.map_append]
  exact IssuerCredentials.issue_append hcredential _

omit [Chrono] in
/-- What transport gives back, for a credential that verifies under a key. -/
theorem transport_verifies {credential : AgeCredential} {key : IssuerPublicKey}
    (h : credential.verify key = .ok ()) :
    AgeCredential.deserialize credential.serialize = .ok credential ∧
      IssuerPublicKey.deserialize key.serialize = .ok key := by
  obtain ⟨-, hkey, -⟩ := (AgeCredential.verify_ok_iff credential key).mp h
  refine ⟨credential.deserialize_serialize, ?_⟩
  rw [IssuerPublicKey.deserialize, IssuerPublicKey.fromHex_serialize hkey]
  rfl

/-- Under a non-identity key, issuing returns from every stream of nonces of which
one hashes to a scalar. What it returns verifies, opens to the attributes, and is
the same after transport, like the key. -/
theorem issued_verifies {keyPair : IssuerKeyPair}
    (hkey : keyPair.publicKey.isIdentity = false) (attributes : CredentialAttributes) :
    (∀ (nonces : ℕ → JubJubScalar) (i : ℕ), NonceHashes attributes (nonces i) →
      ∃ credential, ∀ n, i < n →
        keyPair.credentials.issue attributes ((List.range n).map nonces) = some credential) ∧
    ∀ (nonces : List JubJubScalar) (credential : SignedAttributeCredential),
      keyPair.credentials.issue attributes nonces = some credential →
        credential.credential.verify keyPair.publicKey = .ok () ∧
        (credential.birthDay = attributes.birthDay ∧ credential.country = attributes.country ∧
          credential.role = attributes.role ∧ credential.ageSalt = attributes.ageSalt ∧
          credential.walletSecret = attributes.walletSecret ∧
          credential.issuer = keyPair.publicKey) ∧
        credential.Opens ∧
        AgeCredential.deserialize credential.credential.serialize = .ok credential.credential ∧
        IssuerPublicKey.deserialize keyPair.publicKey.serialize = .ok keyPair.publicKey := by
  constructor
  · intro nonces i hi
    exact issue_returns keyPair hi
  · intro nonces credential hissue
    have hstores := SignedAttributeCredential.issue_stores hissue
    have hissued : credential.Issued := ⟨keyPair, attributes, nonces, hissue⟩
    have hverify := SignedAttributeCredential.issue_verify hkey hissue
    obtain ⟨hcredential, hpublicKey⟩ := transport_verifies hverify
    exact ⟨hverify, hstores, hissued.spec.1, hcredential, hpublicKey⟩

end Issuance

open Reference in
/-- The issuer whose first nonce is retried. -/
theorem issued_verifies_retry :
    credential.credential.verify issuer.publicKey = .ok () ∧ credential.Opens := by
  obtain ⟨-, hissued⟩ := issued_verifies issuer_not_identity attributes
  obtain ⟨hverify, -, hopens, -⟩ := hissued nonces credential credential_issue
  exact ⟨hverify, hopens⟩

end Zcaprio
