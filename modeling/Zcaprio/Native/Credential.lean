import Zcaprio.Native.Issuer

/-!
# Holder credentials

`credential.rs`. Every credential of the library is the result of
`IssuerCredentials.issue` for some key pair, attributes and signing nonces.
-/

namespace Zcaprio

/-- A stable public hash of a credential. -/
structure CredentialHash where
  bytes : List UInt8
  length : bytes.length = 32
  deriving DecidableEq

/-- The private values an issuer certifies. -/
structure CredentialAttributes where
  birthDay : BirthDay
  country : Country
  role : Role
  ageSalt : AgeSalt
  walletSecret : WalletSecret

section Issuance

variable [Curve]

/-- A credential with its private attributes. -/
structure SignedAttributeCredential where
  birthDay : BirthDay
  country : Country
  role : Role
  ageSalt : AgeSalt
  walletSecret : WalletSecret
  issuer : IssuerPublicKey
  credential : AgeCredential

/-- An issuer-bound factory. -/
structure IssuerCredentials where
  issuer : IssuerKeyPair

def IssuerKeyPair.credentials (keyPair : IssuerKeyPair) : IssuerCredentials := ⟨keyPair⟩

variable [Hashes]

namespace SignedAttributeCredential

/-- `Credential::hash`. -/
def hash (credential : SignedAttributeCredential) : CredentialHash where
  bytes := Hashes.blake2s256
    (utf8 credential.credential.issuerKeyFingerprint.value ++
      [credential.credential.schemaVersion] ++
      credential.credential.signature.proverResponseBytes ++
      credential.credential.signature.verifierChallengeBytes)
  length := Hashes.length_blake2s256 _

end SignedAttributeCredential

variable [Chrono]

/-- `issue`: bind the private values to signed commitments. -/
def IssuerCredentials.issue (credentials : IssuerCredentials) (attributes : CredentialAttributes)
    (nonces : List JubJubScalar) : Option SignedAttributeCredential :=
  let age := commitAge attributes.birthDay attributes.ageSalt
  let owner := commitOwner attributes.walletSecret
  let nonAge := commitAttributes attributes.country attributes.role attributes.ageSalt
  (credentials.issuer.issue age owner nonAge nonces).map fun credential =>
    { birthDay := attributes.birthDay
      country := attributes.country
      role := attributes.role
      ageSalt := attributes.ageSalt
      walletSecret := attributes.walletSecret
      issuer := credentials.issuer.publicKey
      credential }

/-- Further nonces do not change an issued credential. -/
theorem IssuerCredentials.issue_append {credentials : IssuerCredentials}
    {attributes : CredentialAttributes} {nonces : List JubJubScalar}
    {credential : SignedAttributeCredential}
    (h : credentials.issue attributes nonces = some credential) (further : List JubJubScalar) :
    credentials.issue attributes (nonces ++ further) = some credential := by
  rw [IssuerCredentials.issue, Option.map_eq_some_iff] at h ⊢
  obtain ⟨issued, hissued, hcredential⟩ := h
  refine ⟨issued, ?_, hcredential⟩
  rw [IssuerKeyPair.issue, Option.map_eq_some_iff] at hissued ⊢
  obtain ⟨signature, hsign, hsignature⟩ := hissued
  exact ⟨signature, IssuerKeyPair.sign_append hsign further, hsignature⟩

namespace SignedAttributeCredential

/-- Some issuer returned this credential. -/
def Issued (credential : SignedAttributeCredential) : Prop :=
  ∃ (keyPair : IssuerKeyPair) (attributes : CredentialAttributes) (nonces : List JubJubScalar),
    keyPair.credentials.issue attributes nonces = some credential

/-- The stored commitments open to the stored values. -/
structure Opens (credential : SignedAttributeCredential) : Prop where
  age : credential.credential.ageCommitment.matches credential.birthDay credential.ageSalt = true
  owner : credential.credential.ownerCommitment.matches credential.walletSecret = true
  attributes : credential.credential.attributeCommitment.matches credential.country
    credential.role credential.ageSalt = true

end SignedAttributeCredential

namespace SignedAttributeCredential

variable {credential : SignedAttributeCredential}

/-- The values stored are those that were certified, under the key of the pair. -/
theorem issue_stores {keyPair : IssuerKeyPair} {attributes : CredentialAttributes}
    {nonces : List JubJubScalar} {credential : SignedAttributeCredential}
    (h : keyPair.credentials.issue attributes nonces = some credential) :
    credential.birthDay = attributes.birthDay ∧ credential.country = attributes.country ∧
      credential.role = attributes.role ∧ credential.ageSalt = attributes.ageSalt ∧
      credential.walletSecret = attributes.walletSecret ∧
      credential.issuer = keyPair.publicKey := by
  rw [IssuerCredentials.issue, Option.map_eq_some_iff] at h
  obtain ⟨_, _, hcredential⟩ := h
  subst hcredential
  exact ⟨rfl, rfl, rfl, rfl, rfl, rfl⟩

/-- An issued credential opens, and carries a valid signature of its issuer,
whose key may be the identity. -/
theorem Issued.spec (h : credential.Issued) :
    credential.Opens ∧ credential.credential.schemaVersion = ageCredentialSchemaV2 ∧
      credential.credential.issuerKeyFingerprint = credential.issuer.fingerprint ∧
      credential.credential.signature.isValid credential.issuer credential.credential.message =
        true := by
  obtain ⟨keyPair, attributes, nonces, h⟩ := h
  rw [IssuerCredentials.issue, Option.map_eq_some_iff] at h
  obtain ⟨issued, hissued, hcredential⟩ := h
  subst hcredential
  obtain ⟨hschema, hfingerprint, hage, howner, hattributes, hvalid⟩ :=
    IssuerKeyPair.issue_eq_some hissued
  refine ⟨⟨?_, ?_, ?_⟩, hschema, hfingerprint, hvalid⟩
  · simp [AgeCommitment.matches, hage]
  · simp [OwnerCommitment.matches, howner]
  · simp [AttributeCommitment.matches, hattributes]

end SignedAttributeCredential

/-- Under a non-identity key, what an issuer returns verifies. -/
theorem SignedAttributeCredential.issue_verify {keyPair : IssuerKeyPair}
    {attributes : CredentialAttributes} {nonces : List JubJubScalar}
    {credential : SignedAttributeCredential} (hkey : keyPair.publicKey.isIdentity = false)
    (h : keyPair.credentials.issue attributes nonces = some credential) :
    credential.credential.verify keyPair.publicKey = .ok () := by
  have hissued : credential.Issued := ⟨keyPair, attributes, nonces, h⟩
  obtain ⟨-, hschema, hfingerprint, hvalid⟩ := hissued.spec
  obtain ⟨-, -, -, -, -, hissuer⟩ := issue_stores h
  rw [hissuer] at hfingerprint hvalid
  rw [AgeCredential.verify_ok_iff]
  exact ⟨hschema, hkey, hfingerprint, hvalid⟩

/-! ## The credential of given values -/

/-- The credential with the commitments of these values, under a key and a signature. -/
def presented (key : IssuerPublicKey) (attributes : CredentialAttributes)
    (signature : IssuerSignature) : AgeCredential where
  issuerKeyFingerprint := key.fingerprint
  schemaVersion := ageCredentialSchemaV2
  ageCommitment := commitAge attributes.birthDay attributes.ageSalt
  ownerCommitment := commitOwner attributes.walletSecret
  attributeCommitment := commitAttributes attributes.country attributes.role attributes.ageSalt
  signature

/-- What an issuer returns is the credential of the attributes under its signature. -/
theorem SignedAttributeCredential.issue_presented {keyPair : IssuerKeyPair}
    {attributes : CredentialAttributes} {nonces : List JubJubScalar}
    {credential : SignedAttributeCredential}
    (h : keyPair.credentials.issue attributes nonces = some credential) :
    credential.credential =
      presented keyPair.publicKey attributes credential.credential.signature := by
  rw [IssuerCredentials.issue, Option.map_eq_some_iff] at h
  obtain ⟨issued, hissued, hcredential⟩ := h
  subst hcredential
  rw [IssuerKeyPair.issue, Option.map_eq_some_iff] at hissued
  obtain ⟨signature, -, hsignature⟩ := hissued
  subst hsignature
  rw [presented]
  rfl

end Issuance

end Zcaprio
