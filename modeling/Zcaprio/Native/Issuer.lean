import Mathlib.Algebra.Group.Basic
import Mathlib.Tactic.Ring
import Zcaprio.Framework.Execution
import Zcaprio.Native.Commitment

/-!
# Issuer keys, signatures and credentials

`issuer.rs`. The Baby-JubJub curve is a parameter: a commutative group whose
points have affine coordinates and a compressed encoding. Scalars are the
integers modulo the order of the prime subgroup, and a point is multiplied
by the integer a scalar stands for.
-/

namespace Zcaprio

/-- The Schnorr parameters a seed expands to. -/
structure Parameters (Point : Type) where
  generator : Point
  salt : List UInt8

/-- The external curve library. -/
class Curve where
  Point : Type
  group : AddCommGroup Point
  decEq : DecidableEq Point
  x : Point → Fr
  y : Point → Fr
  coordinates_injective : ∀ P Q, x P = x Q → y P = y Q → P = Q
  serialize : Point → List UInt8
  deserialize : List UInt8 → Option (Point × List UInt8)
  setup : List UInt8 → Parameters Point
  length_serialize : ∀ P, (serialize P).length = 32
  deserialize_serialize : ∀ P rest, jubJubModulus • P = 0 →
    deserialize (serialize P ++ rest) = some (P, rest)
  deserialize_subgroup : ∀ bs P rest, deserialize bs = some (P, rest) → jubJubModulus • P = 0
  generator_subgroup : ∀ seed, jubJubModulus • (setup seed).generator = 0
  length_salt : ∀ seed, (setup seed).salt.length = 32

def ageCredentialSchemaV2 : UInt8 := 2

def parameterSeed : List UInt8 := utf8 "ZKPLAB_ISSUER_SCHNORR_PARAMS_V1!"

/-- A signature: response and challenge. -/
structure IssuerSignature where
  proverResponse : JubJubScalar
  verifierChallenge : JubJubScalar
  deriving DecidableEq

structure AgeCredential where
  issuerKeyFingerprint : IssuerKeyFingerprint
  schemaVersion : UInt8
  ageCommitment : AgeCommitment
  ownerCommitment : OwnerCommitment
  attributeCommitment : AttributeCommitment
  signature : IssuerSignature
  deriving DecidableEq

/-- The field-element tuple covered by a signature. -/
def credentialMessage (age : AgeCommitment) (owner : OwnerCommitment)
    (attributes : AttributeCommitment) (schemaVersion : UInt8) : Vector Fr 4 :=
  #v[age.fieldElement, owner.fieldElement, attributes.fieldElement, (schemaVersion.toNat : Fr)]

def messageBytes (message : Vector Fr 4) : List UInt8 := message.toList.flatMap canonical

/-- Elements of 32 bytes each can be read back from their concatenation. -/
theorem flatMap_canonical_inj {xs ys : List Fr} (hlen : xs.length = ys.length)
    (h : xs.flatMap canonical = ys.flatMap canonical) : xs = ys := by
  induction xs generalizing ys with
  | nil =>
      rw [List.length_nil] at hlen
      rw [List.length_eq_zero_iff.mp hlen.symm]
  | cons x xs ih =>
      cases ys with
      | nil => cases hlen
      | cons y ys =>
          rw [List.flatMap_cons, List.flatMap_cons] at h
          obtain ⟨hhead, htail⟩ := List.append_inj h (by simp)
          rw [canonical_injective frModulus_lt hhead,
            ih (Nat.succ.inj hlen) htail]

theorem messageBytes_injective : Function.Injective messageBytes := by
  intro message message' h
  apply Vector.toList_inj.mp
  exact flatMap_canonical_inj (by simp) h

/-- A message contains its three commitments. -/
theorem credentialMessage_inj {age age' : AgeCommitment} {owner owner' : OwnerCommitment}
    {attributes attributes' : AttributeCommitment} {version version' : UInt8}
    (h : credentialMessage age owner attributes version =
      credentialMessage age' owner' attributes' version') :
    age = age' ∧ owner = owner' ∧ attributes = attributes' := by
  have hlist := congrArg Vector.toList h
  simp only [credentialMessage, Vector.toList_mk, List.cons.injEq] at hlist
  obtain ⟨hage, howner, hattributes, -⟩ := hlist
  refine ⟨?_, ?_, ?_⟩
  · cases age; cases age'; exact congrArg _ hage
  · cases owner; cases owner'; exact congrArg _ howner
  · cases attributes; cases attributes'; exact congrArg _ hattributes

/-- `JubJubScalar::from_random_bytes` on a digest: keep the low 251 bits,
then fail unless they are below the modulus. -/
def fromRandomBytes (digest : List UInt8) : Option JubJubScalar :=
  let n := Digits.ofBytes digest % 2 ^ 251
  if n < jubJubModulus then some (n : JubJubScalar) else none

/-- The digest hashes to the scalar `s` exactly when `s` has its low 251 bits. -/
theorem fromRandomBytes_eq_some_iff {digest : List UInt8} {s : JubJubScalar} :
    fromRandomBytes digest = some s ↔ Digits.ofBytes digest % 2 ^ 251 = s.val := by
  rw [fromRandomBytes]
  have hs := ZMod.val_lt s
  split
  · rename_i hlt
    rw [Option.some_inj]
    constructor
    · rintro rfl
      rw [ZMod.val_natCast, Nat.mod_eq_of_lt hlt]
    · intro h
      rw [h, ZMod.natCast_zmod_val]
  · rename_i hge
    constructor
    · intro h
      exact (Option.some_ne_none s h.symm).elim
    · intro h
      rw [← h] at hs
      exact absurd hs hge

section Curve

variable [Curve]

abbrev EdwardsAffine : Type := Curve.Point

instance : AddCommGroup EdwardsAffine := Curve.group
instance : DecidableEq EdwardsAffine := Curve.decEq

/-- The affine coordinates of a point. -/
def affine (P : EdwardsAffine) : Fr × Fr := (Curve.x P, Curve.y P)

theorem affine_injective : Function.Injective affine := by
  intro P Q h
  exact Curve.coordinates_injective P Q (congrArg Prod.fst h) (congrArg Prod.snd h)

/-- Multiplication by the integer of a scalar. -/
def mul (P : EdwardsAffine) (s : JubJubScalar) : EdwardsAffine := s.val • P

def schnorrParameters : Parameters EdwardsAffine := Curve.setup parameterSeed

def issuerGeneratorCoordinates : Fr × Fr := affine schnorrParameters.generator

def issuerSignatureSalt : List UInt8 := schnorrParameters.salt

/-! ## Keys -/

/-- A public key: a point of the prime-order subgroup. -/
structure IssuerPublicKey where
  point : EdwardsAffine
  subgroup : jubJubModulus • point = 0
  deriving DecidableEq

theorem IssuerPublicKey.ext {k k' : IssuerPublicKey} (h : k.point = k'.point) : k = k' := by
  cases k; cases k'; simp_all

theorem mul_subgroup {P : EdwardsAffine} (h : jubJubModulus • P = 0) (s : JubJubScalar) :
    jubJubModulus • mul P s = 0 := by
  unfold mul
  rw [← mul_nsmul', Nat.mul_comm, mul_nsmul', h, nsmul_zero]

/-- A key pair: the public point is the generator times the secret. -/
structure IssuerKeyPair where
  publicKey : IssuerPublicKey
  secretKey : JubJubScalar
  paired : publicKey.point = mul schnorrParameters.generator secretKey

/-- `generate_with_rng`, given the scalar the generator yields. -/
def IssuerKeyPair.generateWithRng (sample : JubJubScalar) : IssuerKeyPair where
  publicKey := ⟨mul schnorrParameters.generator sample,
    mul_subgroup (Curve.generator_subgroup parameterSeed) sample⟩
  secretKey := sample
  paired := rfl

namespace IssuerPublicKey

/-- Decodes a canonical, non-identity key. -/
def fromHex (value : String) : Except PrimitiveError IssuerPublicKey :=
  match bytes value with
  | .error e => .error e
  | .ok encoded =>
      match h : Curve.deserialize encoded with
      | none => .error .InvalidEncoding
      | some (point, input) =>
          -- leftover bytes, the identity, another encoding of the point
          if input ≠ [] ∨ point = 0 ∨ Curve.serialize point ≠ encoded then .error .InvalidEncoding
          else .ok ⟨point, Curve.deserialize_subgroup encoded point input h⟩

theorem hex_serialize_ne_empty (P : EdwardsAffine) : hex (Curve.serialize P) ≠ "" := by
  intro h
  have hbytes := bytes_hex_ok (Curve.serialize P)
  rw [h, show bytes "" = .ok [] by rfl] at hbytes
  have hlen := Curve.length_serialize P
  rw [← Except.ok.inj hbytes] at hlen
  cases hlen

omit [Curve] in
theorem trim_hex (bs : List UInt8) : trim (hex bs) = hex bs := by
  have hdigit : ∀ n < 16, isWhitespace (hexDigit n) = false := by decide
  apply trim_eq_self
  intro c hc
  unfold hex at hc
  rw [String.toList_ofList, List.mem_flatMap] at hc
  obtain ⟨byte, -, hc⟩ := hc
  obtain ⟨hhigh, hlow⟩ := byte_halves byte
  rcases List.mem_pair.mp hc with rfl | rfl
  · exact hdigit _ hhigh
  · exact hdigit _ hlow

theorem fingerprint_ok (k : IssuerPublicKey) :
    IssuerKeyFingerprint.new (hex (Curve.serialize k.point)) =
      .ok ⟨hex (Curve.serialize k.point), hex_serialize_ne_empty k.point, trim_hex _⟩ :=
  IssuerKeyFingerprint.new_of_trimmed (hex_serialize_ne_empty k.point) (trim_hex _)

/-- The canonical fingerprint; its `expect` never fires. -/
def fingerprint (k : IssuerPublicKey) : IssuerKeyFingerprint :=
  expectOk (IssuerKeyFingerprint.new (hex (Curve.serialize k.point))) ⟨_, fingerprint_ok k⟩

theorem fingerprint_value (k : IssuerPublicKey) :
    k.fingerprint.value = hex (Curve.serialize k.point) := by
  rw [fingerprint, expectOk_of_eq (fingerprint_ok k)]

def coordinates (k : IssuerPublicKey) : Fr × Fr := affine k.point

def isIdentity (k : IssuerPublicKey) : Bool := k.point = 0

def serialize (k : IssuerPublicKey) : String := hex (Curve.serialize k.point)

def deserialize (value : String) : Except String IssuerPublicKey :=
  (fromHex value).mapError PrimitiveError.code

/-- The text determines the key, the identity included. -/
theorem serialize_injective : Function.Injective serialize := by
  intro k k' h
  -- both points are decoded from the same bytes
  have hpoint := Curve.deserialize_serialize k.point [] k.subgroup
  rw [hex_injective h, Curve.deserialize_serialize k'.point [] k'.subgroup] at hpoint
  exact IssuerPublicKey.ext (by simpa using hpoint.symm)

/-- So does the fingerprint. -/
theorem fingerprint_injective : Function.Injective fingerprint := by
  intro k k' h
  apply serialize_injective
  unfold serialize
  rw [← fingerprint_value, h, fingerprint_value]

/-- A non-identity key is read back from its text. -/
theorem fromHex_serialize {k : IssuerPublicKey} (h : k.isIdentity = false) :
    fromHex k.serialize = .ok k := by
  have hpoint := Curve.deserialize_serialize k.point [] k.subgroup
  rw [List.append_nil] at hpoint
  have hne : k.point ≠ 0 := by simpa [isIdentity] using h
  simp only [fromHex, serialize, bytes_hex_ok]
  split
  · rename_i hnone
    rw [hpoint] at hnone
    cases hnone
  · rename_i point input hsome
    rw [hpoint] at hsome
    obtain ⟨rfl, rfl⟩ : k.point = point ∧ [] = input := by simpa using hsome
    rw [if_neg (by simp [hne])]

end IssuerPublicKey

/-! ## Transcripts -/

/-- The bytes the challenge is the hash of. -/
structure SchnorrTranscript where
  bytes : List UInt8
  deriving DecidableEq

namespace SchnorrTranscript

/-- `salt || x || y || u64_le(length) || message`. -/
def fromCommitment (commitment : EdwardsAffine) (message : Vector Fr 4) : SchnorrTranscript :=
  ⟨schnorrParameters.salt ++ canonical (Curve.x commitment) ++ canonical (Curve.y commitment) ++
    (Digits.toBytes 8 (messageBytes message).length ++ messageBytes message)⟩

/-- For one commitment point the transcript determines the message. -/
theorem fromCommitment_injective (commitment : EdwardsAffine) :
    Function.Injective (fromCommitment commitment) := by
  intro message message' h
  have hbytes := congrArg SchnorrTranscript.bytes h
  simp only [fromCommitment] at hbytes
  have hrest := List.append_cancel_left hbytes
  -- the two length fields are eight bytes each
  exact messageBytes_injective (List.append_inj hrest (by simp)).2

/-- The point `generator * response + key * challenge` stands for the commitment. -/
def fromSignature (key : IssuerPublicKey) (signature : IssuerSignature) (message : Vector Fr 4) :
    SchnorrTranscript :=
  fromCommitment (mul schnorrParameters.generator signature.proverResponse +
    mul key.point signature.verifierChallenge) message

variable [Hashes] in
/-- The truncated hash; `none` for a digest that is no scalar. -/
def challenge (transcript : SchnorrTranscript) : Option JubJubScalar :=
  fromRandomBytes (Hashes.blake2s256 transcript.bytes)

end SchnorrTranscript

/-- The exact challenge input for a credential relation. -/
def credentialChallengeTranscript (key : IssuerPublicKey) (signature : IssuerSignature)
    (message : Vector Fr 4) : List UInt8 :=
  (SchnorrTranscript.fromSignature key signature message).bytes

/-! ## Signatures -/

namespace IssuerSignature

def proverResponseBytes (signature : IssuerSignature) : List UInt8 :=
  canonical signature.proverResponse

def verifierChallengeBytes (signature : IssuerSignature) : List UInt8 :=
  canonical signature.verifierChallenge

def encoded (signature : IssuerSignature) : List UInt8 :=
  signature.proverResponseBytes ++ signature.verifierChallengeBytes

/-- Two scalars of 32 bytes each, split at a fixed place. -/
def decoded (value : String) : Except PrimitiveError IssuerSignature :=
  match bytes value with
  | .error e => .error e
  | .ok encoded =>
      let elementSize := 32
      if encoded.length ≠ elementSize * 2 then .error .InvalidEncoding
      else
        match deserializeField jubJubModulus (encoded.take elementSize),
            deserializeField jubJubModulus (encoded.drop elementSize) with
        | some (proverResponse, _), some (verifierChallenge, _) =>
            .ok { proverResponse, verifierChallenge }
        | _, _ => .error .InvalidEncoding

def serialize (signature : IssuerSignature) : String := hex signature.encoded

def deserialize (value : String) : Except String IssuerSignature :=
  (decoded value).mapError PrimitiveError.code

variable [Hashes] in
def isValid (signature : IssuerSignature) (key : IssuerPublicKey) (message : Vector Fr 4) : Bool :=
  match (SchnorrTranscript.fromSignature key signature message).challenge with
  | some challenge => challenge = signature.verifierChallenge
  | none => false

omit [Curve] in
theorem decoded_serialize (signature : IssuerSignature) :
    decoded signature.serialize = .ok signature := by
  have hresponse := deserializeField_canonical jubJubModulus_lt signature.proverResponse []
  have hchallenge := deserializeField_canonical jubJubModulus_lt signature.verifierChallenge []
  rw [List.append_nil] at hresponse hchallenge
  have htake : signature.encoded.take 32 = canonical signature.proverResponse := by
    simp [encoded, proverResponseBytes]
  have hdrop : signature.encoded.drop 32 = canonical signature.verifierChallenge := by
    simp [encoded, proverResponseBytes, verifierChallengeBytes]
  have hlen : signature.encoded.length = 64 := by
    simp [encoded, proverResponseBytes, verifierChallengeBytes]
  simp [decoded, serialize, bytes_hex_ok, htake, hdrop, hlen, hresponse, hchallenge]

variable [Hashes] in
theorem isValid_iff {signature : IssuerSignature} {key : IssuerPublicKey} {message : Vector Fr 4} :
    signature.isValid key message = true ↔
      (SchnorrTranscript.fromSignature key signature message).challenge =
        some signature.verifierChallenge := by
  rw [isValid]
  split
  · rename_i challenge hchallenge
    rw [hchallenge, decide_eq_true_iff, Option.some_inj]
  · rename_i hnone
    simp [hnone]

end IssuerSignature

/-! ## Issuing and verifying -/

variable [Hashes]

/-- The signing loop over the nonces drawn so far: the first one whose
transcript hashes to a scalar is used, `none` while there is no such nonce. -/
def IssuerKeyPair.sign (keyPair : IssuerKeyPair) (message : Vector Fr 4) :
    List JubJubScalar → Option IssuerSignature
  | [] => none
  | randomScalar :: nonces =>
      let commitment := mul schnorrParameters.generator randomScalar
      match (SchnorrTranscript.fromCommitment commitment message).challenge with
      | some verifierChallenge => some
          { proverResponse := randomScalar - verifierChallenge * keyPair.secretKey
            verifierChallenge }
      -- the digest is no scalar: try the next nonce
      | none => keyPair.sign message nonces

/-- `IssuerKeyPair::issue`. -/
def IssuerKeyPair.issue (keyPair : IssuerKeyPair) (age : AgeCommitment) (owner : OwnerCommitment)
    (attributes : AttributeCommitment) (nonces : List JubJubScalar) : Option AgeCredential :=
  (keyPair.sign (credentialMessage age owner attributes ageCredentialSchemaV2) nonces).map
    fun signature =>
      { issuerKeyFingerprint := keyPair.publicKey.fingerprint
        schemaVersion := ageCredentialSchemaV2
        ageCommitment := age
        ownerCommitment := owner
        attributeCommitment := attributes
        signature }

namespace AgeCredential

/-- The message the signature of a credential covers. -/
def message (credential : AgeCredential) : Vector Fr 4 :=
  credentialMessage credential.ageCommitment credential.ownerCommitment
    credential.attributeCommitment credential.schemaVersion

/-- Verifies schema, issuer identity and signature, in this order. -/
def verify (credential : AgeCredential) (issuer : IssuerPublicKey) : Except PrimitiveError Unit :=
  if credential.schemaVersion ≠ ageCredentialSchemaV2 then .error .UnsupportedSchema
  else if issuer.isIdentity then .error .InvalidCredential
  else if credential.issuerKeyFingerprint ≠ issuer.fingerprint then .error .InvalidCredential
  else if credential.signature.isValid issuer credential.message then .ok ()
  else .error .InvalidCredential

theorem verify_ok_iff (credential : AgeCredential) (issuer : IssuerPublicKey) :
    credential.verify issuer = .ok () ↔
      credential.schemaVersion = ageCredentialSchemaV2 ∧ issuer.isIdentity = false ∧
        credential.issuerKeyFingerprint = issuer.fingerprint ∧
        credential.signature.isValid issuer credential.message = true := by
  unfold verify
  split_ifs <;> simp_all

/-- No credential verifies under the identity. -/
theorem verify_isIdentity (credential : AgeCredential) {issuer : IssuerPublicKey}
    (h : issuer.isIdentity = true) : credential.verify issuer ≠ .ok () := by
  intro hverify
  have hnot := ((verify_ok_iff credential issuer).mp hverify).2.1
  rw [h] at hnot
  cases hnot

end AgeCredential

/-! ## What signing guarantees -/

omit [Hashes] in
/-- A scalar acts on a subgroup point through any integer that reduces to it. -/
theorem mul_natCast {P : EdwardsAffine} (hP : jubJubModulus • P = 0) (n : ℕ) :
    mul P (n : JubJubScalar) = n • P := by
  rw [mul, ZMod.val_natCast]
  conv_rhs => rw [← Nat.mod_add_div n jubJubModulus, add_nsmul, mul_nsmul, hP, nsmul_zero, add_zero]

omit [Hashes] in
theorem mul_add {P : EdwardsAffine} (hP : jubJubModulus • P = 0) (s t : JubJubScalar) :
    mul P (s + t) = mul P s + mul P t := by
  have hcast : s + t = ((s.val + t.val : ℕ) : JubJubScalar) := by
    rw [Nat.cast_add, ZMod.natCast_zmod_val, ZMod.natCast_zmod_val]
  rw [hcast, mul_natCast hP, add_nsmul]
  rfl

omit [Hashes] in
theorem mul_mul {P : EdwardsAffine} (hP : jubJubModulus • P = 0) (s t : JubJubScalar) :
    mul P (s * t) = mul (mul P s) t := by
  have hcast : s * t = ((s.val * t.val : ℕ) : JubJubScalar) := by
    rw [Nat.cast_mul, ZMod.natCast_zmod_val, ZMod.natCast_zmod_val]
  rw [hcast, mul_natCast hP, mul_nsmul]
  rfl

omit [Hashes] in
/-- The verifier recomputes the commitment: `G·(k - e·s) + (G·s)·e = G·k`. -/
theorem commitment_recomputed (keyPair : IssuerKeyPair) (k e : JubJubScalar) :
    mul schnorrParameters.generator (k - e * keyPair.secretKey) + mul keyPair.publicKey.point e =
      mul schnorrParameters.generator k := by
  have hG : jubJubModulus • schnorrParameters.generator = 0 := Curve.generator_subgroup parameterSeed
  rw [keyPair.paired, ← mul_mul hG, ← mul_add hG]
  congr 1
  ring

/-- The loop exits with a nonce whose transcript hashes to a scalar. -/
theorem IssuerKeyPair.sign_isValid {keyPair : IssuerKeyPair} {message : Vector Fr 4}
    {nonces : List JubJubScalar} {signature : IssuerSignature}
    (h : keyPair.sign message nonces = some signature) :
    signature.isValid keyPair.publicKey message = true := by
  induction nonces with
  | nil => cases h
  | cons randomScalar nonces ih =>
      rw [IssuerKeyPair.sign] at h
      split at h
      · rename_i verifierChallenge hchallenge
        obtain rfl := Option.some.inj h
        -- the verifier's point is the commitment of this nonce
        unfold IssuerSignature.isValid SchnorrTranscript.fromSignature
        rw [commitment_recomputed,
          hchallenge]
        simp
      · exact ih h

/-- Signing returns once a nonce has a transcript that hashes to a scalar. -/
theorem IssuerKeyPair.sign_isSome {keyPair : IssuerKeyPair} {message : Vector Fr 4}
    {nonces : List JubJubScalar} :
    (keyPair.sign message nonces).isSome ↔ ∃ randomScalar ∈ nonces,
      ((SchnorrTranscript.fromCommitment (mul schnorrParameters.generator randomScalar)
        message).challenge).isSome := by
  induction nonces with
  | nil => simp [IssuerKeyPair.sign]
  | cons randomScalar nonces ih =>
      rw [IssuerKeyPair.sign]
      split
      · rename_i hchallenge
        simp [hchallenge]
      · rename_i hchallenge
        simp [ih, hchallenge]

/-- Further nonces do not change a signature. -/
theorem IssuerKeyPair.sign_append {keyPair : IssuerKeyPair} {message : Vector Fr 4}
    {nonces : List JubJubScalar} {signature : IssuerSignature}
    (h : keyPair.sign message nonces = some signature) (further : List JubJubScalar) :
    keyPair.sign message (nonces ++ further) = some signature := by
  induction nonces with
  | nil => cases h
  | cons randomScalar nonces ih =>
      rw [IssuerKeyPair.sign] at h
      rw [List.cons_append, IssuerKeyPair.sign]
      split at h
      · exact h
      · exact ih h

theorem IssuerKeyPair.issue_eq_some {keyPair : IssuerKeyPair} {age : AgeCommitment}
    {owner : OwnerCommitment} {attributes : AttributeCommitment} {nonces : List JubJubScalar}
    {credential : AgeCredential} (h : keyPair.issue age owner attributes nonces = some credential) :
    credential.schemaVersion = ageCredentialSchemaV2 ∧
      credential.issuerKeyFingerprint = keyPair.publicKey.fingerprint ∧
      credential.ageCommitment = age ∧ credential.ownerCommitment = owner ∧
      credential.attributeCommitment = attributes ∧
      credential.signature.isValid keyPair.publicKey credential.message = true := by
  rw [IssuerKeyPair.issue, Option.map_eq_some_iff] at h
  obtain ⟨signature, hsign, hcredential⟩ := h
  subst hcredential
  have hvalid := IssuerKeyPair.sign_isValid hsign
  simpa only [AgeCredential.message, true_and] using hvalid

end Curve

/-! ## Wire form of a credential -/

/-- A wire object: the text of each field, and the version number. -/
structure AgeCredentialText where
  issuerKeyFingerprint : String
  schemaVersion : UInt8
  ageCommitment : String
  ownerCommitment : String
  attributeCommitment : String
  signature : String

/-- The derived `Serialize`. -/
def AgeCredential.serialize (credential : AgeCredential) : AgeCredentialText where
  issuerKeyFingerprint := credential.issuerKeyFingerprint.value
  schemaVersion := credential.schemaVersion
  ageCommitment := credential.ageCommitment.serialize
  ownerCommitment := credential.ownerCommitment.serialize
  attributeCommitment := credential.attributeCommitment.serialize
  signature := credential.signature.serialize

/-- The derived `Deserialize`. -/
def AgeCredential.deserialize (text : AgeCredentialText) : Except String AgeCredential := do
  let issuerKeyFingerprint ← IssuerKeyFingerprint.deserialize text.issuerKeyFingerprint
  let ageCommitment ← AgeCommitment.deserialize text.ageCommitment
  let ownerCommitment ← OwnerCommitment.deserialize text.ownerCommitment
  let attributeCommitment ← AttributeCommitment.deserialize text.attributeCommitment
  let signature ← IssuerSignature.deserialize text.signature
  return { issuerKeyFingerprint, schemaVersion := text.schemaVersion, ageCommitment,
           ownerCommitment, attributeCommitment, signature }

/-- Transport gives back the credential, whatever it contains. -/
theorem AgeCredential.deserialize_serialize (credential : AgeCredential) :
    AgeCredential.deserialize credential.serialize = .ok credential := by
  simp [AgeCredential.deserialize, AgeCredential.serialize, IssuerKeyFingerprint.deserialize,
    IssuerKeyFingerprint.new_value, AgeCommitment.deserialize, AgeCommitment.serialize,
    OwnerCommitment.deserialize, OwnerCommitment.serialize, AttributeCommitment.deserialize,
    AttributeCommitment.serialize, IssuerSignature.deserialize, IssuerSignature.decoded_serialize,
    deserializeElement_serializeElement, bind, Except.bind, Except.mapError, Except.map, pure,
    Except.pure]

end Zcaprio
