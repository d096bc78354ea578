import Zcaprio.Native.Claim
import Zcaprio.Native.Policy

/-!
# Commitments

`commitment.rs`. The two hash functions are parameters: the Poseidon sponge
at the protocol's fixed parameters, absorbing a list of field elements and
squeezing one, and Blake2s-256.
-/

namespace Zcaprio

/-- The external hash functions. -/
class Hashes where
  poseidonSponge : List Fr → Fr
  blake2s256 : List UInt8 → List UInt8
  length_blake2s256 : ∀ bs, (blake2s256 bs).length = 32

def ageDomainLabel : String := "ZKPLAB_AGE_V1"
def ownerDomainLabel : String := "ZKPLAB_OWNER_V1"
def attributeDomainLabel : String := "ZKPLAB_ATTR_V2"
def nullifierDomainLabel : String := "ZKPLAB_NULLIFIER_V1"

/-- `from_le_bytes_mod_order` of a label. -/
def domain (label : String) : Fr := (Digits.ofBytes (utf8 label) : Fr)

def ageDomain : Fr := domain ageDomainLabel
def ownerDomain : Fr := domain ownerDomainLabel
def attributeDomain : Fr := domain attributeDomainLabel

structure AgeSalt where
  fieldElement : Fr
  deriving DecidableEq

structure WalletSecret where
  fieldElement : Fr
  deriving DecidableEq

structure AgeCommitment where
  fieldElement : Fr
  deriving DecidableEq

structure OwnerCommitment where
  fieldElement : Fr
  deriving DecidableEq

structure AttributeCommitment where
  fieldElement : Fr
  deriving DecidableEq

structure Nullifier where
  fieldElement : Fr
  deriving DecidableEq

section Hashing

variable [Hashes]

def poseidonHash (input : List Fr) : Fr := Hashes.poseidonSponge input

def commitOwner (secret : WalletSecret) : OwnerCommitment :=
  ⟨poseidonHash [domain ownerDomainLabel, secret.fieldElement]⟩

def commitAttributes (country : Country) (role : Role) (salt : AgeSalt) : AttributeCommitment :=
  ⟨poseidonHash [domain attributeDomainLabel, country.fieldElement, role.fieldElement,
    salt.fieldElement]⟩

def deriveNullifier (secret : WalletSecret) (scope : VerifierScope) : Nullifier :=
  ⟨poseidonHash [domain nullifierDomainLabel, secret.fieldElement, scope.fieldElement]⟩

/-- Checks an opening. -/
def OwnerCommitment.matches (commitment : OwnerCommitment) (secret : WalletSecret) : Bool :=
  commitment = commitOwner secret

def AttributeCommitment.matches (commitment : AttributeCommitment) (country : Country)
    (role : Role) (salt : AgeSalt) : Bool :=
  commitment = commitAttributes country role salt

variable [Chrono]

def commitAge (birthDay : BirthDay) (salt : AgeSalt) : AgeCommitment :=
  ⟨poseidonHash [domain ageDomainLabel, (birthDay.daysSince1900 : Fr), salt.fieldElement]⟩

def AgeCommitment.matches (commitment : AgeCommitment) (birthDay : BirthDay)
    (salt : AgeSalt) : Bool :=
  commitment = commitAge birthDay salt

end Hashing

/-! ## Wire form

One macro gives all four types the same text form; here it is one pair of
functions, and each type applies it to its own field element. -/

def serializeElement (element : Fr) : String := hex (canonical element)

/-- `TryFrom<String>` of the wrapped element. -/
def tryFromText (value : String) : Except PrimitiveError Fr := parse (deserializeField frModulus) value

/-- `Deserialize`: the error is the code. -/
def deserializeElement (value : String) : Except String Fr :=
  (tryFromText value).mapError PrimitiveError.code

def AgeCommitment.serialize (c : AgeCommitment) : String := serializeElement c.fieldElement
def OwnerCommitment.serialize (c : OwnerCommitment) : String := serializeElement c.fieldElement
def AttributeCommitment.serialize (c : AttributeCommitment) : String :=
  serializeElement c.fieldElement
def Nullifier.serialize (n : Nullifier) : String := serializeElement n.fieldElement

def AgeCommitment.deserialize (value : String) : Except String AgeCommitment :=
  (deserializeElement value).map AgeCommitment.mk
def OwnerCommitment.deserialize (value : String) : Except String OwnerCommitment :=
  (deserializeElement value).map OwnerCommitment.mk
def AttributeCommitment.deserialize (value : String) : Except String AttributeCommitment :=
  (deserializeElement value).map AttributeCommitment.mk
def Nullifier.deserialize (value : String) : Except String Nullifier :=
  (deserializeElement value).map Nullifier.mk

theorem deserializeElement_serializeElement (element : Fr) :
    deserializeElement (serializeElement element) = .ok element := by
  rw [deserializeElement, tryFromText, serializeElement, parse_hex_canonical frModulus_lt]
  rfl

end Zcaprio
