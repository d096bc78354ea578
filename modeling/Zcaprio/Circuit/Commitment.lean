import Zcaprio.Circuit.Signature
import Zcaprio.Native.Credential

/-!
# The credential relation

`groth16/commitment.rs`. The private values of one credential, their three
commitments, and the signature over them.
-/

namespace Zcaprio

open Trace

namespace PoseidonRelation

def hash (input : List FpVar) : Synthesis FpVar := callFp (.poseidon input)

end PoseidonRelation

/-- The variables of one credential whose commitments and signature hold. -/
structure CredentialRelation where
  birthDay : FpVar
  country : FpVar
  role : FpVar
  deriving DecidableEq

namespace CredentialRelation

section Enforce

variable [Curve] [Chrono]

def enforce (expectedIssuer : IssuerPublicKey) (credential : Option SignedAttributeCredential) :
    Synthesis CredentialRelation := do
  let birthDay ← newWitness (credential.elim 0 fun value => (value.birthDay.daysSince1900 : Fr))
  let country ← newWitness (credential.elim 0 fun value => value.country.fieldElement)
  let role ← newWitness (credential.elim 0 fun value => value.role.fieldElement)
  let salt ← newWitness (credential.elim 0 fun value => value.ageSalt.fieldElement)
  let secret ← newWitness (credential.elim 0 fun value => value.walletSecret.fieldElement)
  let age ← PoseidonRelation.hash [.Constant ageDomain, birthDay, salt]
  let owner ← PoseidonRelation.hash [.Constant ownerDomain, secret]
  let attributes ← PoseidonRelation.hash [.Constant attributeDomain, country, role, salt]
  let message := [age, owner, attributes, .Constant (ageCredentialSchemaV2.toNat : Fr)]
  SchnorrRelation.enforce expectedIssuer (credential.map fun value => value.credential.signature)
    message
  return { birthDay, country, role }

end Enforce

/-- `birth_day <= cutoff`, or `birth_day > cutoff`. -/
def age (credential : CredentialRelation) (cutoff : Fr) (atLeast : Bool) : Synthesis Boolean :=
  let cutoff := FpVar.Constant cutoff
  if atLeast then callBoolean (.isCmp credential.birthDay cutoff .lt true)
  else callBoolean (.isCmp credential.birthDay cutoff .gt false)

/-- `country`: equal to one of the values. -/
def countryAmong (credential : CredentialRelation) (values : List Fr) : Synthesis Boolean := do
  let found ← values.mapM fun value => callBoolean (.isEq credential.country (.Constant value))
  callBoolean (.karyOr found)

/-- `role`: equal to the expected code. -/
def roleEqual (credential : CredentialRelation) (expected : Fr) : Synthesis Boolean :=
  callBoolean (.isEq credential.role (.Constant expected))

end CredentialRelation

end Zcaprio
