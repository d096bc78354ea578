import Zcaprio.Framework.Execution
import Zcaprio.Native.Encoding

/-!
# Claims and the attributes they speak about

`claim.rs`, with the error type of `verification.rs`. A boxed claim is the
record of its two trait methods; a custom claim may answer any kind, and is
taken to answer the same one every time.
-/

namespace Zcaprio

/-- `ProofError`. -/
inductive ProofError where
  | UnsupportedClaim
  | InvalidCredential
  | Unprovable
  | IncompatibleBackend
  | InvalidArtifact
  | VerificationFailed
  deriving DecidableEq, Repr

/-- The `Display` text. -/
def ProofError.message : ProofError → String
  | UnsupportedClaim => "The claim is unsupported."
  | InvalidCredential => "The credential is invalid."
  | Unprovable => "The proof cannot be produced."
  | IncompatibleBackend => "The proof backend is incompatible."
  | InvalidArtifact => "The proof artifact is invalid."
  | VerificationFailed => "The proof did not verify."

/-! ## Attributes -/

def isAsciiUppercase (byte : UInt8) : Bool := 65 ≤ byte ∧ byte ≤ 90

/-- A two-letter country code. -/
structure Country where
  first : UInt8
  second : UInt8
  uppercase : isAsciiUppercase first ∧ isAsciiUppercase second
  deriving DecidableEq

namespace Country

/-- `TryFrom<String>`. -/
def tryFrom (value : String) : Except ProofError Country :=
  match utf8 value with
  | [first, second] =>
      if h : isAsciiUppercase first ∧ isAsciiUppercase second then .ok ⟨first, second, h⟩
      else .error .InvalidCredential
  | _ => .error .InvalidCredential

/-- `u16::from_be_bytes`. -/
def packed (first second : UInt8) : ℕ := 256 * first.toNat + second.toNat

def fieldElement (country : Country) : Fr := (packed country.first country.second : Fr)

/-- The text of a code, with its `expect`. -/
def code (country : Country) : Exec Empty String :=
  Exec.expectSome "validated country code is ASCII"
    ((fromUtf8 [country.first, country.second]).map String.ofList)

end Country

inductive Role where
  | Staff
  | Student
  | Visitor
  deriving DecidableEq, Repr

/-- The code a role is committed to as. -/
def Role.code : Role → ℕ
  | Staff => 1
  | Student => 2
  | Visitor => 3

def Role.fieldElement (role : Role) : Fr := (role.code : Fr)

/-! ## Claims -/

/-- The relations the backend understands; thresholds are `u8`. -/
inductive ClaimKind where
  | AgeAbove (years : UInt8)
  | AgeBelow (years : UInt8)
  | CountryIsEu
  | Role (role : Role)
  | Custom
  deriving DecidableEq, Repr

/-- The characters of a claim name: ASCII letters, digits, `-` and `_`. -/
def isClaimNameByte (byte : UInt8) : Bool :=
  (48 ≤ byte ∧ byte ≤ 57) ∨ (65 ≤ byte ∧ byte ≤ 90) ∨ (97 ≤ byte ∧ byte ≤ 122) ∨
    byte = 45 ∨ byte = 95

/-- A validated claim name. -/
structure ClaimName where
  value : String
  valid : value ≠ "" ∧ (utf8 value).length ≤ 64 ∧ (utf8 value).all isClaimNameByte = true

/-- `TryFrom<String>`. -/
def ClaimName.tryFrom (value : String) : Except ProofError ClaimName :=
  if h : value ≠ "" ∧ (utf8 value).length ≤ 64 ∧ (utf8 value).all isClaimNameByte = true then
    .ok ⟨value, h⟩
  else .error .UnsupportedClaim

/-- A boxed claim: the answers of its trait methods. -/
structure Claim where
  name : Exec Empty ClaimName
  kind : ClaimKind

/-- The `expect` of the built-in names. -/
def builtInName (text : String) : Exec Empty ClaimName :=
  Exec.expect "built-in claim name is valid" (ClaimName.tryFrom text)

namespace Claim

/-- `AgeIsAbove::new`. -/
def ageIsAbove (years : UInt8) : Claim :=
  ⟨builtInName ("age_is_above_" ++ toString years.toNat), .AgeAbove years⟩

/-- `AgeIsBelow::new`. -/
def ageIsBelow (years : UInt8) : Claim :=
  ⟨builtInName ("age_is_below_" ++ toString years.toNat), .AgeBelow years⟩

/-- `CountryIsEu`. -/
def countryIsEu : Claim := ⟨builtInName "country_is_eu", .CountryIsEu⟩

/-- `RoleIs::new`. -/
def roleIs (role : Role) : Claim := ⟨builtInName "role_is", .Role role⟩

/-- The claims the library exports. -/
inductive BuiltIn : Claim → Prop where
  | ageIsAbove (years : UInt8) : BuiltIn (ageIsAbove years)
  | ageIsBelow (years : UInt8) : BuiltIn (ageIsBelow years)
  | countryIsEu : BuiltIn countryIsEu
  | roleIs (role : Role) : BuiltIn (roleIs role)

theorem BuiltIn.kind_ne_custom {claim : Claim} (h : BuiltIn claim) : claim.kind ≠ .Custom := by
  cases h <;> simp [Claim.ageIsAbove, Claim.ageIsBelow, Claim.countryIsEu, Claim.roleIs]

end Claim

end Zcaprio
