import Zcaprio.Circuit.Commitment
import Zcaprio.Native.Proof

/-!
# Circuit templates

`groth16/template.rs` and the policy of `groth16.rs`. A template is the shape
of a proof with issuer keys and claim kinds as constants.
-/

namespace Zcaprio

open Trace

/-- The date against which age claims are evaluated. -/
structure VerificationPolicy where
  asOf : BirthDay
  deriving DecidableEq

/-- The calendar date `years` before, February 29 moved to February 28. -/
def birthdayCutoff {ε : Type} (asOf : NaiveDate) (years : UInt8) : Exec ε NaiveDate :=
  let year := asOf.year - years.toNat
  let day := if asOf.month = 2 ∧ asOf.day = 29 then 28 else asOf.day
  Exec.expectSome "a supported verification date has a supported birthday cutoff"
    (NaiveDate.fromYmdOpt year asOf.month day)

def cutoff {ε : Type} [Chrono] (policy : VerificationPolicy) (years : UInt8) : Exec ε Fr := do
  let birthday ← birthdayCutoff policy.asOf.date years
  let birthday ← Exec.expect "a supported cutoff is a supported birthday" (BirthDay.fromDate birthday)
  return (birthday.daysSince1900 : Fr)

/-- The codes of the member states. -/
def euCountryCodes : List (Char × Char) :=
  [('A', 'T'), ('B', 'E'), ('B', 'G'), ('H', 'R'), ('C', 'Y'), ('C', 'Z'), ('D', 'K'), ('E', 'E'),
   ('F', 'I'), ('F', 'R'), ('D', 'E'), ('G', 'R'), ('H', 'U'), ('I', 'E'), ('I', 'T'), ('L', 'V'),
   ('L', 'T'), ('L', 'U'), ('M', 'T'), ('N', 'L'), ('P', 'L'), ('P', 'T'), ('R', 'O'), ('S', 'K'),
   ('S', 'I'), ('E', 'S'), ('S', 'E')]

/-- The codes as bytes. -/
def euCountryBytes : List (UInt8 × UInt8) :=
  euCountryCodes.map fun code => (UInt8.ofNat code.1.toNat, UInt8.ofNat code.2.toNat)

/-- The packed codes, as `u16::from_be_bytes` gives them. -/
def euCountryNumbers : List ℕ := euCountryBytes.map fun code => Country.packed code.1 code.2

def euCountries : List Fr := euCountryNumbers.map fun (n : ℕ) => (n : Fr)

section Template

variable [Curve]

structure DirectTemplate where
  issuer : IssuerPublicKey
  claim : ClaimKind
  deriving DecidableEq

/-- A verifier-held proof shape. -/
inductive CircuitTemplate where
  | Direct (template : DirectTemplate)
  | Conjunction (left right : CircuitTemplate)
  | Disjunction (left right : CircuitTemplate)
  deriving DecidableEq

namespace DirectTemplate

variable [Hashes]

def fromPlan (plan : DirectProofPlan) : Except ProofError DirectTemplate :=
  match plan.evidence with
  | none => .error .InvalidCredential
  | some credential =>
      if credential.hash ≠ plan.credential then .error .InvalidCredential
      else if plan.claim.kind = .Custom then .error .UnsupportedClaim
      else .ok { issuer := credential.issuer, claim := plan.claim.kind }

def accepts (template : DirectTemplate) (plan : DirectProofPlan) : Bool :=
  match plan.evidence with
  | none => false
  | some credential =>
      credential.hash = plan.credential ∧ credential.issuer = template.issuer ∧
        plan.claim.kind = template.claim

end DirectTemplate

namespace CircuitTemplate

variable [Hashes]

def fromPlan : ProofPlan → Except ProofError CircuitTemplate
  | .Direct direct => (DirectTemplate.fromPlan direct).map Direct
  | .Conjunction left right => do
      let left ← fromPlan left
      let right ← fromPlan right
      return .Conjunction left right
  | .Disjunction left right => do
      let left ← fromPlan left
      let right ← fromPlan right
      return .Disjunction left right

def accepts : CircuitTemplate → ProofPlan → Bool
  | Direct template, .Direct direct => template.accepts direct
  | Conjunction left right, .Conjunction otherLeft otherRight =>
      left.accepts otherLeft && right.accepts otherRight
  | Disjunction left right, .Disjunction otherLeft otherRight =>
      left.accepts otherLeft && right.accepts otherRight
  | _, _ => false

theorem fromPlan_direct (direct : DirectProofPlan) :
    fromPlan (.Direct direct) = (DirectTemplate.fromPlan direct).map Direct := rfl

theorem fromPlan_conjunction (left right : ProofPlan) :
    fromPlan (.Conjunction left right) = do
      let left ← fromPlan left
      let right ← fromPlan right
      return .Conjunction left right := rfl

theorem fromPlan_disjunction (left right : ProofPlan) :
    fromPlan (.Disjunction left right) = do
      let left ← fromPlan left
      let right ← fromPlan right
      return .Disjunction left right := rfl

/-- A leaf accepts a leaf. -/
theorem accepts_direct_iff {template : DirectTemplate} {plan : ProofPlan} :
    (Direct template).accepts plan = true ↔
      ∃ direct, plan = .Direct direct ∧ template.accepts direct = true := by
  constructor
  · intro h
    cases plan with
    | Direct direct => exact ⟨direct, rfl, h⟩
    | Conjunction | Disjunction => exact absurd h Bool.false_ne_true
  · rintro ⟨direct, rfl, h⟩
    exact h

/-- A node accepts a node of its kind whose children its children accept. -/
theorem accepts_conjunction_iff {left right : CircuitTemplate} {plan : ProofPlan} :
    (Conjunction left right).accepts plan = true ↔
      ∃ l r, plan = .Conjunction l r ∧ left.accepts l = true ∧ right.accepts r = true := by
  constructor
  · intro h
    cases plan with
    | Conjunction l r => exact ⟨l, r, rfl, Bool.and_eq_true_iff.mp h⟩
    | Direct | Disjunction => exact absurd h Bool.false_ne_true
  · rintro ⟨l, r, rfl, h⟩
    exact Bool.and_eq_true_iff.mpr h

theorem accepts_disjunction_iff {left right : CircuitTemplate} {plan : ProofPlan} :
    (Disjunction left right).accepts plan = true ↔
      ∃ l r, plan = .Disjunction l r ∧ left.accepts l = true ∧ right.accepts r = true := by
  constructor
  · intro h
    cases plan with
    | Disjunction l r => exact ⟨l, r, rfl, Bool.and_eq_true_iff.mp h⟩
    | Direct | Conjunction => exact absurd h Bool.false_ne_true
  · rintro ⟨l, r, rfl, h⟩
    exact Bool.and_eq_true_iff.mpr h

end CircuitTemplate

/-! ## Constraints -/

variable [Chrono]

def DirectTemplate.relation (template : DirectTemplate)
    (credential : Option SignedAttributeCredential) (policy : VerificationPolicy) :
    Synthesis Boolean := do
  let credential ← CredentialRelation.enforce template.issuer credential
  match template.claim with
  | .AgeAbove years => credential.age (← lift (cutoff policy years)) true
  | .AgeBelow years => credential.age (← lift (cutoff policy years)) false
  | .CountryIsEu => credential.countryAmong euCountries
  | .Role role => credential.roleEqual role.fieldElement
  | .Custom => fail .Unsatisfiable

/-- `relation`, with the error of its last arm, where the template and the
plan are of different shapes, as a parameter. -/
def CircuitTemplate.relationWith (mismatch : SynthesisError) : CircuitTemplate →
    Option ProofPlan → VerificationPolicy → Synthesis Boolean
  | Direct template, some (.Direct direct), policy => template.relation direct.evidence policy
  | Direct template, none, policy => template.relation none policy
  | Conjunction left right, some (.Conjunction otherLeft otherRight), policy => do
      let l ← left.relationWith mismatch (some otherLeft) policy
      let r ← right.relationWith mismatch (some otherRight) policy
      callBoolean (.and l r)
  | Disjunction left right, some (.Disjunction otherLeft otherRight), policy => do
      let l ← left.relationWith mismatch (some otherLeft) policy
      let r ← right.relationWith mismatch (some otherRight) policy
      callBoolean (.or l r)
  -- setup has no plan
  | Conjunction left right, none, policy => do
      let l ← left.relationWith mismatch none policy
      let r ← right.relationWith mismatch none policy
      callBoolean (.and l r)
  | Disjunction left right, none, policy => do
      let l ← left.relationWith mismatch none policy
      let r ← right.relationWith mismatch none policy
      callBoolean (.or l r)
  | _, _, _ => fail mismatch

def CircuitTemplate.relation (template : CircuitTemplate) (plan : Option ProofPlan)
    (policy : VerificationPolicy) : Synthesis Boolean :=
  template.relationWith .Unsatisfiable plan policy

/-! ## The complete circuit

`groth16/circuit.rs`. -/

/-- The complete relation for one template. -/
structure ProofCircuit where
  policy : VerificationPolicy
  template : CircuitTemplate
  plan : Option ProofPlan

namespace ProofCircuit

def generateConstraints (circuit : ProofCircuit) : Synthesis Unit := do
  let root ← circuit.template.relation circuit.plan circuit.policy
  callUnit (.enforceEqual [root] [.Constant true])

/-- The events of a fresh constraint system, with the values supplied for them. -/
def synthesize (circuit : ProofCircuit) : Exec SynthesisError ConstraintSystem :=
  let (outcome, cs) := run circuit.generateConstraints []
  outcome.map fun _ => cs

end ProofCircuit

end Template

namespace ProofCircuit

variable [Gadgets] [Chrono]

/-- Checks the constraints at the values the prover computes. -/
def isSatisfied (circuit : ProofCircuit) : Exec SynthesisError Bool :=
  circuit.synthesize.map fun cs => decide (Satisfies (complete cs.input cs.shape) 0 cs.shape)

end ProofCircuit

end Zcaprio
