import Zcaprio.Framework.Formula
import Zcaprio.Native.Credential

/-!
# Lazy proof recipes

`proof.rs`, with the outcome of `verification.rs`. A proof is a tree of nodes;
its plan is the tree a terminal prover compiles. The three node types that
implement `ProofNode` are the constructors of one inductive type.
-/

namespace Zcaprio

/-- The privacy-safe outcome of artifact verification. -/
structure Verification where
  valid : Bool
  deriving DecidableEq

namespace Verification

def accepted : Verification := ⟨true⟩
def rejected : Verification := ⟨false⟩

end Verification

variable [Curve]

/-- A leaf of a plan: a credential hash, a claim, and the credential if it is held. -/
structure DirectProofPlan where
  credential : CredentialHash
  claim : Claim
  evidence : Option SignedAttributeCredential

inductive ProofPlan where
  | Direct (direct : DirectProofPlan)
  | Conjunction (left right : ProofPlan)
  | Disjunction (left right : ProofPlan)

inductive ProofNode where
  | CredentialProof (plan : DirectProofPlan)
  | ConjunctionProof (left right : ProofNode)
  | DisjunctionProof (left right : ProofNode)

def ProofNode.plan : ProofNode → ProofPlan
  | CredentialProof plan => .Direct plan
  | ConjunctionProof left right => .Conjunction left.plan right.plan
  | DisjunctionProof left right => .Disjunction left.plan right.plan

/-- An immutable, lazy proof recipe. -/
structure Proof where
  node : ProofNode

/-- An opaque request passed to a backend. -/
structure ProofRequest where
  plan : ProofPlan

namespace Proof

def and (self other : Proof) : Proof := ⟨.ConjunctionProof self.node other.node⟩

def or (self other : Proof) : Proof := ⟨.DisjunctionProof self.node other.node⟩

def request (self : Proof) : ProofRequest := ⟨self.node.plan⟩

/-- Hand the complete composition to the prover once. -/
def prove {Artifact : Type} (self : Proof) (prover : ProofRequest → Exec ProofError Artifact) :
    Exec ProofError Artifact := prover self.request

end Proof

/-- `Proofs.signed`. -/
def Proofs.signed [Hashes] (evidence : SignedAttributeCredential) (claim : Claim) : Proof :=
  ⟨.CredentialProof { credential := evidence.hash, claim, evidence := some evidence }⟩

/-- `Credential::is`. -/
def SignedAttributeCredential.is [Hashes] (credential : SignedAttributeCredential)
    (claim : Claim) : Proof := Proofs.signed credential claim

/-! ## The proofs a caller can build -/

/-- Built by nesting `is`, `and` and `or` over allowed credentials and claims. -/
inductive Proof.Built [Hashes] (P : SignedAttributeCredential → Prop) (Q : Claim → Prop) :
    Proof → Prop where
  | is {credential : SignedAttributeCredential} {claim : Claim} (hcredential : P credential)
      (hclaim : Q claim) : Built P Q (credential.is claim)
  | and {p q : Proof} (hp : Built P Q p) (hq : Built P Q q) : Built P Q (p.and q)
  | or {p q : Proof} (hp : Built P Q p) (hq : Built P Q q) : Built P Q (p.or q)

/-- More credentials or claims allow more proofs. -/
theorem Proof.Built.mono [Hashes] {P P' : SignedAttributeCredential → Prop} {Q Q' : Claim → Prop}
    {p : Proof} (h : p.Built P Q) (hP : ∀ credential, P credential → P' credential)
    (hQ : ∀ claim, Q claim → Q' claim) : p.Built P' Q' := by
  induction h with
  | is hcredential hclaim => exact .is (hP _ hcredential) (hQ _ hclaim)
  | and _ _ ihp ihq => exact .and ihp ihq
  | or _ _ ihp ihq => exact .or ihp ihq

/-- The and/or tree of a plan. -/
def ProofPlan.leaves : ProofPlan → Formula DirectProofPlan
  | Direct direct => .leaf direct
  | Conjunction left right => .and left.leaves right.leaves
  | Disjunction left right => .or left.leaves right.leaves

/-- The leaf `is` records. -/
def DirectProofPlan.Records [Hashes] (direct : DirectProofPlan)
    (credential : SignedAttributeCredential) : Prop :=
  direct.credential = credential.hash ∧ direct.evidence = some credential

/-- Every leaf of a built proof holds the credential it was made from. -/
theorem Proof.Built.leaves [Hashes] {P : SignedAttributeCredential → Prop} {Q : Claim → Prop}
    {p : Proof} (h : p.Built P Q) :
    p.request.plan.leaves.All fun direct =>
      ∃ credential, direct.Records credential ∧ P credential ∧ Q direct.claim := by
  induction h with
  | is hcredential hclaim => exact ⟨_, ⟨rfl, rfl⟩, hcredential, hclaim⟩
  | and _ _ ihp ihq => exact ⟨ihp, ihq⟩
  | or _ _ ihp ihq => exact ⟨ihp, ihq⟩

end Zcaprio
