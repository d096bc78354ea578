import Zcaprio.Instances.Reference
import Zcaprio.Metatheory.Backend

/-!
# Disjunctions are not gated

The assertions of a leaf do not depend on its branch being the selected one. So
a true tree is not enough: every leaf, of either branch, needs a valid
signature on its opening.
-/

namespace Zcaprio

open Trace ProofPlan

section Disjunction

variable [Gadgets] [Chrono] {w : Assignment Fr} {policy : VerificationPolicy}

omit [Chrono] in
/-- A leaf that accepts and whose claim holds is a proved leaf, and conversely
up to the range of the birth day. -/
theorem holds_leafProves_iff {leaves : Formula (DirectTemplate × ℕ)} (h : leaves.All (LeafAccepts w)) :
    leaves.Holds (LeafProves policy w) ↔ leaves.Holds (LeafHolds policy w) := by
  apply Formula.holds_congr
  apply h.imp
  intro leaf hleaf
  constructor
  · intro hproves
    exact hproves.holds
  · intro hclaim
    exact ⟨hleaf.bits, hleaf.signed, hclaim⟩

/-- At the values a prover computes from any allocation values, a true tree of
proved leaves satisfies the circuit exactly when every leaf accepts, selected or not. -/
theorem satisfies_of_true_iff {circuit : ProofCircuit}
    (hsupported : circuit.template.SupportedAt circuit.policy) (input : ℕ → List Fr) :
    let w := complete input circuit.block.shape
    ((circuit.template.placed 0).Holds (LeafProves circuit.policy w) →
        Satisfies w 0 circuit.block.shape) ↔
      ((circuit.template.placed 0).Holds (LeafProves circuit.policy w) →
        (circuit.template.placed 0).All (LeafAccepts w)) := by
  intro w
  refine imp_congr_right fun hproves => ?_
  rw [circuit.satisfies_complete_iff hsupported]
  constructor
  · rintro ⟨hall, -⟩
    exact hall
  · intro hall
    exact ⟨hall, (holds_leafProves_iff hall).mp hproves⟩

/-- With one branch satisfied and true, the circuit of a disjunction is satisfied
exactly when the leaves of the other branch accept as well. -/
theorem satisfies_of_branch_iff {left right : CircuitTemplate} {plan : Option ProofPlan}
    (hsupported : (CircuitTemplate.Disjunction left right).SupportedAt policy)
    (hdetermined : Determined w 0
      (ProofCircuit.block { policy, template := .Disjunction left right, plan }).shape) :
    (CircuitTemplate.BranchTrue w 0 (left.block (leftOf plan) policy 0) (.Var ⟨left.output 0, 0⟩) →
      (Satisfies w 0 (ProofCircuit.block
          { policy, template := .Disjunction left right, plan }).shape ↔
        (right.placed left.size).All (LeafAccepts w))) ∧
    (CircuitTemplate.BranchTrue w left.size (right.block (rightOf plan) policy left.size)
        (.Var ⟨right.output left.size, 0⟩) →
      (Satisfies w 0 (ProofCircuit.block
          { policy, template := .Disjunction left right, plan }).shape ↔
        (left.placed 0).All (LeafAccepts w))) := by
  have hparts := hdetermined
  unfold ProofCircuit.block at hparts
  rw [shape_append, Determined, along_append] at hparts
  have hbranches : Determined w 0
      ((CircuitTemplate.Disjunction left right).block plan policy 0).shape := hparts.1
  unfold CircuitTemplate.block Determined at hbranches
  rw [CircuitTemplate.along_gate
    (CircuitTemplate.length_block hsupported.1 _ _)
    (CircuitTemplate.length_block hsupported.2 _ _), Nat.zero_add] at hbranches
  obtain ⟨hl, hr, -⟩ := hbranches
  rw [ProofCircuit.satisfies_iff hsupported hdetermined,
    CircuitTemplate.branchTrue_iff hsupported.1 hl, CircuitTemplate.branchTrue_iff hsupported.2 hr]
  simp only [CircuitTemplate.placed, Nat.zero_add, Formula.All, Formula.Holds]
  constructor
  · rintro ⟨hall, hholds⟩
    constructor
    · intro h
      exact h.1.2
    · intro h
      exact ⟨⟨hall, h⟩, Or.inl hholds⟩
  · rintro ⟨hall, hholds⟩
    constructor
    · intro h
      exact h.1.1
    · intro h
      exact ⟨⟨h, hall⟩, Or.inr hholds⟩

/-- For a compiled template and any allocation values: a true tree of proved
leaves, or in a disjunction one branch that is satisfied and true, satisfies the
circuit exactly when the remaining leaves accept too. -/
theorem ungated_iff {compiled : ProofPlan} {template : CircuitTemplate} {plan : Option ProofPlan}
    {cs : ConstraintSystem} (hcompiled : CircuitTemplate.fromPlan compiled = .ok template)
    (hplan : ∀ other, plan = some other → template.accepts other = true)
    (hcs : ({ policy, template, plan } : ProofCircuit).synthesize = .ok cs)
    (input : ℕ → List Fr) :
    let w := complete input cs.shape
    (((template.placed 0).Holds (LeafProves policy w) → Satisfies w 0 cs.shape) ↔
      ((template.placed 0).Holds (LeafProves policy w) →
        (template.placed 0).All (LeafAccepts w))) ∧
    ∀ left right, template = .Disjunction left right → ∃ l r csl csr,
      run (left.relation (leftOf plan) policy) [] = (.ok l, csl) ∧
      run (right.relation (rightOf plan) policy) csl = (.ok r, csl ++ csr) ∧
      ((CircuitTemplate.BranchTrue w 0 csl l → Satisfies w 0 cs.shape) ↔
        (CircuitTemplate.BranchTrue w 0 csl l → (right.placed left.size).All (LeafAccepts w))) ∧
      ((CircuitTemplate.BranchTrue w csl.length csr r → Satisfies w 0 cs.shape) ↔
        (CircuitTemplate.BranchTrue w csl.length csr r →
          (left.placed 0).All (LeafAccepts w))) := by
  intro w
  have hfits : template.Fits plan := CircuitTemplate.fits_of_plan hplan
  obtain ⟨hsupported, hblock⟩ :=
    ProofCircuit.supportedAt_of_synthesize hfits (CircuitTemplate.fromPlan_builtIn hcompiled) hcs
  subst hblock
  refine ⟨satisfies_of_true_iff hsupported input, ?_⟩
  intro left right htemplate
  subst htemplate
  obtain ⟨hl, hr⟩ := CircuitTemplate.fits_disjunction hfits
  have hleft := CircuitTemplate.relationWith_emits .Unsatisfiable hl hsupported.1 0
  have hright := CircuitTemplate.relationWith_emits .Unsatisfiable hr hsupported.2 left.size
  have hlength : (left.block (leftOf plan) policy 0).length = left.size :=
    CircuitTemplate.length_block hsupported.1 _ _
  refine ⟨_, _, _, _, hleft.run, hright _ hlength, ?_⟩
  have hdetermined : Determined w 0 _ := determined_of_computes
    (complete_computes input (ProofCircuit.block_scoped hsupported))
  obtain ⟨hbranch, hbranch'⟩ := satisfies_of_branch_iff hsupported hdetermined
  rw [hlength]
  exact ⟨imp_congr_right hbranch, imp_congr_right hbranch'⟩

/-- Next to a proved leaf, a leaf whose signature does not verify keeps the
disjunction from being satisfied. -/
theorem or_not_satisfied (policy : VerificationPolicy) {credential other : SignedAttributeCredential}
    (claim claim' : Claim)
    (hissued : credential.Issued) (hmeets : credential.Meets policy claim.kind)
    (hclaim : Supported policy claim.kind) (hclaim' : Supported policy claim'.kind)
    (hother : ¬ other.opening.Signed other.issuer) :
    let circuit : ProofCircuit :=
      { policy
        template := .Disjunction (.Direct ⟨credential.issuer, claim.kind⟩)
          (.Direct ⟨other.issuer, claim'.kind⟩)
        plan := some ((credential.is claim).or (other.is claim')).request.plan }
    ∃ cs, circuit.synthesize = .ok cs ∧
      (circuit.template.placed 0).Holds (LeafProves policy (complete cs.input cs.shape)) ∧
      ¬ Satisfies (complete cs.input cs.shape) 0 cs.shape := by
  intro circuit
  have hsupported : circuit.template.SupportedAt circuit.policy := ⟨hclaim, hclaim'⟩
  have hfits : circuit.template.Fits circuit.plan := ⟨trivial, trivial⟩
  refine ⟨_, ProofCircuit.synthesize_eq hsupported hfits, ?_⟩
  have hsupplies :=
    (complete_extends circuit.block.input (circuit.block_scoped hsupported)).supplies
  rw [circuit.satisfies_complete_iff hsupported]
  generalize complete circuit.block.input circuit.block.shape = w at hsupplies
  unfold ProofCircuit.block Supplies at hsupplies
  rw [along_append] at hsupplies
  obtain ⟨hl, hr⟩ := supplies_gate (CircuitTemplate.length_block hsupported.1 _ _) hsupplies.1
  constructor
  · -- the left leaf is the one of an issued credential that meets its claim
    obtain ⟨haccepts, hopening⟩ := leaf_honest hissued rfl hl
    refine Or.inl ⟨haccepts.bits, haccepts.signed, ?_⟩
    show ClaimHolds policy (openingAt w 0) claim.kind
    rw [hopening]
    exact claimHolds_opening.mpr hmeets
  · -- the right leaf holds the other opening, and asserts its signature all the same
    rintro ⟨⟨-, hright⟩, -⟩
    have hleaf : Supplies w _ (leafBlock ⟨other.issuer, claim'.kind⟩ (some other) policy _) := hr
    unfold leafBlock Supplies at hleaf
    rw [along_append] at hleaf
    obtain ⟨-, hopening⟩ := (holds_of_supplies hleaf.1).spec
    apply hother
    rw [← hopening]
    exact hright.signed

end Disjunction

section Instances

open Reference

/-- A single leaf has no other branch: proved, it satisfies its circuit. -/
theorem ungated_iff_staff :
    let leaf : DirectTemplate := ⟨credential.issuer, .Role .Staff⟩
    ∃ cs, ProofCircuit.synthesize
        { policy := ⟨attributes.birthDay⟩, template := .Direct leaf, plan := none } = .ok cs ∧
      ∀ input, LeafProves ⟨attributes.birthDay⟩ (complete input cs.shape) (leaf, 0) →
        Satisfies (complete input cs.shape) 0 cs.shape := by
  intro leaf
  obtain ⟨hcompiled, -⟩ := fromPlan_is credential (Claim.roleIs .Staff) (by decide)
  have hcs : ProofCircuit.synthesize
      { policy := ⟨attributes.birthDay⟩, template := .Direct leaf, plan := none } = .ok _ :=
    ProofCircuit.synthesize_eq trivial trivial
  refine ⟨_, hcs, fun input hproves => ?_⟩
  obtain ⟨hiff, -⟩ := ungated_iff hcompiled (by simp) hcs input
  exact hiff.mpr (fun hleaf => ⟨hleaf.bits, hleaf.signed, trivial⟩) hproves

/-- The issued credential with a signature that does not verify. -/
def Reference.altered : SignedAttributeCredential :=
  { credential with credential := { credential.credential with signature := ⟨0, 0⟩ } }

theorem Reference.altered_not_signed : ¬ altered.opening.Signed altered.issuer := by
  rw [signed_opening_iff]
  set_option maxRecDepth 4000 in
  decide

/-- Staff, or a visitor by a credential whose signature was altered: the selected
branch is proved, and the circuit is not satisfied. -/
theorem ungated_altered :
    ∃ (template : CircuitTemplate) (plan : ProofPlan) (cs : ConstraintSystem),
      ProofCircuit.synthesize { policy := ⟨attributes.birthDay⟩, template, plan := some plan } =
        .ok cs ∧
      template.accepts plan = true ∧
      (template.placed 0).Holds
        (LeafProves ⟨attributes.birthDay⟩ (complete cs.input cs.shape)) ∧
      ¬ Satisfies (complete cs.input cs.shape) 0 cs.shape := by
  obtain ⟨-, hl⟩ := fromPlan_is credential (Claim.roleIs .Staff) (by decide)
  obtain ⟨-, hr⟩ := fromPlan_is altered (Claim.roleIs .Visitor) (by decide)
  obtain ⟨cs, hcs, hholds, hnot⟩ := or_not_satisfied ⟨attributes.birthDay⟩
    (Claim.roleIs .Staff) (Claim.roleIs .Visitor) credential_issued
    (SignedAttributeCredential.issue_stores credential_issue).2.2.1 trivial trivial
    altered_not_signed
  exact ⟨_, _, cs, hcs, Bool.and_eq_true_iff.mpr ⟨hl, hr⟩, hholds, hnot⟩

end Instances

end Zcaprio
