import Zcaprio.Properties.Disjunction

/-!
# Every request

What the prover answers to any request at all, also one whose evidence no issuer
returned: the template is compared first, then the constraints decide, and they
say that every signature checks and that the tree of claims is true.
-/

namespace Zcaprio

open Trace

section Requests

variable [Gadgets] [Chrono]

/-- The evidence of the leaf carries a signature of its issuer on the values it holds. -/
def DirectProofPlan.Genuine (direct : DirectProofPlan) : Prop :=
  ∃ credential, direct.evidence = some credential ∧
    credential.credential.signature.isValid credential.issuer
      (credentialMessage (commitAge credential.birthDay credential.ageSalt)
        (commitOwner credential.walletSecret)
        (commitAttributes credential.country credential.role credential.ageSalt)
        ageCredentialSchemaV2) = true

theorem DirectProofPlan.genuine_iff {direct : DirectProofPlan}
    {credential : SignedAttributeCredential} (h : direct.evidence = some credential) :
    direct.Genuine ↔ credential.opening.Signed credential.issuer := by
  rw [signed_opening_iff]
  constructor
  · rintro ⟨credential', hevidence, hvalid⟩
    obtain rfl := Option.some.inj (h.symm.trans hevidence)
    exact hvalid
  · intro hvalid
    exact ⟨credential, h, hvalid⟩

theorem DirectProofPlan.meets_iff {direct : DirectProofPlan} {policy : VerificationPolicy}
    {credential : SignedAttributeCredential} (h : direct.evidence = some credential) :
    direct.Meets policy ↔ credential.Meets policy direct.claim.kind := by
  constructor
  · rintro ⟨credential', hevidence, hmeets⟩
    obtain rfl := Option.some.inj (h.symm.trans hevidence)
    exact hmeets
  · intro hmeets
    exact ⟨credential, h, hmeets⟩

variable {w : Assignment Fr} {policy : VerificationPolicy}

/-- In the circuit of an accepted plan a leaf accepts exactly where its evidence
is genuine, and holds exactly where its claim is true of the evidence. -/
theorem template_request {template : CircuitTemplate} {plan : ProofPlan} {n : ℕ}
    (hsupported : template.SupportedAt policy) (haccepts : template.accepts plan = true)
    (h : Supplies w n (template.block (some plan) policy n)) :
    ((template.placed n).All (LeafAccepts w) ↔ plan.leaves.All DirectProofPlan.Genuine) ∧
      ((template.placed n).Holds (LeafHolds policy w) ↔
        plan.leaves.Holds (DirectProofPlan.Meets policy)) := by
  induction template generalizing plan n with
  | Direct template =>
      obtain ⟨direct, rfl, hdirect⟩ := CircuitTemplate.accepts_direct_iff.mp haccepts
      obtain ⟨credential, hevidence, -, hissuer, hclaim⟩ :=
        DirectTemplate.accepts_eq_true_iff.mp hdirect
      have hblock : Supplies w n (leafBlock template direct.evidence policy n) := h
      rw [hevidence] at hblock
      unfold leafBlock Supplies at hblock
      rw [along_append] at hblock
      obtain ⟨hbits, hopening⟩ := (holds_of_supplies hblock.1).spec
      constructor
      · show LeafAccepts w (template, n) ↔ direct.Genuine
        rw [DirectProofPlan.genuine_iff hevidence, hissuer]
        constructor
        · intro hleaf
          rw [← hopening]
          exact hleaf.signed
        · intro hsigned
          refine ⟨hbits, ?_, ?_⟩
          · rw [hopening]
            exact hsigned
          · rw [hopening]
            exact inRange_opening credential template.claim
      · show ClaimHolds policy (openingAt w n) template.claim ↔ direct.Meets policy
        rw [hopening, claimHolds_opening, DirectProofPlan.meets_iff hevidence, hclaim]
  | Conjunction left right ihl ihr =>
      obtain ⟨otherLeft, otherRight, rfl, hleft, hright⟩ :=
        CircuitTemplate.accepts_conjunction_iff.mp haccepts
      obtain ⟨hl, hr⟩ := supplies_gate (CircuitTemplate.length_block hsupported.1 _ _) h
      obtain ⟨hal, hhl⟩ := ihl hsupported.1 hleft hl
      obtain ⟨har, hhr⟩ := ihr hsupported.2 hright hr
      exact ⟨and_congr hal har, and_congr hhl hhr⟩
  | Disjunction left right ihl ihr =>
      obtain ⟨otherLeft, otherRight, rfl, hleft, hright⟩ :=
        CircuitTemplate.accepts_disjunction_iff.mp haccepts
      obtain ⟨hl, hr⟩ := supplies_gate (CircuitTemplate.length_block hsupported.1 _ _) h
      obtain ⟨hal, hhl⟩ := ihl hsupported.1 hleft hl
      obtain ⟨har, hhr⟩ := ihr hsupported.2 hright hr
      exact ⟨and_congr hal har, or_congr hhl hhr⟩

/-- The constraints at the values the prover computes: every leaf genuine, even
one that the tree does not need, and the tree of claims true. -/
theorem ProofCircuit.satisfies_request {circuit : ProofCircuit} {plan : ProofPlan}
    (hplan : circuit.plan = some plan) (hsupported : circuit.template.SupportedAt circuit.policy)
    (haccepts : circuit.template.accepts plan = true) :
    Satisfies (complete circuit.block.input circuit.block.shape) 0 circuit.block.shape ↔
      plan.leaves.All DirectProofPlan.Genuine ∧
        plan.leaves.Holds (DirectProofPlan.Meets circuit.policy) := by
  have hsupplies :=
    (complete_extends circuit.block.input (circuit.block_scoped hsupported)).supplies
  rw [circuit.satisfies_complete_iff hsupported]
  generalize complete circuit.block.input circuit.block.shape = w at hsupplies
  unfold ProofCircuit.block Supplies at hsupplies
  rw [along_append, hplan] at hsupplies
  obtain ⟨hall, hholds⟩ := template_request hsupported haccepts hsupplies.1
  exact and_congr hall hholds

variable [Groth16]

/-- The answer of a backend's prover to any request: an error about the template,
an artifact its verifier accepts, or an error about the statement. -/
theorem prove_exact {backend : Groth16Backend} {proof : Proof} {rng : Groth16.Randomness}
    (hsetup : Groth16Backend.setup proof policy rng = .ok backend) (rng' : Groth16.Randomness)
    (request : ProofRequest) :
    (backend.prover.template.accepts request.plan = false →
      backend.prover.prove rng' request = .error (.error .IncompatibleBackend)) ∧
    (backend.prover.template.accepts request.plan = true →
      (request.plan.leaves.All DirectProofPlan.Genuine ∧
          request.plan.leaves.Holds (DirectProofPlan.Meets policy) →
        ∃ artifact, backend.prover.prove rng' request = .ok artifact ∧
          artifact.verify backend.verifier = .ok .accepted) ∧
      (¬ (request.plan.leaves.All DirectProofPlan.Genuine ∧
          request.plan.leaves.Holds (DirectProofPlan.Meets policy)) →
        backend.prover.prove rng' request = .error (.error .Unprovable))) := by
  have hspec := Groth16Backend.isSetup_of_setup hsetup
  constructor
  · exact Groth16Prover.prove_of_not_accepts
  · intro haccepts
    obtain ⟨htrue, hfalse⟩ := Groth16Prover.prove_of_accepts rng' hspec haccepts rfl
    have hplan : ProofCircuit.plan ⟨policy, backend.prover.template, some request.plan⟩ =
        some request.plan := rfl
    have hsatisfies :=
      ProofCircuit.satisfies_request hplan hspec.generated_block.1 haccepts
    exact ⟨fun hholds => htrue (hsatisfies.mpr hholds),
      fun hholds => hfalse fun hs => hholds (hsatisfies.mp hs)⟩

end Requests

open Reference in
/-- The altered credential is of the right role, and is turned down. -/
theorem prove_exact_altered :
    ∃ backend, Groth16Backend.setup (credential.is (Claim.roleIs .Staff))
        ⟨attributes.birthDay⟩ () = .ok backend ∧
      backend.prover.prove () (altered.is (Claim.roleIs .Staff)).request =
        .error (.error .Unprovable) := by
  have hcustom : (Claim.roleIs .Staff).kind ≠ .Custom :=
    Claim.BuiltIn.kind_ne_custom (.roleIs .Staff)
  obtain ⟨backend, hsetup⟩ : ∃ backend, Groth16Backend.setup
      (credential.is (Claim.roleIs .Staff)) ⟨attributes.birthDay⟩ () = .ok backend :=
    exists_setup ⟨credential, records_is _ _, credential_issued⟩ hcustom trivial
  have hcompiled := (Groth16Backend.isSetup_of_setup hsetup).compiled
  rw [(fromPlan_is credential (Claim.roleIs .Staff) hcustom).1] at hcompiled
  -- the altered credential has the same issuer, and records its own hash
  have haccepts : backend.prover.template.accepts
      (altered.is (Claim.roleIs .Staff)).request.plan = true := by
    have hissuer : credential.issuer = altered.issuer := by rw [altered]
    rw [← Except.ok.inj hcompiled, hissuer]
    exact (fromPlan_is altered (Claim.roleIs .Staff) hcustom).2
  refine ⟨backend, hsetup, ((prove_exact hsetup () _).2 haccepts).2 ?_⟩
  rintro ⟨hgenuine, -⟩
  exact altered_not_signed ((DirectProofPlan.genuine_iff rfl).mp hgenuine)

end Zcaprio
