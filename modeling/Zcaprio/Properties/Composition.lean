import Zcaprio.Instances.Reference

/-!
# Composition

What a composed proof proves is the and/or combination of what its parts prove,
although it has one circuit and one key of its own.
-/

namespace Zcaprio

section Compose

variable [Gadgets] [Groth16] [Chrono]

namespace Proof

omit [Groth16] [Chrono] in
/-- The parts at the leaves of a tree, joined by its `and` and `or`. -/
def compose : Formula Proof → Proof
  | .leaf p => p
  | .and l r => (compose l).and (compose r)
  | .or l r => (compose l).or (compose r)

omit [Groth16] [Chrono] in
/-- The tree of a composition has the trees of the parts at its leaves. -/
theorem leaves_compose (t : Formula Proof) :
    (compose t).request.plan.leaves = t.bind fun p => p.request.plan.leaves := by
  induction t with
  | leaf p => rfl
  | and l r ihl ihr => exact congrArg₂ Formula.and ihl ihr
  | or l r ihl ihr => exact congrArg₂ Formula.or ihl ihr

omit [Groth16] in
theorem honest_compose {t : Formula Proof} (h : t.All fun p => p.request.plan.Honest) :
    (compose t).request.plan.Honest := by
  unfold ProofPlan.Honest
  rw [leaves_compose, Formula.all_bind]
  exact h

/-- The backend's prover gives an artifact, and its verifier accepts it. -/
def Proves (p : Proof) (backend : Groth16Backend) (rng : Groth16.Randomness) : Prop :=
  ∃ artifact, p.prove (backend.prover.prove rng) = .ok artifact ∧
    artifact.verify backend.verifier = .ok .accepted

/-- With its own backend a proof over issued credentials is proved when its
claims are true, and is unprovable otherwise. -/
theorem proves_own {p : Proof} {policy : VerificationPolicy} {backend : Groth16Backend}
    {rng : Groth16.Randomness} (h : p.request.plan.Honest)
    (hsetup : Groth16Backend.setup p policy rng = .ok backend) (rng' : Groth16.Randomness) :
    (p.Proves backend rng' ↔ p.request.plan.leaves.Holds (DirectProofPlan.Meets policy)) ∧
      (¬ p.Proves backend rng' →
        p.prove (backend.prover.prove rng') = .error (.error .Unprovable)) := by
  have hspec := Groth16Backend.isSetup_of_setup hsetup
  obtain ⟨htrue, hfalse⟩ := Groth16Prover.prove_honest rng' hspec hspec.generated_block.1
    (CircuitTemplate.accepts_of_fromPlan hspec.compiled) h
  have hiff : p.Proves backend rng' ↔
      p.request.plan.leaves.Holds (DirectProofPlan.Meets policy) := by
    constructor
    · rintro ⟨artifact, hprove, -⟩
      by_contra hholds
      have herror : p.prove (backend.prover.prove rng') = _ := hfalse hholds
      rw [herror] at hprove
      cases hprove
    · exact htrue
  exact ⟨hiff, fun hnot => hfalse (mt hiff.mpr hnot)⟩

end Proof

/-- A composition of proofs over issued credentials, each part with a backend
of its own: it is proved exactly where the same and/or of the parts is, with any
draws, and is unprovable otherwise. -/
theorem compose_proves {parts : Formula (Proof × Groth16Backend)} {policy : VerificationPolicy}
    (hbuilt : parts.All fun part => part.1.Built SignedAttributeCredential.Issued fun _ => True)
    (hparts : parts.All fun part => ∃ rng, Groth16Backend.setup part.1 policy rng = .ok part.2)
    {backend : Groth16Backend} {rng : Groth16.Randomness}
    (hsetup : Groth16Backend.setup (Proof.compose (parts.map Prod.fst)) policy rng = .ok backend)
    (rng' : Groth16.Randomness) :
    ((Proof.compose (parts.map Prod.fst)).Proves backend rng' ↔
      parts.Holds fun part => part.1.Proves part.2 rng') ∧
    ((¬ parts.Holds fun part => part.1.Proves part.2 rng') →
      (Proof.compose (parts.map Prod.fst)).prove (backend.prover.prove rng') =
        .error (.error .Unprovable)) := by
  have hhonest := hbuilt.imp fun _ hpart => hpart.honest
  have hwhole : (Proof.compose (parts.map Prod.fst)).request.plan.Honest := by
    apply Proof.honest_compose
    rw [Formula.all_map]
    exact hhonest
  obtain ⟨hiff, hunprovable⟩ := Proof.proves_own hwhole hsetup rng'
  have hcompose : (Proof.compose (parts.map Prod.fst)).Proves backend rng' ↔
      parts.Holds fun part => part.1.Proves part.2 rng' := by
    rw [hiff, Proof.leaves_compose, Formula.holds_bind, Formula.holds_map]
    apply Formula.holds_congr
    refine (hhonest.and hparts).imp ?_
    rintro part ⟨hpart, rng, hown⟩
    exact (Proof.proves_own hpart hown rng').1.symm
  refine ⟨hcompose, ?_⟩
  intro hnot
  exact hunprovable (mt hcompose.mp hnot)

end Compose

/-! ## Staff or student -/

section Instances

open Reference

theorem exists_setup_is (role : Role) : ∃ backend, Groth16Backend.setup
    (credential.is (Claim.roleIs role)) ⟨attributes.birthDay⟩ () = .ok backend :=
  exists_setup ⟨credential, records_is _ _, credential_issued⟩
    (Claim.BuiltIn.kind_ne_custom (.roleIs role)) trivial

/-- The disjunction is proved because its left part is. -/
theorem compose_proves_member :
    ∃ backend, Groth16Backend.setup ((credential.is (Claim.roleIs .Staff)).or
        (credential.is (Claim.roleIs .Student))) ⟨attributes.birthDay⟩ () = .ok backend ∧
      ((credential.is (Claim.roleIs .Staff)).or
        (credential.is (Claim.roleIs .Student))).Proves backend () := by
  obtain ⟨staff, hstaff⟩ := exists_setup_is .Staff
  obtain ⟨student, hstudent⟩ := exists_setup_is .Student
  have hhonest (role : Role) : (credential.is (Claim.roleIs role)).request.plan.Honest :=
    ⟨credential, records_is _ _, credential_issued⟩
  obtain ⟨backend, hsetup⟩ : ∃ backend, Groth16Backend.setup
      ((credential.is (Claim.roleIs .Staff)).or (credential.is (Claim.roleIs .Student)))
      ⟨attributes.birthDay⟩ () = .ok backend :=
    exists_setup ⟨hhonest .Staff, hhonest .Student⟩
      ⟨Claim.BuiltIn.kind_ne_custom (.roleIs .Staff), Claim.BuiltIn.kind_ne_custom (.roleIs .Student)⟩
      ⟨trivial, trivial⟩
  have hleft : (credential.is (Claim.roleIs .Staff)).Proves staff () :=
    (Proof.proves_own (hhonest .Staff) hstaff ()).1.mpr ⟨credential, rfl,
      (SignedAttributeCredential.issue_stores credential_issue).2.2.1⟩
  have hparts : (Formula.or (.leaf (credential.is (Claim.roleIs .Staff), staff))
      (.leaf (credential.is (Claim.roleIs .Student), student))).All fun part =>
        ∃ rng, Groth16Backend.setup part.1 ⟨attributes.birthDay⟩ rng = .ok part.2 :=
    ⟨⟨(), hstaff⟩, ⟨(), hstudent⟩⟩
  refine ⟨backend, hsetup, (compose_proves ?_ hparts hsetup ()).1.mpr (Or.inl hleft)⟩
  exact ⟨.is credential_issued trivial, .is credential_issued trivial⟩

end Instances

end Zcaprio
