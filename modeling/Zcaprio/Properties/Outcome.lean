import Zcaprio.Instances.Reference
import Zcaprio.Metatheory.Backend

/-!
# Outcomes of setup and prove

For proofs built from issued credentials, which of the errors comes, and when
there is none.
-/

namespace Zcaprio

open Trace

section Outcome

variable [Gadgets] [Groth16] [Chrono]

/-- The outcome of setup for `q` and of proving `p` with it: an unsupported claim
exactly where `q` has a custom leaf, an incompatible backend exactly where `p` has
another tree, issuer key or claim kind, unprovable exactly where the tree of leaf
truth values is false, and an artifact that verifies otherwise. -/
theorem setup_prove_outcome {p q : Proof}
    (hp : p.Built SignedAttributeCredential.Issued fun _ => True)
    (hq : q.Built SignedAttributeCredential.Issued fun _ => True) (policy : VerificationPolicy)
    (hcutoffs : q.request.plan.CutoffsSupported policy) (rng : Groth16.Randomness) :
    (Groth16Backend.setup q policy rng = .error (.error .UnsupportedClaim) ↔
        ¬ q.request.plan.Compilable) ∧
      Groth16Backend.setup q policy rng ≠ .error (.error .InvalidCredential) ∧
      ∀ backend, Groth16Backend.setup q policy rng = .ok backend → ∀ rng',
        (p.prove (backend.prover.prove rng') = .error (.error .IncompatibleBackend) ↔
          p.request.plan.statement ≠ q.request.plan.statement) ∧
        (p.request.plan.statement = q.request.plan.statement →
          (p.prove (backend.prover.prove rng') = .error (.error .Unprovable) ↔
            ¬ p.request.plan.leaves.Holds (DirectProofPlan.Meets policy)) ∧
          (p.request.plan.leaves.Holds (DirectProofPlan.Meets policy) →
            ∃ artifact, p.prove (backend.prover.prove rng') = .ok artifact ∧
              ∃ verification, artifact.verify backend.verifier = .ok verification ∧
                verification.valid = true)) := by
  have hhonest := hp.honest
  refine ⟨?_, ?_, fun backend hsetup rng' => ?_⟩
  · rcases setup_errors hq.honest hcutoffs rng with ⟨hclaims, h⟩ | ⟨hclaims, ⟨_, h⟩ | h⟩ <;>
      simp [h, hclaims]
  · rcases setup_errors hq.honest hcutoffs rng with ⟨-, h⟩ | ⟨-, ⟨_, h⟩ | h⟩ <;> simp [h]
  have hspec := Groth16Backend.isSetup_of_setup hsetup
  have hstatement := (CircuitTemplate.fromPlan_spec hq.honest.recorded hspec.compiled).2
  have hsupported :=
    (CircuitTemplate.supportedAt_iff hq.honest.recorded hspec.compiled).mpr hcutoffs
  have haccepts : backend.prover.template.accepts p.request.plan = true ↔
      q.request.plan.statement = p.request.plan.statement := by
    rw [CircuitTemplate.accepts_iff hhonest.recorded, hstatement]
  by_cases hsame : p.request.plan.statement = q.request.plan.statement
  · obtain ⟨hproved, hunprovable⟩ := Groth16Prover.prove_honest rng' hspec hsupported
      (haccepts.mpr hsame.symm) hhonest
    by_cases hholds : p.request.plan.leaves.Holds (DirectProofPlan.Meets policy)
    · obtain ⟨artifact, hok, hverify⟩ := hproved hholds
      have hprove : p.prove (backend.prover.prove rng') = .ok artifact := hok
      refine ⟨?_, fun _ => ⟨?_, fun _ => ⟨artifact, hprove, _, hverify, rfl⟩⟩⟩
      · simp [hprove, hsame]
      · simp [hprove, hholds]
    · have hprove : p.prove (backend.prover.prove rng') = .error (.error .Unprovable) :=
        hunprovable hholds
      refine ⟨?_, fun _ => ⟨?_, fun h => absurd h hholds⟩⟩
      · simp [hprove, hsame]
      · simp [hprove, hholds]
  · -- another tree, issuer key or claim kind
    have hreject : backend.prover.template.accepts p.request.plan = false := by
      rw [← Bool.not_eq_true, haccepts]
      exact fun h => hsame h.symm
    refine ⟨iff_of_true (Groth16Prover.prove_of_not_accepts hreject) hsame, ?_⟩
    intro h
    exact absurd h hsame

end Outcome

open Reference in
/-- Adults or staff, asked of a newborn member of staff: setup returns a backend,
and the proof it is for is proved with it and verifies. -/
theorem setup_prove_outcome_staff :
    let p := (credential.is (Claim.ageIsAbove 18)).or (credential.is (Claim.roleIs .Staff))
    let policy : VerificationPolicy := ⟨attributes.birthDay⟩
    ∃ backend, Groth16Backend.setup p policy () = .ok backend ∧
      ∃ artifact, p.prove (backend.prover.prove ()) = .ok artifact ∧
        ∃ verification, artifact.verify backend.verifier = .ok verification ∧
          verification.valid = true := by
  intro p policy
  have hbuilt : p.Built SignedAttributeCredential.Issued fun _ => True :=
    .or (.is credential_issued trivial) (.is credential_issued trivial)
  have hclaims : p.request.plan.Compilable :=
    ⟨Claim.BuiltIn.kind_ne_custom (.ageIsAbove 18), Claim.BuiltIn.kind_ne_custom (.roleIs .Staff)⟩
  have hcutoffs : p.request.plan.CutoffsSupported policy :=
    ⟨(cutoffSupported_iff policy 18).mp (by decide), trivial⟩
  obtain ⟨backend, hbackend⟩ := exists_setup hbuilt.honest hclaims hcutoffs
  have hmeets : p.request.plan.leaves.Holds (DirectProofPlan.Meets policy) :=
    Or.inr ⟨credential, rfl, (SignedAttributeCredential.issue_stores credential_issue).2.2.1⟩
  obtain ⟨-, -, hprove⟩ := setup_prove_outcome hbuilt hbuilt policy hcutoffs ()
  exact ⟨backend, hbackend, ((hprove _ hbackend ()).2 rfl).2 hmeets⟩

end Zcaprio
