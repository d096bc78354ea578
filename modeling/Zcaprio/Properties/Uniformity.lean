import Zcaprio.Instances.Reference
import Zcaprio.Metatheory.Backend

/-!
# One circuit for setup and every proof

The circuit a prover records for an accepted plan is the one setup recorded
without a plan, so nothing in it tells one accepted plan from another.
-/

namespace Zcaprio

open Trace

section Uniformity

variable [Gadgets] [Groth16] [Chrono] {template : CircuitTemplate} {plan : ProofPlan}

/-- The circuit of an accepted plan is the one the proving key was generated for. -/
theorem generated_for {proof : Proof} {policy : VerificationPolicy} {rng : Groth16.Randomness}
    {backend : Groth16Backend} (h : backend.prover.template.accepts plan = true)
    (hsetup : Groth16Backend.setup proof policy rng = .ok backend) :
    ∃ cs, ProofCircuit.synthesize
        { policy := backend.prover.policy, template := backend.prover.template,
          plan := some plan } = .ok cs ∧
      Groth16.generate cs.shape rng = .ok backend.prover.provingKey := by
  obtain ⟨-, hpolicy, -, ⟨cs, hcs, hkey⟩, -⟩ := Groth16Backend.isSetup_of_setup hsetup
  have hsame := ProofCircuit.synthesize_shape policy (CircuitTemplate.fits_of_accepts h)
    backend.prover.template.fits_none
  rw [hcs] at hsame
  rw [hpolicy]
  cases hplan : ProofCircuit.synthesize
      { policy, template := backend.prover.template, plan := some plan } with
  | error e =>
      rw [hplan] at hsame
      cases hsame
  | ok cs' =>
      rw [hplan] at hsame
      exact ⟨cs', rfl, (Except.ok.inj hsame : cs'.shape = cs.shape) ▸ hkey⟩

/-- With an accepted plan and without one, the relation of a template never
reaches its mismatch arm, ends alike and adds the same events, none of them
public. So any two accepted plans give one constraint system, and it is the one
the proving key was generated for. -/
theorem relation_uniform (h : template.accepts plan = true) (policy : VerificationPolicy) :
    (∀ mismatch,
      template.relationWith mismatch (some plan) policy = template.relation (some plan) policy ∧
      template.relationWith mismatch none policy = template.relation none policy) ∧
    (∀ cs cs' : ConstraintSystem, cs.shape = cs'.shape →
      (run (template.relation (some plan) policy) cs).1 =
          (run (template.relation none policy) cs').1 ∧
        ∃ es : List Event, (∀ e ∈ es, e.isPublic = false) ∧
          (run (template.relation (some plan) policy) cs).2.shape = cs.shape ++ es ∧
          (run (template.relation none policy) cs').2.shape = cs'.shape ++ es) ∧
    (∀ other, template.accepts other = true →
      (ProofCircuit.synthesize { policy, template, plan := some plan }).map System.shape =
        (ProofCircuit.synthesize { policy, template, plan := some other }).map System.shape) ∧
    (ProofCircuit.synthesize { policy, template, plan := some plan }).map System.shape =
      (ProofCircuit.synthesize { policy, template, plan := none }).map System.shape ∧
    ∀ (proof : Proof) (rng : Groth16.Randomness) (backend : Groth16Backend),
      Groth16Backend.setup proof policy rng = .ok backend → backend.prover.template = template →
        ∃ cs, ProofCircuit.synthesize { policy, template, plan := some plan } = .ok cs ∧
          Groth16.generate cs.shape rng = .ok backend.prover.provingKey := by
  have hfits := CircuitTemplate.fits_of_accepts h
  refine ⟨fun mismatch => ⟨?_, ?_⟩, ?_, fun other hother => ?_, ?_, ?_⟩
  · exact CircuitTemplate.relationWith_mismatch policy mismatch .Unsatisfiable hfits
  · exact CircuitTemplate.relationWith_mismatch policy mismatch .Unsatisfiable template.fits_none
  · exact CircuitTemplate.sameShape_relationWith policy .Unsatisfiable .Unsatisfiable hfits
      template.fits_none
  · exact ProofCircuit.synthesize_shape policy hfits (CircuitTemplate.fits_of_accepts hother)
  · exact ProofCircuit.synthesize_shape policy hfits template.fits_none
  · intro proof rng backend hsetup htemplate
    subst htemplate
    have hpolicy := (Groth16Backend.isSetup_of_setup hsetup).proverPolicy
    subst hpolicy
    exact generated_for h hsetup

end Uniformity

open Reference in
/-- The circuit of a staff claim, with the credential and without it. -/
theorem relation_uniform_staff :
    let template : CircuitTemplate := .Direct ⟨credential.issuer, .Role .Staff⟩
    let plan := (credential.is (Claim.roleIs .Staff)).request.plan
    (ProofCircuit.synthesize
        { policy := ⟨attributes.birthDay⟩, template, plan := some plan }).map System.shape =
      (ProofCircuit.synthesize
        { policy := ⟨attributes.birthDay⟩, template, plan := none }).map System.shape :=
  (relation_uniform (fromPlan_is credential (Claim.roleIs .Staff) (by decide)).2
    ⟨attributes.birthDay⟩).2.2.2.1

end Zcaprio
