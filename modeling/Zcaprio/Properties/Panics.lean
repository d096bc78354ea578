import Zcaprio.Instances.Reference
import Zcaprio.Metatheory.Backend

/-!
# Panics

An age threshold that reaches back before 1900 makes setup panic, in the second
of the two `expect` calls on the way to the cutoff. Nothing else does.
-/

namespace Zcaprio

open Trace

section Panics

variable [Gadgets] [Groth16] [Chrono] {policy : VerificationPolicy}

/-- The thresholds of a plan, at a policy: built in, and not before 1900. -/
def ProofPlan.ThresholdsSupported (policy : VerificationPolicy) (plan : ProofPlan) : Prop :=
  plan.leaves.All fun direct => Supported policy direct.claim.kind

omit [Groth16] in
/-- Over the exported claims this is the calendar condition on the cutoffs. -/
theorem thresholdsSupported_iff {q : Proof}
    (hq : q.Built SignedAttributeCredential.Issued Claim.BuiltIn) :
    q.request.plan.ThresholdsSupported policy ↔ q.request.plan.CutoffsSupported policy := by
  constructor
  · intro h
    exact h.imp fun _ hleaf => (supported_iff.mp hleaf).2
  · intro h
    exact (hq.compilable.and h).imp fun _ hleaf => supported_iff.mpr hleaf

/-- With a threshold before 1900 somewhere in the tree, setup panics. -/
theorem setup_panics {q : Proof} (hq : q.Built SignedAttributeCredential.Issued Claim.BuiltIn)
    (h : ¬ q.request.plan.ThresholdsSupported policy) (rng : Groth16.Randomness) :
    Groth16Backend.setup q policy rng = .error cutoffPanic := by
  obtain ⟨template, htemplate, -⟩ := CircuitTemplate.fromPlan_ok hq.honest.recorded hq.compilable
  have hunsupported : ¬ template.SupportedAt policy := by
    intro hsupported
    apply h
    rw [thresholdsSupported_iff hq]
    exact (CircuitTemplate.supportedAt_iff hq.honest.recorded htemplate).mp hsupported
  exact Groth16Backend.setup_of_panic htemplate
    (ProofCircuit.synthesize_aborts template.fits_none
      (CircuitTemplate.fromPlan_builtIn htemplate) hunsupported)

/-- With supported thresholds setup returns or fails. -/
theorem setup_not_panics {q : Proof} (hq : q.Built SignedAttributeCredential.Issued Claim.BuiltIn)
    (h : q.request.plan.ThresholdsSupported policy) (rng : Groth16.Randomness) :
    ¬ (Groth16Backend.setup q policy rng).Panics := by
  obtain ⟨template, htemplate, -⟩ := CircuitTemplate.fromPlan_ok hq.honest.recorded hq.compilable
  have hsupported : template.SupportedAt policy := by
    rw [CircuitTemplate.supportedAt_iff hq.honest.recorded htemplate, ← thresholdsSupported_iff hq]
    exact h
  have hcs : ProofCircuit.synthesize { policy, template, plan := none } = .ok _ :=
    ProofCircuit.synthesize_eq hsupported template.fits_none
  rcases Groth16Backend.setup_of_synthesize rng htemplate hcs with ⟨backend, hok, -⟩ | herror
  · simp [hok]
  · simp [herror]

/-- A backend that setup returned never panics on a request, of whatever plan:
its template can be synthesized. -/
theorem prove_not_panics {q : Proof} (hq : q.Built SignedAttributeCredential.Issued Claim.BuiltIn)
    (h : q.request.plan.ThresholdsSupported policy) {rng : Groth16.Randomness}
    {backend : Groth16Backend} (hsetup : backend.IsSetup q policy rng) (rng' : Groth16.Randomness)
    (request : ProofRequest) : ¬ (backend.prover.prove rng' request).Panics := by
  by_cases haccepts : backend.prover.template.accepts request.plan = true
  · have hsupported : backend.prover.template.SupportedAt backend.prover.policy := by
      rw [hsetup.proverPolicy, CircuitTemplate.supportedAt_iff hq.honest.recorded hsetup.compiled,
        ← thresholdsSupported_iff hq]
      exact h
    have hcs : ProofCircuit.synthesize
        { policy := backend.prover.policy, template := backend.prover.template,
          plan := some request.plan } = .ok _ :=
      ProofCircuit.synthesize_eq hsupported (CircuitTemplate.fits_of_accepts haccepts)
    rw [Groth16Prover.prove_of_synthesize rng' haccepts hcs]
    split
    · rw [Exec.panics_mapErr]
      cases Groth16.create _ backend.prover.provingKey rng' <;> simp [Except.map]
    · simp
  · rw [Groth16Prover.prove_of_not_accepts (by simpa using haccepts)]
    simp

/-- Setup, and proving with what it returned, reach no panicking branch exactly
when every threshold in the tree names a year from 1900 on; otherwise setup
panics in the second `expect`. -/
theorem no_panic_iff {q : Proof} (hq : q.Built SignedAttributeCredential.Issued Claim.BuiltIn)
    (policy : VerificationPolicy) (rng : Groth16.Randomness) :
    ((¬ (Groth16Backend.setup q policy rng).Panics ∧
        ∀ backend, Groth16Backend.setup q policy rng = .ok backend → ∀ (p : Proof) rng',
          ¬ (p.prove (backend.prover.prove rng')).Panics) ↔
      q.request.plan.leaves.All fun direct => Supported policy direct.claim.kind) ∧
    (¬ (q.request.plan.leaves.All fun direct => Supported policy direct.claim.kind) →
      Groth16Backend.setup q policy rng =
        .error (.panic "a supported cutoff is a supported birthday")) := by
  refine ⟨⟨?_, ?_⟩, fun h => setup_panics hq h rng⟩
  · rintro ⟨hsetup, -⟩
    by_contra h
    apply hsetup
    rw [setup_panics hq h rng]
    exact Exec.panics_panic _
  · intro h
    refine ⟨setup_not_panics hq h rng, fun backend hbackend p rng' => ?_⟩
    exact prove_not_panics hq h (Groth16Backend.isSetup_of_setup hbackend) rng' p.request

end Panics

section Instances

open Reference

/-- A proof of being over a hundred. -/
def Reference.centenarian : Proof := credential.is (Claim.ageIsAbove 100)

theorem Reference.centenarian_built :
    centenarian.Built SignedAttributeCredential.Issued Claim.BuiltIn :=
  .is credential_issued (.ageIsAbove 100)

/-- In 2000 the threshold year is 1900: no panic. -/
theorem no_panic_2000 : ¬ (Groth16Backend.setup centenarian ⟨attributes.birthDay⟩ ()).Panics :=
  ((no_panic_iff centenarian_built ⟨attributes.birthDay⟩ ()).1.mpr
    (show CutoffSupported _ _ by decide)).1

/-- In 1999 it is 1899: setup panics, on a proof of an issued credential. -/
theorem setup_panics_1999 :
    ∃ (q : Proof) (policy : VerificationPolicy),
      q.Built SignedAttributeCredential.Issued Claim.BuiltIn ∧
        (Groth16Backend.setup q policy ()).Panics := by
  refine ⟨centenarian, ⟨⟨1999, 12, 31, by decide⟩, by decide⟩, centenarian_built, ?_⟩
  rw [setup_panics centenarian_built]
  · exact Exec.panics_panic _
  · exact show ¬ CutoffSupported _ _ by decide

end Instances

end Zcaprio
