import Zcaprio.Instances.Reference
import Zcaprio.Metatheory.Honest

/-!
# Soundness of the circuit

Against every assignment, also one no prover computes.
-/

namespace Zcaprio

open Trace

section Soundness

variable [Gadgets] [Chrono]

/-- The circuit of a compiled template, for setup or for an accepted plan, is
synthesized, with the block of each leaf at the step it is placed at, and every
assignment that satisfies its constraints makes the and/or tree of the template
true. -/
theorem circuit_sound {compiled : ProofPlan} {template : CircuitTemplate}
    (policy : VerificationPolicy) {plan : Option ProofPlan}
    (hcompiled : CircuitTemplate.fromPlan compiled = .ok template)
    (hcutoffs : template.leaves.All fun leaf => CutoffIsSupported policy leaf.claim)
    (hplan : ∀ other, plan = some other → template.accepts other = true) :
    ∃ cs, ({ policy, template, plan } : ProofCircuit).synthesize = .ok cs ∧
      (template.placed 0).All (CircuitTemplate.BlockAt policy cs.shape 0) ∧
      ∀ w : Assignment Fr, Satisfies w 0 cs.shape →
        (template.placed 0).Holds (LeafProves policy w) := by
  have hsupported : template.SupportedAt policy :=
    ((CircuitTemplate.fromPlan_builtIn hcompiled).and hcutoffs).imp fun _ => supported_iff.mpr
  have hfits : template.Fits plan := CircuitTemplate.fits_of_plan hplan
  refine ⟨_, ProofCircuit.synthesize_eq hsupported hfits, ?_, fun w hw => ?_⟩
  · rw [ProofCircuit.block, shape_append]
    exact (CircuitTemplate.placed_blockAt hsupported plan 0).imp fun _ hleaf =>
      hleaf.append_right
  obtain ⟨hall, hholds⟩ :=
    (ProofCircuit.satisfies_iff hsupported (determined_of_satisfies hw)).mp hw
  exact hholds.mono (hall.imp fun _ hleaf hclaim => ⟨hleaf.bits, hleaf.signed, hclaim⟩)

end Soundness

open Reference in
/-- The circuit of a staff claim, at the values its prover computes. -/
theorem circuit_sound_staff :
    ∃ cs, ({ policy := ⟨attributes.birthDay⟩
             template := .Direct ⟨credential.issuer, .Role .Staff⟩
             plan := some (credential.is (Claim.roleIs .Staff)).request.plan } :
        ProofCircuit).synthesize = .ok cs ∧
      ∃ w, Satisfies w 0 cs.shape ∧
        LeafProves ⟨attributes.birthDay⟩ w (⟨credential.issuer, .Role .Staff⟩, 0) := by
  obtain ⟨hcompiled, haccepts⟩ := fromPlan_is credential (Claim.roleIs .Staff) (by decide)
  obtain ⟨cs, hcs, -, hsound⟩ := circuit_sound ⟨attributes.birthDay⟩ hcompiled trivial
    fun other hother => Option.some.inj hother ▸ haccepts
  have hsupported : Supported ⟨attributes.birthDay⟩ (Claim.roleIs .Staff).kind := trivial
  have hmeets : credential.Meets ⟨attributes.birthDay⟩ (Claim.roleIs .Staff).kind :=
    (SignedAttributeCredential.issue_stores credential_issue).2.2.1
  obtain ⟨w, hw⟩ := satisfies_is credential_issued hsupported hmeets hcs
  exact ⟨cs, hcs, w, hw, hsound w hw⟩

end Zcaprio
