import Zcaprio.Metatheory.Backend

/-!
# Every setup

How setup ends for any proof at all: with the error of the first leaf that does
not compile, reading from left to right; else with a panic if a cutoff is not
supported; else as the key generation for the circuit does.
-/

namespace Zcaprio

open Trace

/-- The error of a result. -/
def errorOf {ε α : Type} : Except ε α → Option ε
  | .ok _ => none
  | .error e => some e

section Leaves

variable [Curve] [Hashes]

/-- What is wrong with a leaf. A custom claim is reported only where the
evidence is the recorded one. -/
def DirectProofPlan.fault (direct : DirectProofPlan) : Option ProofError :=
  match direct.evidence with
  | none => some .InvalidCredential
  | some credential =>
      if credential.hash = direct.credential then
        if direct.claim.kind = .Custom then some .UnsupportedClaim else none
      else some .InvalidCredential

theorem DirectTemplate.errorOf_fromPlan (direct : DirectProofPlan) :
    errorOf (fromPlan direct) = direct.fault := by
  unfold fromPlan DirectProofPlan.fault
  cases direct.evidence with
  | none => rfl
  | some credential =>
      by_cases hhash : credential.hash = direct.credential
      · by_cases hclaim : direct.claim.kind = .Custom <;> simp [hhash, hclaim, errorOf]
      · simp [hhash, errorOf]

namespace CircuitTemplate

/-- Compiling reports the first leaf that does not compile. -/
theorem errorOf_fromPlan (plan : ProofPlan) :
    errorOf (fromPlan plan) = plan.leaves.toList.findSome? DirectProofPlan.fault := by
  induction plan with
  | Direct direct =>
      rw [ProofPlan.leaves, Formula.toList, List.findSome?_singleton,
        ← DirectTemplate.errorOf_fromPlan, fromPlan]
      cases DirectTemplate.fromPlan direct <;> rfl
  | Conjunction left right ihl ihr | Disjunction left right ihl ihr =>
      rw [ProofPlan.leaves, Formula.toList, List.findSome?_append, ← ihl, ← ihr, fromPlan]
      cases fromPlan left with
      | error e => rfl
      | ok l => cases fromPlan right <;> rfl

/-- A compiled template is supported where the cutoffs of the plan are. -/
theorem supportedAt_iff_of_fromPlan {plan : ProofPlan} {template : CircuitTemplate}
    {policy : VerificationPolicy} (h : fromPlan plan = .ok template) :
    template.SupportedAt policy ↔ plan.CutoffsSupported policy := by
  apply ((fromPlan_leaves h).all_iff ?_).symm
  intro direct leaf hleaf
  obtain ⟨credential, -, -, hclaim, rfl⟩ := DirectTemplate.fromPlan_eq_ok_iff.mp hleaf
  rw [supported_iff]
  exact (and_iff_right hclaim).symm

end CircuitTemplate

end Leaves

variable [Gadgets] [Groth16] [Chrono]

/-- The end of every setup, of recorded evidence or not, of built-in or custom
claims, at any policy. -/
theorem setup_exact (proof : Proof) (policy : VerificationPolicy) (rng : Groth16.Randomness) :
    (∀ e, proof.request.plan.leaves.toList.findSome? DirectProofPlan.fault = some e →
      Groth16Backend.setup proof policy rng = .error (.error e)) ∧
    (proof.request.plan.leaves.toList.findSome? DirectProofPlan.fault = none →
      (¬ proof.request.plan.CutoffsSupported policy →
        Groth16Backend.setup proof policy rng =
          .error (.panic "a supported cutoff is a supported birthday")) ∧
      (proof.request.plan.CutoffsSupported policy →
        ∃ template, CircuitTemplate.fromPlan proof.request.plan = .ok template ∧
          Groth16Backend.setup proof policy rng =
            Exec.mapErr (fun _ => ProofError.IncompatibleBackend) (Exec.ofResult (do
              let provingKey ←
                Groth16.generate (ProofCircuit.block ⟨policy, template, none⟩).shape rng
              let preparedKey ← Groth16.processVk (Groth16.vk provingKey)
              return ⟨⟨policy, template, provingKey⟩, ⟨policy, preparedKey⟩⟩)))) := by
  rw [← CircuitTemplate.errorOf_fromPlan]
  cases hcompiled : CircuitTemplate.fromPlan proof.request.plan with
  | error e =>
      constructor
      · intro e' he
        obtain rfl := Option.some.inj he
        exact Groth16Backend.setup_of_fromPlan_error hcompiled
      · intro hnone
        cases hnone
  | ok template =>
      constructor
      · intro e he
        cases he
      · intro _
        rw [← CircuitTemplate.supportedAt_iff_of_fromPlan hcompiled]
        constructor
        · intro hunsupported
          exact Groth16Backend.setup_of_panic hcompiled (ProofCircuit.synthesize_aborts
            template.fits_none (CircuitTemplate.fromPlan_builtIn hcompiled) hunsupported)
        · intro hsupported
          exact ⟨template, rfl, Groth16Backend.setup_of_supported rng hcompiled hsupported⟩

end Zcaprio
