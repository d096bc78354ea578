import Zcaprio.Protocol.Completeness

/-!
# Errors and panics of a run

Which calls of a run abort, and how. The evidence in a run is the recorded one,
so no call reports an invalid credential, and only setup panics.
-/

namespace Zcaprio

open Trace

variable [Gadgets] [Groth16] [Chrono]

/-- No keys are generated for the circuit of the template. -/
def CircuitTemplate.KeysFail (template : CircuitTemplate) (policy : VerificationPolicy)
    (rng : Groth16.Randomness) : Prop :=
  ∃ e, (do
    let provingKey ← Groth16.generate (ProofCircuit.block ⟨policy, template, none⟩).shape rng
    Groth16.processVk (Groth16.vk provingKey)) = .error e

/-- Setup fails on the keys, or returns a backend. -/
theorem Groth16Backend.setup_keys {proof : Proof} {policy : VerificationPolicy}
    (rng : Groth16.Randomness) {template : CircuitTemplate}
    (h : CircuitTemplate.fromPlan proof.request.plan = .ok template)
    (hsupported : template.SupportedAt policy) :
    (template.KeysFail policy rng ∧
        setup proof policy rng = .error (.error .IncompatibleBackend)) ∨
      (¬ template.KeysFail policy rng ∧ ∃ backend, setup proof policy rng = .ok backend) := by
  rw [setup_of_supported rng h hsupported]
  unfold CircuitTemplate.KeysFail
  cases Groth16.generate (ProofCircuit.block ⟨policy, template, none⟩).shape rng with
  | error e => exact Or.inl ⟨⟨e, rfl⟩, rfl⟩
  | ok provingKey =>
      cases hprepared : Groth16.processVk (Groth16.vk provingKey) with
      | error e => exact Or.inl ⟨⟨e, hprepared⟩, by simp [hprepared, bind, Except.bind]⟩
      | ok preparedKey =>
          refine Or.inr ⟨?_, ⟨⟨⟨policy, template, provingKey⟩, ⟨policy, preparedKey⟩⟩, ?_⟩⟩
          · rintro ⟨e, he⟩
            have hok := hprepared.symm.trans he
            cases hok
          · simp [hprepared, bind, Except.bind, pure, Except.pure]

namespace World

/-- The calls that abort in a world, and the reason for each. -/
inductive Aborts (w : World) : Call → Abort ProofError → Prop where
  /-- A claim of the proof is custom. -/
  | custom {p : ℕ} {policy : VerificationPolicy} {rng : Groth16.Randomness} {proof : Proof}
      (hproof : w.proofs[p]? = some proof) (hclaims : ¬ proof.request.plan.Compilable) :
      Aborts w (.setup p policy rng) (.error .UnsupportedClaim)
  /-- A threshold of the proof reaches back before 1900. -/
  | cutoff {p : ℕ} {policy : VerificationPolicy} {rng : Groth16.Randomness} {proof : Proof}
      (hproof : w.proofs[p]? = some proof) (hclaims : proof.request.plan.Compilable)
      (hcutoffs : ¬ proof.request.plan.CutoffsSupported policy) :
      Aborts w (.setup p policy rng) (.panic "a supported cutoff is a supported birthday")
  | keys {p : ℕ} {policy : VerificationPolicy} {rng : Groth16.Randomness} {proof : Proof}
      {template : CircuitTemplate} (hproof : w.proofs[p]? = some proof)
      (htemplate : CircuitTemplate.fromPlan proof.request.plan = .ok template)
      (hcutoffs : proof.request.plan.CutoffsSupported policy)
      (hkeys : template.KeysFail policy rng) :
      Aborts w (.setup p policy rng) (.error .IncompatibleBackend)
  /-- The backend is for another statement. -/
  | statement {p b : ℕ} {proof : Proof} {backend : Groth16Backend}
      (hproof : w.proofs[p]? = some proof) (hbackend : w.backends[b]? = some backend)
      (hstatement : backend.prover.template.statement ≠ proof.request.plan.statement) :
      Aborts w (.prove p b) (.error .IncompatibleBackend)
  /-- The claims are false at the policy of the backend. -/
  | claims {p b : ℕ} {proof : Proof} {backend : Groth16Backend}
      (hproof : w.proofs[p]? = some proof) (hbackend : w.backends[b]? = some backend)
      (hstatement : backend.prover.template.statement = proof.request.plan.statement)
      (hclaims : ¬ proof.request.plan.leaves.Holds (DirectProofPlan.Meets backend.prover.policy)) :
      Aborts w (.prove p b) (.error .Unprovable)
  | artifact {b : ℕ} {bytes : List UInt8} {backend : Groth16Backend}
      (hbackend : w.backends[b]? = some backend)
      (hbytes : Groth16.deserializeCompressed bytes = none) :
      Aborts w (.verify b bytes) (.error .InvalidArtifact)
  | verification {b : ℕ} {bytes rest : List UInt8} {backend : Groth16Backend}
      {proof : Groth16.GrothProof} {e : SynthesisError} (hbackend : w.backends[b]? = some backend)
      (hbytes : Groth16.deserializeCompressed bytes = some (proof, rest))
      (hverify : Groth16.verifyProof backend.verifier.preparedKey proof [] = .error e) :
      Aborts w (.verify b bytes) (.error .VerificationFailed)

variable {w : World} {e : Abort ProofError}

omit [Chrono] in
theorem ofExec_eq_aborted_iff {α : Type} {f : α → Outcome} (hf : ∀ a, f a ≠ .aborted e)
    (x : Exec ProofError α) : Outcome.ofExec f x = .aborted e ↔ x = .error e := by
  cases x with
  | ok a =>
      constructor
      · intro h
        exact absurd h (hf a)
      · intro h
        cases h
  | error e' =>
      constructor
      · intro h
        rw [Outcome.aborted.inj h]
      · intro h
        rw [Except.error.inj h]
        rfl

/-- Setup, of a held proof. -/
theorem setup_eq_error_iff (h : w.Valid) {p : ℕ} {proof : Proof}
    (hproof : w.proofs[p]? = some proof) (policy : VerificationPolicy) (rng : Groth16.Randomness) :
    Groth16Backend.setup proof policy rng = .error e ↔ w.Aborts (.setup p policy rng) e := by
  have hrecorded := (h.honest (List.mem_of_getElem? hproof)).recorded
  -- a template that is not supported panics
  have hpanic {template : CircuitTemplate}
      (htemplate : CircuitTemplate.fromPlan proof.request.plan = .ok template)
      (hcutoffs : ¬ proof.request.plan.CutoffsSupported policy) :
      Groth16Backend.setup proof policy rng = .error cutoffPanic :=
    Groth16Backend.setup_of_panic htemplate (ProofCircuit.synthesize_aborts template.fits_none
      (CircuitTemplate.fromPlan_builtIn htemplate)
      (mt (CircuitTemplate.supportedAt_iff hrecorded htemplate).mp hcutoffs))
  constructor
  · intro herror
    by_cases hclaims : proof.request.plan.Compilable
    · obtain ⟨template, htemplate, -⟩ := CircuitTemplate.fromPlan_ok hrecorded hclaims
      by_cases hcutoffs : proof.request.plan.CutoffsSupported policy
      · rcases Groth16Backend.setup_keys rng htemplate
          ((CircuitTemplate.supportedAt_iff hrecorded htemplate).mpr hcutoffs) with
          ⟨hkeys, hfail⟩ | ⟨-, backend, hok⟩
        · rw [hfail] at herror
          obtain rfl := Except.error.inj herror
          exact .keys hproof htemplate hcutoffs hkeys
        · rw [hok] at herror
          cases herror
      · rw [hpanic htemplate hcutoffs] at herror
        obtain rfl := Except.error.inj herror
        exact .cutoff hproof hclaims hcutoffs
    · rw [Groth16Backend.setup_of_fromPlan_error
        (CircuitTemplate.fromPlan_error hrecorded hclaims)] at herror
      obtain rfl := Except.error.inj herror
      exact .custom hproof hclaims
  · intro haborts
    cases haborts with
    | custom hproof' hclaims =>
        obtain rfl := Option.some.inj (hproof.symm.trans hproof')
        exact Groth16Backend.setup_of_fromPlan_error
          (CircuitTemplate.fromPlan_error hrecorded hclaims)
    | cutoff hproof' hclaims hcutoffs =>
        obtain rfl := Option.some.inj (hproof.symm.trans hproof')
        obtain ⟨template, htemplate, -⟩ := CircuitTemplate.fromPlan_ok hrecorded hclaims
        exact hpanic htemplate hcutoffs
    | keys hproof' htemplate hcutoffs hkeys =>
        obtain rfl := Option.some.inj (hproof.symm.trans hproof')
        rcases Groth16Backend.setup_keys rng htemplate
          ((CircuitTemplate.supportedAt_iff hrecorded htemplate).mpr hcutoffs) with
          ⟨-, hfail⟩ | ⟨hnot, -⟩
        · exact hfail
        · exact absurd hkeys hnot

/-- Proving, with any held proof and backend. -/
theorem prove_eq_error_iff (h : w.Valid) {p b : ℕ} {proof : Proof} {backend : Groth16Backend}
    (hproof : w.proofs[p]? = some proof) (hbackend : w.backends[b]? = some backend)
    (rng : Groth16.Randomness) :
    (do
      let artifact ← proof.prove (backend.prover.prove rng)
      Exec.ofResult artifact.bytes) = .error e ↔ w.Aborts (.prove p b) e := by
  obtain ⟨hmismatch, hmatch⟩ := h.prove (List.mem_of_getElem? hproof)
    (List.mem_of_getElem? hbackend) rng
  constructor
  · intro herror
    by_cases hstatement : backend.prover.template.statement = proof.request.plan.statement
    · by_cases hholds : proof.request.plan.leaves.Holds
        (DirectProofPlan.Meets backend.prover.policy)
      · obtain ⟨artifact, hprove, -⟩ := (hmatch hstatement).2 hholds
        rw [hprove] at herror
        cases herror
      · rw [(hmatch hstatement).1 hholds] at herror
        obtain rfl := Except.error.inj herror
        exact .claims hproof hbackend hstatement hholds
    · rw [hmismatch hstatement] at herror
      obtain rfl := Except.error.inj herror
      exact .statement hproof hbackend hstatement
  · intro haborts
    cases haborts with
    | statement hproof' hbackend' hstatement =>
        obtain rfl := Option.some.inj (hproof.symm.trans hproof')
        obtain rfl := Option.some.inj (hbackend.symm.trans hbackend')
        rw [hmismatch hstatement]
        rfl
    | claims hproof' hbackend' hstatement hclaims =>
        obtain rfl := Option.some.inj (hproof.symm.trans hproof')
        obtain rfl := Option.some.inj (hbackend.symm.trans hbackend')
        rw [(hmatch hstatement).1 hclaims]
        rfl

/-- Verifying any bytes at all. -/
theorem verify_eq_error_iff {b : ℕ} {backend : Groth16Backend}
    (hbackend : w.backends[b]? = some backend) (bytes : List UInt8) :
    Exec.ofResult (backend.verifier.verify bytes) = .error e ↔ w.Aborts (.verify b bytes) e := by
  unfold Groth16Verifier.verify
  constructor
  · intro herror
    cases hbytes : Groth16.deserializeCompressed bytes with
    | none =>
        rw [hbytes] at herror
        obtain rfl := Except.error.inj herror
        exact .artifact hbackend hbytes
    | some read =>
        rcases read with ⟨proof, rest⟩
        simp only [hbytes] at herror
        cases hverify : Groth16.verifyProof backend.verifier.preparedKey proof [] with
        | error e' =>
            rw [hverify] at herror
            obtain rfl := Except.error.inj herror
            exact .verification hbackend hbytes hverify
        | ok valid =>
            rw [hverify] at herror
            cases herror
  · intro haborts
    cases haborts with
    | artifact hbackend' hbytes =>
        rw [hbytes]
        rfl
    | verification hbackend' hbytes hverify =>
        obtain rfl := Option.some.inj (hbackend.symm.trans hbackend')
        simp only [hbytes, hverify]
        rfl

/-- In a valid world exactly these calls abort. -/
theorem out_eq_aborted_iff (h : w.Valid) (call : Call) (rng : Groth16.Randomness) :
    w.out call rng = .aborted e ↔ w.Aborts call e := by
  have hsetupOut (backend : Groth16Backend) : Outcome.backend backend ≠ .aborted e := by
    intro h
    cases h
  have hproveOut (bytes : List UInt8) : Outcome.artifact bytes ≠ .aborted e := by
    intro h
    cases h
  have hverifyOut (verification : Verification) : Outcome.verdict verification ≠ .aborted e := by
    intro h
    cases h
  cases call with
  | generateWithRng | issue | is | and | or =>
      constructor
      · intro hout
        cases hout
      · intro haborts
        cases haborts
  | sign i age owner attributes nonces =>
      constructor
      · intro hout
        cases hsign : w.signOf i age owner attributes nonces <;>
          rw [out, hsign] at hout <;> cases hout
      · intro haborts
        cases haborts
  | setup p policy rng' =>
      cases hproof : w.proofs[p]? with
      | none =>
          constructor
          · intro hout
            simp [out, setupOf, hproof] at hout
          · intro haborts
            cases haborts with
            | custom hproof' | cutoff hproof' | keys hproof' =>
                rw [hproof] at hproof'
                cases hproof'
      | some proof =>
          have hout : w.out (.setup p policy rng') rng =
              .ofExec .backend (Groth16Backend.setup proof policy rng') := by
            simp [out, setupOf, hproof]
          rw [hout, ofExec_eq_aborted_iff hsetupOut, setup_eq_error_iff h hproof]
  | prove p b =>
      cases hproof : w.proofs[p]? with
      | none =>
          constructor
          · intro hout
            simp [out, proveOf, hproof] at hout
          · intro haborts
            cases haborts with
            | statement hproof' | claims hproof' =>
                rw [hproof] at hproof'
                cases hproof'
      | some proof =>
          cases hbackend : w.backends[b]? with
          | none =>
              constructor
              · intro hout
                simp [out, proveOf, hproof, hbackend] at hout
              · intro haborts
                cases haborts with
                | statement _ hbackend' | claims _ hbackend' =>
                    rw [hbackend] at hbackend'
                    cases hbackend'
          | some backend =>
              rw [out_prove _ hproof hbackend, ofExec_eq_aborted_iff hproveOut,
                prove_eq_error_iff h hproof hbackend]
  | verify b bytes =>
      cases hbackend : w.backends[b]? with
      | none =>
          constructor
          · intro hout
            simp [out, verifyOf, hbackend] at hout
          · intro haborts
            cases haborts with
            | artifact hbackend' | verification hbackend' =>
                rw [hbackend] at hbackend'
                cases hbackend'
      | some backend =>
          rw [out_verify _ hbackend, ofExec_eq_aborted_iff hverifyOut, verify_eq_error_iff hbackend]

/-- In every run exactly these calls show an error or a panic. -/
theorem transcript_aborted_iff (calls : List Call) (rng : ℕ → Groth16.Randomness) (i : ℕ)
    (e : Abort ProofError) :
    (transcript calls rng)[i]? = some (.aborted e) ↔
      ∃ call, calls[i]? = some call ∧ (reached (calls.take i)).Aborts call e := by
  rw [transcript, Machine.transcript_getElem?, Option.map_eq_some_iff]
  apply exists_congr
  intro call
  apply and_congr_right
  intro _
  exact out_eq_aborted_iff (valid_reached (calls.take i)) call (rng i)

end World

end Zcaprio
