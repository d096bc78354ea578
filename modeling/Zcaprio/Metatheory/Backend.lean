import Zcaprio.Circuit.Backend
import Zcaprio.Metatheory.Honest
import Zcaprio.Metatheory.Shape

/-!
# Setup and proving

The outcomes of the two entry points of the backend: what a paired backend
records of its setup, how a proof request ends once its circuit is known, and
which circuits panic.
-/

namespace Zcaprio

open Trace

/-! ## Circuits that panic -/

section Abort

variable [Curve] [Chrono] {policy : VerificationPolicy}

/-- Where an unsupported cutoff is met. -/
def cutoffPanic {ε : Type} : Abort ε := .panic "a supported cutoff is a supported birthday"

/-- A leaf with an unsupported cutoff panics, after its credential is recorded. -/
theorem DirectTemplate.relation_aborts {template : DirectTemplate}
    (hclaim : template.claim ≠ .Custom) (h : ¬ Supported policy template.claim)
    (credential : Option SignedAttributeCredential) :
    Aborts (template.relation credential policy) cutoffPanic := by
  refine Emits.aborts (CredentialRelation.enforce_emits template.issuer credential) fun n => ?_
  cases hkind : template.claim with
  | AgeAbove years | AgeBelow years =>
      rw [hkind] at h
      exact (Aborts.lift (cutoff_of_not_supported h)).bind _
  | CountryIsEu | Role role =>
      rw [hkind] at h
      exact absurd trivial h
  | Custom => exact absurd hkind hclaim

namespace CircuitTemplate

/-- If a child is not supported, the first such child aborts the tree. -/
theorem gate_aborts {left right : CircuitTemplate} {mismatch : SynthesisError}
    {plan plan' : Option ProofPlan} (g : Boolean → Boolean → Gadget FpVar Boolean)
    (hfits : left.Fits plan)
    (hl : ¬ left.SupportedAt policy → Aborts (left.relationWith mismatch plan policy) cutoffPanic)
    (hr : ¬ right.SupportedAt policy →
      Aborts (right.relationWith mismatch plan' policy) cutoffPanic)
    (h : ¬ (left.SupportedAt policy ∧ right.SupportedAt policy)) :
    Aborts (left.relationWith mismatch plan policy >>= fun l =>
      right.relationWith mismatch plan' policy >>= fun r => callBoolean (g l r)) cutoffPanic := by
  by_cases hleft : left.SupportedAt policy
  · -- the left child returns, so the right one is the culprit
    refine Emits.aborts (relationWith_emits mismatch hfits hleft) fun n => ?_
    exact (hr fun hright => h ⟨hleft, hright⟩).bind _
  · exact (hl hleft).bind _

/-- One unsupported cutoff anywhere in the tree is met. -/
theorem relationWith_aborts {template : CircuitTemplate} {plan : Option ProofPlan}
    (mismatch : SynthesisError) (hfits : template.Fits plan)
    (hbuiltIn : template.leaves.All fun leaf => leaf.claim ≠ .Custom)
    (h : ¬ template.SupportedAt policy) :
    Aborts (template.relationWith mismatch plan policy) cutoffPanic := by
  induction template generalizing plan with
  | Direct template =>
      rw [relationWith_direct hfits]
      exact DirectTemplate.relation_aborts hbuiltIn h (ProofPlan.evidenceOf plan)
  | Conjunction left right ihl ihr =>
      obtain ⟨hl, hr⟩ := fits_conjunction hfits
      rw [relationWith_conjunction hfits]
      exact gate_aborts .and hl (ihl hl hbuiltIn.1) (ihr hr hbuiltIn.2) h
  | Disjunction left right ihl ihr =>
      obtain ⟨hl, hr⟩ := fits_disjunction hfits
      rw [relationWith_disjunction hfits]
      exact gate_aborts .or hl (ihl hl hbuiltIn.1) (ihr hr hbuiltIn.2) h

end CircuitTemplate

/-- A circuit with an unsupported cutoff is not synthesized. -/
theorem ProofCircuit.synthesize_aborts {circuit : ProofCircuit}
    (hfits : circuit.template.Fits circuit.plan)
    (hbuiltIn : circuit.template.leaves.All fun leaf => leaf.claim ≠ .Custom)
    (h : ¬ circuit.template.SupportedAt circuit.policy) :
    circuit.synthesize = .error cutoffPanic := by
  have hrelation := CircuitTemplate.relationWith_aborts .Unsatisfiable hfits hbuiltIn h
  have hcircuit : (run circuit.generateConstraints []).1 = .error cutoffPanic :=
    hrelation.bind _ []
  rcases hrun : run circuit.generateConstraints [] with ⟨outcome, cs⟩
  obtain rfl : outcome = .error cutoffPanic := by rw [← hcircuit, hrun]
  rw [synthesize, hrun]
  rfl

/-- A synthesized circuit of built-in claims has supported cutoffs. -/
theorem ProofCircuit.supportedAt_of_synthesize {circuit : ProofCircuit} {cs : ConstraintSystem}
    (hfits : circuit.template.Fits circuit.plan)
    (hbuiltIn : circuit.template.leaves.All fun leaf => leaf.claim ≠ .Custom)
    (hcs : circuit.synthesize = .ok cs) :
    circuit.template.SupportedAt circuit.policy ∧ cs = circuit.block := by
  by_cases hsupported : circuit.template.SupportedAt circuit.policy
  · rw [synthesize_eq hsupported hfits] at hcs
    exact ⟨hsupported, (Except.ok.inj hcs).symm⟩
  · rw [synthesize_aborts hfits hbuiltIn hsupported] at hcs
    cases hcs

end Abort

/-! ## The shape of a synthesized circuit -/

section Shape

variable [Curve] [Chrono] {template : CircuitTemplate}

theorem ProofCircuit.sameShape_generateConstraints (policy : VerificationPolicy) {plan plan' : Option ProofPlan}
    (h : template.Fits plan) (h' : template.Fits plan') :
    SameShape (generateConstraints { policy, template, plan })
      (generateConstraints { policy, template, plan := plan' }) :=
  (CircuitTemplate.sameShape_relationWith policy .Unsatisfiable .Unsatisfiable h h').bind
    fun _ => sameShape_callUnit _

theorem ProofCircuit.synthesize_map {α : Type} (circuit : ProofCircuit) (f : ConstraintSystem → α) :
    circuit.synthesize.map f =
      (run circuit.generateConstraints []).1.map fun _ => f (run circuit.generateConstraints []).2 := by
  show ((run circuit.generateConstraints []).1.map _).map f = _
  cases (run circuit.generateConstraints []).1 <;> rfl

/-- Circuits of one template, over plans it fits, are synthesized alike. -/
theorem ProofCircuit.synthesize_shape (policy : VerificationPolicy) {plan plan' : Option ProofPlan}
    (h : template.Fits plan) (h' : template.Fits plan') :
    (synthesize { policy, template, plan }).map System.shape =
      (synthesize { policy, template, plan := plan' }).map System.shape := by
  obtain ⟨hend, es, -, hshape, hshape'⟩ := sameShape_generateConstraints policy h h' [] [] rfl
  rw [synthesize_map, synthesize_map, hend, hshape, hshape']

/-- A synthesized circuit has no public input. -/
theorem ProofCircuit.isPublic_of_synthesize {circuit : ProofCircuit} {cs : ConstraintSystem}
    (hfits : circuit.template.Fits circuit.plan) (hcs : circuit.synthesize = .ok cs) :
    ∀ e ∈ cs.shape, e.isPublic = false := by
  obtain ⟨-, es, hprivate, hshape, -⟩ :=
    sameShape_generateConstraints circuit.policy hfits hfits [] [] rfl
  have hrun := circuit.synthesize_map System.shape
  rw [hcs, hshape] at hrun
  cases houtcome : (run circuit.generateConstraints []).1 with
  | error e =>
      rw [houtcome] at hrun
      cases hrun
  | ok _ =>
      rw [houtcome] at hrun
      rw [Except.ok.inj hrun]
      exact hprivate

/-- The values of the plan do not show in the events of a circuit. -/
theorem ProofCircuit.shape_block (policy : VerificationPolicy) (template : CircuitTemplate)
    (plan : Option ProofPlan) :
    (block ⟨policy, template, plan⟩).shape = (block ⟨policy, template, none⟩).shape := by
  unfold block
  rw [shape_append, shape_append, CircuitTemplate.shape_block]

end Shape

/-! ## Setup -/

section Setup

variable [Gadgets] [Groth16] [Chrono] {proof : Proof} {policy : VerificationPolicy}
  {rng : Groth16.Randomness}

/-- A backend that setup returned for the proof. -/
structure Groth16Backend.IsSetup (backend : Groth16Backend) (proof : Proof)
    (policy : VerificationPolicy) (rng : Groth16.Randomness) : Prop where
  compiled : CircuitTemplate.fromPlan proof.request.plan = .ok backend.prover.template
  proverPolicy : backend.prover.policy = policy
  verifierPolicy : backend.verifier.policy = policy
  generated : ∃ cs, ProofCircuit.synthesize
      { policy, template := backend.prover.template, plan := none } = .ok cs ∧
    Groth16.generate cs.shape rng = .ok backend.prover.provingKey
  prepared : Groth16.processVk (Groth16.vk backend.prover.provingKey) =
    .ok backend.verifier.preparedKey

namespace Groth16Backend

/-- An uncompilable proof is reported as such. -/
theorem setup_of_fromPlan_error {e : ProofError}
    (h : CircuitTemplate.fromPlan proof.request.plan = .error e) :
    setup proof policy rng = .error (.error e) := by
  rw [setup, h]
  rfl

/-- A panic while the circuit is synthesized is a panic of setup. -/
theorem setup_of_panic {template : CircuitTemplate} {message : String}
    (h : CircuitTemplate.fromPlan proof.request.plan = .ok template)
    (hcircuit : ProofCircuit.synthesize { policy, template, plan := none } =
      .error (.panic message)) :
    setup proof policy rng = .error (.panic message) := by
  simp [setup, h, generateRandomParametersWithReduction, hcircuit, bind, Except.bind]

/-- With supported cutoffs setup ends as the key generation for the block does. -/
theorem setup_of_supported (rng : Groth16.Randomness) {template : CircuitTemplate}
    (h : CircuitTemplate.fromPlan proof.request.plan = .ok template)
    (hsupported : template.SupportedAt policy) :
    setup proof policy rng =
      Exec.mapErr (fun _ => ProofError.IncompatibleBackend) (Exec.ofResult (do
        let provingKey ← Groth16.generate (ProofCircuit.block ⟨policy, template, none⟩).shape rng
        let preparedKey ← Groth16.processVk (Groth16.vk provingKey)
        return ⟨⟨policy, template, provingKey⟩, ⟨policy, preparedKey⟩⟩)) := by
  have hcs : ProofCircuit.synthesize ⟨policy, template, none⟩ = .ok _ :=
    ProofCircuit.synthesize_eq hsupported template.fits_none
  simp only [setup, h, generateRandomParametersWithReduction, hcs, bind, Except.bind,
    Exec.ofResult_ok]
  cases Groth16.generate (ProofCircuit.block ⟨policy, template, none⟩).shape rng with
  | error e => rfl
  | ok provingKey =>
      simp only [Exec.ofResult_ok, Exec.mapErr_ok]
      cases Groth16.processVk (Groth16.vk provingKey) <;> rfl

/-- Once the circuit is synthesized, setup returns a backend of the proof or
fails on the keys. -/
theorem setup_of_synthesize (rng : Groth16.Randomness) {template : CircuitTemplate}
    {cs : ConstraintSystem}
    (h : CircuitTemplate.fromPlan proof.request.plan = .ok template)
    (hcs : ProofCircuit.synthesize { policy, template, plan := none } = .ok cs) :
    (∃ backend, setup proof policy rng = .ok backend ∧ backend.prover.template = template ∧
        backend.IsSetup proof policy rng) ∨
      setup proof policy rng = .error (.error .IncompatibleBackend) := by
  simp only [setup, h, generateRandomParametersWithReduction, hcs, bind, Except.bind,
    Exec.ofResult_ok]
  cases hkey : Groth16.generate cs.shape rng with
  | error e => exact Or.inr rfl
  | ok provingKey =>
      simp only [Exec.ofResult_ok, Exec.mapErr_ok]
      cases hprepared : Groth16.processVk (Groth16.vk provingKey) with
      | error e => exact Or.inr rfl
      | ok preparedKey =>
          refine Or.inl ⟨⟨⟨policy, template, provingKey⟩, ⟨policy, preparedKey⟩⟩, ?_, rfl, ?_⟩
          · rfl
          · exact ⟨h, rfl, rfl, ⟨cs, hcs, hkey⟩, hprepared⟩

theorem isSetup_of_setup {backend : Groth16Backend} (h : setup proof policy rng = .ok backend) :
    backend.IsSetup proof policy rng := by
  cases htemplate : CircuitTemplate.fromPlan proof.request.plan with
  | error e =>
      rw [setup_of_fromPlan_error htemplate] at h
      cases h
  | ok template =>
      cases hcs : ProofCircuit.synthesize { policy, template, plan := none } with
      | error e =>
          simp only [setup, htemplate, generateRandomParametersWithReduction, hcs, bind,
            Except.bind, Exec.ofResult_ok] at h
          cases e <;> cases h
      | ok cs =>
          rcases setup_of_synthesize rng htemplate hcs with ⟨backend', hok, -, hspec⟩ | herror
          · obtain rfl := Except.ok.inj (hok.symm.trans h)
            exact hspec
          · rw [herror] at h
            cases h

/-- A backend of a setup has supported cutoffs, and keys for the block of its template. -/
theorem IsSetup.generated_block {backend : Groth16Backend} (h : backend.IsSetup proof policy rng) :
    backend.prover.template.SupportedAt policy ∧
      Groth16.generate (ProofCircuit.block ⟨policy, backend.prover.template, none⟩).shape rng =
        .ok backend.prover.provingKey := by
  obtain ⟨cs, hcs, hkey⟩ := h.generated
  obtain ⟨hsupported, rfl⟩ := ProofCircuit.supportedAt_of_synthesize
    backend.prover.template.fits_none (CircuitTemplate.fromPlan_builtIn h.compiled) hcs
  exact ⟨hsupported, hkey⟩

end Groth16Backend

/-! ## Proving -/

namespace Groth16Prover

variable {prover : Groth16Prover} {request : ProofRequest}

/-- A plan the template does not match is reported as such. -/
theorem prove_of_not_accepts (h : prover.template.accepts request.plan = false) :
    prover.prove rng request = .error (.error .IncompatibleBackend) := by
  rw [prove, h]
  rfl

/-- A matching plan whose circuit is synthesized is proved when its constraints
hold at the computed values. -/
theorem prove_of_synthesize (rng : Groth16.Randomness) {cs : ConstraintSystem}
    (h : prover.template.accepts request.plan = true)
    (hcs : ProofCircuit.synthesize { policy := prover.policy, template := prover.template,
                                     plan := some request.plan } = .ok cs) :
    prover.prove rng request =
      if Satisfies (complete cs.input cs.shape) 0 cs.shape then
        Exec.mapErr (fun _ => .Unprovable)
          ((Exec.ofResult (Groth16.create cs prover.provingKey rng)).map OpaqueGroth16Artifact.mk)
      else .error (.error .Unprovable) := by
  simp only [prove, h, ProofCircuit.isSatisfied, createRandomProofWithReduction, hcs, Except.map]
  by_cases hs : Satisfies (complete cs.input cs.shape) 0 cs.shape
  · rw [if_pos hs, decide_eq_true hs]
    cases hproof : Groth16.create cs prover.provingKey rng <;>
      simp [hproof, bind, Except.bind, pure, Except.pure]
  · rw [if_neg hs, decide_eq_false hs]
    rfl

/-- An accepted request is proved when the constraints hold at the computed
values, with an artifact the paired verifier accepts, and is unprovable otherwise. -/
theorem prove_of_accepts {backend : Groth16Backend} (rng' : Groth16.Randomness)
    (hsetup : backend.IsSetup proof policy rng)
    (haccepts : backend.prover.template.accepts request.plan = true) {circuit : ProofCircuit}
    (hcircuit : circuit = ⟨policy, backend.prover.template, some request.plan⟩) :
    (Satisfies (complete circuit.block.input circuit.block.shape) 0 circuit.block.shape →
      ∃ artifact, backend.prover.prove rng' request = .ok artifact ∧
        artifact.verify backend.verifier = .ok .accepted) ∧
    (¬ Satisfies (complete circuit.block.input circuit.block.shape) 0 circuit.block.shape →
      backend.prover.prove rng' request = .error (.error .Unprovable)) := by
  obtain ⟨hsupported, hkey⟩ := hsetup.generated_block
  obtain rfl := hsetup.proverPolicy
  have hfits := CircuitTemplate.fits_of_accepts haccepts
  have hsynthesize : ProofCircuit.synthesize
      ⟨backend.prover.policy, backend.prover.template, some request.plan⟩ = .ok circuit.block := by
    subst hcircuit
    exact ProofCircuit.synthesize_eq hsupported hfits
  -- the proving key was generated for the events of this very circuit
  have hshape : circuit.block.shape =
      (ProofCircuit.block ⟨backend.prover.policy, backend.prover.template, none⟩).shape := by
    subst hcircuit
    exact ProofCircuit.shape_block _ _ _
  rw [← hshape] at hkey
  have hprivate : ∀ e ∈ circuit.block.shape, e.isPublic = false := by
    subst hcircuit
    exact ProofCircuit.isPublic_of_synthesize hfits hsynthesize
  have hprove := prove_of_synthesize rng' haccepts hsynthesize
  constructor
  · intro hs
    obtain ⟨grothProof, hcreate, hverify⟩ :=
      Groth16.complete circuit.block _ rng rng' _ hkey hprivate hs hsetup.prepared
    rw [if_pos hs, hcreate] at hprove
    refine ⟨⟨grothProof⟩, hprove, ?_⟩
    have hbytes := Groth16.deserialize_serialize grothProof []
    rw [List.append_nil] at hbytes
    simp [OpaqueGroth16Artifact.verify, OpaqueGroth16Artifact.bytes, Groth16Verifier.verify, hbytes,
      hverify, bind, Except.bind]
  · intro hs
    rw [hprove, if_neg hs]

/-- Where the template is supported, an accepted plan of issued credentials is
proved when its tree of claims is true, with an artifact the paired verifier
accepts, and is unprovable otherwise. -/
theorem prove_honest {backend : Groth16Backend} (rng' : Groth16.Randomness)
    (hsetup : backend.IsSetup proof policy rng)
    (hsupported : backend.prover.template.SupportedAt policy)
    (haccepts : backend.prover.template.accepts request.plan = true)
    (hhonest : request.plan.Honest) :
    (request.plan.leaves.Holds (DirectProofPlan.Meets policy) →
      ∃ artifact, backend.prover.prove rng' request = .ok artifact ∧
        artifact.verify backend.verifier = .ok .accepted) ∧
    (¬ request.plan.leaves.Holds (DirectProofPlan.Meets policy) →
      backend.prover.prove rng' request = .error (.error .Unprovable)) := by
  obtain ⟨htrue, hfalse⟩ := prove_of_accepts rng' hsetup haccepts rfl
  have hplan : ProofCircuit.plan ⟨policy, backend.prover.template, some request.plan⟩ =
      some request.plan := rfl
  have hsatisfies := ProofCircuit.satisfies_honest hplan hsupported haccepts hhonest
  exact ⟨fun hholds => htrue (hsatisfies.mpr hholds),
    fun hholds => hfalse fun hs => hholds (hsatisfies.mp hs)⟩

end Groth16Prover

/-- Setup compiles an honest plan unless a claim is custom; what fails then is key generation. -/
theorem setup_errors {q : Proof} (hq : q.request.plan.Honest) {policy : VerificationPolicy}
    (hcutoffs : q.request.plan.CutoffsSupported policy) (rng : Groth16.Randomness) :
    (¬ q.request.plan.Compilable ∧
        Groth16Backend.setup q policy rng = .error (.error .UnsupportedClaim)) ∨
      (q.request.plan.Compilable ∧
        ((∃ backend, Groth16Backend.setup q policy rng = .ok backend) ∨
          Groth16Backend.setup q policy rng = .error (.error .IncompatibleBackend))) := by
  by_cases hclaims : q.request.plan.Compilable
  · obtain ⟨template, htemplate, -⟩ := CircuitTemplate.fromPlan_ok hq.recorded hclaims
    have hsupported := (CircuitTemplate.supportedAt_iff hq.recorded htemplate).mpr hcutoffs
    have hcs : ProofCircuit.synthesize { policy, template, plan := none } = .ok _ :=
      ProofCircuit.synthesize_eq hsupported template.fits_none
    rcases Groth16Backend.setup_of_synthesize rng htemplate hcs with ⟨backend, hok, -⟩ | herror
    · exact Or.inr ⟨hclaims, Or.inl ⟨backend, hok⟩⟩
    · exact Or.inr ⟨hclaims, Or.inr herror⟩
  · exact Or.inl ⟨hclaims, Groth16Backend.setup_of_fromPlan_error
      (CircuitTemplate.fromPlan_error hq.recorded hclaims)⟩

/-- A proof over issued credentials and the backend set up for it: proved when the
tree of claims is true, with an artifact the backend accepts, and unprovable otherwise. -/
theorem Groth16Backend.prove_own {backend : Groth16Backend} (rng' : Groth16.Randomness)
    (hsetup : setup proof policy rng = .ok backend) (hhonest : proof.request.plan.Honest)
    (hcutoffs : proof.request.plan.CutoffsSupported policy) :
    (proof.request.plan.leaves.Holds (DirectProofPlan.Meets policy) →
      ∃ artifact, proof.prove (backend.prover.prove rng') = .ok artifact ∧
        artifact.verify backend.verifier = .ok .accepted) ∧
    (¬ proof.request.plan.leaves.Holds (DirectProofPlan.Meets policy) →
      proof.prove (backend.prover.prove rng') = .error (.error .Unprovable)) := by
  have hspec := isSetup_of_setup hsetup
  have hsupported := (CircuitTemplate.supportedAt_iff hhonest.recorded hspec.compiled).mpr hcutoffs
  have haccepts := CircuitTemplate.accepts_of_fromPlan hspec.compiled
  exact Groth16Prover.prove_honest rng' hspec hsupported haccepts hhonest

end Setup

end Zcaprio
