import Zcaprio.Protocol.Completeness

/-!
# What a run hides

Two runs show the same, up to the draws of the proof system, if their setups
and proofs are of one statement and of one truth. How the holders came by these
proofs does not show: what was issued to whom, with which attributes and nonces,
and which credentials a proof was built from.
-/

namespace Zcaprio

open Trace

/-! ## Setup and the statement -/

section Setup

variable [Curve] [Hashes]

/-- Plans of one statement compile alike, or fail alike. -/
theorem CircuitTemplate.fromPlan_congr {plan plan' : ProofPlan} (h : plan.Recorded)
    (h' : plan'.Recorded) (hstatement : plan.statement = plan'.statement) :
    fromPlan plan = fromPlan plan' := by
  induction plan generalizing plan' with
  | Direct direct =>
      cases plan' with
      | Direct direct' =>
          obtain ⟨credential, hrecords⟩ := h
          obtain ⟨credential', hrecords'⟩ := h'
          have hleaf : direct.statement = direct'.statement := Formula.leaf.inj hstatement
          simp only [DirectProofPlan.statement, hrecords.2, hrecords'.2, Option.map_some,
            Prod.mk.injEq, Option.some_inj] at hleaf
          rw [fromPlan_direct, fromPlan_direct, DirectTemplate.fromPlan_of_records hrecords,
            DirectTemplate.fromPlan_of_records hrecords', hleaf.1, hleaf.2]
      | Conjunction | Disjunction => cases hstatement
  | Conjunction left right ihl ihr =>
      cases plan' with
      | Conjunction left' right' =>
          obtain ⟨hl, hr⟩ := Formula.and.inj hstatement
          rw [fromPlan_conjunction, fromPlan_conjunction, ihl h.1 h'.1 hl, ihr h.2 h'.2 hr]
      | Direct | Disjunction => cases hstatement
  | Disjunction left right ihl ihr =>
      cases plan' with
      | Disjunction left' right' =>
          obtain ⟨hl, hr⟩ := Formula.or.inj hstatement
          rw [fromPlan_disjunction, fromPlan_disjunction, ihl h.1 h'.1 hl, ihr h.2 h'.2 hr]
      | Direct | Conjunction => cases hstatement

end Setup

section Runs

variable [Gadgets] [Groth16] [Chrono]

/-- Setup sees of a proof its statement only: proofs of one statement give the
same backend, the same error or the same panic. -/
theorem Groth16Backend.setup_congr {proof proof' : Proof} (h : proof.request.plan.Recorded)
    (h' : proof'.request.plan.Recorded)
    (hstatement : proof.request.plan.statement = proof'.request.plan.statement)
    (policy : VerificationPolicy) (rng : Groth16.Randomness) :
    setup proof policy rng = setup proof' policy rng := by
  unfold setup
  rw [CircuitTemplate.fromPlan_congr h h' hstatement]

/-! ## Proving and zero knowledge -/

/-- Perfect zero knowledge: for two satisfied systems with the events of one
key, a permutation of the draws takes the proofs of one to the proofs of the other. -/
def Groth16.ZeroKnowledge : Prop :=
  ∀ (cs cs' : ConstraintSystem) (provingKey : ProvingKey) (rng : Randomness),
    generate cs.shape rng = .ok provingKey → cs'.shape = cs.shape →
    (∀ e ∈ cs.shape, e.isPublic = false) →
    Satisfies (Trace.complete cs.input cs.shape) 0 cs.shape →
    Satisfies (Trace.complete cs'.input cs'.shape) 0 cs'.shape →
    ∃ π : Equiv.Perm Randomness, ∀ r, create cs' provingKey (π r) = create cs provingKey r

/-- Two accepted requests over issued credentials, both true or both false, are
answered alike. -/
theorem Groth16Prover.prove_hides (hzk : Groth16.ZeroKnowledge) {backend : Groth16Backend}
    {proof : Proof} {policy : VerificationPolicy} {rng : Groth16.Randomness}
    (hsetup : backend.IsSetup proof policy rng) {request request' : ProofRequest}
    (hhonest : request.plan.Honest) (hhonest' : request'.plan.Honest)
    (hstatement : request.plan.statement = request'.plan.statement)
    (htruth : backend.prover.template.statement = request.plan.statement →
      (request.plan.leaves.Holds (DirectProofPlan.Meets policy) ↔
        request'.plan.leaves.Holds (DirectProofPlan.Meets policy))) :
    ∃ π : Equiv.Perm Groth16.Randomness, ∀ r,
      backend.prover.prove (π r) request' = backend.prover.prove r request := by
  obtain rfl := hsetup.proverPolicy
  obtain ⟨hsupported, hkey⟩ := hsetup.generated_block
  have haccepts : backend.prover.template.accepts request.plan = true ↔
      backend.prover.template.statement = request.plan.statement :=
    CircuitTemplate.accepts_iff hhonest.recorded
  have haccepts' : backend.prover.template.accepts request'.plan = true ↔
      backend.prover.template.statement = request'.plan.statement :=
    CircuitTemplate.accepts_iff hhonest'.recorded
  rw [← hstatement] at haccepts'
  by_cases heq : backend.prover.template.statement = request.plan.statement
  · set circuit : ProofPlan → ProofCircuit := fun plan =>
      ⟨backend.prover.policy, backend.prover.template, some plan⟩
    have hshape (plan : ProofPlan) := ProofCircuit.shape_block backend.prover.policy
      backend.prover.template (some plan)
    have hfits := CircuitTemplate.fits_of_accepts (haccepts.mpr heq)
    have hsynthesize : (circuit request.plan).synthesize = .ok (circuit request.plan).block :=
      ProofCircuit.synthesize_eq hsupported hfits
    have hsynthesize' : (circuit request'.plan).synthesize = .ok (circuit request'.plan).block :=
      ProofCircuit.synthesize_eq hsupported (CircuitTemplate.fits_of_accepts (haccepts'.mpr heq))
    have hplan (plan : ProofPlan) : (circuit plan).plan = some plan := rfl
    have hsatisfies := ProofCircuit.satisfies_honest (hplan request.plan) hsupported
      (haccepts.mpr heq) hhonest
    have hsatisfies' := ProofCircuit.satisfies_honest (hplan request'.plan) hsupported
      (haccepts'.mpr heq) hhonest'
    by_cases hholds : request.plan.leaves.Holds (DirectProofPlan.Meets backend.prover.policy)
    · -- both are true: the proof system hides which assignment was used
      have hs := hsatisfies.mpr hholds
      have hs' := hsatisfies'.mpr ((htruth heq).mp hholds)
      obtain ⟨π, hπ⟩ := hzk _ (circuit request'.plan).block _ rng ((hshape request.plan) ▸ hkey)
        ((hshape request'.plan).trans (hshape request.plan).symm)
        (ProofCircuit.isPublic_of_synthesize hfits hsynthesize) hs hs'
      refine ⟨π, fun r => ?_⟩
      rw [prove_of_synthesize r (haccepts.mpr heq) hsynthesize, if_pos hs,
        prove_of_synthesize (π r) (haccepts'.mpr heq) hsynthesize', if_pos hs', hπ]
    · -- both are false
      have hs := mt hsatisfies.mp hholds
      have hs' := mt hsatisfies'.mp (mt (htruth heq).mpr hholds)
      refine ⟨Equiv.refl _, fun r => ?_⟩
      rw [prove_of_synthesize r (haccepts.mpr heq) hsynthesize, if_neg hs,
        prove_of_synthesize _ (haccepts'.mpr heq) hsynthesize', if_neg hs']
  · -- neither request is accepted
    refine ⟨Equiv.refl _, fun r => ?_⟩
    rw [prove_of_not_accepts (Bool.eq_false_iff.mpr (mt haccepts.mp heq)),
      prove_of_not_accepts (Bool.eq_false_iff.mpr (mt haccepts'.mp heq))]

/-! ## Two runs -/

/-- What a verifier knows of a proof. -/
def Proof.statement (p : Proof) : Formula (Option IssuerPublicKey × ClaimKind) :=
  p.request.plan.statement

/-- The calls a holder makes by itself. -/
inductive Call.Silent : Call → Prop where
  | issue (i : ℕ) (attributes : CredentialAttributes) (nonces : List JubJubScalar) :
      Silent (.issue i attributes nonces)
  | is (i : ℕ) (claim : Claim) : Silent (.is i claim)
  | and (i j : ℕ) : Silent (.and i j)
  | or (i j : ℕ) : Silent (.or i j)

namespace World

variable {w w' : World}

/-- Worlds that hold the same in public, and any credentials and proofs. -/
structure Alike (w w' : World) : Prop where
  valid : w.Valid
  valid' : w'.Valid
  keyPairs : w.keyPairs = w'.keyPairs
  signed : w.signed = w'.signed
  backends : w.backends = w'.backends

/-- Places with proofs of one statement in the two worlds, or with none in either. -/
def SameStatement (w w' : World) (p p' : ℕ) : Prop :=
  w.proofs[p]?.map Proof.statement = w'.proofs[p']?.map Proof.statement

/-- If the backend takes the two proofs, both are true or both are false. -/
def SameTruth (w w' : World) (p p' b : ℕ) : Prop :=
  ∀ proof proof' backend, w.proofs[p]? = some proof → w'.proofs[p']? = some proof' →
    w.backends[b]? = some backend → backend.prover.template.statement = proof.statement →
    (proof.request.plan.leaves.Holds (DirectProofPlan.Meets backend.prover.policy) ↔
      proof'.request.plan.leaves.Holds (DirectProofPlan.Meets backend.prover.policy))

/-- Calls that a verifier should not be able to tell apart: any two silent ones,
setups for one statement, proofs of one statement and one truth, and else one call. -/
inductive SameCall (w w' : World) : Call → Call → Prop where
  | silent {call call' : Call} (h : call.Silent) (h' : call'.Silent) : SameCall w w' call call'
  | setup {p p' : ℕ} (policy : VerificationPolicy) (rng : Groth16.Randomness)
      (hstatement : SameStatement w w' p p') :
      SameCall w w' (.setup p policy rng) (.setup p' policy rng)
  | prove {p p' : ℕ} (b : ℕ) (hstatement : SameStatement w w' p p')
      (htruth : SameTruth w w' p p' b) : SameCall w w' (.prove p b) (.prove p' b)
  | generateWithRng (sample : JubJubScalar) :
      SameCall w w' (.generateWithRng sample) (.generateWithRng sample)
  | sign (i : ℕ) (age : AgeCommitment) (owner : OwnerCommitment) (attributes : AttributeCommitment)
      (nonces : List JubJubScalar) :
      SameCall w w' (.sign i age owner attributes nonces) (.sign i age owner attributes nonces)
  | verify (b : ℕ) (bytes : List UInt8) : SameCall w w' (.verify b bytes) (.verify b bytes)

omit [Chrono] in
theorem SameStatement.cases {p p' : ℕ} (h : SameStatement w w' p p') :
    (w.proofs[p]? = none ∧ w'.proofs[p']? = none) ∨ ∃ proof proof',
      w.proofs[p]? = some proof ∧ w'.proofs[p']? = some proof' ∧
        proof.statement = proof'.statement := by
  unfold SameStatement at h
  cases hproof : w.proofs[p]? with
  | none =>
      rw [hproof, Option.map_none, eq_comm, Option.map_eq_none_iff] at h
      exact Or.inl ⟨rfl, h⟩
  | some proof =>
      rw [hproof, Option.map_some, eq_comm, Option.map_eq_some_iff] at h
      obtain ⟨proof', hproof', hstatement⟩ := h
      exact Or.inr ⟨proof, proof', rfl, hproof', hstatement.symm⟩

namespace Alike

theorem empty : Alike empty empty := ⟨valid_empty, valid_empty, rfl, rfl, rfl⟩

theorem setupOf (h : Alike w w') {p p' : ℕ} (hstatement : SameStatement w w' p p')
    (policy : VerificationPolicy) (rng : Groth16.Randomness) :
    w.setupOf p policy rng = w'.setupOf p' policy rng := by
  unfold World.setupOf
  rcases hstatement.cases with ⟨hnone, hnone'⟩ | ⟨proof, proof', hproof, hproof', hsame⟩
  · rw [hnone, hnone']
  · have hhonest := h.valid.honest (List.mem_of_getElem? hproof)
    have hhonest' := h.valid'.honest (List.mem_of_getElem? hproof')
    rw [hproof, hproof']
    exact congrArg some
      (Groth16Backend.setup_congr hhonest.recorded hhonest'.recorded hsame policy rng)

/-- A silent call adds credentials and proofs only. -/
theorem silent {call : Call} (h : call.Silent) (w : World) :
    (w.step call).keyPairs = w.keyPairs ∧ (w.step call).signed = w.signed ∧
      (w.step call).backends = w.backends := by
  cases h <;> exact ⟨rfl, rfl, rfl⟩

/-- Matched calls keep the worlds alike. -/
theorem step (h : Alike w w') {call call' : Call} (hcall : SameCall w w' call call') :
    Alike (w.step call) (w'.step call') := by
  have hvalid := h.valid.step call
  have hvalid' := h.valid'.step call'
  cases hcall with
  | silent hsilent hsilent' =>
      obtain ⟨hkeyPairs, hsigned, hbackends⟩ := silent hsilent w
      obtain ⟨hkeyPairs', hsigned', hbackends'⟩ := silent hsilent' w'
      refine ⟨hvalid, hvalid', ?_, ?_, ?_⟩
      · rw [hkeyPairs, hkeyPairs', h.keyPairs]
      · rw [hsigned, hsigned', h.signed]
      · rw [hbackends, hbackends', h.backends]
  | setup policy rng hstatement =>
      refine { h with valid := hvalid, valid' := hvalid', backends := ?_ }
      rw [World.step, World.step, h.setupOf hstatement, h.backends]
  | generateWithRng sample =>
      refine { h with valid := hvalid, valid' := hvalid', keyPairs := ?_ }
      rw [World.step, World.step, h.keyPairs]
  | sign i age owner attributes nonces =>
      refine { h with valid := hvalid, valid' := hvalid', signed := ?_ }
      rw [World.step, World.step, World.signOf, World.signOf, h.keyPairs, h.signed]
  | prove | verify => exact h

/-- Statements that are both true or both false are proved alike. -/
theorem out_prove (hzk : Groth16.ZeroKnowledge) (h : Alike w w') {p p' b : ℕ}
    (hstatement : SameStatement w w' p p') (htruth : SameTruth w w' p p' b) :
    ∃ π : Equiv.Perm Groth16.Randomness, ∀ rng,
      w'.out (.prove p' b) (π rng) = w.out (.prove p b) rng := by
  rcases hstatement.cases with ⟨hnone, hnone'⟩ | ⟨proof, proof', hproof, hproof', hsame⟩
  · refine ⟨Equiv.refl _, fun rng => ?_⟩
    simp [World.out, World.proveOf, hnone, hnone']
  · cases hbackend : w.backends[b]? with
    | none =>
        have hbackend' := h.backends ▸ hbackend
        refine ⟨Equiv.refl _, fun rng => ?_⟩
        simp [World.out, World.proveOf, hproof, hproof', hbackend, hbackend']
    | some backend =>
        obtain ⟨_, _, hspec, -⟩ := h.valid.isSetup (List.mem_of_getElem? hbackend)
        obtain ⟨π, hπ⟩ := Groth16Prover.prove_hides hzk hspec
          (h.valid.honest (List.mem_of_getElem? hproof))
          (h.valid'.honest (List.mem_of_getElem? hproof')) hsame
          (htruth proof proof' backend hproof hproof' hbackend)
        refine ⟨π, fun rng => ?_⟩
        rw [World.out_prove _ hproof hbackend, World.out_prove _ hproof' (h.backends ▸ hbackend),
          Proof.prove, Proof.prove, hπ]

/-- What matched calls show differs by a permutation of the draws. -/
theorem out (hzk : Groth16.ZeroKnowledge) (h : Alike w w') {call call' : Call}
    (hcall : SameCall w w' call call') :
    ∃ π : Equiv.Perm Groth16.Randomness, ∀ rng, w'.out call' (π rng) = w.out call rng := by
  cases hcall with
  | prove b hstatement htruth => exact h.out_prove hzk hstatement htruth
  | silent hsilent hsilent' =>
      refine ⟨Equiv.refl _, fun rng => ?_⟩
      cases hsilent <;> cases hsilent' <;> rfl
  | generateWithRng => exact ⟨Equiv.refl _, fun rng => rfl⟩
  | sign i age owner attributes nonces =>
      refine ⟨Equiv.refl _, fun rng => ?_⟩
      rw [World.out, World.out, World.signOf, World.signOf, h.keyPairs]
  | setup policy rng hstatement =>
      refine ⟨Equiv.refl _, fun r => ?_⟩
      rw [World.out, World.out, h.setupOf hstatement]
  | verify b bytes =>
      refine ⟨Equiv.refl _, fun rng => ?_⟩
      rw [World.out, World.out, World.verifyOf, World.verifyOf, h.backends]

end Alike

/-- Noninterference: two runs of calls that are alike in public show the same, up
to a permutation of the draws of each step. So whoever sees the keys, the bare
credentials, the backends, the artifacts and the verdicts cannot tell them apart. -/
theorem transcript_hides (hzk : Groth16.ZeroKnowledge) {calls calls' : List Call}
    (h : machine.Matched SameCall empty empty calls calls') :
    ∃ π : ℕ → Equiv.Perm Groth16.Randomness, ∀ rng : ℕ → Groth16.Randomness,
      transcript calls' (fun i => π i (rng i)) = transcript calls rng := by
  refine h.transcript ?_ ?_ Alike.empty
  · intro w w' call call' halike hcall
    exact halike.step hcall
  · intro w w' call call' halike hcall
    exact halike.out hzk hcall

end World

end Runs

/-! ## Two holders -/

namespace Reference

/-- A student, who is no staff. -/
def student : CredentialAttributes := { attributes with role := .Student }

theorem student_issue_isSome : (issuer.credentials.issue student [1]).isSome = true := by
  set_option maxRecDepth 4000 in
  decide

theorem zeroKnowledge : Groth16.ZeroKnowledge := by
  rintro cs cs' provingKey rng hkey hshape - hs hs'
  obtain rfl := Except.ok.inj hkey
  refine ⟨Equiv.refl _, fun r => ?_⟩
  show Except.ok (decide _) = Except.ok (decide _)
  rw [decide_eq_true ⟨hshape, hs'⟩, decide_eq_true ⟨rfl, hs⟩]

/-- The disjunction shows the key of the issuer, and the two roles. -/
theorem member_statement {holder : CredentialAttributes} {nonces : List JubJubScalar}
    {credential : SignedAttributeCredential}
    (h : issuer.credentials.issue holder nonces = some credential) :
    (member credential).statement = .or (.leaf (some issuer.publicKey, .Role .Staff))
      (.leaf (some issuer.publicKey, .Role .Student)) := by
  obtain ⟨-, -, -, -, -, hissuer⟩ := SignedAttributeCredential.issue_stores h
  rw [← hissuer]
  rfl

end Reference

open Reference in
/-- A member of staff and a student prove that they are one of the two. -/
theorem transcript_hides_member :
    ∃ π : ℕ → Equiv.Perm Groth16.Randomness, ∀ rng : ℕ → Groth16.Randomness,
      World.transcript (memberCalls student [1]) (fun i => π i (rng i)) =
        World.transcript (memberCalls attributes nonces) rng := by
  obtain ⟨other, hother⟩ := Option.isSome_iff_exists.mp student_issue_isSome
  have hbefore := reached_member credential_issue
  have hbefore' := reached_member hother
  obtain ⟨backend, -, hafter⟩ := reached_member_setup credential_issue
  obtain ⟨backend', -, hafter'⟩ := reached_member_setup hother
  have hstatement := (member_statement credential_issue).trans (member_statement hother).symm
  apply World.transcript_hides zeroKnowledge
  refine .cons (.generateWithRng issuer.secretKey) (.cons (.silent (.issue 0 _ _) (.issue 0 _ _)) ?_)
  refine .cons (.silent (.is 0 _) (.is 0 _)) (.cons (.silent (.is 0 _) (.is 0 _)) ?_)
  refine .cons (.silent (.or 0 1) (.or 0 1)) ?_
  refine .cons (.setup _ _ ?_) (.cons (.prove 0 ?_ ?_) (.cons (.verify 0 _) (.nil _ _)))
  · show World.SameStatement (World.reached ((memberCalls attributes nonces).take 5))
      (World.reached ((memberCalls student [1]).take 5)) 2 2
    rw [hbefore, hbefore']
    exact congrArg some hstatement
  · show World.SameStatement (World.reached ((memberCalls attributes nonces).take 6))
      (World.reached ((memberCalls student [1]).take 6)) 2 2
    rw [hafter, hafter']
    exact congrArg some hstatement
  · show World.SameTruth (World.reached ((memberCalls attributes nonces).take 6))
      (World.reached ((memberCalls student [1]).take 6)) 2 2 0
    rw [hafter, hafter']
    rintro _ _ _ ⟨⟩ ⟨⟩ - -
    -- the left leaf is true in one run, the right leaf in the other
    refine iff_of_true (member_holds _ (Or.inl ?_)) (member_holds _ (Or.inr ?_))
    · exact (SignedAttributeCredential.issue_stores credential_issue).2.2.1
    · exact (SignedAttributeCredential.issue_stores hother).2.2.1

end Zcaprio
