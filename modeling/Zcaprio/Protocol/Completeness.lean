import Zcaprio.Instances.Reference
import Zcaprio.Protocol.World

/-!
# What proving shows in a run

Any held proof may be put to any held backend, whatever it was set up for. The
outcome is read off the two statements and the truth of the claims, and an
artifact is accepted from then on.
-/

namespace Zcaprio

open Trace

section Runs

variable [Gadgets] [Groth16] [Chrono]

namespace World

variable {w : World}

/-- A held backend is a backend of its setup, at a supported policy. -/
theorem Valid.isSetup (h : w.Valid) {backend : Groth16Backend} (hbackend : backend ∈ w.backends) :
    ∃ proof rng, backend.IsSetup proof backend.prover.policy rng ∧
      backend.prover.template.SupportedAt backend.prover.policy := by
  obtain ⟨proof, -, policy, rng, hsetup⟩ := h.backends backend hbackend
  have hspec := Groth16Backend.isSetup_of_setup hsetup
  rw [← hspec.proverPolicy] at hspec
  exact ⟨proof, rng, hspec, hspec.generated_block.1⟩

/-- The outcome of a held proof with a held backend, in the three cases. -/
theorem Valid.prove (h : w.Valid) {proof : Proof} {backend : Groth16Backend}
    (hproof : proof ∈ w.proofs) (hbackend : backend ∈ w.backends) (rng : Groth16.Randomness) :
    (backend.prover.template.statement ≠ proof.request.plan.statement →
      proof.prove (backend.prover.prove rng) = .error (.error .IncompatibleBackend)) ∧
    (backend.prover.template.statement = proof.request.plan.statement →
      (¬ proof.request.plan.leaves.Holds (DirectProofPlan.Meets backend.prover.policy) →
        proof.prove (backend.prover.prove rng) = .error (.error .Unprovable)) ∧
      (proof.request.plan.leaves.Holds (DirectProofPlan.Meets backend.prover.policy) →
        ∃ artifact, proof.prove (backend.prover.prove rng) = .ok artifact ∧
          artifact.verify backend.verifier = .ok .accepted)) := by
  have hhonest := h.honest hproof
  obtain ⟨_, _, hspec, hsupported⟩ := h.isSetup hbackend
  have haccepts : backend.prover.template.accepts proof.request.plan = true ↔
      backend.prover.template.statement = proof.request.plan.statement :=
    CircuitTemplate.accepts_iff hhonest.recorded
  constructor
  · intro hne
    exact Groth16Prover.prove_of_not_accepts (Bool.eq_false_iff.mpr (mt haccepts.mp hne))
  · intro heq
    obtain ⟨htrue, hfalse⟩ :=
      Groth16Prover.prove_honest rng hspec hsupported (haccepts.mpr heq) hhonest
    exact ⟨hfalse, htrue⟩

/-- What a prove call on held values shows. -/
theorem out_prove {p b : ℕ} {proof : Proof} {backend : Groth16Backend} (rng : Groth16.Randomness)
    (hproof : w.proofs[p]? = some proof) (hbackend : w.backends[b]? = some backend) :
    w.out (.prove p b) rng = .ofExec .artifact (do
      let artifact ← proof.prove (backend.prover.prove rng)
      Exec.ofResult artifact.bytes) := by
  simp [out, proveOf, hproof, hbackend]

theorem out_verify {b : ℕ} {backend : Groth16Backend} {bytes : List UInt8}
    (rng : Groth16.Randomness) (hbackend : w.backends[b]? = some backend) :
    w.out (.verify b bytes) rng = .ofExec .verdict (Exec.ofResult (backend.verifier.verify bytes)) := by
  simp [out, verifyOf, hbackend]

/-- In every run, a prove call on a held proof and a held backend shows the
error of its case, or an artifact that each later verify call on the backend
accepts, whatever calls are made between the two. -/
theorem transcript_prove (calls : List Call) (rng : ℕ → Groth16.Randomness) {i p b : ℕ}
    {proof : Proof} {backend : Groth16Backend} (hcall : calls[i]? = some (.prove p b))
    (hproof : (reached (calls.take i)).proofs[p]? = some proof)
    (hbackend : (reached (calls.take i)).backends[b]? = some backend) :
    (backend.prover.template.statement ≠ proof.request.plan.statement →
      (transcript calls rng)[i]? = some (.aborted (.error .IncompatibleBackend))) ∧
    (backend.prover.template.statement = proof.request.plan.statement →
      (¬ proof.request.plan.leaves.Holds (DirectProofPlan.Meets backend.prover.policy) →
        (transcript calls rng)[i]? = some (.aborted (.error .Unprovable))) ∧
      (proof.request.plan.leaves.Holds (DirectProofPlan.Meets backend.prover.policy) →
        ∃ bytes, (transcript calls rng)[i]? = some (.artifact bytes) ∧
          ∀ j, i ≤ j → calls[j]? = some (.verify b bytes) →
            (transcript calls rng)[j]? = some (.verdict .accepted))) := by
  obtain ⟨hmismatch, hmatch⟩ := (valid_reached (calls.take i)).prove
    (List.mem_of_getElem? hproof) (List.mem_of_getElem? hbackend) (rng i)
  rw [transcript_getElem? rng hcall, out_prove _ hproof hbackend]
  constructor
  · intro hne
    rw [hmismatch hne]
    rfl
  · intro heq
    obtain ⟨hfalse, htrue⟩ := hmatch heq
    constructor
    · intro hholds
      rw [hfalse hholds]
      rfl
    · intro hholds
      obtain ⟨artifact, hprove, hverify⟩ := htrue hholds
      rw [hprove]
      refine ⟨Groth16.serializeCompressed artifact.proof, rfl, ?_⟩
      intro j hij hcall'
      -- the backend is still at its place
      have hlater := backends_getElem?_reached hij hbackend
      have hbytes : backend.verifier.verify (Groth16.serializeCompressed artifact.proof) =
          .ok .accepted := hverify
      rw [transcript_getElem? rng hcall', out_verify _ hlater, hbytes]
      rfl

end World

end Runs

/-! ## One run -/

namespace Reference

/-- Staff or student, whichever the credential says. -/
def member (credential : SignedAttributeCredential) : Proof :=
  (credential.is (Claim.roleIs .Staff)).or (credential.is (Claim.roleIs .Student))

/-- Certify a holder's attributes, set up the disjunction, prove and verify it. -/
def memberCalls (holder : CredentialAttributes) (nonces : List JubJubScalar) : List Call :=
  [.generateWithRng issuer.secretKey, .issue 0 holder nonces, .is 0 (Claim.roleIs .Staff),
   .is 0 (Claim.roleIs .Student), .or 0 1, .setup 2 ⟨attributes.birthDay⟩ (), .prove 2 0,
   .verify 0 [1]]

/-- The first issuance of a run that generated the key of the issuer. -/
theorem issueOf_issuer {holder : CredentialAttributes} {nonces : List JubJubScalar}
    {credential : SignedAttributeCredential}
    (h : issuer.credentials.issue holder nonces = some credential) :
    World.issueOf ⟨[issuer], [], [], [], []⟩ 0 holder nonces = some credential := h

/-- Before setup the third proof is the disjunction. -/
theorem reached_member {holder : CredentialAttributes} {nonces : List JubJubScalar}
    {credential : SignedAttributeCredential}
    (h : issuer.credentials.issue holder nonces = some credential) :
    World.reached ((memberCalls holder nonces).take 5) =
      ⟨[issuer], [], [credential], [credential.is (Claim.roleIs .Staff),
        credential.is (Claim.roleIs .Student), member credential], []⟩ := by
  have hworld : World.step ⟨[issuer], [], [], [], []⟩ (.issue 0 holder nonces) =
      ⟨[issuer], [], [credential], [], []⟩ := by
    rw [World.step, issueOf_issuer h]
    rfl
  show World.machine.after (World.step ⟨[issuer], [], [], [], []⟩ (.issue 0 holder nonces)) _ = _
  rw [hworld]
  rfl

/-- Setup succeeds, with the backend of the disjunction. -/
theorem reached_member_setup {holder : CredentialAttributes} {nonces : List JubJubScalar}
    {credential : SignedAttributeCredential}
    (h : issuer.credentials.issue holder nonces = some credential) :
    ∃ backend, Groth16Backend.setup (member credential) ⟨attributes.birthDay⟩ () = .ok backend ∧
      World.reached ((memberCalls holder nonces).take 6) =
        ⟨[issuer], [], [credential], [credential.is (Claim.roleIs .Staff),
          credential.is (Claim.roleIs .Student), member credential], [backend]⟩ := by
  have hleaf (role : Role) : (credential.is (Claim.roleIs role)).request.plan.Honest :=
    ⟨credential, records_is _ _, _, _, _, h⟩
  obtain ⟨backend, hsetup⟩ : ∃ backend,
      Groth16Backend.setup (member credential) ⟨attributes.birthDay⟩ () = .ok backend :=
    exists_setup ⟨hleaf .Staff, hleaf .Student⟩
      ⟨Claim.BuiltIn.kind_ne_custom (.roleIs .Staff), Claim.BuiltIn.kind_ne_custom (.roleIs .Student)⟩
      ⟨trivial, trivial⟩
  refine ⟨backend, hsetup, ?_⟩
  have hsplit : (memberCalls holder nonces).take 6 =
      (memberCalls holder nonces).take 5 ++ [.setup 2 ⟨attributes.birthDay⟩ ()] := rfl
  rw [hsplit, World.reached_append_singleton, reached_member h]
  have hbackend : ((World.setupOf ⟨[issuer], [], [credential],
      [credential.is (Claim.roleIs .Staff), credential.is (Claim.roleIs .Student),
        member credential], []⟩ 2 ⟨attributes.birthDay⟩ ()).bind Except.toOption) = some backend :=
    World.setupOf_toOption_eq_some_iff.mpr ⟨_, rfl, hsetup⟩
  rw [World.step, hbackend]
  rfl

/-- Either role makes the disjunction true. -/
theorem member_holds {credential : SignedAttributeCredential} (policy : VerificationPolicy)
    (h : credential.role = .Staff ∨ credential.role = .Student) :
    (member credential).request.plan.leaves.Holds (DirectProofPlan.Meets policy) := by
  rcases h with h | h
  · exact Or.inl ⟨credential, rfl, h⟩
  · exact Or.inr ⟨credential, rfl, h⟩

end Reference

open Reference in
/-- The run of a staff member: the artifact is shown, and accepted from then on. -/
theorem transcript_prove_member :
    ∃ bytes, (World.transcript (memberCalls attributes nonces) fun _ => ())[6]? =
        some (.artifact bytes) ∧
      ∀ j, 6 ≤ j → (memberCalls attributes nonces)[j]? = some (.verify 0 bytes) →
        (World.transcript (memberCalls attributes nonces) fun _ => ())[j]? =
          some (.verdict .accepted) := by
  obtain ⟨backend, hsetup, hreached⟩ := reached_member_setup credential_issue
  have hspec := Groth16Backend.isSetup_of_setup hsetup
  have hproof : (World.reached ((memberCalls attributes nonces).take 6)).proofs[2]? =
      some (member credential) := by
    rw [hreached]
    rfl
  have hbackend : (World.reached ((memberCalls attributes nonces).take 6)).backends[0]? =
      some backend := by
    rw [hreached]
    rfl
  obtain ⟨-, hmatch⟩ := World.transcript_prove (memberCalls attributes nonces) (fun _ => ()) rfl hproof hbackend
  have hhonest := (World.valid_reached _).honest (List.mem_of_getElem? hproof)
  have hstaff : credential.role = .Staff := (SignedAttributeCredential.issue_stores credential_issue).2.2.1
  exact (hmatch (CircuitTemplate.fromPlan_spec hhonest.recorded hspec.compiled).2).2
    (member_holds _ (Or.inl hstaff))

end Zcaprio
