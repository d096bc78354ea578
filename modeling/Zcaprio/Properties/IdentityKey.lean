import Zcaprio.Instances.Reference
import Zcaprio.Metatheory.Session

/-!
# The identity key

Two entry points reject the identity as an issuer key: verification, and the
decoder of keys. Key generation does not, and everything after it takes the key
as it is. So a circuit for the identity is built exactly from a zero sample.
-/

namespace Zcaprio

section Keys

variable [Curve]

/-- With a generator of full order only the zero scalar gives the identity. -/
theorem IssuerKeyPair.generateWithRng_isIdentity_iff
    (hgenerator : addOrderOf schnorrParameters.generator = jubJubModulus)
    (sample : JubJubScalar) :
    (generateWithRng sample).publicKey.isIdentity = true ↔ sample = 0 := by
  have hpoint : (generateWithRng sample).publicKey.isIdentity = true ↔
      sample.val • schnorrParameters.generator = 0 := decide_eq_true_iff
  rw [hpoint, ← addOrderOf_dvd_iff_nsmul_eq_zero, hgenerator, ← ZMod.val_eq_zero]
  constructor
  · intro hdvd
    exact Nat.eq_zero_of_dvd_of_lt hdvd (ZMod.val_lt sample)
  · intro hzero
    rw [hzero]
    exact dvd_zero _

end Keys

section Runs

variable [Gadgets] [Groth16] [Chrono]

/-- Every key in a leaf of a template was generated in the run. -/
theorem leaf_key_generated {ops : List Operation} {s : Session}
    (hrun : Run Session.Step .empty ops s) :
    ∀ backend ∈ s.backends, backend.prover.template.leaves.All fun leaf =>
      ∃ sample, Operation.generateWithRng sample ∈ ops ∧
        leaf.issuer = (IssuerKeyPair.generateWithRng sample).publicKey := by
  refine (Session.keysIn_of_run (K := fun key => ∃ sample,
    Operation.generateWithRng sample ∈ ops ∧
      key = (IssuerKeyPair.generateWithRng sample).publicKey) hrun ?_).backends
  intro op hop
  cases op with
  | generateWithRng sample => exact ⟨sample, hop, rfl⟩
  | issue | is | and | or | setup => trivial

/-- The random source yields no zero scalar to a key generation. -/
def Operation.SampleNonzero : Operation → Prop
  | generateWithRng sample => sample ≠ 0
  | _ => True

/-- In every run without a zero sample, no leaf of a template holds the identity. -/
theorem no_identity_key (hgenerator : addOrderOf schnorrParameters.generator = jubJubModulus)
    {ops : List Operation} {s : Session} (hrun : Run Session.Step .empty ops s)
    (hsamples : ∀ op ∈ ops, op.SampleNonzero) :
    ∀ backend ∈ s.backends,
      backend.prover.template.leaves.All fun leaf => leaf.issuer.isIdentity = false := by
  intro backend hbackend
  apply (leaf_key_generated hrun backend hbackend).imp
  rintro leaf ⟨sample, hop, hissuer⟩
  rw [hissuer, ← Bool.not_eq_true, IssuerKeyPair.generateWithRng_isIdentity_iff hgenerator]
  exact hsamples _ hop

end Runs

/-! ## Two runs -/

section Instances

open Reference

/-- Generate a key, issue a credential, ask for its role, and set up the backend. -/
theorem run_setup (sample : JubJubScalar) {credential : SignedAttributeCredential}
    (hissue : (IssuerKeyPair.generateWithRng sample).credentials.issue attributes nonces =
      some credential) :
    ∃ (ops : List Operation) (s : Session) (backend : Groth16Backend),
      Run Session.Step .empty (.generateWithRng sample :: ops) s ∧
        (∀ op ∈ ops, op.SampleNonzero) ∧ backend ∈ s.backends ∧
        backend.prover.template =
          .Direct ⟨(IssuerKeyPair.generateWithRng sample).publicKey, .Role .Staff⟩ := by
  have hissued : credential.Issued := ⟨_, attributes, nonces, hissue⟩
  have hcustom : (Claim.roleIs .Staff).kind ≠ .Custom :=
    Claim.BuiltIn.kind_ne_custom (.roleIs .Staff)
  obtain ⟨backend, hsetup⟩ : ∃ backend, Groth16Backend.setup
      (credential.is (Claim.roleIs .Staff)) ⟨attributes.birthDay⟩ () = .ok backend :=
    exists_setup ⟨credential, ⟨rfl, rfl⟩, hissued⟩ hcustom trivial
  refine ⟨[.issue (.generateWithRng sample) attributes nonces,
      .is credential (Claim.roleIs .Staff),
      .setup (credential.is (Claim.roleIs .Staff)) ⟨attributes.birthDay⟩ ()], _, backend,
    .cons (.generateWithRng _ sample) (.cons (.issue List.mem_cons_self hissue)
      (.cons (.is _ List.mem_cons_self) (.cons (.setup List.mem_cons_self hsetup) (.nil _)))),
    ?_, List.mem_cons_self, ?_⟩
  · intro op hop
    simp only [List.mem_cons, List.not_mem_nil, or_false] at hop
    rcases hop with rfl | rfl | rfl <;> trivial
  · -- the template is the one the plan compiles to
    have hcompiled := (Groth16Backend.isSetup_of_setup hsetup).compiled
    rw [(fromPlan_is credential (Claim.roleIs .Staff) hcustom).1,
      (SignedAttributeCredential.issue_stores hissue).2.2.2.2.2] at hcompiled
    exact (Except.ok.inj hcompiled).symm

theorem zero_issue_isSome :
    ((IssuerKeyPair.generateWithRng 0).credentials.issue attributes nonces).isSome = true := by
  set_option maxRecDepth 4000 in
  decide

/-- A zero sample: the template holds a key under which no credential verifies. -/
theorem identity_key_circuit :
    ∃ (ops : List Operation) (s : Session) (backend : Groth16Backend),
      Run Session.Step .empty ops s ∧ backend ∈ s.backends ∧
        (backend.prover.template.leaves.All fun leaf =>
          leaf.issuer.isIdentity = true ∧
            ∀ credential : AgeCredential, credential.verify leaf.issuer ≠ .ok ()) ∧
        ¬ backend.prover.template.leaves.All fun leaf => leaf.issuer.isIdentity = false := by
  obtain ⟨credential, hissue⟩ := Option.isSome_iff_exists.mp zero_issue_isSome
  obtain ⟨ops, s, backend, hrun, -, hbackend, htemplate⟩ := run_setup 0 hissue
  have hidentity : (IssuerKeyPair.generateWithRng 0).publicKey.isIdentity = true := by decide
  refine ⟨_, s, backend, hrun, hbackend, ?_, ?_⟩
  · rw [htemplate]
    exact ⟨hidentity, fun credential => credential.verify_isIdentity hidentity⟩
  · rw [htemplate]
    intro hnot
    have hnot : (IssuerKeyPair.generateWithRng 0).publicKey.isIdentity = false := hnot
    rw [hidentity] at hnot
    cases hnot

/-- The sample of the issuer: its key in the template is not the identity. -/
theorem no_identity_key_staff :
    ∃ (ops : List Operation) (s : Session) (backend : Groth16Backend),
      Run Session.Step .empty ops s ∧ backend ∈ s.backends ∧
        backend.prover.template.leaves.All fun leaf => leaf.issuer.isIdentity = false := by
  obtain ⟨ops, s, backend, hrun, hops, hbackend, -⟩ := run_setup issuer.secretKey credential_issue
  have hgenerator : addOrderOf schnorrParameters.generator = jubJubModulus := ZMod.addOrderOf_one _
  have hsamples : ∀ op ∈ .generateWithRng issuer.secretKey :: ops, op.SampleNonzero := by
    intro op hop
    rcases List.mem_cons.mp hop with rfl | hop
    · show issuer.secretKey ≠ 0
      decide
    · exact hops op hop
  exact ⟨_, s, backend, hrun, hbackend, no_identity_key hgenerator hrun hsamples backend hbackend⟩

end Instances

end Zcaprio
