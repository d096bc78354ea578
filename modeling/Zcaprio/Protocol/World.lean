import Zcaprio.Framework.Machine
import Zcaprio.Metatheory.Session

/-!
# Whole runs of the public interface

One caller makes any calls in any order, on values named by the place they were
returned at. Every value it holds was made by a call from values it held before.
-/

namespace Zcaprio

variable [Gadgets] [Groth16] [Chrono]

/-- What a caller holds, oldest first. `signed` are the bare credentials, under
the key that signed them. -/
structure World where
  keyPairs : List IssuerKeyPair
  signed : List (IssuerPublicKey × AgeCredential)
  credentials : List SignedAttributeCredential
  proofs : List Proof
  backends : List Groth16Backend

def World.empty : World := ⟨[], [], [], [], []⟩

/-- A public call, its random draws among its arguments; only proving draws anew. -/
inductive Call where
  | generateWithRng (sample : JubJubScalar)
  /-- `IssuerKeyPair::issue`, on commitments whose openings the issuer may not know. -/
  | sign (keyPair : ℕ) (age : AgeCommitment) (owner : OwnerCommitment)
      (attributes : AttributeCommitment) (nonces : List JubJubScalar)
  /-- `IssuerCredentials::issue`. -/
  | issue (keyPair : ℕ) (attributes : CredentialAttributes) (nonces : List JubJubScalar)
  | is (credential : ℕ) (claim : Claim)
  /-- Composition moves its operands in the source; a caller that keeps them can do more. -/
  | and (left right : ℕ)
  | or (left right : ℕ)
  | setup (proof : ℕ) (policy : VerificationPolicy) (rng : Groth16.Randomness)
  | prove (proof backend : ℕ)
  | verify (backend : ℕ) (artifact : List UInt8)

/-- What a call shows to the verifiers: the values they receive, never a
credential with its attributes. -/
inductive Outcome where
  | silent
  | publicKey (key : IssuerPublicKey)
  | signed (credential : AgeCredential)
  | backend (backend : Groth16Backend)
  | artifact (bytes : List UInt8)
  | verdict (verification : Verification)
  | aborted (abort : Abort ProofError)

def Outcome.ofExec {α : Type} (f : α → Outcome) : Exec ProofError α → Outcome
  | .ok a => f a
  | .error e => .aborted e

namespace World

variable (w : World)

/-! ## The results of a call -/

def signOf (keyPair : ℕ) (age : AgeCommitment) (owner : OwnerCommitment)
    (attributes : AttributeCommitment) (nonces : List JubJubScalar) :
    Option (IssuerPublicKey × AgeCredential) := do
  let keyPair ← w.keyPairs[keyPair]?
  let credential ← keyPair.issue age owner attributes nonces
  return (keyPair.publicKey, credential)

def issueOf (keyPair : ℕ) (attributes : CredentialAttributes) (nonces : List JubJubScalar) :
    Option SignedAttributeCredential := do
  let keyPair ← w.keyPairs[keyPair]?
  keyPair.credentials.issue attributes nonces

def isOf (credential : ℕ) (claim : Claim) : Option Proof := do
  let credential ← w.credentials[credential]?
  return credential.is claim

/-- Two held proofs under `and` or `or`. -/
def composeOf (compose : Proof → Proof → Proof) (left right : ℕ) : Option Proof := do
  let left ← w.proofs[left]?
  let right ← w.proofs[right]?
  return compose left right

def setupOf (proof : ℕ) (policy : VerificationPolicy) (rng : Groth16.Randomness) :
    Option (Exec ProofError Groth16Backend) := do
  let proof ← w.proofs[proof]?
  return Groth16Backend.setup proof policy rng

/-- The artifact a prover returns, as its bytes. -/
def proveOf (proof backend : ℕ) (rng : Groth16.Randomness) :
    Option (Exec ProofError (List UInt8)) := do
  let proof ← w.proofs[proof]?
  let backend ← w.backends[backend]?
  return do
    let artifact ← proof.prove (backend.prover.prove rng)
    Exec.ofResult artifact.bytes

def verifyOf (backend : ℕ) (artifact : List UInt8) : Option (Exec ProofError Verification) := do
  let backend ← w.backends[backend]?
  return Exec.ofResult (backend.verifier.verify artifact)

/-! ## The machine -/

def step : Call → World
  | .generateWithRng sample =>
      { w with keyPairs := w.keyPairs ++ [IssuerKeyPair.generateWithRng sample] }
  | .sign keyPair age owner attributes nonces =>
      { w with signed := w.signed ++ (w.signOf keyPair age owner attributes nonces).toList }
  | .issue keyPair attributes nonces =>
      { w with credentials := w.credentials ++ (w.issueOf keyPair attributes nonces).toList }
  | .is credential claim => { w with proofs := w.proofs ++ (w.isOf credential claim).toList }
  | .and left right => { w with proofs := w.proofs ++ (w.composeOf .and left right).toList }
  | .or left right => { w with proofs := w.proofs ++ (w.composeOf .or left right).toList }
  | .setup proof policy rng =>
      { w with backends := w.backends ++ ((w.setupOf proof policy rng).bind Except.toOption).toList }
  | .prove .. | .verify .. => w

def out (call : Call) (rng : Groth16.Randomness) : Outcome :=
  match call with
  | .generateWithRng sample => .publicKey (IssuerKeyPair.generateWithRng sample).publicKey
  | .sign keyPair age owner attributes nonces =>
      (w.signOf keyPair age owner attributes nonces).elim .silent fun entry => .signed entry.2
  | .issue .. | .is .. | .and .. | .or .. => .silent
  | .setup proof policy rng => (w.setupOf proof policy rng).elim .silent (.ofExec .backend)
  | .prove proof backend => (w.proveOf proof backend rng).elim .silent (.ofExec .artifact)
  | .verify backend artifact => (w.verifyOf backend artifact).elim .silent (.ofExec .verdict)

/-- The public interface as a machine. -/
def machine : Machine World Call Groth16.Randomness Outcome := ⟨step, out⟩

/-- The world after some calls. -/
def reached (calls : List Call) : World := machine.after empty calls

theorem reached_append_singleton (calls : List Call) (call : Call) :
    reached (calls ++ [call]) = (reached calls).step call := by
  rw [reached, Machine.after_append]
  rfl

/-- What a run shows, from the empty world on. -/
def transcript (calls : List Call) (rng : ℕ → Groth16.Randomness) : List Outcome :=
  machine.transcript empty calls rng

/-- Each call shows its outcome in the world of the calls before it. -/
theorem transcript_getElem? {calls : List Call} {i : ℕ} {call : Call}
    (rng : ℕ → Groth16.Randomness) (h : calls[i]? = some call) :
    (transcript calls rng)[i]? = some ((reached (calls.take i)).out call (rng i)) := by
  rw [transcript, Machine.transcript_getElem?, h]
  rfl

/-! ## What a call returns -/

variable {w : World}

theorem issueOf_eq_some_iff {i : ℕ} {attributes : CredentialAttributes}
    {nonces : List JubJubScalar} {credential : SignedAttributeCredential} :
    w.issueOf i attributes nonces = some credential ↔
      ∃ keyPair, w.keyPairs[i]? = some keyPair ∧
        keyPair.credentials.issue attributes nonces = some credential := by
  simp [issueOf, Option.bind_eq_some_iff]

omit [Chrono] in
theorem isOf_eq_some_iff {i : ℕ} {claim : Claim} {proof : Proof} :
    w.isOf i claim = some proof ↔
      ∃ credential, w.credentials[i]? = some credential ∧ credential.is claim = proof := by
  simp [isOf, Option.bind_eq_some_iff]

omit [Chrono] in
theorem composeOf_eq_some_iff {compose : Proof → Proof → Proof} {i j : ℕ} {proof : Proof} :
    w.composeOf compose i j = some proof ↔
      ∃ left right, w.proofs[i]? = some left ∧ w.proofs[j]? = some right ∧
        compose left right = proof := by
  simp [composeOf, Option.bind_eq_some_iff]

/-- The backend a setup call adds. -/
theorem setupOf_toOption_eq_some_iff {i : ℕ} {policy : VerificationPolicy}
    {rng : Groth16.Randomness} {backend : Groth16Backend} :
    (w.setupOf i policy rng).bind Except.toOption = some backend ↔
      ∃ proof, w.proofs[i]? = some proof ∧
        Groth16Backend.setup proof policy rng = .ok backend := by
  unfold setupOf
  cases w.proofs[i]? with
  | none => simp
  | some proof =>
      cases hsetup : Groth16Backend.setup proof policy rng <;> simp [Except.toOption, hsetup]

/-! ## Provenance -/

/-- Credentials are of key pairs that are held, proofs are built over the
credentials that are held, and backends are set up for proofs that are held. -/
structure Valid (w : World) : Prop where
  credentials : ∀ credential ∈ w.credentials, ∃ keyPair ∈ w.keyPairs, ∃ attributes nonces,
    keyPair.credentials.issue attributes nonces = some credential
  proofs : ∀ proof ∈ w.proofs, proof.Built (· ∈ w.credentials) fun _ => True
  backends : ∀ backend ∈ w.backends, ∃ proof ∈ w.proofs, ∃ policy rng,
    Groth16Backend.setup proof policy rng = .ok backend

theorem valid_empty : empty.Valid := by
  constructor <;> intro _ h <;> cases h

omit [Gadgets] [Groth16] [Chrono] in
/-- The entry a call may add, beside those that were there. -/
theorem mem_append_toList {α : Type} {xs : List α} {o : Option α} {x : α} :
    x ∈ xs ++ o.toList ↔ x ∈ xs ∨ o = some x := by
  rw [List.mem_append, Option.mem_toList]

theorem Valid.addProof (h : w.Valid) {o : Option Proof}
    (ho : ∀ proof, o = some proof → proof.Built (· ∈ w.credentials) fun _ => True) :
    Valid { w with proofs := w.proofs ++ o.toList } where
  credentials := h.credentials
  proofs := by
    intro proof hproof
    rcases mem_append_toList.mp hproof with hold | hnew
    · exact h.proofs proof hold
    · exact ho proof hnew
  backends := by
    intro backend hbackend
    obtain ⟨proof, hproof, hsetup⟩ := h.backends backend hbackend
    exact ⟨proof, List.mem_append_left _ hproof, hsetup⟩

theorem Valid.step (h : w.Valid) (call : Call) : (w.step call).Valid := by
  cases call with
  | generateWithRng sample =>
      refine { h with credentials := ?_ }
      intro credential hcredential
      obtain ⟨keyPair, hkeyPair, hissue⟩ := h.credentials credential hcredential
      exact ⟨keyPair, List.mem_append_left _ hkeyPair, hissue⟩
  | sign => exact { h with }
  | issue i attributes nonces =>
      refine { h with credentials := ?_, proofs := ?_ }
      · intro credential hcredential
        rcases mem_append_toList.mp hcredential with hold | hnew
        · exact h.credentials credential hold
        · obtain ⟨keyPair, hkeyPair, hissue⟩ := issueOf_eq_some_iff.mp hnew
          exact ⟨keyPair, List.mem_of_getElem? hkeyPair, attributes, nonces, hissue⟩
      · intro proof hproof
        exact (h.proofs proof hproof).mono (fun _ hc => List.mem_append_left _ hc) fun _ hq => hq
  | is i claim =>
      apply h.addProof
      intro proof hproof
      obtain ⟨credential, hcredential, rfl⟩ := isOf_eq_some_iff.mp hproof
      exact .is (List.mem_of_getElem? hcredential) trivial
  | and i j =>
      apply h.addProof
      intro proof hproof
      obtain ⟨left, right, hl, hr, rfl⟩ := composeOf_eq_some_iff.mp hproof
      exact .and (h.proofs _ (List.mem_of_getElem? hl)) (h.proofs _ (List.mem_of_getElem? hr))
  | or i j =>
      apply h.addProof
      intro proof hproof
      obtain ⟨left, right, hl, hr, rfl⟩ := composeOf_eq_some_iff.mp hproof
      exact .or (h.proofs _ (List.mem_of_getElem? hl)) (h.proofs _ (List.mem_of_getElem? hr))
  | setup i policy rng =>
      refine { h with backends := ?_ }
      intro backend hbackend
      rcases mem_append_toList.mp hbackend with hold | hnew
      · exact h.backends backend hold
      · obtain ⟨proof, hproof, hsetup⟩ := setupOf_toOption_eq_some_iff.mp hnew
        exact ⟨proof, List.mem_of_getElem? hproof, policy, rng, hsetup⟩
  | prove | verify => exact h

/-- Every value of a world that is reached has its provenance there. -/
theorem valid_reached (calls : List Call) : (reached calls).Valid :=
  machine.after_invariant (fun _ call h => h.step call) valid_empty calls

theorem Valid.issued (h : w.Valid) {credential : SignedAttributeCredential}
    (hcredential : credential ∈ w.credentials) : credential.Issued := by
  obtain ⟨keyPair, -, attributes, nonces, hissue⟩ := h.credentials credential hcredential
  exact ⟨keyPair, attributes, nonces, hissue⟩

/-- The proofs of a valid world are over issued credentials. -/
theorem Valid.honest (h : w.Valid) {proof : Proof} (hproof : proof ∈ w.proofs) :
    proof.request.plan.Honest :=
  ((h.proofs proof hproof).mono (fun _ => h.issued) fun _ hq => hq).honest

/-! ## Nothing is lost -/

theorem backends_step (w : World) (call : Call) : w.backends <+: (w.step call).backends := by
  cases call <;> first | exact List.prefix_append _ _ | exact List.prefix_rfl

/-- A backend stays where it was returned. -/
theorem backends_getElem?_reached {calls : List Call} {i j b : ℕ} {backend : Groth16Backend}
    (hij : i ≤ j) (h : (reached (calls.take i)).backends[b]? = some backend) :
    (reached (calls.take j)).backends[b]? = some backend := by
  refine machine.after_mono (I := fun w => w.backends[b]? = some backend) ?_ hij h
  intro w call hw
  obtain ⟨hb, hget⟩ := List.getElem?_eq_some_iff.mp hw
  rw [← hget]
  exact List.prefix_iff_getElem?.mp (backends_step w call) b hb

end World

end Zcaprio
