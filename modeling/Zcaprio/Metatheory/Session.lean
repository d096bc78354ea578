import Zcaprio.Framework.Run
import Zcaprio.Metatheory.Backend

/-!
# Sessions

The public operations as the steps of one caller: key generation, issuance, the
three ways to build a proof, and setup. Everything a session holds was made by
an operation from what it held before, so the keys in the leaves of a template
are keys that were generated in the session.
-/

namespace Zcaprio

section Steps

variable [Gadgets] [Groth16] [Chrono]

/-- What a caller holds. -/
structure Session where
  keyPairs : List IssuerKeyPair
  credentials : List SignedAttributeCredential
  proofs : List Proof
  backends : List Groth16Backend

def Session.empty : Session := ⟨[], [], [], []⟩

/-- A public operation and its arguments, random draws among them. -/
inductive Operation where
  | generateWithRng (sample : JubJubScalar)
  | issue (keyPair : IssuerKeyPair) (attributes : CredentialAttributes)
      (nonces : List JubJubScalar)
  | is (credential : SignedAttributeCredential) (claim : Claim)
  | and (p q : Proof)
  | or (p q : Proof)
  | setup (p : Proof) (policy : VerificationPolicy) (rng : Groth16.Randomness)

/-- An operation on values of the session adds its result; a failed setup adds nothing. -/
inductive Session.Step : Session → Operation → Session → Prop where
  | generateWithRng (s : Session) (sample : JubJubScalar) :
      Step s (.generateWithRng sample)
        { s with keyPairs := .generateWithRng sample :: s.keyPairs }
  | issue {s : Session} {keyPair : IssuerKeyPair} {attributes : CredentialAttributes}
      {nonces : List JubJubScalar} {credential : SignedAttributeCredential}
      (hkeyPair : keyPair ∈ s.keyPairs)
      (hissue : keyPair.credentials.issue attributes nonces = some credential) :
      Step s (.issue keyPair attributes nonces)
        { s with credentials := credential :: s.credentials }
  | is {s : Session} {credential : SignedAttributeCredential} (claim : Claim)
      (hcredential : credential ∈ s.credentials) :
      Step s (.is credential claim) { s with proofs := credential.is claim :: s.proofs }
  | and {s : Session} {p q : Proof} (hp : p ∈ s.proofs) (hq : q ∈ s.proofs) :
      Step s (.and p q) { s with proofs := p.and q :: s.proofs }
  | or {s : Session} {p q : Proof} (hp : p ∈ s.proofs) (hq : q ∈ s.proofs) :
      Step s (.or p q) { s with proofs := p.or q :: s.proofs }
  | setup {s : Session} {p : Proof} {policy : VerificationPolicy} {rng : Groth16.Randomness}
      {backend : Groth16Backend} (hp : p ∈ s.proofs)
      (hsetup : Groth16Backend.setup p policy rng = .ok backend) :
      Step s (.setup p policy rng) { s with backends := backend :: s.backends }
  | setupError {s : Session} {p : Proof} {policy : VerificationPolicy}
      {rng : Groth16.Randomness} {e : ProofError} (hp : p ∈ s.proofs)
      (herror : Groth16Backend.setup p policy rng = .error (.error e)) :
      Step s (.setup p policy rng) s

/-! ## Keys -/

/-- The credential of a leaf is of a key with the property. -/
def DirectProofPlan.KeyIn (K : IssuerPublicKey → Prop) (direct : DirectProofPlan) : Prop :=
  ∀ credential, direct.evidence = some credential → K credential.issuer

/-- All keys of the session have the property: those of its key pairs, and those
its credentials, the leaves of its proofs and the leaves of its templates hold. -/
structure Session.KeysIn (K : IssuerPublicKey → Prop) (s : Session) : Prop where
  keyPairs : ∀ keyPair ∈ s.keyPairs, K keyPair.publicKey
  credentials : ∀ credential ∈ s.credentials, K credential.issuer
  proofs : ∀ p ∈ s.proofs, p.request.plan.leaves.All (DirectProofPlan.KeyIn K)
  backends : ∀ backend ∈ s.backends,
    backend.prover.template.leaves.All fun leaf => K leaf.issuer

omit [Chrono] in
theorem Session.keysIn_empty (K : IssuerPublicKey → Prop) : Session.empty.KeysIn K := by
  constructor <;> intro _ h <;> cases h

/-- The key a generation adds has the property. -/
def Operation.KeyIn (K : IssuerPublicKey → Prop) : Operation → Prop
  | generateWithRng sample => K (IssuerKeyPair.generateWithRng sample).publicKey
  | _ => True

/-- Only key generation brings a key into a session. -/
theorem Session.Step.keysIn {K : IssuerPublicKey → Prop} {s s' : Session} {op : Operation}
    (h : Step s op s') (hop : op.KeyIn K) (hs : s.KeysIn K) : s'.KeysIn K := by
  cases h with
  | generateWithRng sample =>
      exact { hs with keyPairs := List.forall_mem_cons.mpr ⟨hop, hs.keyPairs⟩ }
  | issue hkeyPair hissue =>
      -- a credential stores the public key of the pair
      obtain ⟨-, -, -, -, -, hissuer⟩ := SignedAttributeCredential.issue_stores hissue
      refine { hs with credentials := List.forall_mem_cons.mpr ⟨?_, hs.credentials⟩ }
      rw [hissuer]
      exact hs.keyPairs _ hkeyPair
  | is claim hcredential =>
      refine { hs with proofs := List.forall_mem_cons.mpr ⟨?_, hs.proofs⟩ }
      intro credential hevidence
      obtain rfl := Option.some.inj hevidence
      exact hs.credentials _ hcredential
  | and hp hq =>
      exact { hs with
        proofs := List.forall_mem_cons.mpr ⟨⟨hs.proofs _ hp, hs.proofs _ hq⟩, hs.proofs⟩ }
  | or hp hq =>
      exact { hs with
        proofs := List.forall_mem_cons.mpr ⟨⟨hs.proofs _ hp, hs.proofs _ hq⟩, hs.proofs⟩ }
  | setup hp hsetup =>
      refine { hs with backends := List.forall_mem_cons.mpr ⟨?_, hs.backends⟩ }
      have hcompiled := (Groth16Backend.isSetup_of_setup hsetup).compiled
      exact CircuitTemplate.fromPlan_issuers hcompiled (hs.proofs _ hp)
  | setupError => exact hs

/-- In every state a run reaches, all keys have the property that the generated
keys have. -/
theorem Session.keysIn_of_run {K : IssuerPublicKey → Prop} {s : Session} {ops : List Operation}
    (hrun : Run Session.Step .empty ops s) (hops : ∀ op ∈ ops, op.KeyIn K) : s.KeysIn K := by
  have hstep : ∀ (s : Session) (op : Operation) (s' : Session), Step s op s' → op.KeyIn K →
      s.KeysIn K → s'.KeysIn K := by
    intro s op s' h
    exact h.keysIn
  exact hrun.invariant hstep hops (keysIn_empty K)

end Steps

end Zcaprio
