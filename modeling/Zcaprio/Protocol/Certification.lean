import Zcaprio.Metatheory.Openings
import Zcaprio.Protocol.Completeness

/-!
# What stands behind an accepted leaf

Soundness over whole runs, for a prover that may use any assignment. Where the
constraints of a backend hold, each leaf that its tree of claims rests on comes
from a signing call of the run, or the assignment contains a signature that no
call made, or two lists of field elements with one hash.
-/

namespace Zcaprio

open Trace

section Runs

variable [Gadgets] [Groth16] [Chrono]

namespace World

/-! ## Certified leaves -/

/-- What an opening that proves a leaf rests on, after some calls. -/
inductive Certified (w : World) (policy : VerificationPolicy) (leaf : DirectTemplate)
    (opening : Opening) : Prop where
  /-- The key of the leaf issued a credential with these values, and it meets the claim. -/
  | issued (credential : SignedAttributeCredential) (hcredential : credential ∈ w.credentials)
      (hissuer : credential.issuer = leaf.issuer)
      (hvalues : opening.SameValues credential.opening)
      (hmeets : credential.Meets policy leaf.claim)
  /-- The key signed bare commitments, which open to values that meet the claim. -/
  | signed (credential : AgeCredential) (hcredential : (leaf.issuer, credential) ∈ w.signed)
      (hmessage : opening.message = credential.message)
      (hclaim : ClaimHolds policy opening leaf.claim)
  /-- The opening holds a valid signature of the key on a message it never signed. -/
  | forged (hsigned : opening.Signed leaf.issuer)
      (hissued : ∀ credential ∈ w.credentials, credential.issuer = leaf.issuer →
        opening.message ≠ credential.credential.message)
      (hbare : ∀ credential, (leaf.issuer, credential) ∈ w.signed →
        opening.message ≠ credential.message)
  /-- The opening and that of an issued credential are different values with one commitment. -/
  | collision (credential : SignedAttributeCredential) (hcredential : credential ∈ w.credentials)
      (hissuer : credential.issuer = leaf.issuer) (hcollide : opening.Collide credential.opening)

theorem certified_of_leafProves {w : World} (hissued : ∀ c ∈ w.credentials, c.Issued)
    {policy : VerificationPolicy} {a : Assignment Fr} {leaf : DirectTemplate × ℕ}
    (h : LeafProves policy a leaf) : Certified w policy leaf.1 (openingAt a leaf.2) := by
  by_cases hcredential : ∃ credential ∈ w.credentials, credential.issuer = leaf.1.issuer ∧
      (openingAt a leaf.2).message = credential.credential.message
  · obtain ⟨credential, hmem, hissuer, hmessage⟩ := hcredential
    obtain ⟨hopens, hschema, -⟩ := (hissued credential hmem).spec
    -- the certified message is that of the credential's own opening
    rw [← message_opening hopens hschema] at hmessage
    rcases Opening.sameValues_or_collide hmessage with hvalues | hcollide
    · exact .issued credential hmem hissuer hvalues
        (claimHolds_opening.mp (hvalues.claimHolds h.holds))
    · exact .collision credential hmem hissuer hcollide
  · by_cases hbare : ∃ credential, (leaf.1.issuer, credential) ∈ w.signed ∧
        (openingAt a leaf.2).message = credential.message
    · obtain ⟨credential, hmem, hmessage⟩ := hbare
      exact .signed credential hmem hmessage h.holds
    · refine .forged h.signed ?_ ?_
      · intro credential hmem hissuer hmessage
        exact hcredential ⟨credential, hmem, hissuer, hmessage⟩
      · intro credential hmem hmessage
        exact hbare ⟨credential, hmem, hmessage⟩

/-- The keys of the backend are for a circuit each of whose satisfying assignments
makes the tree of claims true at certified leaves. -/
def Certifies (w : World) (backend : Groth16Backend) : Prop :=
  ∃ cs rng,
    ProofCircuit.synthesize ⟨backend.verifier.policy, backend.prover.template, none⟩ = .ok cs ∧
    Groth16.generate cs.shape rng = .ok backend.prover.provingKey ∧
    Groth16.processVk (Groth16.vk backend.prover.provingKey) = .ok backend.verifier.preparedKey ∧
    ∀ a : Assignment Fr, Satisfies a 0 cs.shape →
      (backend.prover.template.placed 0).Holds fun leaf =>
        Certified w backend.verifier.policy leaf.1 (openingAt a leaf.2)

/-- In every run every backend certifies. -/
theorem reached_certified (calls : List Call) :
    ∀ backend ∈ (reached calls).backends, (reached calls).Certifies backend := by
  intro backend hbackend
  have hvalid := valid_reached calls
  obtain ⟨proof, -, policy, rng, hsetup⟩ := hvalid.backends backend hbackend
  have hspec := Groth16Backend.isSetup_of_setup hsetup
  obtain ⟨hsupported, hkey⟩ := hspec.generated_block
  rw [Certifies, hspec.verifierPolicy]
  refine ⟨_, rng, ProofCircuit.synthesize_eq hsupported (CircuitTemplate.fits_none _), hkey,
    hspec.prepared, ?_⟩
  intro a ha
  obtain ⟨hall, hholds⟩ :=
    (ProofCircuit.satisfies_iff hsupported (determined_of_satisfies ha)).mp ha
  refine hholds.mono (hall.imp fun leaf hleaf hclaim => ?_)
  exact certified_of_leafProves (fun c hc => hvalid.issued hc) ⟨hleaf.bits, hleaf.signed, hclaim⟩

end World

end Runs

open Reference in
/-- The backend that a member of staff sets up. -/
theorem reached_certified_member :
    ∃ backend, Groth16Backend.setup (member credential) ⟨attributes.birthDay⟩ () = .ok backend ∧
      (World.reached ((memberCalls attributes nonces).take 6)).Certifies backend := by
  obtain ⟨backend, hsetup, hreached⟩ := reached_member_setup credential_issue
  refine ⟨backend, hsetup, World.reached_certified _ backend ?_⟩
  rw [hreached]
  exact List.mem_singleton.mpr rfl

end Zcaprio
