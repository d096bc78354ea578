import Zcaprio.Properties.IdentityKey
import Zcaprio.Protocol.World

/-!
# Worlds refine sessions

The executable interface takes the steps of the session relation, or none: a
call that names no value, returns nothing, panics, signs, proves or verifies is no step.
-/

namespace Zcaprio

variable [Gadgets] [Groth16] [Chrono]

namespace World

variable (w : World)

/-- The values of a world as a session holds them, newest first. -/
def session : Session where
  keyPairs := w.keyPairs.reverse
  credentials := w.credentials.reverse
  proofs := w.proofs.reverse
  backends := w.backends.reverse

omit [Chrono] in
@[simp] theorem session_keyPairs (keyPair : IssuerKeyPair) :
    session { w with keyPairs := w.keyPairs ++ [keyPair] } =
      { w.session with keyPairs := keyPair :: w.session.keyPairs } := by
  simp [session]

omit [Chrono] in
@[simp] theorem session_credentials (credential : SignedAttributeCredential) :
    session { w with credentials := w.credentials ++ [credential] } =
      { w.session with credentials := credential :: w.session.credentials } := by
  simp [session]

omit [Chrono] in
@[simp] theorem session_proofs (proof : Proof) :
    session { w with proofs := w.proofs ++ [proof] } =
      { w.session with proofs := proof :: w.session.proofs } := by
  simp [session]

omit [Chrono] in
@[simp] theorem session_backends (backend : Groth16Backend) :
    session { w with backends := w.backends ++ [backend] } =
      { w.session with backends := backend :: w.session.backends } := by
  simp [session]

omit [Gadgets] [Groth16] [Chrono] in
theorem mem_reverse_of_getElem? {α : Type} {xs : List α} {i : ℕ} {x : α} (h : xs[i]? = some x) :
    x ∈ xs.reverse := List.mem_reverse.mpr (List.mem_of_getElem? h)

/-- The operation that a call stands for: its arguments are the values that the
places name. A call that names no value, returns nothing, panics, signs, proves or
verifies stands for none. -/
def operation : Call → Option Operation
  | .generateWithRng sample => some (.generateWithRng sample)
  | .issue i attributes nonces => do
      let keyPair ← w.keyPairs[i]?
      let _ ← keyPair.credentials.issue attributes nonces
      return .issue keyPair attributes nonces
  | .is i claim => do
      let credential ← w.credentials[i]?
      return .is credential claim
  | .and i j => do
      let left ← w.proofs[i]?
      let right ← w.proofs[j]?
      return .and left right
  | .or i j => do
      let left ← w.proofs[i]?
      let right ← w.proofs[j]?
      return .or left right
  | .setup i policy rng => do
      let proof ← w.proofs[i]?
      match Groth16Backend.setup proof policy rng with
      | .error (.panic _) => none
      | _ => return .setup proof policy rng
  | .sign .. | .prove .. | .verify .. => none

/-- A call is the step of its operation, or changes nothing a session holds. -/
theorem step_session (w : World) (call : Call) :
    (w.operation call).elim ((w.step call).session = w.session)
      fun op => Session.Step w.session op (w.step call).session := by
  cases call with
  | generateWithRng sample =>
      rw [step, session_keyPairs]
      exact .generateWithRng w.session sample
  | sign | prove | verify => rfl
  | issue i attributes nonces =>
      cases hkeyPair : w.keyPairs[i]? with
      | none => simp [operation, step, issueOf, hkeyPair]
      | some keyPair =>
          cases hissue : keyPair.credentials.issue attributes nonces with
          | none => simp [operation, step, issueOf, hkeyPair, hissue]
          | some credential =>
              have hstep := Session.Step.issue (s := w.session) (mem_reverse_of_getElem? hkeyPair) hissue
              simpa [operation, step, issueOf, hkeyPair, hissue] using hstep
  | is i claim =>
      cases hcredential : w.credentials[i]? with
      | none => simp [operation, step, isOf, hcredential]
      | some credential =>
          have hstep := Session.Step.is (s := w.session) claim (mem_reverse_of_getElem? hcredential)
          simpa [operation, step, isOf, hcredential] using hstep
  | and i j =>
      cases hleft : w.proofs[i]? with
      | none => simp [operation, step, composeOf, hleft]
      | some left =>
          cases hright : w.proofs[j]? with
          | none => simp [operation, step, composeOf, hleft, hright]
          | some right =>
              have hstep := Session.Step.and (s := w.session) (mem_reverse_of_getElem? hleft)
                (mem_reverse_of_getElem? hright)
              simpa [operation, step, composeOf, hleft, hright] using hstep
  | or i j =>
      cases hleft : w.proofs[i]? with
      | none => simp [operation, step, composeOf, hleft]
      | some left =>
          cases hright : w.proofs[j]? with
          | none => simp [operation, step, composeOf, hleft, hright]
          | some right =>
              have hstep := Session.Step.or (s := w.session) (mem_reverse_of_getElem? hleft)
                (mem_reverse_of_getElem? hright)
              simpa [operation, step, composeOf, hleft, hright] using hstep
  | setup i policy rng =>
      cases hproof : w.proofs[i]? with
      | none => simp [operation, step, setupOf, hproof]
      | some proof =>
          have hmem : proof ∈ w.session.proofs := mem_reverse_of_getElem? hproof
          cases hsetup : Groth16Backend.setup proof policy rng with
          | ok backend =>
              have hstep := Session.Step.setup hmem hsetup
              simpa [operation, step, setupOf, hproof, hsetup, Except.toOption] using hstep
          | error abort =>
              cases abort with
              | error e =>
                  -- a failed setup is a step that changes nothing
                  have hstep := Session.Step.setupError hmem hsetup
                  simpa [operation, step, setupOf, hproof, hsetup, Except.toOption] using hstep
              | panic message =>
                  simp [operation, step, setupOf, hproof, hsetup, Except.toOption]

/-- Only key generation is the generation of a key. -/
theorem eq_of_operation {call : Call} {sample : JubJubScalar}
    (h : w.operation call = some (.generateWithRng sample)) : call = .generateWithRng sample := by
  cases call with
  | generateWithRng sample' =>
      exact congrArg Call.generateWithRng (Operation.generateWithRng.inj (Option.some.inj h))
  | sign | prove | verify => cases h
  | issue | is | and | or => simp [operation, Option.bind_eq_some_iff] at h
  | setup i policy rng =>
      obtain ⟨proof, -, hsetup⟩ := Option.bind_eq_some_iff.mp h
      split at hsetup <;> cases hsetup

/-- The operations of a run, in order. -/
def operations (calls : List Call) : List Operation := machine.labels operation empty calls

/-- The values a run reaches are those its operations reach in a session. -/
theorem run_session (calls : List Call) :
    Run Session.Step .empty (operations calls) (reached calls).session :=
  machine.run_labels session step_session empty calls

/-- Every key in a leaf of a backend was generated by a call. -/
theorem leaf_key_called (calls : List Call) :
    ∀ backend ∈ (reached calls).backends, backend.prover.template.leaves.All fun leaf =>
      ∃ sample, Call.generateWithRng sample ∈ calls ∧
        leaf.issuer = (IssuerKeyPair.generateWithRng sample).publicKey := by
  intro backend hbackend
  have hrun := machine.run_labels session step_session empty calls
  apply (leaf_key_generated hrun backend (List.mem_reverse.mpr hbackend)).imp
  rintro leaf ⟨sample, hop, hissuer⟩
  obtain ⟨w, call, hcall, hoperation⟩ := machine.exists_of_mem_labels hop
  rw [eq_of_operation w hoperation] at hcall
  exact ⟨sample, hcall, hissuer⟩

end World

end Zcaprio
