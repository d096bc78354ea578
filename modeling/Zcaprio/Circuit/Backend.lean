import Zcaprio.Circuit.Template

/-!
# The Groth16 backend

`groth16.rs`. Key generation sees the events a circuit records, the prover
also the values supplied for them. Both record the circuit themselves, so its
errors and panics are theirs.
-/

namespace Zcaprio

open Trace

/-- The external proof system. -/
class Groth16 [Gadgets] where
  ProvingKey : Type
  VerifyingKey : Type
  PreparedVerifyingKey : Type
  GrothProof : Type
  Randomness : Type
  generate : List Event → Randomness → Except SynthesisError ProvingKey
  vk : ProvingKey → VerifyingKey
  processVk : VerifyingKey → Except SynthesisError PreparedVerifyingKey
  create : ConstraintSystem → ProvingKey → Randomness → Except SynthesisError GrothProof
  verifyProof : PreparedVerifyingKey → GrothProof → List Fr → Except SynthesisError Bool
  serializeCompressed : GrothProof → List UInt8
  deserializeCompressed : List UInt8 → Option (GrothProof × List UInt8)
  deserialize_serialize : ∀ proof rest,
    deserializeCompressed (serializeCompressed proof ++ rest) = some (proof, rest)
  serialize_deserialize : ∀ bs proof rest, deserializeCompressed bs = some (proof, rest) →
    serializeCompressed proof ++ rest = bs
  complete : ∀ (cs : ConstraintSystem) (provingKey : ProvingKey) (rng rng' : Randomness)
    (preparedKey : PreparedVerifyingKey),
    generate cs.shape rng = .ok provingKey → (∀ e ∈ cs.shape, e.isPublic = false) →
    Satisfies (Trace.complete cs.input cs.shape) 0 cs.shape →
    processVk (vk provingKey) = .ok preparedKey →
    ∃ proof, create cs provingKey rng' = .ok proof ∧ verifyProof preparedKey proof [] = .ok true

variable [Gadgets] [Groth16]

section Prover

variable [Chrono]

/-- `Groth16::generate_random_parameters_with_reduction`. -/
def generateRandomParametersWithReduction (circuit : ProofCircuit) (rng : Groth16.Randomness) :
    Exec SynthesisError Groth16.ProvingKey := do
  let cs ← circuit.synthesize
  Exec.ofResult (Groth16.generate cs.shape rng)

/-- `Groth16::create_random_proof_with_reduction`. -/
def createRandomProofWithReduction (circuit : ProofCircuit) (provingKey : Groth16.ProvingKey)
    (rng : Groth16.Randomness) : Exec SynthesisError Groth16.GrothProof := do
  let cs ← circuit.synthesize
  Exec.ofResult (Groth16.create cs provingKey rng)

end Prover

structure Groth16Prover where
  policy : VerificationPolicy
  template : CircuitTemplate
  provingKey : Groth16.ProvingKey

structure Groth16Verifier where
  policy : VerificationPolicy
  preparedKey : Groth16.PreparedVerifyingKey

/-- A paired backend. -/
structure Groth16Backend where
  prover : Groth16Prover
  verifier : Groth16Verifier

structure OpaqueGroth16Artifact where
  proof : Groth16.GrothProof

namespace Groth16Verifier

def verify (self : Groth16Verifier) (artifact : List UInt8) : Except ProofError Verification :=
  match Groth16.deserializeCompressed artifact with
  | none => .error .InvalidArtifact
  | some (proof, _) =>
      match Groth16.verifyProof self.preparedKey proof [] with
      | .error _ => .error .VerificationFailed
      | .ok valid => .ok (if valid then .accepted else .rejected)

end Groth16Verifier

namespace OpaqueGroth16Artifact

/-- Writing into memory cannot fail. -/
def bytes (self : OpaqueGroth16Artifact) : Except ProofError (List UInt8) :=
  .ok (Groth16.serializeCompressed self.proof)

def verify (self : OpaqueGroth16Artifact) (verifier : Groth16Verifier) :
    Except ProofError Verification := do
  verifier.verify (← self.bytes)

end OpaqueGroth16Artifact

variable [Chrono]

/-- Compile the proof to a template and generate keys for it. -/
def Groth16Backend.setup (proof : Proof) (policy : VerificationPolicy)
    (rng : Groth16.Randomness) : Exec ProofError Groth16Backend := do
  let template ← Exec.ofResult (CircuitTemplate.fromPlan proof.request.plan)
  let provingKey ← Exec.mapErr (fun _ => .IncompatibleBackend)
    (generateRandomParametersWithReduction { policy, template, plan := none } rng)
  let preparedKey ← Exec.mapErr (fun _ => .IncompatibleBackend)
    (Exec.ofResult (Groth16.processVk (Groth16.vk provingKey)))
  return { prover := { policy, template, provingKey }, verifier := { policy, preparedKey } }

/-- Match the plan against the template, check the constraints, prove. -/
def Groth16Prover.prove (self : Groth16Prover) (rng : Groth16.Randomness)
    (request : ProofRequest) : Exec ProofError OpaqueGroth16Artifact := do
  if !self.template.accepts request.plan then
    throw (.error .IncompatibleBackend)
  let circuit : ProofCircuit :=
    { policy := self.policy, template := self.template, plan := some request.plan }
  let satisfied ← Exec.mapErr (fun _ => .Unprovable) circuit.isSatisfied
  if !satisfied then
    throw (.error .Unprovable)
  let proof ← Exec.mapErr (fun _ => .Unprovable)
    (createRandomProofWithReduction circuit self.provingKey rng)
  return { proof }

end Zcaprio
