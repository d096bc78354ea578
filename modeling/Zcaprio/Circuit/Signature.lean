import Zcaprio.Circuit.Gadget

/-!
# The issuer signature relation

`groth16/signature.rs`. The circuit recomputes the Schnorr commitment from the
allocated scalar bytes, hashes the transcript and compares the challenge.
-/

namespace Zcaprio

open Trace

section Scalars

/-- The bytes of a scalar. -/
structure ScalarBytes where
  bytes : List UInt8Var

namespace ScalarBytes

def witness (value : Option (List UInt8)) : Synthesis ScalarBytes := do
  -- setup has no signature and allocates zeros
  return ⟨← newWitnessVec (value.getD (List.replicate 32 0))⟩

def bits (scalar : ScalarBytes) : List Boolean := bitsOf scalar.bytes

def canonical (scalar : ScalarBytes) : Synthesis Unit :=
  callUnit (.enforceSmallerOrEqualThanLe scalar.bits (-1 : JubJubScalar).val)

end ScalarBytes

/-- The low 251 bits are those of the digest, the high five are zero. -/
def ScalarBytes.matches (scalar : ScalarBytes) (digest : List UInt8Var) : Synthesis Unit := do
  let challenge := scalar.bits
  let digest := bitsOf digest
  callUnit (.enforceEqual (challenge.take 251) (digest.take 251))
  callUnit (.enforceEqual (challenge.drop 251) (List.replicate 5 (.Constant false)))

end Scalars

section Relation

variable [Curve]

structure CommitmentPoint where
  generator : EdwardsVar
  issuer : EdwardsVar

namespace CommitmentPoint

def new (key : IssuerPublicKey) : CommitmentPoint where
  generator := .constant issuerGeneratorCoordinates
  issuer := .constant key.coordinates

def point (commitment : CommitmentPoint) (response challenge : List Boolean) :
    Synthesis EdwardsVar := do
  let left ← callPoint
    (.scalarMulLe (commitment.generator.x, commitment.generator.y) response)
  let right ← callPoint (.scalarMulLe (commitment.issuer.x, commitment.issuer.y) challenge)
  callPoint (.add (left.x, left.y) (right.x, right.y))

end CommitmentPoint

structure TranscriptBytes where
  bytes : List UInt8Var

namespace TranscriptBytes

/-- The message length in bytes, as eight little-endian bytes. -/
def length (message : List FpVar) : Synthesis (List UInt8) :=
  if message.length < 2 ^ 64 ∧ message.length * 32 < 2 ^ 64 then
    return Digits.toBytes 8 (message.length * 32)
  else fail .Unsatisfiable

def new (commitment : EdwardsVar) (message : List FpVar) : Synthesis TranscriptBytes := do
  let salt := constantVec issuerSignatureSalt
  let x ← callBytes (.toBytesLe commitment.x)
  let y ← callBytes (.toBytesLe commitment.y)
  let length := constantVec (← length message)
  let elements ← message.mapM fun element => callBytes (.toBytesLe element)
  return ⟨salt ++ x ++ y ++ length ++ elements.flatten⟩

end TranscriptBytes

namespace Blake2s

def hash (transcript : TranscriptBytes) : Synthesis (List UInt8Var) :=
  callBytes (.evaluateBlake2s (bitsOf transcript.bytes))

end Blake2s

namespace SchnorrRelation

/-- Accepts only a valid issuer signature on the message. -/
def enforce (key : IssuerPublicKey) (signature : Option IssuerSignature) (message : List FpVar) :
    Synthesis Unit := do
  let response ← ScalarBytes.witness (signature.map IssuerSignature.proverResponseBytes)
  let challenge ← ScalarBytes.witness (signature.map IssuerSignature.verifierChallengeBytes)
  response.canonical
  challenge.canonical
  let commitment ← (CommitmentPoint.new key).point response.bits challenge.bits
  let transcript ← TranscriptBytes.new commitment message
  let expected ← Blake2s.hash transcript
  -- asserted, whatever the rest of the circuit says of this leaf
  challenge.matches expected

end SchnorrRelation

end Relation

end Zcaprio
