import Zcaprio.Instances.Reference

/-!
# Artifact bytes

The decoder reads a prefix and does not look at what is left, so an artifact
with further bytes after it is read as that artifact.
-/

namespace Zcaprio

section Artifacts

variable [Gadgets] [Groth16]

/-- The proof a byte string is decoded to. -/
def DecodesTo (bs : List UInt8) (artifact : OpaqueGroth16Artifact) : Prop :=
  ∃ rest, Groth16.deserializeCompressed bs = some (artifact.proof, rest)

/-- Every byte string the decoder reads is proof bytes and what it left. -/
theorem DecodesTo.split {bs : List UInt8} {artifact : OpaqueGroth16Artifact}
    (h : DecodesTo bs artifact) :
    ∃ encoded rest, artifact.bytes = .ok encoded ∧ bs = encoded ++ rest := by
  obtain ⟨rest, hdecode⟩ := h
  exact ⟨_, rest, rfl, (Groth16.serialize_deserialize _ _ _ hdecode).symm⟩

end Artifacts

end Zcaprio
