import Zcaprio.Metatheory.Encoding
import Zcaprio.Native.Issuer

/-!
# Wire values

Three decoders of hexadecimal text: one that parses a field element and checks
that nothing is left, one that splits two scalars at a fixed place, one that
encodes the decoded point again and compares. Each accepts the image of its
encoder and rejects everything else with the same code.
-/

namespace Zcaprio

/-! ## Bytes -/

/-- Hexadecimal decoding is the exact inverse of encoding, on all texts. -/
theorem hex_exact :
    (∀ value : List UInt8, bytes (hex value) = .ok value) ∧
      (∀ (text : String) (value : List UInt8), bytes text = .ok value → hex value = text) ∧
      ∀ text : String, (∀ value : List UInt8, hex value ≠ text) →
        bytes text = .error .InvalidEncoding := by
  refine ⟨bytes_hex_ok, ?_, ?_⟩
  · intro text value h
    exact (exact_bytes.encode_decode text value h).2
  · intro text h
    exact exact_bytes.reject text fun value _ => h value

/-- The parser behind the decoder would take upper case and a sign; the guard does not. -/
example : u8FromStrRadix16 ['+', 'A'] = some 10 ∧ bytes "+A" = .error .InvalidEncoding ∧
    bytes "0A" = .error .InvalidEncoding ∧ bytes "0a" = .ok [10] := by decide

/-! ## Commitments and nullifiers -/

theorem exact_element :
    Exact (fun _ => True) PrimitiveError.InvalidEncoding.code serializeElement deserializeElement :=
  (exact_parse (reads_deserializeField frModulus_lt)).mapError PrimitiveError.code

/-! ## Signatures -/

/-- The two scalars sit at their fixed places, and nothing follows them. -/
theorem IssuerSignature.encoded_of_fields {encoded rest rest' : List UInt8}
    {proverResponse verifierChallenge : JubJubScalar} (hlen : encoded.length = 64)
    (hresponse : deserializeField jubJubModulus (encoded.take 32) = some (proverResponse, rest))
    (hchallenge : deserializeField jubJubModulus (encoded.drop 32) =
      some (verifierChallenge, rest')) :
    IssuerSignature.encoded { proverResponse, verifierChallenge } = encoded := by
  have hsound := deserializeField_sound hresponse
  have hsound' := deserializeField_sound hchallenge
  have hrest : rest = [] := by
    have h := congrArg List.length hsound
    rw [List.length_append, length_canonical, List.length_take] at h
    exact List.length_eq_zero_iff.mp (by omega)
  have hrest' : rest' = [] := by
    have h := congrArg List.length hsound'
    rw [List.length_append, length_canonical, List.length_drop] at h
    exact List.length_eq_zero_iff.mp (by omega)
  rw [hrest, List.append_nil] at hsound
  rw [hrest', List.append_nil] at hsound'
  unfold IssuerSignature.encoded proverResponseBytes verifierChallengeBytes
  rw [← hsound, ← hsound',
    List.take_append_drop]

theorem IssuerSignature.exact_decoded :
    Exact (fun _ => True) PrimitiveError.InvalidEncoding IssuerSignature.serialize decoded := by
  apply Exact.of_cases
  · intro signature _
    exact decoded_serialize signature
  · intro value
    rcases exact_bytes.cases value with herror | ⟨encoded, -, rfl⟩
    · refine Or.inl ?_
      rw [decoded, herror]
    · rw [decoded, bytes_hex_ok]
      by_cases hlen : encoded.length ≠ 32 * 2
      · exact Or.inl (if_pos hlen)
      · simp only [if_neg hlen]
        rw [not_not] at hlen
        split
        · rename_i proverResponse rest verifierChallenge rest' hresponse hchallenge
          refine Or.inr ⟨⟨proverResponse, verifierChallenge⟩, trivial, ?_⟩
          exact congrArg hex (encoded_of_fields hlen hresponse hchallenge)
        · exact Or.inl rfl

/-! ## Issuer keys -/

section Keys

variable [Curve]

/-- Non-identity keys have one text; the comparison with the encoding of the
decoded point keeps every other text of the point out. -/
theorem IssuerPublicKey.exact_fromHex :
    Exact (fun key : IssuerPublicKey => key.isIdentity = false) PrimitiveError.InvalidEncoding
      IssuerPublicKey.serialize fromHex := by
  apply Exact.of_cases
  · intro key hkey
    exact fromHex_serialize hkey
  · intro value
    rcases exact_bytes.cases value with herror | ⟨encoded, -, rfl⟩
    · refine Or.inl ?_
      rw [fromHex, herror]
    · simp only [fromHex, bytes_hex_ok]
      split
      · exact Or.inl rfl
      · rename_i point input hpoint
        by_cases hreject : input ≠ [] ∨ point = 0 ∨ Curve.serialize point ≠ encoded
        · exact Or.inl (if_pos hreject)
        · rw [not_or, not_or, not_not, not_not] at hreject
          obtain ⟨-, hidentity, hencoded⟩ := hreject
          refine Or.inr ⟨⟨point, Curve.deserialize_subgroup encoded point input hpoint⟩, ?_, ?_⟩
          · exact decide_eq_false hidentity
          · exact congrArg hex hencoded

/-- The text of the identity is not the text of another key, so it is rejected. -/
theorem IssuerPublicKey.fromHex_identity {key : IssuerPublicKey} (h : key.isIdentity = true) :
    fromHex key.serialize = .error .InvalidEncoding := by
  apply exact_fromHex.reject
  intro key' hkey' htext
  rw [serialize_injective htext, h] at hkey'
  cases hkey'

/-- For each type of wire value: encodings are read back, a decoded text is the
encoding of its value, and every other text is an invalid encoding. Keys are the
non-identity points of the subgroup. -/
theorem wire_values_exact :
    Exact (fun _ => True) PrimitiveError.InvalidEncoding.code
        AgeCommitment.serialize AgeCommitment.deserialize ∧
      Exact (fun _ => True) PrimitiveError.InvalidEncoding.code
        OwnerCommitment.serialize OwnerCommitment.deserialize ∧
      Exact (fun _ => True) PrimitiveError.InvalidEncoding.code
        AttributeCommitment.serialize AttributeCommitment.deserialize ∧
      Exact (fun _ => True) PrimitiveError.InvalidEncoding.code
        Nullifier.serialize Nullifier.deserialize ∧
      Exact (fun _ => True) PrimitiveError.InvalidEncoding.code
        IssuerSignature.serialize IssuerSignature.deserialize ∧
      Exact (fun key : IssuerPublicKey => key.point ≠ 0) PrimitiveError.InvalidEncoding.code
        IssuerPublicKey.serialize IssuerPublicKey.deserialize ∧
      ∀ key : IssuerPublicKey, key.point = 0 →
        IssuerPublicKey.deserialize key.serialize = .error PrimitiveError.InvalidEncoding.code := by
  refine ⟨?_, ?_, ?_, ?_, ?_, ?_, ?_⟩
  · exact exact_element.wrap (fun _ => rfl) fun _ => rfl
  · exact exact_element.wrap (fun _ => rfl) fun _ => rfl
  · exact exact_element.wrap (fun _ => rfl) fun _ => rfl
  · exact exact_element.wrap (fun _ => rfl) fun _ => rfl
  · exact IssuerSignature.exact_decoded.mapError PrimitiveError.code
  · have hkey : (fun key : IssuerPublicKey => key.isIdentity = false) = fun key => key.point ≠ 0 :=
      funext fun key => propext decide_eq_false_iff_not
    rw [← hkey]
    exact IssuerPublicKey.exact_fromHex.mapError PrimitiveError.code
  · intro key hkey
    rw [IssuerPublicKey.deserialize, IssuerPublicKey.fromHex_identity (decide_eq_true hkey)]
    rfl

end Keys

end Zcaprio
