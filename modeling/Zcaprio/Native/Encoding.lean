import Mathlib.Data.ZMod.Basic
import Zcaprio.Framework.Digits

/-!
# Errors, hexadecimal text and canonical field encodings

`error.rs` and `encoding.rs`. Byte slices are `List UInt8`; a Rust `&str` is
a `String`, whose bytes are its UTF-8 encoding. The field and scalar
encodings are those of the serialization library: 32 little-endian bytes,
rejected when the integer is not below the modulus.
-/

namespace Zcaprio

/-- `PrimitiveError`. -/
inductive PrimitiveError where
  | InvalidDate
  | EmptyVerifierScope
  | InvalidVerifierScope
  | UnsupportedSchema
  | InvalidEncoding
  | InvalidCredential
  | ProofPrevented
  | InvalidProof
  | ReplayDetected
  deriving DecidableEq, Repr

namespace PrimitiveError

/-- The stable machine-readable code. -/
def code : PrimitiveError → String
  | InvalidDate => "invalid_date"
  | EmptyVerifierScope => "empty_verifier_scope"
  | InvalidVerifierScope => "invalid_verifier_scope"
  | UnsupportedSchema => "unsupported_schema"
  | InvalidEncoding => "invalid_encoding"
  | InvalidCredential => "invalid_credential"
  | ProofPrevented => "proof_prevented"
  | InvalidProof => "invalid_proof"
  | ReplayDetected => "replay_detected"

/-- The constant description; also the `Display` text. -/
def message : PrimitiveError → String
  | InvalidDate => "The date is invalid."
  | EmptyVerifierScope => "The verifier scope is required."
  | InvalidVerifierScope => "The verifier scope is invalid."
  | UnsupportedSchema => "The protocol schema is unsupported."
  | InvalidEncoding => "The protocol encoding is invalid."
  | InvalidCredential => "The credential is invalid."
  | ProofPrevented => "The proof cannot be produced."
  | InvalidProof => "The proof is invalid."
  | ReplayDetected => "The proof has already been used."

/-- The name of the variant. -/
def variant : PrimitiveError → String
  | InvalidDate => "InvalidDate"
  | EmptyVerifierScope => "EmptyVerifierScope"
  | InvalidVerifierScope => "InvalidVerifierScope"
  | UnsupportedSchema => "UnsupportedSchema"
  | InvalidEncoding => "InvalidEncoding"
  | InvalidCredential => "InvalidCredential"
  | ProofPrevented => "ProofPrevented"
  | InvalidProof => "InvalidProof"
  | ReplayDetected => "ReplayDetected"

/-- `rename_all = "snake_case"`: lower case, with an underscore at each later capital. -/
def snakeCase (name : String) : String :=
  String.ofList (name.toList.zipIdx.flatMap fun entry =>
    if 0 < entry.2 ∧ entry.1.isUpper then ['_', entry.1.toLower] else [entry.1.toLower])

/-- The derived `Serialize` of a variant without data. -/
def serialize (e : PrimitiveError) : String := snakeCase e.variant

/-- Errors are serialized as their codes. -/
theorem serialize_eq_code (e : PrimitiveError) : e.serialize = e.code := by
  cases e <;> decide

end PrimitiveError

/-! ## Fields -/

/-- Order of the BN254 scalar field. -/
def frModulus : ℕ :=
  21888242871839275222246405745257275088548364400416034343698204186575808495617

/-- Order of the Baby-JubJub prime-order subgroup. -/
def jubJubModulus : ℕ :=
  2736030358979909402780800718157159386076813972158567259200215660948447373041

abbrev Fr := ZMod frModulus
abbrev JubJubScalar := ZMod jubJubModulus

instance : NeZero frModulus := ⟨by decide⟩
instance : NeZero jubJubModulus := ⟨by decide⟩

theorem frModulus_lt : frModulus < 256 ^ 32 := by decide
theorem jubJubModulus_lt : jubJubModulus < 256 ^ 32 := by decide

/-- `serialize_compressed` of a field element: 32 little-endian bytes. -/
def canonical {m : ℕ} (x : ZMod m) : List UInt8 := Digits.toBytes 32 x.val

/-- `deserialize_compressed` of a field element: reads 32 bytes, and fails on
fewer bytes or on an integer that is not below the modulus. -/
def deserializeField (m : ℕ) (reader : List UInt8) : Option (ZMod m × List UInt8) :=
  if reader.length < 32 then none
  else if Digits.ofBytes (reader.take 32) < m then
    some ((Digits.ofBytes (reader.take 32) : ZMod m), reader.drop 32)
  else none

@[simp] theorem length_canonical {m : ℕ} (x : ZMod m) : (canonical x).length = 32 :=
  Digits.length_toBytes 32 x.val

theorem ofBytes_canonical {m : ℕ} [NeZero m] (hm : m < 256 ^ 32) (x : ZMod m) :
    Digits.ofBytes (canonical x) = x.val :=
  Digits.ofBytes_toBytes_of_lt ((ZMod.val_lt x).trans hm)

theorem canonical_injective {m : ℕ} [NeZero m] (hm : m < 256 ^ 32) :
    Function.Injective (canonical (m := m)) := by
  intro x y h
  apply ZMod.val_injective m
  rw [← ofBytes_canonical hm x, h, ofBytes_canonical hm]

/-- Canonical bytes are exactly the 32-byte strings below the modulus. -/
theorem canonical_natCast {m : ℕ} {bs : List UInt8} (hlen : bs.length = 32)
    (hlt : Digits.ofBytes bs < m) : canonical (Digits.ofBytes bs : ZMod m) = bs := by
  unfold canonical
  rw [ZMod.val_natCast_of_lt hlt, ← hlen, Digits.toBytes_ofBytes]

/-- Decoding inverts encoding on a prefix of the reader. -/
theorem deserializeField_canonical {m : ℕ} [NeZero m] (hm : m < 256 ^ 32) (x : ZMod m)
    (rest : List UInt8) : deserializeField m (canonical x ++ rest) = some (x, rest) := by
  have htake : (canonical x ++ rest).take 32 = canonical x := by
    rw [List.take_append_of_le_length (by simp), List.take_of_length_le (by simp)]
  have hdrop : (canonical x ++ rest).drop 32 = rest := by
    rw [List.drop_append_of_le_length (by simp), List.drop_of_length_le (by simp), List.nil_append]
  -- long enough, and below the modulus
  unfold deserializeField
  rw [htake, hdrop, ofBytes_canonical hm, if_neg (by simp),
    if_pos (ZMod.val_lt x), ZMod.natCast_zmod_val]

/-- Whatever decodes was the encoding of its value, followed by the rest. -/
theorem deserializeField_sound {m : ℕ} {bs rest : List UInt8} {x : ZMod m}
    (h : deserializeField m bs = some (x, rest)) : bs = canonical x ++ rest := by
  unfold deserializeField at h
  split at h
  · cases h
  · rename_i hlen
    split at h
    · rename_i hlt
      obtain ⟨rfl, rfl⟩ : (Digits.ofBytes (bs.take 32) : ZMod m) = x ∧ bs.drop 32 = rest := by
        simpa using h
      rw [canonical_natCast (by simp; omega) hlt, List.take_append_drop]
    · cases h

/-! ## Text -/

/-- `str::as_bytes`. -/
def utf8 (s : String) : List UInt8 := s.toList.flatMap String.utf8EncodeChar

/-- `str::from_utf8`. -/
def fromUtf8 (bs : List UInt8) : Option (List Char) := bs.toByteArray.utf8Decode?.map Array.toList

/-- `format!("{:x}")` of one half-byte. -/
def hexDigit (n : ℕ) : Char := if n < 10 then Char.ofNat (48 + n) else Char.ofNat (87 + n)

/-- Two lower-case digits a byte. -/
def hex (value : List UInt8) : String :=
  String.ofList (value.flatMap fun byte => [hexDigit (byte.toNat / 16), hexDigit (byte.toNat % 16)])

/-- The alphabet filter of `bytes`: `is_ascii_digit` or `a` to `f`. -/
def isHexByte (character : UInt8) : Bool :=
  (48 ≤ character ∧ character ≤ 57) ∨ (97 ≤ character ∧ character ≤ 102)

/-- `char::to_digit(16)`: either case. -/
def toDigit16 (c : Char) : Option ℕ :=
  if 48 ≤ c.toNat ∧ c.toNat ≤ 57 then some (c.toNat - 48)
  else if 97 ≤ c.toNat ∧ c.toNat ≤ 102 then some (c.toNat - 87)
  else if 65 ≤ c.toNat ∧ c.toNat ≤ 70 then some (c.toNat - 55)
  else none

/-- Digit by digit, failing on overflow of a byte. -/
def digits16 (cs : List Char) : Option ℕ :=
  cs.foldlM (fun acc c => do
    let d ← toDigit16 c
    if acc * 16 + d < 256 then some (acc * 16 + d) else none) 0

/-- `u8::from_str_radix(chunk, 16)`: also takes a leading plus sign. -/
def u8FromStrRadix16 : List Char → Option UInt8
  | [] => none
  -- a sign alone is no number; `bytes` lets no sign through
  | ['+'] => none
  | '+' :: cs => (digits16 cs).map UInt8.ofNat
  | cs => (digits16 cs).map UInt8.ofNat

/-- `chunks_exact(2)`: a last odd byte is dropped. -/
def chunksExact2 : List UInt8 → List (List UInt8)
  | a :: b :: rest => [a, b] :: chunksExact2 rest
  | _ => []

/-- One chunk of `bytes`. -/
def decodeChunk (pair : List UInt8) : Except PrimitiveError UInt8 :=
  match (fromUtf8 pair).bind u8FromStrRadix16 with
  | some byte => .ok byte
  | none => .error .InvalidEncoding

/-- Decodes canonical lowercase hexadecimal bytes. -/
def bytes (value : String) : Except PrimitiveError (List UInt8) :=
  if (utf8 value).length % 2 ≠ 0 ∨ ¬ (utf8 value).all isHexByte then .error .InvalidEncoding
  else (chunksExact2 (utf8 value)).mapM decodeChunk

/-- Decodes one value from hexadecimal text and rejects leftover bytes. -/
def parse {T : Type} (deserializeCompressed : List UInt8 → Option (T × List UInt8))
    (value : String) : Except PrimitiveError T := do
  let encoded ← bytes value
  match deserializeCompressed encoded with
  | none => .error .InvalidEncoding
  | some (decoded, input) => if input ≠ [] then .error .InvalidEncoding else .ok decoded

/-! ## The decoder inverts the encoder -/

/-- The character of a lower-case digit is one byte in UTF-8, and that byte
passes the alphabet filter. -/
theorem utf8EncodeChar_hexDigit {n : ℕ} (h : n < 16) :
    String.utf8EncodeChar (hexDigit n) = [UInt8.ofNat (hexDigit n).toNat] ∧
      isHexByte (UInt8.ofNat (hexDigit n).toNat) = true := by
  interval_cases n <;> decide

theorem toDigit16_hexDigit {n : ℕ} (h : n < 16) : toDigit16 (hexDigit n) = some n := by
  interval_cases n <;> decide

theorem hexDigit_ne_plus {n : ℕ} (h : n < 16) : hexDigit n ≠ '+' := by
  interval_cases n <;> decide

/-- The two bytes of text that stand for one byte. -/
def hexPair (byte : UInt8) : List UInt8 :=
  [UInt8.ofNat (hexDigit (byte.toNat / 16)).toNat, UInt8.ofNat (hexDigit (byte.toNat % 16)).toNat]

theorem byte_halves (byte : UInt8) : byte.toNat / 16 < 16 ∧ byte.toNat % 16 < 16 := by
  have := byte.toNat_lt
  omega

theorem utf8_hex (value : List UInt8) : utf8 (hex value) = value.flatMap hexPair := by
  induction value with
  | nil => rfl
  | cons byte rest ih =>
      obtain ⟨hhigh, hlow⟩ := byte_halves byte
      simp only [utf8, hex, String.toList_ofList] at ih ⊢
      simp only [List.flatMap_cons, List.flatMap_append, List.flatMap_nil, List.append_nil,
        (utf8EncodeChar_hexDigit hhigh).1, (utf8EncodeChar_hexDigit hlow).1, ih, hexPair]
      rfl

theorem fromUtf8_hexPair (byte : UInt8) :
    fromUtf8 (hexPair byte) = some [hexDigit (byte.toNat / 16), hexDigit (byte.toNat % 16)] := by
  obtain ⟨hhigh, hlow⟩ := byte_halves byte
  have hencode : (hexPair byte).toByteArray =
      [hexDigit (byte.toNat / 16), hexDigit (byte.toNat % 16)].utf8Encode := by
    simp [List.utf8Encode, hexPair, (utf8EncodeChar_hexDigit hhigh).1,
      (utf8EncodeChar_hexDigit hlow).1]
  unfold fromUtf8
  rw [hencode, List.utf8Decode?_utf8Encode]
  rfl

theorem decodeChunk_hexPair (byte : UInt8) : decodeChunk (hexPair byte) = .ok byte := by
  obtain ⟨hhigh, hlow⟩ := byte_halves byte
  have hvalue : byte.toNat / 16 * 16 + byte.toNat % 16 = byte.toNat := by omega
  have hlt : byte.toNat / 16 < 256 := by omega
  have hbyte := byte.toNat_lt
  have hdigits : digits16 [hexDigit (byte.toNat / 16), hexDigit (byte.toNat % 16)] =
      some byte.toNat := by
    simp [digits16, toDigit16_hexDigit hhigh, toDigit16_hexDigit hlow, hlt, hvalue, hbyte]
  have hradix : u8FromStrRadix16 [hexDigit (byte.toNat / 16), hexDigit (byte.toNat % 16)] =
      some byte := by
    unfold u8FromStrRadix16
    split
    · simp_all
    · simp_all
    · -- a lower-case digit is no sign
      rename_i heq
      exact absurd (List.cons.inj heq).1 (hexDigit_ne_plus hhigh)
    · rw [hdigits]
      simp
  unfold decodeChunk
  rw [fromUtf8_hexPair, Option.bind_some, hradix]

theorem chunksExact2_hexPairs (value : List UInt8) :
    chunksExact2 (value.flatMap hexPair) = value.map hexPair := by
  induction value with
  | nil => rfl
  | cons byte rest ih =>
      rw [List.flatMap_cons, List.map_cons, ← ih]
      rfl

theorem mapM_decodeChunk_hexPairs (value : List UInt8) :
    (value.map hexPair).mapM decodeChunk = .ok value := by
  induction value with
  | nil => rfl
  | cons byte rest ih =>
      rw [List.map_cons, List.mapM_cons, decodeChunk_hexPair, ih]
      rfl

/-- Decoding an encoding gives the bytes back, at every length. -/
theorem bytes_hex_ok (value : List UInt8) : bytes (hex value) = .ok value := by
  have hlen : (value.flatMap hexPair).length % 2 = 0 := by
    induction value with
    | nil => rfl
    | cons byte rest ih => simp [hexPair]; omega
  have hall : (value.flatMap hexPair).all isHexByte = true := by
    rw [List.all_flatMap, List.all_eq_true]
    intro byte _
    obtain ⟨hhigh, hlow⟩ := byte_halves byte
    simp [hexPair, (utf8EncodeChar_hexDigit hhigh).2, (utf8EncodeChar_hexDigit hlow).2]
  have hguard : ¬ ((value.flatMap hexPair).length % 2 ≠ 0 ∨
      ¬ (value.flatMap hexPair).all isHexByte) := by
    rw [hlen, hall]
    decide
  unfold bytes
  rw [utf8_hex, if_neg hguard, chunksExact2_hexPairs, mapM_decodeChunk_hexPairs]

/-- Hexadecimal text determines the bytes it encodes. -/
theorem hex_injective : Function.Injective hex := by
  intro b c h
  have hb := bytes_hex_ok b
  rw [h, bytes_hex_ok c] at hb
  exact (Except.ok.inj hb).symm

/-- Reading back a canonical field element. -/
theorem parse_hex_canonical {m : ℕ} [NeZero m] (hm : m < 256 ^ 32) (x : ZMod m) :
    parse (deserializeField m) (hex (canonical x)) = .ok x := by
  have h := deserializeField_canonical hm x []
  rw [List.append_nil] at h
  simp [parse, bytes_hex_ok, h, bind, Except.bind]

end Zcaprio
