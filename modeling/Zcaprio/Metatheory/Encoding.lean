import Zcaprio.Framework.Codec
import Zcaprio.Framework.Utf8
import Zcaprio.Native.Encoding

/-!
# Exact text forms

The hexadecimal decoder accepts exactly the texts the encoder writes. What is
read from such text by a reader that uses up its input then has one encoding.
-/

namespace Zcaprio

/-- Texts of the same bytes are the same. -/
theorem utf8_injective : Function.Injective utf8 := by
  intro s t h
  exact String.toList_injective (Utf8.encode_injective h)

/-! ## Hexadecimal digits -/

/-- The alphabet filter lets through the sixteen digits only. -/
theorem digit_of_isHexByte {x : UInt8} (h : isHexByte x = true) :
    ∃ n < 16, x = UInt8.ofNat (hexDigit n).toNat := by
  have hx : x.toNat < 128 := by
    rcases of_decide_eq_true h with ⟨-, hle⟩ | ⟨-, hle⟩
    · exact Digits.byte_lt_of_le hle (by decide)
    · exact Digits.byte_lt_of_le hle (by decide)
  revert h
  apply Digits.byte_induction _ hx
  decide

/-- Two of them stand for a byte. -/
theorem hexPair_of_isHexByte {x y : UInt8} (hx : isHexByte x = true) (hy : isHexByte y = true) :
    ∃ byte, hexPair byte = [x, y] := by
  obtain ⟨m, hm, rfl⟩ := digit_of_isHexByte hx
  obtain ⟨n, hn, rfl⟩ := digit_of_isHexByte hy
  have hbyte : (UInt8.ofNat (16 * m + n)).toNat = 16 * m + n := by
    rw [UInt8.toNat_ofNat', Nat.mod_eq_of_lt]
    omega
  have hhigh : (16 * m + n) / 16 = m := by omega
  have hlow : (16 * m + n) % 16 = n := by omega
  refine ⟨UInt8.ofNat (16 * m + n), ?_⟩
  unfold hexPair
  rw [hbyte, hhigh, hlow]

/-- An even number of digits stands for bytes, two by two. -/
theorem exists_hexPairs {text : List UInt8} (heven : text.length % 2 = 0)
    (hall : text.all isHexByte = true) : ∃ value : List UInt8, value.flatMap hexPair = text := by
  induction text using chunksExact2.induct with
  | case1 x y rest ih =>
      simp only [List.all_cons, Bool.and_eq_true] at hall
      obtain ⟨hx, hy, hrest⟩ := hall
      obtain ⟨byte, hbyte⟩ := hexPair_of_isHexByte hx hy
      rw [List.length_cons, List.length_cons] at heven
      obtain ⟨value, hvalue⟩ := ih (by omega) hrest
      refine ⟨byte :: value, ?_⟩
      rw [List.flatMap_cons, hbyte, hvalue]
      rfl
  | case2 text hshort =>
      -- no text, since one digit is not an even number of them
      rcases text with _ | ⟨x, _ | ⟨y, rest⟩⟩
      · exact ⟨[], rfl⟩
      · cases heven
      · exact absurd rfl (hshort x y rest)

/-- Text that passes the guard of the decoder is the encoding of some bytes. -/
theorem exists_hex {text : String} (heven : (utf8 text).length % 2 = 0)
    (hall : (utf8 text).all isHexByte = true) : ∃ value, hex value = text := by
  obtain ⟨value, hvalue⟩ := exists_hexPairs heven hall
  refine ⟨value, utf8_injective ?_⟩
  rw [utf8_hex, hvalue]

/-- The decoder accepts exactly the image of the encoder. -/
theorem exact_bytes : Exact (fun _ => True) PrimitiveError.InvalidEncoding hex bytes := by
  apply Exact.of_cases
  · intro value _
    exact bytes_hex_ok value
  · intro text
    by_cases hguard : (utf8 text).length % 2 ≠ 0 ∨ ¬ (utf8 text).all isHexByte
    · exact Or.inl (if_pos hguard)
    · rw [not_or, not_not, not_not] at hguard
      obtain ⟨value, hvalue⟩ := exists_hex hguard.1 hguard.2
      exact Or.inr ⟨value, trivial, hvalue⟩

/-! ## Values -/

/-- A field element is read off the front of its input. -/
theorem reads_deserializeField {m : ℕ} [NeZero m] (hm : m < 256 ^ 32) :
    Reads canonical (deserializeField m) where
  read_encode := deserializeField_canonical hm
  encode_read _ _ _ h := (deserializeField_sound h).symm

/-- `parse` reads all the bytes of the text. -/
theorem parse_eq {T : Type} (deserializeCompressed : List UInt8 → Option (T × List UInt8))
    (value : String) : parse deserializeCompressed value =
      (bytes value >>= readAll PrimitiveError.InvalidEncoding deserializeCompressed) := by
  unfold parse
  refine congrArg (bytes value >>= ·) (funext fun encoded => ?_)
  unfold readAll
  rcases deserializeCompressed encoded with _ | ⟨decoded, _ | ⟨x, input⟩⟩ <;> rfl

/-- So it accepts the text of the encodings, and no leftover bytes. -/
theorem exact_parse {T : Type} {encode : T → List UInt8}
    {deserializeCompressed : List UInt8 → Option (T × List UInt8)}
    (h : Reads encode deserializeCompressed) :
    Exact (fun _ => True) PrimitiveError.InvalidEncoding (fun value => hex (encode value))
      (parse deserializeCompressed) := by
  rw [funext (parse_eq deserializeCompressed)]
  exact exact_bytes.comp (h.exact PrimitiveError.InvalidEncoding)

end Zcaprio
