import Mathlib.Data.List.Basic

/-!
# UTF-8

The encoding of a list of characters determines it, and tells the characters
below 128 apart from all others byte by byte.
-/

namespace Zcaprio.Utf8

/-- The bytes of a list of characters. -/
def encode (cs : List Char) : List UInt8 := cs.flatMap String.utf8EncodeChar

@[simp] theorem encode_nil : encode [] = [] := rfl

@[simp] theorem encode_cons (c : Char) (cs : List Char) :
    encode (c :: cs) = String.utf8EncodeChar c ++ encode cs := rfl

theorem encode_injective : Function.Injective encode := by
  intro cs ds h
  have hbytes : cs.utf8Encode = ds.utf8Encode := by
    rw [List.utf8Encode, List.utf8Encode]
    exact congrArg List.toByteArray h
  -- decoding gives back the characters
  have hdecoded := List.utf8Decode?_utf8Encode (l := cs)
  rw [hbytes, List.utf8Decode?_utf8Encode] at hdecoded
  simpa using hdecoded.symm

/-! ## Characters below 128 -/

/-- A property of such characters is checked code by code. -/
theorem ascii_induction {P : Char → Prop} (h : ∀ n < 128, P (Char.ofNat n)) {c : Char}
    (hc : c.toNat < 128) : P c := by
  rw [← Char.ofNat_toNat c]
  exact h c.toNat hc

theorem encodeChar_of_lt {c : Char} (h : c.toNat < 128) :
    String.utf8EncodeChar c = [UInt8.ofNat c.toNat] := by
  have hsize : c.utf8Size = 1 := by
    rw [Char.utf8Size_eq_one_iff, UInt32.le_iff_toNat_le]
    exact Nat.le_of_lt_succ h
  rw [String.utf8EncodeChar_eq_singleton hsize]
  rfl

/-- All other characters consist of bytes from 128 on. -/
theorem le_of_mem_encodeChar {c : Char} (h : ¬ c.toNat < 128) {b : UInt8}
    (hb : b ∈ String.utf8EncodeChar c) : 128 ≤ b.toNat := by
  have hhigh : ¬ c.val.toNat ≤ 0x7f := by
    intro hle
    exact h (Nat.lt_succ_of_le hle)
  -- a lead byte or a continuation byte: the offsets 0x80 to 0xf0 and a rest below them
  have hoffset {n k : ℕ} (hk : 128 ≤ k) (hn : n + k < 256) : 128 ≤ (UInt8.ofNat (n + k)).toNat := by
    rw [UInt8.toNat_ofNat', Nat.mod_eq_of_lt hn]
    omega
  unfold String.utf8EncodeChar at hb
  rw [if_neg hhigh] at hb
  split_ifs at hb <;> simp only [List.mem_cons, List.not_mem_nil, or_false] at hb
  · rcases hb with rfl | rfl <;> exact hoffset (by decide) (by omega)
  · rcases hb with rfl | rfl | rfl <;> exact hoffset (by decide) (by omega)
  · rcases hb with rfl | rfl | rfl | rfl <;> exact hoffset (by decide) (by omega)

/-- Bytes below 128 are the characters themselves, one byte each. -/
theorem encode_of_lt {cs : List Char} (h : ∀ b ∈ encode cs, b.toNat < 128) :
    encode cs = cs.map (fun c => UInt8.ofNat c.toNat) ∧ ∀ c ∈ cs, c.toNat < 128 := by
  induction cs with
  | nil => simp
  | cons c cs ih =>
      rw [encode_cons] at h ⊢
      have hc : c.toNat < 128 := by
        by_contra hge
        obtain ⟨b, hb⟩ := List.exists_mem_of_ne_nil _ (String.utf8EncodeChar_ne_nil (c := c))
        have hlow := h b (List.mem_append_left _ hb)
        have hhigh := le_of_mem_encodeChar hge hb
        omega
      obtain ⟨hbytes, hall⟩ := ih fun b hb => h b (List.mem_append_right _ hb)
      constructor
      · rw [encodeChar_of_lt hc, hbytes]
        rfl
      · intro d hd
        rcases List.mem_cons.mp hd with rfl | hd
        · exact hc
        · exact hall d hd

/-- Characters below 128 are one byte each. -/
theorem encode_eq_map {cs : List Char} (h : ∀ c ∈ cs, c.toNat < 128) :
    encode cs = cs.map fun c => UInt8.ofNat c.toNat := by
  induction cs with
  | nil => rfl
  | cons c cs ih =>
      rw [encode_cons, encodeChar_of_lt (h c List.mem_cons_self),
        ih fun d hd => h d (List.mem_cons_of_mem c hd)]
      rfl

end Zcaprio.Utf8
