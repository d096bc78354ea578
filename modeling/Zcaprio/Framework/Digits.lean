import Mathlib.Data.Nat.Digits.Lemmas
import Mathlib.Data.List.Basic
import Mathlib.Tactic.Ring

/-!
# Little-endian bytes and bits

Fixed-width little-endian encodings of natural numbers, as byte strings and
as bit strings. Values are read with Mathlib's `Nat.ofDigits`; the width of
an encoding is the length of the list, so two encodings of one width are
equal exactly when their values are.
-/

namespace Zcaprio.Digits

/-- The number a little-endian byte string stands for. -/
def ofBytes (bs : List UInt8) : ℕ := Nat.ofDigits 256 (bs.map UInt8.toNat)

/-- The `width` low bytes of `n`, least significant first. -/
def toBytes : ℕ → ℕ → List UInt8
  | 0, _ => []
  | width + 1, n => UInt8.ofNat (n % 256) :: toBytes width (n / 256)

/-- The number a little-endian bit string stands for. -/
def ofBits (bits : List Bool) : ℕ := Nat.ofDigits 2 (bits.map Bool.toNat)

/-- The eight bits of a byte, least significant first. -/
def bitsOfByte (b : UInt8) : List Bool := (List.range 8).map b.toNat.testBit

/-- The bits of a byte string: bytes in order, each least significant first. -/
def toBits (bs : List UInt8) : List Bool := bs.flatMap bitsOfByte

/-- The byte whose eight bits are given (further bits are cut off). -/
def byteOfBits (bits : List Bool) : UInt8 := UInt8.ofNat (ofBits bits)

/-! ## Bytes -/

/-- A property of bytes below a bound is checked number by number. -/
theorem byte_induction {P : UInt8 → Prop} {m : ℕ} (h : ∀ n < m, P (UInt8.ofNat n)) {b : UInt8}
    (hb : b.toNat < m) : P b := by
  rw [← UInt8.ofNat_toNat (x := b)]
  exact h b.toNat hb

theorem byte_lt_of_le {b c : UInt8} {m : ℕ} (h : b ≤ c) (hc : c.toNat < m) : b.toNat < m :=
  lt_of_le_of_lt (UInt8.le_iff_toNat_le.mp h) hc

@[simp] theorem ofBytes_nil : ofBytes [] = 0 := rfl

@[simp] theorem ofBytes_cons (b : UInt8) (bs : List UInt8) :
    ofBytes (b :: bs) = b.toNat + 256 * ofBytes bs := by
  simp [ofBytes, Nat.ofDigits_cons]

theorem ofBytes_lt (bs : List UInt8) : ofBytes bs < 256 ^ bs.length := by
  have h := Nat.ofDigits_lt_base_pow_length (b := 256) (l := bs.map UInt8.toNat)
    (by decide) (by
      intro x hx
      obtain ⟨b, -, rfl⟩ := List.mem_map.mp hx
      exact b.toNat_lt)
  simpa [ofBytes] using h

@[simp] theorem length_toBytes (width n : ℕ) : (toBytes width n).length = width := by
  induction width generalizing n with
  | zero => rfl
  | succ width ih => simp [toBytes, ih]

theorem ofBytes_toBytes (width n : ℕ) : ofBytes (toBytes width n) = n % 256 ^ width := by
  induction width generalizing n with
  | zero => simp [toBytes, Nat.mod_one]
  | succ width ih =>
      have hbyte : (UInt8.ofNat (n % 256)).toNat = n % 256 := by
        simp [UInt8.toNat_ofNat']
      unfold toBytes
      rw [ofBytes_cons, hbyte, ih, pow_succ', Nat.mod_mul]

theorem ofBytes_toBytes_of_lt {width n : ℕ} (h : n < 256 ^ width) :
    ofBytes (toBytes width n) = n := by
  rw [ofBytes_toBytes, Nat.mod_eq_of_lt h]

theorem toBytes_ofBytes (bs : List UInt8) : toBytes bs.length (ofBytes bs) = bs := by
  induction bs with
  | nil => rfl
  | cons b bs ih =>
      have hb : b.toNat < 256 := b.toNat_lt
      have hlow : (b.toNat + 256 * ofBytes bs) % 256 = b.toNat := by omega
      have hhigh : (b.toNat + 256 * ofBytes bs) / 256 = ofBytes bs := by omega
      rw [List.length_cons, ofBytes_cons, toBytes, hlow, hhigh, ih, UInt8.ofNat_toNat]

/-- Byte strings of one width are determined by their value. -/
theorem ofBytes_inj {bs cs : List UInt8} (hlen : bs.length = cs.length) :
    ofBytes bs = ofBytes cs ↔ bs = cs := by
  constructor
  · intro h
    rw [← toBytes_ofBytes bs, ← toBytes_ofBytes cs, h, hlen]
  · rintro rfl
    rfl

/-- A leading byte with the length makes the value determine strings of
different lengths too. -/
theorem ofBytes_length_cons_inj {bs cs : List UInt8} (hbs : bs.length < 256)
    (hcs : cs.length < 256)
    (h : ofBytes (UInt8.ofNat bs.length :: bs) = ofBytes (UInt8.ofNat cs.length :: cs)) :
    bs = cs := by
  rw [ofBytes_cons, ofBytes_cons, UInt8.toNat_ofNat', UInt8.toNat_ofNat', Nat.mod_eq_of_lt hbs,
    Nat.mod_eq_of_lt hcs] at h
  have hlen : bs.length = cs.length := by omega
  have hvalue : ofBytes bs = ofBytes cs := by omega
  exact (ofBytes_inj hlen).mp hvalue

/-! ## Bits -/

@[simp] theorem ofBits_nil : ofBits [] = 0 := rfl

@[simp] theorem ofBits_cons (b : Bool) (bits : List Bool) :
    ofBits (b :: bits) = b.toNat + 2 * ofBits bits := by
  simp [ofBits, Nat.ofDigits_cons]

theorem ofBits_append (xs ys : List Bool) :
    ofBits (xs ++ ys) = ofBits xs + 2 ^ xs.length * ofBits ys := by
  simp [ofBits, Nat.ofDigits_append]

theorem ofBits_lt (bits : List Bool) : ofBits bits < 2 ^ bits.length := by
  have h := Nat.ofDigits_lt_base_pow_length (b := 2) (l := bits.map Bool.toNat)
    (by decide) (by
      intro x hx
      obtain ⟨b, -, rfl⟩ := List.mem_map.mp hx
      exact b.toNat_lt)
  simpa [ofBits] using h

theorem ofBits_inj {xs ys : List Bool} (hlen : xs.length = ys.length) :
    ofBits xs = ofBits ys ↔ xs = ys := by
  induction xs generalizing ys with
  | nil =>
      have hnil : ys = [] := List.length_eq_zero_iff.mp hlen.symm
      simp [hnil]
  | cons x xs ih =>
      cases ys with
      | nil => simp at hlen
      | cons y ys =>
          -- the first bit is the parity of the value
          rw [ofBits_cons, ofBits_cons, List.cons.injEq,
            ← ih (by simpa using hlen)]
          cases x <;> cases y <;> simp <;> omega

theorem ofBits_replicate_false (n : ℕ) : ofBits (List.replicate n false) = 0 := by
  induction n with
  | zero => rfl
  | succ n ih => simp [List.replicate_succ, ih]

/-- The low `k` bits of a bit string are its value modulo `2 ^ k`. -/
theorem ofBits_take (k : ℕ) (bits : List Bool) :
    ofBits (bits.take k) = ofBits bits % 2 ^ k := by
  have h := Nat.ofDigits_mod_pow_eq_ofDigits_take (p := 2) k (by decide) (bits.map Bool.toNat)
    (by
      intro x hx
      obtain ⟨b, -, rfl⟩ := List.mem_map.mp hx
      exact b.toNat_lt)
  unfold ofBits
  rw [h, List.map_take]

theorem ofBits_testBit (k n : ℕ) : ofBits ((List.range k).map n.testBit) = n % 2 ^ k := by
  induction k generalizing n with
  | zero => simp [Nat.mod_one]
  | succ k ih =>
      have hshift : (List.range k).map (n.testBit ∘ Nat.succ) =
          (List.range k).map (n / 2).testBit := by
        apply List.map_congr_left
        intro i _
        exact Nat.testBit_succ n i
      have hlow : (n.testBit 0).toNat = n % 2 := by
        rcases Nat.mod_two_eq_zero_or_one n with h | h <;> simp [Nat.testBit_zero, h]
      rw [List.range_succ_eq_map, List.map_cons, List.map_map, hshift, ofBits_cons, ih, hlow,
        pow_succ', Nat.mod_mul]

@[simp] theorem length_bitsOfByte (b : UInt8) : (bitsOfByte b).length = 8 := by
  simp [bitsOfByte]

theorem ofBits_bitsOfByte (b : UInt8) : ofBits (bitsOfByte b) = b.toNat := by
  rw [bitsOfByte, ofBits_testBit]
  exact Nat.mod_eq_of_lt b.toNat_lt

theorem bitsOfByte_byteOfBits {bits : List Bool} (h : bits.length = 8) :
    bitsOfByte (byteOfBits bits) = bits := by
  have hlt : ofBits bits < 256 := by simpa [h] using ofBits_lt bits
  rw [← ofBits_inj (by simp [h]), ofBits_bitsOfByte, byteOfBits, UInt8.toNat_ofNat',
    Nat.mod_eq_of_lt hlt]

@[simp] theorem toBits_nil : toBits [] = [] := rfl

@[simp] theorem toBits_cons (b : UInt8) (bs : List UInt8) :
    toBits (b :: bs) = bitsOfByte b ++ toBits bs := rfl

theorem toBits_append (bs cs : List UInt8) : toBits (bs ++ cs) = toBits bs ++ toBits cs :=
  List.flatMap_append

@[simp] theorem length_toBits (bs : List UInt8) : (toBits bs).length = 8 * bs.length := by
  induction bs with
  | nil => rfl
  | cons b bs ih => simp [ih]; ring

/-- Bytes and bits give a string the same value. -/
theorem ofBits_toBits (bs : List UInt8) : ofBits (toBits bs) = ofBytes bs := by
  induction bs with
  | nil => rfl
  | cons b bs ih =>
      rw [toBits_cons, ofBits_append, ofBits_bitsOfByte, ih, length_bitsOfByte, ofBytes_cons]
      norm_num

theorem toBits_inj {bs cs : List UInt8} (hlen : bs.length = cs.length) :
    toBits bs = toBits cs ↔ bs = cs := by
  rw [← ofBits_inj (by simp [hlen]), ofBits_toBits, ofBits_toBits, ofBytes_inj hlen]

/-- A string whose value is below `2 ^ k` has only zero bits from `k` on. -/
theorem drop_eq_replicate_false {k : ℕ} {bits : List Bool} (hk : k ≤ bits.length) :
    bits.drop k = List.replicate (bits.length - k) false ↔ ofBits bits < 2 ^ k := by
  have hsplit : ofBits bits = ofBits (bits.take k) + 2 ^ k * ofBits (bits.drop k) := by
    conv_lhs => rw [← List.take_append_drop k bits, ofBits_append]
    rw [List.length_take, Nat.min_eq_left hk]
  have hlow : ofBits (bits.take k) < 2 ^ k := by
    simpa [Nat.min_eq_left hk] using ofBits_lt (bits.take k)
  rw [← ofBits_inj (by simp), ofBits_replicate_false, hsplit]
  constructor
  · intro h
    rw [h]
    omega
  · intro h
    by_contra hne
    -- a nonzero tail weighs at least `2 ^ k`
    have : 2 ^ k * 1 ≤ 2 ^ k * ofBits (bits.drop k) :=
      Nat.mul_le_mul_left _ (Nat.one_le_iff_ne_zero.mpr hne)
    omega

end Zcaprio.Digits
