import Mathlib.Algebra.Order.Ring.Nat
import Mathlib.Data.Char
import Mathlib.Tactic.Ring

/-!
# Decimal numerals

Numerals of a fixed width, most significant digit first. Among digit strings of
one width, the order of the text is the order of the numbers, so a number has
one numeral of each width it fits in.
-/

namespace Zcaprio.Decimal

def isDigit (c : Char) : Bool := 48 ≤ c.toNat ∧ c.toNat ≤ 57

/-- The number a string of digits stands for. -/
def number : List Char → ℕ
  | [] => 0
  | c :: cs => (c.toNat - 48) * 10 ^ cs.length + number cs

/-- The last digit of a number. -/
def digit (n : ℕ) : Char := Char.ofNat (48 + n % 10)

/-- The numeral of `width` digits. -/
def padded : ℕ → ℕ → List Char
  | 0, _ => []
  | width + 1, n => digit (n / 10 ^ width) :: padded width n

/-! ## Digits -/

theorem digit_spec (n : ℕ) : isDigit (digit n) = true ∧ (digit n).toNat - 48 = n % 10 := by
  have h : ∀ k < 10, isDigit (Char.ofNat (48 + k)) = true ∧
      (Char.ofNat (48 + k)).toNat - 48 = k := by decide
  exact h (n % 10) (Nat.mod_lt n (by decide))

theorem isDigit_iff {c : Char} : isDigit c = true ↔ 48 ≤ c.toNat ∧ c.toNat ≤ 57 :=
  decide_eq_true_iff

theorem digit_lt_iff {c d : Char} (hc : isDigit c = true) (hd : isDigit d = true) :
    c < d ↔ c.toNat - 48 < d.toNat - 48 := by
  rw [isDigit_iff] at hc hd
  have h : c < d ↔ c.toNat < d.toNat := Iff.rfl
  rw [h]
  omega

theorem digit_inj {c d : Char} (hc : isDigit c = true) (hd : isDigit d = true)
    (h : c.toNat - 48 = d.toNat - 48) : c = d := by
  rw [isDigit_iff] at hc hd
  apply Char.toNat_inj.mp
  omega

/-! ## Numerals -/

@[simp] theorem length_padded (width n : ℕ) : (padded width n).length = width := by
  induction width with
  | zero => rfl
  | succ width ih => rw [padded, List.length_cons, ih]

theorem isDigit_padded {width n : ℕ} {c : Char} (h : c ∈ padded width n) : isDigit c = true := by
  induction width with
  | zero => cases h
  | succ width ih =>
      rcases List.mem_cons.mp h with rfl | hmem
      · exact (digit_spec _).1
      · exact ih hmem

theorem number_padded (width n : ℕ) : number (padded width n) = n % 10 ^ width := by
  induction width with
  | zero => simp [padded, number, Nat.mod_one]
  | succ width ih =>
      unfold padded number
      rw [(digit_spec _).2, length_padded, ih, Nat.mod_pow_succ]
      ring

/-- Digits stay below the next power of ten. -/
theorem number_lt {cs : List Char} (h : ∀ c ∈ cs, isDigit c = true) :
    number cs < 10 ^ cs.length := by
  induction cs with
  | nil => decide
  | cons c cs ih =>
      have hrest := ih fun d hd => h d (List.mem_cons_of_mem c hd)
      have hc := isDigit_iff.mp (h c List.mem_cons_self)
      have hdigit : c.toNat - 48 ≤ 9 := by omega
      calc number (c :: cs) = (c.toNat - 48) * 10 ^ cs.length + number cs := rfl
        _ < (c.toNat - 48) * 10 ^ cs.length + 10 ^ cs.length := Nat.add_lt_add_left hrest _
        _ = (c.toNat - 48 + 1) * 10 ^ cs.length := by ring
        _ ≤ 10 * 10 ^ cs.length := Nat.mul_le_mul_right _ (Nat.succ_le_succ hdigit)
        _ = 10 ^ (c :: cs).length := by rw [List.length_cons, pow_succ']

/-! ## Order -/

/-- The first digit decides, unless it is the same. -/
theorem mul_add_lt_iff {a b r s m : ℕ} (hr : r < m) (hs : s < m) :
    a * m + r < b * m + s ↔ a < b ∨ a = b ∧ r < s := by
  constructor
  · intro h
    rcases lt_trichotomy a b with hab | rfl | hba
    · exact Or.inl hab
    · exact Or.inr ⟨rfl, Nat.lt_of_add_lt_add_left h⟩
    · have hmul : (b + 1) * m ≤ a * m := Nat.mul_le_mul_right m hba
      rw [Nat.add_mul, Nat.one_mul] at hmul
      omega
  · rintro (hab | ⟨rfl, hrs⟩)
    · have hmul : (a + 1) * m ≤ b * m := Nat.mul_le_mul_right m hab
      rw [Nat.add_mul, Nat.one_mul] at hmul
      omega
    · omega

/-- Digit strings of one width are ordered as their numbers. -/
theorem lt_iff_number_lt {xs ys : List Char} (hlen : xs.length = ys.length)
    (hxs : ∀ c ∈ xs, isDigit c = true) (hys : ∀ c ∈ ys, isDigit c = true) :
    xs < ys ↔ number xs < number ys := by
  induction xs generalizing ys with
  | nil =>
      obtain rfl := List.length_eq_zero_iff.mp hlen.symm
      simp [number]
  | cons x xs ih =>
      cases ys with
      | nil => cases hlen
      | cons y ys =>
          have hlen := Nat.succ.inj hlen
          have hx := hxs x List.mem_cons_self
          have hy := hys y List.mem_cons_self
          have hxs := fun c hc => hxs c (List.mem_cons_of_mem x hc)
          have hys := fun c hc => hys c (List.mem_cons_of_mem y hc)
          have hr : number xs < 10 ^ ys.length := hlen ▸ number_lt hxs
          unfold number
          rw [hlen, mul_add_lt_iff hr (number_lt hys), List.cons_lt_cons_iff,
            digit_lt_iff hx hy, ih hlen hxs hys]
          refine or_congr_right (and_congr_left fun _ => ?_)
          constructor
          · rintro rfl
            rfl
          · exact digit_inj hx hy

/-- The number determines the string. -/
theorem number_inj {xs ys : List Char} (hlen : xs.length = ys.length)
    (hxs : ∀ c ∈ xs, isDigit c = true) (hys : ∀ c ∈ ys, isDigit c = true)
    (h : number xs = number ys) : xs = ys := by
  induction xs generalizing ys with
  | nil => exact (List.length_eq_zero_iff.mp hlen.symm).symm
  | cons x xs ih =>
      cases ys with
      | nil => cases hlen
      | cons y ys =>
          have hlen := Nat.succ.inj hlen
          have hdx := hxs x List.mem_cons_self
          have hdy := hys y List.mem_cons_self
          have hxs := fun c hc => hxs c (List.mem_cons_of_mem x hc)
          have hys := fun c hc => hys c (List.mem_cons_of_mem y hc)
          have hr : number xs < 10 ^ ys.length := hlen ▸ number_lt hxs
          have hs := number_lt hys
          unfold number at h
          rw [hlen] at h
          -- neither the first digit nor the rest can be smaller on one side
          have hle := (mul_add_lt_iff hr hs).not.mp h.not_lt
          have hge := (mul_add_lt_iff hs hr).not.mp h.not_gt
          have hdigit : x.toNat - 48 = y.toNat - 48 := by omega
          have hrest : number xs = number ys := by omega
          rw [digit_inj hdx hdy hdigit, ih hlen hxs hys hrest]

/-- A digit string is the numeral of its number. -/
theorem padded_number {cs : List Char} (h : ∀ c ∈ cs, isDigit c = true) :
    padded cs.length (number cs) = cs := by
  apply number_inj (length_padded _ _) (fun c hc => isDigit_padded hc) h
  rw [number_padded, Nat.mod_eq_of_lt (number_lt h)]

/-- Fields of one width are compared from the left. -/
theorem append_lt_append_iff {xs ys us vs : List Char} (hlen : xs.length = ys.length) :
    xs ++ us < ys ++ vs ↔ xs < ys ∨ xs = ys ∧ us < vs := by
  induction xs generalizing ys with
  | nil =>
      obtain rfl := List.length_eq_zero_iff.mp hlen.symm
      simp
  | cons x xs ih =>
      cases ys with
      | nil => cases hlen
      | cons y ys =>
          rw [List.cons_append, List.cons_append, List.cons_lt_cons_iff, List.cons_lt_cons_iff,
            ih (Nat.succ.inj hlen), List.cons.injEq]
          tauto

end Zcaprio.Decimal
