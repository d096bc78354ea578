import Zcaprio.Metatheory.Encoding
import Zcaprio.Native.Policy

/-!
# Verifier scopes

The language the byte test accepts, over arbitrary text, and the number a scope
is packed into: 31 bytes, so below the field modulus.
-/

namespace Zcaprio

/-! ## The grammar -/

def isScopeStart (c : Char) : Bool := ('a' ≤ c ∧ c ≤ 'z') ∨ ('0' ≤ c ∧ c ≤ '9')

def isScopeChar (c : Char) : Bool := isScopeStart c ∨ c = '_' ∨ c = '-'

/-- One to thirty characters, of which the first is a lower-case letter or a digit. -/
def IsScope (text : String) : Prop :=
  ∃ c cs, text.toList = c :: cs ∧ (c :: cs).length ≤ 30 ∧ isScopeStart c = true ∧
    ∀ d ∈ cs, isScopeChar d = true

/-- The byte test at a later place does not depend on the place. -/
theorem scopeByte_succ (index : ℕ) (byte : UInt8) :
    scopeByte (index + 1) byte = scopeByte 1 byte := by
  simp [scopeByte]

theorem all_zipIdx_scopeByte (bs : List UInt8) (index : ℕ) :
    ((bs.zipIdx (index + 1)).all fun entry => scopeByte entry.2 entry.1) =
      bs.all (scopeByte 1) := by
  induction bs generalizing index with
  | nil => rfl
  | cons b bs ih => rw [List.zipIdx_cons, List.all_cons, List.all_cons, ih, scopeByte_succ]

/-- The enumerated test is one test for the first byte and another for the rest. -/
theorem scopeBytes_cons {value : String} {b : UInt8} {bs : List UInt8} (h : utf8 value = b :: bs) :
    scopeBytes value = (scopeByte 0 b && bs.all (scopeByte 1)) := by
  unfold scopeBytes
  rw [h, List.zipIdx_cons, List.all_cons, all_zipIdx_scopeByte]

/-- The first byte has no more choice than the others. -/
theorem scopeByte_one_of_zero {byte : UInt8} (h : scopeByte 0 byte = true) :
    scopeByte 1 byte = true := by
  simp only [scopeByte, decide_eq_true_iff] at h ⊢
  rcases h with h | h | h
  · exact Or.inl h
  · exact Or.inr (Or.inl h)
  · exact absurd h.1 (lt_irrefl 0)

theorem scopeByte_lt {byte : UInt8} (h : scopeByte 1 byte = true) : byte.toNat < 128 := by
  rcases of_decide_eq_true h with ⟨-, hle⟩ | ⟨-, hle⟩ | ⟨-, rfl | rfl⟩
  · exact Digits.byte_lt_of_le hle (by decide)
  · exact Digits.byte_lt_of_le hle (by decide)
  · decide
  · decide

/-- Below 128 the test of a byte is the test of its character. -/
theorem scopeByte_ofNat {c : Char} (h : c.toNat < 128) :
    scopeByte 0 (UInt8.ofNat c.toNat) = isScopeStart c ∧
      scopeByte 1 (UInt8.ofNat c.toNat) = isScopeChar c := by
  apply Utf8.ascii_induction _ h
  decide

theorem isScopeStart_lt {c : Char} (h : isScopeStart c = true) : c.toNat < 128 := by
  have hle {d : Char} (hd : d.toNat < 128) (hc : c ≤ d) : c.toNat < 128 :=
    lt_of_le_of_lt (Char.le_def.mp hc) hd
  rcases of_decide_eq_true h with ⟨-, hc⟩ | ⟨-, hc⟩
  · exact hle (by decide) hc
  · exact hle (by decide) hc

theorem isScopeChar_lt {c : Char} (h : isScopeChar c = true) : c.toNat < 128 := by
  rcases of_decide_eq_true h with hstart | rfl | rfl
  · exact isScopeStart_lt hstart
  · decide
  · decide

theorem isScopeChar_of_start {c : Char} (h : isScopeStart c = true) : isScopeChar c = true :=
  decide_eq_true (Or.inl h)

theorem not_isWhitespace {c : Char} (h : isScopeChar c = true) : isWhitespace c = false := by
  have hc := isScopeChar_lt h
  revert h
  apply Utf8.ascii_induction _ hc
  decide

/-! ## Acceptance -/

namespace VerifierScope

/-- Accepted text is in the grammar. -/
theorem isScope (scope : VerifierScope) : IsScope scope.value := by
  obtain ⟨hempty, hlen, hbytes⟩ := scope.valid
  rcases hutf8 : utf8 scope.value with _ | ⟨b, bs⟩
  · -- no bytes is no text, which trims to no text
    have hvalue : scope.value = "" := utf8_injective hutf8
    rw [hvalue] at hempty
    exact absurd (by decide) hempty
  · rw [scopeBytes_cons hutf8, Bool.and_eq_true] at hbytes
    obtain ⟨hfirst, hrest⟩ := hbytes
    have hascii : ∀ byte ∈ Utf8.encode scope.value.toList, byte.toNat < 128 := by
      intro byte hbyte
      have hbyte : byte ∈ utf8 scope.value := hbyte
      rw [hutf8] at hbyte
      rcases List.mem_cons.mp hbyte with rfl | hmem
      · exact scopeByte_lt (scopeByte_one_of_zero hfirst)
      · exact scopeByte_lt (List.all_eq_true.mp hrest byte hmem)
    obtain ⟨hmap, hchars⟩ := Utf8.encode_of_lt hascii
    have hmap : utf8 scope.value = scope.value.toList.map fun c => UInt8.ofNat c.toNat := hmap
    rw [hmap] at hutf8 hlen
    rcases hlist : scope.value.toList with _ | ⟨c, cs⟩
    · rw [hlist] at hutf8
      cases hutf8
    · rw [hlist] at hutf8 hlen hchars
      rw [List.map_cons, List.cons.injEq] at hutf8
      obtain ⟨rfl, rfl⟩ := hutf8
      refine ⟨c, cs, hlist, by simpa using hlen, ?_, ?_⟩
      · rw [← (scopeByte_ofNat (hchars c List.mem_cons_self)).1]
        exact hfirst
      · intro d hd
        rw [← (scopeByte_ofNat (hchars d (List.mem_cons_of_mem c hd))).2]
        exact List.all_eq_true.mp hrest _ (List.mem_map_of_mem hd)

/-- Text of the grammar is accepted, as it is. -/
theorem new_of_isScope {text : String} (h : IsScope text) :
    ∃ scope, new text = .ok scope ∧ scope.value = text := by
  obtain ⟨c, cs, hlist, hlen, hc, hcs⟩ := h
  have hall : ∀ d ∈ text.toList, isScopeChar d = true := by
    intro d hd
    rw [hlist] at hd
    rcases List.mem_cons.mp hd with rfl | hmem
    · exact isScopeChar_of_start hc
    · exact hcs d hmem
  have hutf8 : utf8 text = (c :: cs).map fun d => UInt8.ofNat d.toNat := by
    rw [← hlist]
    exact Utf8.encode_eq_map fun d hd => isScopeChar_lt (hall d hd)
  have htrim : trim text = text := trim_eq_self fun d hd => not_isWhitespace (hall d hd)
  have hempty : trim text ≠ "" := by
    rw [htrim]
    rintro rfl
    cases hlist
  have hshort : (utf8 text).length ≤ 30 := by
    rw [hutf8, List.length_map]
    exact hlen
  have hbytes : scopeBytes text = true := by
    rw [List.map_cons] at hutf8
    rw [scopeBytes_cons hutf8, Bool.and_eq_true, (scopeByte_ofNat (isScopeStart_lt hc)).1]
    refine ⟨hc, List.all_eq_true.mpr ?_⟩
    intro byte hbyte
    obtain ⟨d, hd, rfl⟩ := List.mem_map.mp hbyte
    rw [(scopeByte_ofNat (isScopeChar_lt (hcs d hd))).2]
    exact hcs d hd
  exact ⟨⟨text, hempty, hshort, hbytes⟩, new_value ⟨text, hempty, hshort, hbytes⟩, rfl⟩

/-- An accepted scope holds the text itself. -/
theorem value_of_new {text : String} {scope : VerifierScope} (h : new text = .ok scope) :
    scope.value = text := by
  unfold new at h
  split_ifs at h
  obtain rfl := Except.ok.inj h
  rfl

/-! ## Packing -/

/-- The packed number is below the modulus: 31 bytes. -/
theorem packed_lt_frModulus (scope : VerifierScope) :
    Digits.ofBytes (UInt8.ofNat (utf8 scope.value).length :: utf8 scope.value) < frModulus := by
  have hbound : 256 ^ 31 < frModulus := by decide
  refine (Digits.ofBytes_lt _).trans (lt_of_le_of_lt ?_ hbound)
  apply Nat.pow_le_pow_right (by decide)
  rw [List.length_cons]
  exact Nat.succ_le_succ scope.valid.2.1

/-- So the reduction identifies no two scopes. -/
theorem fieldElement_injective : Function.Injective fieldElement := by
  intro scope scope' h
  have hvalue := congrArg ZMod.val h
  unfold fieldElement at hvalue
  rw [ZMod.val_natCast_of_lt scope.packed_lt_frModulus,
    ZMod.val_natCast_of_lt scope'.packed_lt_frModulus] at hvalue
  have hshort := scope.valid.2.1
  have hshort' := scope'.valid.2.1
  have hbytes := Digits.ofBytes_length_cons_inj (by omega) (by omega) hvalue
  rcases scope with ⟨value, _⟩
  rcases scope' with ⟨value', _⟩
  obtain rfl : value = value' := utf8_injective hbytes
  rfl

/-- Scopes are exactly the texts of the grammar, kept unchanged; they are packed
below the modulus, and injectively. -/
theorem scope_exact :
    (∀ text : String, (∃ scope, new text = .ok scope) ↔ IsScope text) ∧
      (∀ (text : String) (scope : VerifierScope), new text = .ok scope → scope.value = text) ∧
      (∀ scope : VerifierScope, Digits.ofBytes
        (UInt8.ofNat (utf8 scope.value).length :: utf8 scope.value) < frModulus) ∧
      ∀ scope scope' : VerifierScope, scope.fieldElement = scope'.fieldElement →
        scope.value = scope'.value := by
  refine ⟨?_, ?_, packed_lt_frModulus, ?_⟩
  · intro text
    constructor
    · rintro ⟨scope, hnew⟩
      rw [← value_of_new hnew]
      exact scope.isScope
    · intro h
      obtain ⟨scope, hnew, -⟩ := new_of_isScope h
      exact ⟨scope, hnew⟩
  · intro text scope hnew
    exact value_of_new hnew
  · intro scope scope' h
    rw [fieldElement_injective h]

end VerifierScope

end Zcaprio
