import Zcaprio.Metatheory.Honest

/-!
# Poseidon preimages

The field elements that are hashed for each kind of opening. The sponge absorbs
by addition and marks no end, so zeros at the end of its input do not show; the
label in front still tells the kinds apart, and each kind has one length.
-/

namespace Zcaprio

/-- What is hashed: for a commitment to an age, an owner or further attributes,
or for a nullifier with the element of its scope. -/
inductive Preimage where
  | age (birthDay : BirthDay) (salt : AgeSalt)
  | owner (secret : WalletSecret)
  | attributes (country : Country) (role : Role) (salt : AgeSalt)
  | nullifier (secret : WalletSecret) (scopeField : Fr)

inductive PreimageKind where
  | Age
  | Owner
  | Attributes
  | Nullifier
  deriving DecidableEq

/-- The label of each hash. -/
def PreimageKind.label : PreimageKind → String
  | Age => ageDomainLabel
  | Owner => ownerDomainLabel
  | Attributes => attributeDomainLabel
  | Nullifier => nullifierDomainLabel

/-- The number of elements after the label. -/
def PreimageKind.arity : PreimageKind → ℕ
  | Age => 2
  | Owner => 1
  | Attributes => 3
  | Nullifier => 2

/-- Zeros up to a length. -/
def padTo (n : ℕ) (input : List Fr) : List Fr := input ++ List.replicate (n - input.length) 0

theorem padTo_cons (n : ℕ) (x : Fr) (input : List Fr) :
    padTo n (x :: input) = x :: padTo (n - 1) input := by
  unfold padTo
  rw [List.length_cons, List.cons_append, Nat.add_comm, Nat.sub_add_eq]

/-- Padding keeps lists of one length apart. -/
theorem padTo_inj {n : ℕ} {input input' : List Fr} (hlen : input.length = input'.length)
    (h : padTo n input = padTo n input') : input = input' :=
  (List.append_inj h hlen).1

namespace Preimage

def kind : Preimage → PreimageKind
  | age _ _ => .Age
  | owner _ => .Owner
  | attributes _ _ _ => .Attributes
  | nullifier _ _ => .Nullifier

section Components

variable [Chrono]

/-- The elements after the label. -/
def components : Preimage → List Fr
  | age birthDay salt => [(birthDay.daysSince1900 : Fr), salt.fieldElement]
  | owner secret => [secret.fieldElement]
  | attributes country role salt =>
      [country.fieldElement, role.fieldElement, salt.fieldElement]
  | nullifier secret scopeField => [secret.fieldElement, scopeField]

/-- The vector that is passed to the hash. -/
def elements (preimage : Preimage) : List Fr :=
  domain preimage.kind.label :: preimage.components

end Components

end Preimage

/-! ## Labels -/

/-- A label of at most 31 bytes is its own number. -/
theorem val_domain {label : String} (h : (utf8 label).length ≤ 31) :
    (domain label).val = Digits.ofBytes (utf8 label) := by
  have hbound : 256 ^ 31 < frModulus := by decide
  apply natCast_val_of_lt
  refine (Digits.ofBytes_lt _).trans (lt_of_le_of_lt ?_ hbound)
  exact Nat.pow_le_pow_right (by decide) h

theorem PreimageKind.length_label (kind : PreimageKind) : (utf8 kind.label).length ≤ 31 := by
  cases kind <;> decide

/-- The four labels are different numbers below the modulus. -/
theorem PreimageKind.domain_injective : Function.Injective fun kind : PreimageKind =>
    domain kind.label := by
  intro kind kind' h
  have hval := congrArg ZMod.val h
  simp only [val_domain (length_label kind), val_domain (length_label kind')] at hval
  revert hval
  cases kind <;> cases kind' <;> decide

/-! ## Components -/

section Components

variable [Chrono]

theorem BirthDay.ext_daysSince1900 {a b : BirthDay}
    (h : (a.daysSince1900 : Fr) = (b.daysSince1900 : Fr)) : a = b := by
  have hdays := congrArg ZMod.val h
  rw [natCast_val_of_lt (daysSince1900_lt a).2, natCast_val_of_lt (daysSince1900_lt b).2] at hdays
  have ha := a.daysSince1900_eq
  have hb := b.daysSince1900_eq
  apply BirthDay.ext
  apply Calendar.Date.dayNumber_injective
  omega

omit [Chrono] in
theorem Country.fieldElement_injective : Function.Injective Country.fieldElement := by
  intro c d h
  have hpacked := congrArg ZMod.val h
  unfold Country.fieldElement at hpacked
  rw [natCast_val_of_lt (packed_lt _ _),
    natCast_val_of_lt (packed_lt _ _), packed_inj] at hpacked
  rcases c with ⟨first, second, _⟩
  rcases d with ⟨first', second', _⟩
  obtain ⟨rfl, rfl⟩ := hpacked
  rfl

omit [Chrono] in
theorem Role.fieldElement_injective : Function.Injective Role.fieldElement := by
  intro r s h
  have hcode := congrArg ZMod.val h
  unfold Role.fieldElement at hcode
  rw [natCast_val_of_lt r.code_lt,
    natCast_val_of_lt s.code_lt] at hcode
  revert hcode
  cases r <;> cases s <;> decide

theorem Preimage.length_components (p : Preimage) : p.components.length = p.kind.arity := by
  cases p <;> rfl

/-- Openings of one kind are determined by their elements. -/
theorem Preimage.eq_of_components {p q : Preimage} (hkind : p.kind = q.kind)
    (h : p.components = q.components) : p = q := by
  cases p with
  | age birthDay salt =>
      cases q with
      | age birthDay' salt' =>
          simp only [components, List.cons.injEq, and_true] at h
          have hsalt : salt = salt' := congrArg AgeSalt.mk h.2
          rw [BirthDay.ext_daysSince1900 h.1, hsalt]
      | owner | attributes | nullifier => cases hkind
  | owner secret =>
      cases q with
      | owner secret' =>
          simp only [components, List.cons.injEq, and_true] at h
          have hsecret : secret = secret' := congrArg WalletSecret.mk h
          rw [hsecret]
      | age | attributes | nullifier => cases hkind
  | attributes country role salt =>
      cases q with
      | attributes country' role' salt' =>
          simp only [components, List.cons.injEq, and_true] at h
          obtain ⟨hcountry, hrole, hsaltElement⟩ := h
          have hsalt : salt = salt' := congrArg AgeSalt.mk hsaltElement
          rw [Country.fieldElement_injective hcountry, Role.fieldElement_injective hrole, hsalt]
      | age | owner | nullifier => cases hkind
  | nullifier secret scopeField =>
      cases q with
      | nullifier secret' scopeField' =>
          simp only [components, List.cons.injEq, and_true] at h
          have hsecret : secret = secret' := congrArg WalletSecret.mk h.1
          rw [hsecret, h.2]
      | age | owner | attributes => cases hkind

/-- Padded to any length, two vectors are the same only for the same opening. -/
theorem Preimage.padTo_elements_inj {p q : Preimage} {n : ℕ} :
    padTo n p.elements = padTo n q.elements ↔ p = q := by
  constructor
  · intro h
    unfold elements at h
    rw [padTo_cons, padTo_cons, List.cons.injEq] at h
    -- the labels tell the kinds apart, so the rests have one length
    have hkind : p.kind = q.kind := PreimageKind.domain_injective h.1
    have hlen : p.components.length = q.components.length := by
      rw [length_components, length_components, hkind]
    exact eq_of_components hkind (padTo_inj hlen h.2)
  · rintro rfl
    rfl

/-- The four functions hash the vectors of their openings, and these vectors
never coincide across kinds or openings, with any number of zeros at the end. -/
theorem preimages_separate [Hashes] :
    (∀ (birthDay : BirthDay) (salt : AgeSalt), commitAge birthDay salt =
        ⟨poseidonHash (Preimage.age birthDay salt).elements⟩) ∧
      (∀ secret : WalletSecret, commitOwner secret =
        ⟨poseidonHash (Preimage.owner secret).elements⟩) ∧
      (∀ (country : Country) (role : Role) (salt : AgeSalt), commitAttributes country role salt =
        ⟨poseidonHash (Preimage.attributes country role salt).elements⟩) ∧
      (∀ (secret : WalletSecret) (scope : VerifierScope), deriveNullifier secret scope =
        ⟨poseidonHash (Preimage.nullifier secret scope.fieldElement).elements⟩) ∧
      ∀ (p q : Preimage) (n : ℕ), padTo n p.elements = padTo n q.elements ↔ p = q := by
  refine ⟨?_, ?_, ?_, ?_, ?_⟩
  · intro birthDay salt
    rfl
  · intro secret
    rfl
  · intro country role salt
    rfl
  · intro secret scope
    rfl
  · intro p q n
    exact Preimage.padTo_elements_inj

end Components

end Zcaprio
