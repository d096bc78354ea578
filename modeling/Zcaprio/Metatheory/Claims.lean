import Zcaprio.Metatheory.Credential
import Zcaprio.Metatheory.Cutoff

/-!
# The claim block

What the last part of a leaf records for each kind of claim, and the integer
predicate its output bit decides.
-/

namespace Zcaprio

open Trace

/-! ## Predicates -/

/-- The claim on an opening, as integers. -/
def ClaimHolds (policy : VerificationPolicy) (opening : Opening) : ClaimKind → Prop
  | .AgeAbove years => (opening.birthDay.val : ℤ) ≤ days (cutoffDate policy years)
  | .AgeBelow years => days (cutoffDate policy years) < (opening.birthDay.val : ℤ)
  | .CountryIsEu => opening.country.val ∈ euCountryNumbers
  | .Role role => opening.role.val = role.code
  | .Custom => False

instance decidableClaimHolds (policy : VerificationPolicy) (opening : Opening) :
    ∀ claim, Decidable (ClaimHolds policy opening claim)
  | .AgeAbove _ => inferInstanceAs (Decidable (_ ≤ _))
  | .AgeBelow _ => inferInstanceAs (Decidable (_ < _))
  | .CountryIsEu => inferInstanceAs (Decidable (_ ∈ _))
  | .Role _ => inferInstanceAs (Decidable (_ = _))
  | .Custom => inferInstanceAs (Decidable False)

/-- The operand a comparison looks at is in its range. -/
def InRange (opening : Opening) : ClaimKind → Prop
  | .AgeAbove _ | .AgeBelow _ => opening.birthDay.val ≤ halfModulus
  | _ => True

/-- The cutoff of an age claim is a supported date. -/
def CutoffIsSupported (policy : VerificationPolicy) : ClaimKind → Prop
  | .AgeAbove years | .AgeBelow years =>
      firstDate ≤ cutoffDate policy years ∧ cutoffDate policy years ≤ lastDate
  | _ => True

/-- A claim a leaf can be compiled for at a policy: built in, with a supported cutoff. -/
def Supported (policy : VerificationPolicy) : ClaimKind → Prop
  | .AgeAbove years | .AgeBelow years => CutoffSupported policy years
  | .CountryIsEu | .Role _ => True
  | .Custom => False

instance decidableSupported (policy : VerificationPolicy) :
    ∀ claim, Decidable (Supported policy claim)
  | .AgeAbove _ | .AgeBelow _ => inferInstanceAs (Decidable (CutoffSupported _ _))
  | .CountryIsEu | .Role _ => inferInstanceAs (Decidable True)
  | .Custom => inferInstanceAs (Decidable False)

theorem supported_iff {policy : VerificationPolicy} {claim : ClaimKind} :
    Supported policy claim ↔ claim ≠ .Custom ∧ CutoffIsSupported policy claim := by
  cases claim <;> simp [Supported, CutoffIsSupported, cutoffSupported_iff]

/-! ## What the circuit records -/

/-- One equality for each code, and their disjunction. -/
def countryBlock (values : List Fr) (n : ℕ) : ConstraintSystem :=
  (values.map fun value => (.call (.isEq (.Var ⟨n + 1, 0⟩) (.Constant value)), [])) ++
    [(.call (.karyOr ((List.range values.length).map fun i => .Var ⟨n + 24 + i, 0⟩)), [])]

/-- The events of a claim on the credential of a leaf at step `n`. -/
def claimBlock (policy : VerificationPolicy) (n : ℕ) : ClaimKind → ConstraintSystem
  | .AgeAbove years =>
      [(.call (.isCmp (.Var ⟨n, 0⟩) (.Constant (cutoffElement policy years)) .lt true), [])]
  | .AgeBelow years =>
      [(.call (.isCmp (.Var ⟨n, 0⟩) (.Constant (cutoffElement policy years)) .gt false), [])]
  | .CountryIsEu => countryBlock euCountries n
  | .Role role => [(.call (.isEq (.Var ⟨n + 2, 0⟩) (.Constant role.fieldElement)), [])]
  | .Custom => []

/-- The number of events of a claim, less one: where its output stands. -/
def claimOutput : ClaimKind → ℕ
  | .CountryIsEu => euCountries.length
  | _ => 0

theorem length_claimBlock {policy : VerificationPolicy} {n : ℕ} {claim : ClaimKind}
    (h : claim ≠ .Custom) : (claimBlock policy n claim).length = claimOutput claim + 1 := by
  cases claim <;> simp_all [claimBlock, countryBlock, claimOutput]

theorem CredentialRelation.countryAmong_emits (values : List Fr) (n : ℕ) :
    Emits ((relationAt n).countryAmong values) (n + 24) (.Var ⟨n + 24 + values.length, 0⟩)
      (countryBlock values n) :=
  Emits.mapM_bind (fun value => callBoolean_emits (.isEq (.Var ⟨n + 1, 0⟩) (.Constant value)))
    (callBoolean_emits _ _)

section Emits

variable [Curve] [Chrono]

/-- A leaf with a supported claim records its credential block and its claim block. -/
theorem DirectTemplate.relation_emits {template : DirectTemplate} {policy : VerificationPolicy}
    (h : Supported policy template.claim) (credential : Option SignedAttributeCredential) (n : ℕ) :
    Emits (template.relation credential policy) n
      (.Var ⟨n + 24 + claimOutput template.claim, 0⟩)
      (credentialBlock template.issuer credential n ++ claimBlock policy n template.claim) := by
  obtain ⟨issuer, claim⟩ := template
  refine (CredentialRelation.enforce_emits issuer credential n).bind ?_
  rw [length_credentialBlock]
  cases claim with
  | AgeAbove years =>
      exact (Emits.lift (cutoff_of_supported h) _).bind (callBoolean_emits _ _)
  | AgeBelow years =>
      exact (Emits.lift (cutoff_of_supported h) _).bind (callBoolean_emits _ _)
  | CountryIsEu => exact CredentialRelation.countryAmong_emits euCountries n
  | Role role => exact callBoolean_emits _ _
  | Custom => exact h.elim

end Emits

/-! ## Small constants in the field -/

theorem natCast_val_of_lt {m : ℕ} (h : m < frModulus) : (m : Fr).val = m := ZMod.val_natCast_of_lt h

/-- A field element equals a small constant when its integer does. -/
theorem eq_natCast_iff {x : Fr} {m : ℕ} (h : m < frModulus) : x = (m : Fr) ↔ x.val = m := by
  constructor
  · rintro rfl
    exact natCast_val_of_lt h
  · intro hx
    rw [← hx, ZMod.natCast_zmod_val]

theorem cutoffElement_val {policy : VerificationPolicy} {years : UInt8} (h : CutoffSupported policy years) :
    ((cutoffElement policy years).val : ℤ) = days (cutoffDate policy years) ∧
      (cutoffElement policy years).val < halfModulus := by
  obtain ⟨hlow, hhigh⟩ := days_cutoff_bounds h
  have hlt : (days (cutoffDate policy years)).toNat < frModulus := by
    have hbound : 73048 < frModulus := by decide
    omega
  have hhalf : 73048 < halfModulus := by decide
  rw [cutoffElement, natCast_val_of_lt hlt]
  omega

theorem euCountryNumbers_lt : ∀ m ∈ euCountryNumbers, m < frModulus := by decide

theorem Role.code_lt (role : Role) : role.code < frModulus := by
  cases role <;> decide

/-! ## What the constraints say -/

section Meaning

variable [Gadgets] {w : Assignment Fr} {n : ℕ} {policy : VerificationPolicy}

theorem countryBlock_scoped (values : List Fr) : Scoped (n + 24) (countryBlock values n).shape := by
  unfold countryBlock
  rw [shape_append, Scoped, along_append, length_shape, List.length_map]
  refine ⟨?_, ?_, trivial⟩
  · unfold System.shape
    rw [List.map_map, along_map]
    intro i value _
    refine reads_call_lt ?_ (by simp [Gadget.bools])
    simp [Gadget.fields, FpVar.reads]
    omega
  · refine reads_call_lt (by simp [Gadget.fields]) ?_
    intro b hb v hv
    obtain ⟨i, hi, rfl⟩ := List.mem_map.mp hb
    obtain rfl := List.mem_singleton.mp hv
    have := List.mem_range.mp hi
    show n + 24 + i < n + 24 + values.length
    omega

theorem claimBlock_scoped (claim : ClaimKind) :
    Scoped (n + 24) (claimBlock policy n claim).shape := by
  have hnil : ∀ b ∈ ([] : List Boolean), ∀ v ∈ b.reads, v.step < n + 24 := by simp
  have hreads {m : ℕ} (h : m < 24) (c : Fr) :
      ∀ x ∈ [FpVar.Var ⟨n + m, 0⟩, .Constant c], ∀ v ∈ x.reads, v.step < n + 24 := by
    simp [FpVar.reads, h]
  cases claim with
  | AgeAbove years => exact ⟨reads_call_lt (hreads (m := 0) (by decide) _) hnil, trivial⟩
  | AgeBelow years => exact ⟨reads_call_lt (hreads (m := 0) (by decide) _) hnil, trivial⟩
  | CountryIsEu => exact countryBlock_scoped euCountries
  | Role role => exact ⟨reads_call_lt (hreads (m := 2) (by decide) _) hnil, trivial⟩
  | Custom => trivial

/-- The output bit of a country block is membership. -/
theorem countryBlock_spec {values : List Fr} (hvalues : values ≠ [])
    (h : Determined w (n + 24) (countryBlock values n).shape) :
    Satisfies w (n + 24) (countryBlock values n).shape ∧
      w ⟨n + 24 + values.length, 0⟩ = bit (w ⟨n + 1, 0⟩ ∈ values) := by
  unfold countryBlock at h
  rw [shape_append, Determined, along_append, length_shape, List.length_map] at h
  unfold countryBlock
  rw [shape_append, Satisfies, along_append, length_shape, List.length_map]
  unfold System.shape at h ⊢
  rw [List.map_map, along_map] at h ⊢
  obtain ⟨hequal, hor, -⟩ := h
  have hrow (i : ℕ) (value : Fr) (hi : values[i]? = some value) :=
    determined_isEq (hequal i value hi)
  obtain ⟨horrow, horok⟩ := determined_karyOr hor (by simpa using hvalues)
  refine ⟨⟨?_, horok, trivial⟩, horrow.trans (congrArg bit ?_)⟩
  · intro i value hi
    exact (hrow i value hi).2
  rw [Bool.eq_iff_iff, List.any_eq_true, decide_eq_true_iff, List.mem_iff_getElem?]
  constructor
  · rintro ⟨b, hb, hvalue⟩
    obtain ⟨i, hi, rfl⟩ := List.mem_map.mp hb
    obtain ⟨value, hget⟩ : ∃ value, values[i]? = some value :=
      ⟨_, List.getElem?_eq_getElem (List.mem_range.mp hi)⟩
    rw [Boolean.value, (hrow i value hget).1, ofBit_bit, decide_eq_true_iff] at hvalue
    exact ⟨i, hget.trans (congrArg some hvalue.symm)⟩
  · rintro ⟨i, hget⟩
    have hi : i < values.length := (List.getElem?_eq_some_iff.mp hget).1
    refine ⟨_, List.mem_map.mpr ⟨i, List.mem_range.mpr hi, rfl⟩, ?_⟩
    rw [Boolean.value, (hrow i _ hget).1, ofBit_bit]
    exact decide_eq_true rfl

/-- In a determined claim block, the constraints say that a compared birth day
is in range, and in range the output bit decides the claim. -/
theorem claimBlock_spec {claim : ClaimKind} (hsupported : Supported policy claim)
    (h : Determined w (n + 24) (claimBlock policy n claim).shape) :
    (Satisfies w (n + 24) (claimBlock policy n claim).shape ↔ InRange (openingAt w n) claim) ∧
      (InRange (openingAt w n) claim →
        w ⟨n + 24 + claimOutput claim, 0⟩ = bit (ClaimHolds policy (openingAt w n) claim)) := by
  cases claim with
  | AgeAbove years =>
      obtain ⟨hval, hhalf⟩ := cutoffElement_val hsupported
      -- `<` or equal, so the cutoff needs a successor in range
      obtain ⟨hok, hrow⟩ := determined_isCmp h.1 (Or.inl ⟨rfl, fun _ => hhalf⟩)
      constructor
      · constructor
        · rintro ⟨henforced, -⟩
          exact (hok.mp henforced).1
        · intro hrange
          exact ⟨hok.mpr ⟨hrange, hhalf.le⟩, trivial⟩
      · intro hrange
        refine (hrow hrange hhalf.le).trans (congrArg bit (decide_eq_decide.mpr ?_))
        rw [Nat.compare_eq_lt, ClaimHolds, ← hval, Nat.cast_le, Nat.le_iff_lt_or_eq]
        exact or_congr_right ((and_iff_right rfl).trans (ZMod.val_injective _).eq_iff.symm)
  | AgeBelow years =>
      obtain ⟨hval, hhalf⟩ := cutoffElement_val hsupported
      -- strictly greater
      obtain ⟨hok, hrow⟩ := determined_isCmp h.1 (Or.inr ⟨rfl, by simp⟩)
      constructor
      · constructor
        · rintro ⟨henforced, -⟩
          exact (hok.mp henforced).1
        · intro hrange
          exact ⟨hok.mpr ⟨hrange, hhalf.le⟩, trivial⟩
      · intro hrange
        refine (hrow hrange hhalf.le).trans (congrArg bit (decide_eq_decide.mpr ?_))
        rw [Nat.compare_eq_gt, ClaimHolds, ← hval, Nat.cast_lt]
        exact or_iff_left (by simp)
  | CountryIsEu =>
      obtain ⟨hok, hrow⟩ := countryBlock_spec (by decide) h
      refine ⟨iff_of_true hok trivial, fun _ => hrow.trans (congrArg bit (decide_eq_decide.mpr ?_))⟩
      -- the codes are far below the modulus, so the field tells them apart
      unfold euCountries
      rw [List.mem_map, ClaimHolds]
      constructor
      · rintro ⟨m, hm, hx⟩
        rwa [show (openingAt w n).country.val = m from
          (eq_natCast_iff (euCountryNumbers_lt m hm)).mp hx.symm]
      · intro hm
        exact ⟨_, hm, ((eq_natCast_iff (euCountryNumbers_lt _ hm)).mpr rfl).symm⟩
  | Role role =>
      obtain ⟨hrow, hok⟩ := determined_isEq h.1
      refine ⟨iff_of_true ⟨hok, trivial⟩ trivial, ?_⟩
      intro _
      exact hrow.trans (congrArg bit (decide_eq_decide.mpr (eq_natCast_iff role.code_lt)))
  | Custom => exact hsupported.elim

end Meaning

end Zcaprio
