import Mathlib.Data.List.DropRight
import Zcaprio.Native.Age

/-!
# Verifier scopes, key fingerprints and the 18-year policy

`policy.rs`. The validated text types carry the check their constructor
made. The wire form of a policy is the record of its four texts.
-/

namespace Zcaprio

open Calendar

/-! ## Trimming -/

/-- `char::is_whitespace`: the Unicode property `White_Space`. -/
def isWhitespace (c : Char) : Bool :=
  let n := c.toNat
  (9 ≤ n ∧ n ≤ 13) ∨ n = 32 ∨ n = 0x85 ∨ n = 0xA0 ∨ n = 0x1680 ∨ (0x2000 ≤ n ∧ n ≤ 0x200A) ∨
    n = 0x2028 ∨ n = 0x2029 ∨ n = 0x202F ∨ n = 0x205F ∨ n = 0x3000

/-- `str::trim`. -/
def trim (value : String) : String :=
  String.ofList ((value.toList.dropWhile isWhitespace).rdropWhile isWhitespace)

theorem dropWhile_eq_self_of_prefix {p : Char → Bool} {xs ys : List Char} (h : ys <+: xs)
    (hx : xs.dropWhile p = xs) : ys.dropWhile p = ys := by
  cases ys with
  | nil => rfl
  | cons y ys =>
      obtain ⟨zs, rfl⟩ := h
      rw [List.cons_append, List.dropWhile_cons] at hx
      by_cases hy : p y = true
      · -- a dropped first character would make the list shorter
        rw [if_pos hy] at hx
        have hlen := congrArg List.length hx
        have hle := (List.dropWhile_suffix p (l := ys ++ zs)).length_le
        simp only [List.length_cons] at hlen
        omega
      · rw [List.dropWhile_cons, if_neg hy]

theorem trim_trim (value : String) : trim (trim value) = trim value := by
  have hfront : ((value.toList.dropWhile isWhitespace).rdropWhile isWhitespace).dropWhile
      isWhitespace = (value.toList.dropWhile isWhitespace).rdropWhile isWhitespace :=
    dropWhile_eq_self_of_prefix (List.rdropWhile_prefix _ _) (List.dropWhile_idempotent _ _)
  unfold trim
  rw [String.toList_ofList, hfront, List.rdropWhile_idempotent]

/-- Text without white space is left alone. -/
theorem trim_eq_self {value : String} (h : ∀ c ∈ value.toList, isWhitespace c = false) :
    trim value = value := by
  have hfront : value.toList.dropWhile isWhitespace = value.toList := by
    rw [List.dropWhile_eq_self_iff]
    intro hpos
    simp [h _ (List.getElem_mem hpos)]
  have hback : value.toList.rdropWhile isWhitespace = value.toList := by
    rw [List.rdropWhile_eq_self_iff]
    intro hne
    simp [h _ (List.getLast_mem hne)]
  unfold trim
  rw [hfront, hback, String.ofList_toList]

/-! ## Verifier scopes -/

def scopeByte (index : ℕ) (byte : UInt8) : Bool :=
  (97 ≤ byte ∧ byte ≤ 122) ∨ (48 ≤ byte ∧ byte ≤ 57) ∨ (0 < index ∧ (byte = 45 ∨ byte = 95))

/-- The byte test of `VerifierScope::new`, over the enumerated bytes. -/
def scopeBytes (value : String) : Bool :=
  (utf8 value).zipIdx.all fun entry => scopeByte entry.2 entry.1

structure VerifierScope where
  value : String
  valid : trim value ≠ "" ∧ (utf8 value).length ≤ 30 ∧ scopeBytes value = true
  deriving DecidableEq

namespace VerifierScope

def new (value : String) : Except PrimitiveError VerifierScope :=
  if hempty : trim value = "" then .error .EmptyVerifierScope
  else if h : (utf8 value).length > 30 ∨ ¬ scopeBytes value = true then
    .error .InvalidVerifierScope
  else .ok ⟨value, hempty, by simpa using h⟩

/-- Packs the length and the bytes as one little-endian number. -/
def fieldElement (scope : VerifierScope) : Fr :=
  (Digits.ofBytes (UInt8.ofNat (utf8 scope.value).length :: utf8 scope.value) : Fr)

/-- `Deserialize` through `TryFrom<String>`. -/
def deserialize (value : String) : Except String VerifierScope :=
  (new value).mapError PrimitiveError.message

theorem new_value (scope : VerifierScope) : new scope.value = .ok scope := by
  obtain ⟨hempty, hlen, hbytes⟩ := scope.valid
  unfold new
  rw [dif_neg hempty, dif_neg (by simp [hlen, hbytes])]

end VerifierScope

/-! ## Issuer-key fingerprints -/

structure IssuerKeyFingerprint where
  value : String
  valid : value ≠ "" ∧ trim value = value
  deriving DecidableEq

namespace IssuerKeyFingerprint

/-- Validates and normalizes: trims, then rejects the empty text. -/
def new (value : String) : Except PrimitiveError IssuerKeyFingerprint :=
  if h : trim value = "" then .error .InvalidCredential
  else .ok ⟨trim value, h, trim_trim value⟩

def deserialize (value : String) : Except String IssuerKeyFingerprint :=
  (new value).mapError PrimitiveError.message

theorem new_of_trimmed {value : String} (hne : value ≠ "") (h : trim value = value) :
    new value = .ok ⟨value, hne, h⟩ := by
  unfold new
  rw [dif_neg (by rw [h]; exact hne)]
  congr

theorem new_value (fingerprint : IssuerKeyFingerprint) :
    new fingerprint.value = .ok fingerprint :=
  new_of_trimmed fingerprint.valid.1 fingerprint.valid.2

end IssuerKeyFingerprint

/-! ## The 18-year policy -/

structure AgePolicy where
  issuerKeyFingerprint : IssuerKeyFingerprint
  asOfDay : BirthDay
  cutoffDay : BirthDay
  verifierScope : VerifierScope
  deriving DecidableEq

/-- The decoded fields of a wire object. -/
structure AgePolicyWire where
  issuerKeyFingerprint : IssuerKeyFingerprint
  asOfDay : BirthDay
  cutoffDay : BirthDay
  verifierScope : VerifierScope

/-- A wire object: the text of each field. -/
structure AgePolicyText where
  issuerKeyFingerprint : String
  asOfDay : String
  cutoffDay : String
  verifierScope : String

/-- `i32::checked_sub`. -/
def checkedSub (a b : ℤ) : Option ℤ :=
  if -(2 ^ 31) ≤ a - b ∧ a - b < 2 ^ 31 then some (a - b) else none

namespace AgePolicy

/-- The private `cutoff`: 18 years earlier, February 29 as February 28. -/
def cutoff (asOfDay : NaiveDate) : Except PrimitiveError NaiveDate :=
  match checkedSub asOfDay.year 18 with
  | none => .error .InvalidDate
  | some year =>
      let month := asOfDay.month
      let day := if month = 2 ∧ asOfDay.day = 29 then 28 else asOfDay.day
      match NaiveDate.fromYmdOpt year month day with
      | none => .error .InvalidDate
      | some date => .ok date

variable [Chrono]

/-- `from_as_of`. -/
def fromAsOf (asOfDay : BirthDay) (verifierScope : VerifierScope)
    (issuerKeyFingerprint : IssuerKeyFingerprint) : Except PrimitiveError AgePolicy := do
  let cutoffDate ← cutoff asOfDay.date
  let cutoffDay ← BirthDay.fromDate cutoffDate
  return { issuerKeyFingerprint, asOfDay, cutoffDay, verifierScope }

/-- The derived `Serialize`. -/
def serialize (policy : AgePolicy) : AgePolicyText where
  issuerKeyFingerprint := policy.issuerKeyFingerprint.value
  asOfDay := policy.asOfDay.toIsoString
  cutoffDay := policy.cutoffDay.toIsoString
  verifierScope := policy.verifierScope.value

end AgePolicy

section Wire

variable [Chrono]

/-- The derived `Deserialize` of the wire form. -/
def AgePolicyWire.deserialize (text : AgePolicyText) : Except String AgePolicyWire := do
  let issuerKeyFingerprint ← IssuerKeyFingerprint.deserialize text.issuerKeyFingerprint
  let asOfDay ← BirthDay.deserialize text.asOfDay
  let cutoffDay ← BirthDay.deserialize text.cutoffDay
  let verifierScope ← VerifierScope.deserialize text.verifierScope
  return { issuerKeyFingerprint, asOfDay, cutoffDay, verifierScope }

/-- The part of `AgePolicy::deserialize` after the fields were read: derive
the policy again and compare the redundant field. -/
def AgePolicy.ofWire (wire : AgePolicyWire) : Except String AgePolicy :=
  match AgePolicy.fromAsOf wire.asOfDay wire.verifierScope wire.issuerKeyFingerprint with
  | .error e => .error e.message
  | .ok policy =>
      if policy.cutoffDay ≠ wire.cutoffDay then .error PrimitiveError.InvalidCredential.message
      else .ok policy

/-- `Deserialize for AgePolicy`. -/
def AgePolicy.deserialize (text : AgePolicyText) : Except String AgePolicy := do
  let wire ← AgePolicyWire.deserialize text
  AgePolicy.ofWire wire

end Wire

/-! ## The cutoff is the calendar's -/

theorem year_yearsBefore (d : Date) (n : ℤ) : (d.yearsBefore n).year = d.year - n := rfl

/-- The computed date is the clamped date 18 years earlier. -/
theorem AgePolicy.cutoff_eq (b : BirthDay) :
    AgePolicy.cutoff b.date = .ok (b.date.yearsBefore 18) := by
  have hy := b.year_bounds
  have hsub : checkedSub b.date.year 18 = some (b.date.year - 18) := by
    rw [checkedSub, if_pos (by omega)]
  have hrange : NaiveDate.minYear ≤ (b.date.yearsBefore 18).year ∧
      (b.date.yearsBefore 18).year ≤ NaiveDate.maxYear := by
    rw [year_yearsBefore, NaiveDate.minYear, NaiveDate.maxYear]
    omega
  have hymd : NaiveDate.fromYmdOpt (b.date.year - 18) b.date.month
      (clampLeapDay b.date.month b.date.day) = some (b.date.yearsBefore 18) :=
    NaiveDate.fromYmdOpt_self _ hrange
  rw [clampLeapDay] at hymd
  simp only [AgePolicy.cutoff, hsub, hymd]

/-- A leap year minus 18 is never leap, so the clamp moves no existing day. -/
theorem not_clampMoves_18 (d : Date) : ¬ d.clampMoves 18 := by
  rintro ⟨hm, hd, hleap⟩
  have hvalid := d.valid.2
  rw [hm, hd] at hvalid
  have hyear : isLeap d.year = true := by
    cases h : isLeap d.year
    · simp [daysInMonth, h] at hvalid
    · rfl
  rw [isLeap_iff] at hyear hleap
  omega

section Results

variable [Chrono]

/-- Exactly the policy dates from 1918 on have a policy. -/
theorem AgePolicy.fromAsOf_eq (a : BirthDay) (scope : VerifierScope)
    (fingerprint : IssuerKeyFingerprint) :
    AgePolicy.fromAsOf a scope fingerprint =
      if h : 1918 ≤ a.date.year then
        .ok ⟨fingerprint, a, ⟨a.date.yearsBefore 18, (supported_iff_year _).mpr (by
          have := a.year_bounds
          rw [year_yearsBefore]
          omega)⟩, scope⟩
      else .error .InvalidDate := by
  have hy := a.year_bounds
  have hyear := year_yearsBefore a.date 18
  by_cases h : 1918 ≤ a.date.year
  · have hday := BirthDay.fromDate_of_supported (d := a.date.yearsBefore 18)
      ((supported_iff_year _).mpr (by omega))
    rw [dif_pos h]
    simp only [AgePolicy.fromAsOf, AgePolicy.cutoff_eq, bind, Except.bind, hday]
    rfl
  · -- the cutoff falls before 1900, and the range check of birth days rejects it
    have hday := BirthDay.fromDate_of_not_supported (d := a.date.yearsBefore 18)
      (by omega) (by omega) (by rw [supported_iff_year]; omega)
    rw [dif_neg h]
    simp only [AgePolicy.fromAsOf, AgePolicy.cutoff_eq, bind, Except.bind, hday]

/-- What a derived policy contains. -/
theorem AgePolicy.fromAsOf_ok {a : BirthDay} {scope : VerifierScope}
    {fingerprint : IssuerKeyFingerprint} {policy : AgePolicy}
    (h : AgePolicy.fromAsOf a scope fingerprint = .ok policy) :
    policy.asOfDay = a ∧ policy.verifierScope = scope ∧
      policy.issuerKeyFingerprint = fingerprint ∧
      policy.cutoffDay.date = a.date.yearsBefore 18 := by
  rw [AgePolicy.fromAsOf_eq] at h
  split at h
  · obtain rfl := Except.ok.inj h
    exact ⟨rfl, rfl, rfl, rfl⟩
  · cases h

/-- A decoded wire object is accepted exactly when it is the derived policy. -/
theorem AgePolicy.ofWire_ok_iff (wire : AgePolicyWire) (policy : AgePolicy) :
    AgePolicy.ofWire wire = .ok policy ↔
      AgePolicy.fromAsOf wire.asOfDay wire.verifierScope wire.issuerKeyFingerprint = .ok policy ∧
        policy.cutoffDay = wire.cutoffDay := by
  unfold AgePolicy.ofWire
  split
  · rename_i h
    simp [h]
  · rename_i derived h
    rw [h]
    split
    · rename_i hne
      constructor
      · intro hbad
        cases hbad
      · rintro ⟨heq, hcut⟩
        obtain rfl := Except.ok.inj heq
        exact absurd hcut hne
    · rename_i heq
      rw [not_not] at heq
      constructor
      · intro hok
        obtain rfl := Except.ok.inj hok
        exact ⟨rfl, heq⟩
      · rintro ⟨hok, -⟩
        rw [Except.ok.inj hok]

/-- Reading back the four texts of a policy gives its fields. -/
theorem AgePolicyWire.deserialize_serialize (policy : AgePolicy) :
    AgePolicyWire.deserialize policy.serialize =
      .ok ⟨policy.issuerKeyFingerprint, policy.asOfDay, policy.cutoffDay,
        policy.verifierScope⟩ := by
  simp [AgePolicyWire.deserialize, AgePolicy.serialize, IssuerKeyFingerprint.deserialize,
    IssuerKeyFingerprint.new_value, BirthDay.deserialize_toIsoString, VerifierScope.deserialize,
    VerifierScope.new_value, bind, Except.bind, Except.mapError, pure, Except.pure]

end Results

end Zcaprio
