import Zcaprio.Metatheory.Encoding
import Zcaprio.Native.Claim

/-!
# Country codes and claim names

Both are text that was checked byte by byte. The grammars are stated over
characters, and the `expect` calls that rely on the checks do not panic.
-/

namespace Zcaprio

/-- A text is decoded from its own bytes. -/
theorem fromUtf8_utf8 (s : String) : fromUtf8 (utf8 s) = some s.toList := by
  have hbytes : (utf8 s).toByteArray = s.toList.utf8Encode := rfl
  rw [fromUtf8, hbytes, List.utf8Decode?_utf8Encode, Option.map_some]

/-! ## Country codes -/

namespace Country

def isCapital (c : Char) : Bool := 65 ≤ c.toNat ∧ c.toNat ≤ 90

/-- Two capital letters. -/
def IsCode (text : String) : Prop :=
  ∃ a b, text.toList = [a, b] ∧ isCapital a = true ∧ isCapital b = true

/-- The two letters. -/
def text (country : Country) : String :=
  String.ofList [Char.ofNat country.first.toNat, Char.ofNat country.second.toNat]

theorem char_of_uppercase {byte : UInt8} (h : isAsciiUppercase byte = true) :
    isCapital (Char.ofNat byte.toNat) = true ∧
      String.utf8EncodeChar (Char.ofNat byte.toNat) = [byte] := by
  have hbyte : byte.toNat < 128 := Digits.byte_lt_of_le (of_decide_eq_true h).2 (by decide)
  revert h
  apply Digits.byte_induction _ hbyte
  decide

theorem utf8_text (country : Country) : utf8 country.text = [country.first, country.second] := by
  obtain ⟨hfirst, hsecond⟩ := country.uppercase
  unfold utf8 text
  rw [String.toList_ofList, List.flatMap_cons, List.flatMap_singleton,
    (char_of_uppercase hfirst).2, (char_of_uppercase hsecond).2]
  rfl

theorem isCode_text (country : Country) : IsCode country.text := by
  obtain ⟨hfirst, hsecond⟩ := country.uppercase
  exact ⟨_, _, String.toList_ofList, (char_of_uppercase hfirst).1, (char_of_uppercase hsecond).1⟩

/-- The bytes of a country are text. -/
theorem code_eq (country : Country) : country.code = .ok country.text := by
  rw [code, ← utf8_text, fromUtf8_utf8, Option.map_some, String.ofList_toList]
  rfl

theorem exact_tryFrom : Exact (fun _ => True) ProofError.InvalidCredential text tryFrom := by
  apply Exact.of_cases
  · intro country _
    unfold tryFrom
    rw [utf8_text]
    exact dif_pos country.uppercase
  · intro value
    unfold tryFrom
    split
    · rename_i first second hbytes
      by_cases h : isAsciiUppercase first = true ∧ isAsciiUppercase second = true
      · refine Or.inr ⟨⟨first, second, h⟩, trivial, ?_⟩
        apply utf8_injective
        rw [utf8_text, hbytes]
      · exact Or.inl (dif_neg h)
    · exact Or.inl rfl

theorem uppercase_of_isCapital {c : Char} (h : isCapital c = true) :
    String.utf8EncodeChar c = [UInt8.ofNat c.toNat] ∧
      isAsciiUppercase (UInt8.ofNat c.toNat) = true := by
  have hlt : c.toNat < 128 := by
    have hle : 65 ≤ c.toNat ∧ c.toNat ≤ 90 := of_decide_eq_true h
    exact lt_of_le_of_lt hle.2 (by decide)
  revert h
  apply Utf8.ascii_induction _ hlt
  decide

/-- The texts of countries are the codes. -/
theorem exists_text {value : String} (h : IsCode value) : ∃ country : Country, country.text = value := by
  obtain ⟨a, b, hlist, ha, hb⟩ := h
  obtain ⟨hbytea, hua⟩ := uppercase_of_isCapital ha
  obtain ⟨hbyteb, hub⟩ := uppercase_of_isCapital hb
  refine ⟨⟨_, _, hua, hub⟩, utf8_injective ?_⟩
  rw [utf8_text]
  unfold utf8
  rw [hlist, List.flatMap_cons, List.flatMap_singleton, hbytea, hbyteb]
  rfl

/-- Exactly the codes are countries, of which `code` returns the text and never panics. -/
theorem country_exact :
    (∀ value : String, (∃ country, tryFrom value = .ok country) ↔ IsCode value) ∧
      (∀ value : String, ¬ IsCode value → tryFrom value = .error .InvalidCredential) ∧
      (∀ (value : String) (country : Country),
        tryFrom value = .ok country ↔ country.code = .ok value) ∧
      ∀ country : Country, ∃ value, country.code = .ok value := by
  refine ⟨?_, ?_, ?_, fun country => ⟨_, country.code_eq⟩⟩
  · intro value
    simp only [exact_tryFrom.ok_iff, true_and]
    constructor
    · rintro ⟨country, rfl⟩
      exact country.isCode_text
    · exact exists_text
  · intro value h
    apply exact_tryFrom.reject
    rintro country - rfl
    exact h country.isCode_text
  · intro value country
    rw [exact_tryFrom.ok_iff, true_and, code_eq, Except.ok.injEq]

end Country

/-! ## Claim names -/

namespace ClaimName

def isNameChar (c : Char) : Bool :=
  (48 ≤ c.toNat ∧ c.toNat ≤ 57) ∨ (65 ≤ c.toNat ∧ c.toNat ≤ 90) ∨ (97 ≤ c.toNat ∧ c.toNat ≤ 122) ∨
    c.toNat = 45 ∨ c.toNat = 95

/-- Up to 64 letters, digits, hyphens and underscores. -/
def IsName (text : String) : Prop :=
  text.toList ≠ [] ∧ text.toList.length ≤ 64 ∧ ∀ c ∈ text.toList, isNameChar c = true

theorem isClaimNameByte_ofNat {c : Char} (h : c.toNat < 128) :
    isClaimNameByte (UInt8.ofNat c.toNat) = isNameChar c := by
  apply Utf8.ascii_induction _ h
  decide

theorem isNameChar_lt {c : Char} (h : isNameChar c = true) : c.toNat < 128 := by
  have hcode := of_decide_eq_true h
  omega

/-- All bytes of a name are below 128. -/
theorem lt_of_isClaimNameByte {byte : UInt8} (h : isClaimNameByte byte = true) :
    byte.toNat < 128 := by
  rcases of_decide_eq_true h with ⟨-, hle⟩ | ⟨-, hle⟩ | ⟨-, hle⟩ | rfl | rfl
  · exact Digits.byte_lt_of_le hle (by decide)
  · exact Digits.byte_lt_of_le hle (by decide)
  · exact Digits.byte_lt_of_le hle (by decide)
  · decide
  · decide

/-- The byte tests of the constructor accept the names. -/
theorem isName_iff (text : String) :
    (text ≠ "" ∧ (utf8 text).length ≤ 64 ∧ (utf8 text).all isClaimNameByte = true) ↔
      IsName text := by
  have hempty : text.toList ≠ [] ↔ text ≠ "" := by
    rw [Ne, Ne, String.toList_eq_nil_iff]
  rw [IsName, hempty]
  apply and_congr_right
  intro _
  constructor
  · rintro ⟨hlen, hall⟩
    have hascii : ∀ byte ∈ Utf8.encode text.toList, byte.toNat < 128 :=
      fun byte hbyte => lt_of_isClaimNameByte (List.all_eq_true.mp hall byte hbyte)
    obtain ⟨hmap, hchars⟩ := Utf8.encode_of_lt hascii
    have hmap : utf8 text = text.toList.map fun c => UInt8.ofNat c.toNat := hmap
    rw [hmap] at hlen hall
    refine ⟨by simpa using hlen, ?_⟩
    intro c hc
    rw [← isClaimNameByte_ofNat (hchars c hc)]
    exact List.all_eq_true.mp hall _ (List.mem_map_of_mem hc)
  · rintro ⟨hlen, hall⟩
    have hascii : ∀ c ∈ text.toList, c.toNat < 128 := fun c hc => isNameChar_lt (hall c hc)
    have hmap : utf8 text = text.toList.map fun c => UInt8.ofNat c.toNat :=
      Utf8.encode_eq_map hascii
    rw [hmap, List.length_map, List.all_map]
    refine ⟨hlen, List.all_eq_true.mpr ?_⟩
    intro c hc
    exact (isClaimNameByte_ofNat (hascii c hc)).trans (hall c hc)

theorem exact_tryFrom : Exact (fun _ => True) ProofError.UnsupportedClaim value tryFrom := by
  apply Exact.of_cases
  · intro name _
    exact dif_pos name.valid
  · intro text
    unfold tryFrom
    split
    · rename_i h
      exact Or.inr ⟨⟨text, h⟩, trivial, rfl⟩
    · exact Or.inl rfl

end ClaimName

/-- The names of the exported claims. -/
def ClaimKind.nameText : ClaimKind → String
  | .AgeAbove years => "age_is_above_" ++ toString years.toNat
  | .AgeBelow years => "age_is_below_" ++ toString years.toNat
  | .CountryIsEu => "country_is_eu"
  | .Role _ => "role_is"
  | .Custom => ""

namespace Claim

theorem BuiltIn.name_eq {claim : Claim} (h : BuiltIn claim) :
    claim.name = builtInName claim.kind.nameText := by
  cases h with
  | ageIsAbove years =>
      unfold Claim.ageIsAbove
      rw [ClaimKind.nameText]
  | ageIsBelow years =>
      unfold Claim.ageIsBelow
      rw [ClaimKind.nameText]
  | countryIsEu =>
      unfold Claim.countryIsEu
      rw [ClaimKind.nameText]
  | roleIs role =>
      unfold Claim.roleIs
      rw [ClaimKind.nameText]

/-- A stem of at most 16 characters, and the digits of a threshold. -/
theorem isName_years {stem : String} (hstem : ClaimName.IsName stem)
    (hlen : stem.toList.length ≤ 16) (years : UInt8) :
    ClaimName.IsName (stem ++ toString years.toNat) := by
  obtain ⟨hne, -, hall⟩ := hstem
  have hlist : (stem ++ toString years.toNat).toList =
      stem.toList ++ Nat.toDigits 10 years.toNat := by
    rw [String.toList_append, Nat.toString_eq_ofList_toDigits, String.toList_ofList]
  have hdigits : (Nat.toDigits 10 years.toNat).length ≤ 3 :=
    (Nat.length_toDigits_le_iff (by decide) (by decide)).mpr
      (years.toNat_lt.trans (by decide))
  unfold ClaimName.IsName
  rw [hlist]
  refine ⟨?_, ?_, ?_⟩
  · intro hnil
    exact hne (List.append_eq_nil_iff.mp hnil).1
  · rw [List.length_append]
    omega
  · intro c hc
    rcases List.mem_append.mp hc with hc | hc
    · exact hall c hc
    · have hdigit := Char.isDigit_iff_toNat.mp
        (Nat.isDigit_of_mem_toDigits (by decide) (by decide) hc)
      exact decide_eq_true (Or.inl hdigit)

/-- The names of the relations are claim names, for all thresholds. -/
theorem isName_nameText {kind : ClaimKind} (h : kind ≠ .Custom) :
    ClaimName.IsName kind.nameText := by
  cases kind with
  | AgeAbove years =>
      have hstem : ClaimName.IsName "age_is_above_" :=
        ⟨by simp, by simp, by simp [ClaimName.isNameChar]⟩
      exact isName_years hstem (by simp) years
  | AgeBelow years =>
      have hstem : ClaimName.IsName "age_is_below_" :=
        ⟨by simp, by simp, by simp [ClaimName.isNameChar]⟩
      exact isName_years hstem (by simp) years
  | CountryIsEu =>
      have hname : ClaimName.IsName "country_is_eu" :=
        ⟨by simp, by simp, by simp [ClaimName.isNameChar]⟩
      exact hname
  | Role role =>
      have hname : ClaimName.IsName "role_is" :=
        ⟨by simp, by simp, by simp [ClaimName.isNameChar]⟩
      exact hname
  | Custom => exact absurd rfl h

/-- Two stems of one length and two thresholds. -/
theorem years_inj {stem stem' : String} {years years' : UInt8}
    (h : stem ++ toString years.toNat = stem' ++ toString years'.toNat)
    (hlen : stem.toList.length = stem'.toList.length) : stem = stem' ∧ years = years' := by
  have hlist := congrArg String.toList h
  rw [String.toList_append, String.toList_append] at hlist
  obtain ⟨hstem, hyears⟩ := List.append_inj hlist hlen
  refine ⟨String.toList_injective hstem, UInt8.toNat_inj.mp ?_⟩
  rw [Nat.toString_eq_ofList_toDigits, Nat.toString_eq_ofList_toDigits, String.toList_ofList,
    String.toList_ofList] at hyears
  rw [← Nat.ofDigitChars_ten_toDigits (n := years.toNat), hyears, Nat.ofDigitChars_ten_toDigits]

/-- The first letters tell the relations apart, but for the two thresholds. -/
theorem head?_nameText (kind : ClaimKind) :
    kind.nameText.toList.head? = match kind with
      | .AgeAbove _ | .AgeBelow _ => some 'a'
      | .CountryIsEu => some 'c'
      | .Role _ => some 'r'
      | .Custom => none := by
  cases kind <;> simp [ClaimKind.nameText]

theorem nameText_inj {kind kind' : ClaimKind} (h : kind.nameText = kind'.nameText) :
    kind = kind' ∨ ∃ role role', kind = .Role role ∧ kind' = .Role role' := by
  have hhead := congrArg (fun text => text.toList.head?) h
  simp only [head?_nameText] at hhead
  cases kind with
  | AgeAbove years =>
      cases kind' with
      | AgeAbove years' =>
          rw [ClaimKind.nameText, ClaimKind.nameText] at h
          obtain ⟨-, rfl⟩ := years_inj h rfl
          exact Or.inl rfl
      | AgeBelow years' =>
          rw [ClaimKind.nameText, ClaimKind.nameText] at h
          exact absurd (years_inj h (by simp)).1 (by simp)
      | CountryIsEu | Role | Custom => cases hhead
  | AgeBelow years =>
      cases kind' with
      | AgeAbove years' =>
          rw [ClaimKind.nameText, ClaimKind.nameText] at h
          exact absurd (years_inj h (by simp)).1 (by simp)
      | AgeBelow years' =>
          rw [ClaimKind.nameText, ClaimKind.nameText] at h
          obtain ⟨-, rfl⟩ := years_inj h rfl
          exact Or.inl rfl
      | CountryIsEu | Role | Custom => cases hhead
  | CountryIsEu =>
      cases kind' with
      | CountryIsEu => exact Or.inl rfl
      | AgeAbove | AgeBelow | Role | Custom => cases hhead
  | Role role =>
      cases kind' with
      | Role role' => exact Or.inr ⟨role, role', rfl, rfl⟩
      | AgeAbove | AgeBelow | CountryIsEu | Custom => cases hhead
  | Custom =>
      cases kind' with
      | Custom => exact Or.inl rfl
      | AgeAbove | AgeBelow | CountryIsEu | Role => cases hhead

/-- The constructor takes the names of the exported claims. -/
theorem BuiltIn.exists_name {claim : Claim} (h : BuiltIn claim) :
    ∃ name, claim.name = .ok name ∧ name.value = claim.kind.nameText := by
  have hname := isName_nameText h.kind_ne_custom
  have htry := ClaimName.exact_tryFrom.decode_encode
    ⟨claim.kind.nameText, (ClaimName.isName_iff _).mpr hname⟩ trivial
  refine ⟨⟨claim.kind.nameText, (ClaimName.isName_iff _).mpr hname⟩, ?_, rfl⟩
  rw [h.name_eq, builtInName, htry]
  rfl

/-- The exported claims have names, at every threshold, of the grammar. A name
tells the relation and the threshold, but not the role. -/
theorem builtIn_names :
    (∀ text : String, (∃ name, ClaimName.tryFrom text = .ok name) ↔ ClaimName.IsName text) ∧
      (∀ claim, BuiltIn claim → ∃ name, claim.name = .ok name) ∧
      ∀ claim claim', BuiltIn claim → BuiltIn claim' →
        (claim.name = claim'.name ↔ claim.kind = claim'.kind ∨
          ∃ role role', claim.kind = .Role role ∧ claim'.kind = .Role role') := by
  refine ⟨?_, ?_, ?_⟩
  · intro text
    rw [← ClaimName.isName_iff]
    simp only [ClaimName.exact_tryFrom.ok_iff, true_and]
    constructor
    · rintro ⟨name, rfl⟩
      exact name.valid
    · intro h
      exact ⟨⟨text, h⟩, rfl⟩
  · intro claim h
    obtain ⟨name, hname, -⟩ := h.exists_name
    exact ⟨name, hname⟩
  · intro claim claim' h h'
    constructor
    · intro heq
      obtain ⟨name, hname, hvalue⟩ := h.exists_name
      obtain ⟨name', hname', hvalue'⟩ := h'.exists_name
      rw [hname, hname', Except.ok.injEq] at heq
      apply nameText_inj
      rw [← hvalue, ← hvalue', heq]
    · rintro (hkind | ⟨role, role', hrole, hrole'⟩)
      · rw [h.name_eq, h'.name_eq, hkind]
      · rw [h.name_eq, h'.name_eq, hrole, hrole']
        unfold ClaimKind.nameText
        rfl

end Claim

end Zcaprio
