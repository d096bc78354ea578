import Zcaprio.Framework.Codec
import Zcaprio.Framework.Decimal
import Zcaprio.Native.Age

/-!
# Birth days

The texts a birth day is read from, and three orders that agree: of the texts,
of the calendar, and of the 32-bit day numbers the circuit compares.
-/

namespace Zcaprio

open Calendar Decimal

/-! ## The date language -/

/-- Ten characters `YYYY-MM-DD` that name a date from 1900-01-01 to 2099-12-31. -/
def IsIsoDay (text : String) : Prop :=
  ∃ (year month day : List Char) (date : Date),
    text.toList = year ++ '-' :: month ++ '-' :: day ∧
      (year.length = 4 ∧ month.length = 2 ∧ day.length = 2) ∧
      (∀ c ∈ year ++ month ++ day, isDigit c = true) ∧
      (date.year = number year ∧ date.month = number month ∧ date.day = number day) ∧
      firstDate ≤ date ∧ date ≤ lastDate

namespace NaiveDate

/-- The formatter pads the fields. -/
theorem digit_eq (n : ℕ) : NaiveDate.digit n = Decimal.digit n := rfl

theorem twoDigits_eq (n : ℕ) : twoDigits n = padded 2 n := by
  simp [twoDigits, padded, digit_eq]

theorem fourDigits_eq (n : ℕ) : fourDigits n = padded 4 n := by
  simp [fourDigits, padded, digit_eq]

end NaiveDate

namespace BirthDay

/-- The text of a birth day is three padded fields. -/
theorem toList_toIsoString (b : BirthDay) :
    b.toIsoString.toList = padded 4 b.date.year.toNat ++ '-' :: padded 2 b.date.month ++
      '-' :: padded 2 b.date.day := by
  have hyear := b.year_bounds
  have hrange : 0 ≤ b.date.year ∧ b.date.year ≤ 9999 := by omega
  unfold toIsoString NaiveDate.format NaiveDate.formatYear
  rw [if_pos hrange, String.toList_ofList,
    NaiveDate.fourDigits_eq, NaiveDate.twoDigits_eq, NaiveDate.twoDigits_eq]

/-- Its fields fit their widths. -/
theorem number_fields (b : BirthDay) :
    number (padded 4 b.date.year.toNat) = b.date.year.toNat ∧
      number (padded 2 b.date.month) = b.date.month ∧
      number (padded 2 b.date.day) = b.date.day := by
  have hyear := b.year_bounds
  have hmonth := b.date.month_bounds
  have hday := b.date.day_le
  rw [number_padded, number_padded, number_padded]
  omega

theorem isIsoDay_toIsoString (b : BirthDay) : IsIsoDay b.toIsoString := by
  have hyear := b.year_bounds
  obtain ⟨hy, hm, hd⟩ := b.number_fields
  refine ⟨_, _, _, b.date, b.toList_toIsoString, ⟨by simp, by simp, by simp⟩, ?_, ⟨?_, ?_, ?_⟩,
    b.supported⟩
  · intro c hc
    rcases List.mem_append.mp hc with hc | hc
    · rcases List.mem_append.mp hc with hc | hc
      · exact isDigit_padded hc
      · exact isDigit_padded hc
    · exact isDigit_padded hc
  · rw [hy]
    omega
  · exact hm.symm
  · exact hd.symm

/-- Text of the language is the text of the birth day it names. -/
theorem exists_toIsoString {text : String} (h : IsIsoDay text) :
    ∃ b : BirthDay, b.toIsoString = text := by
  obtain ⟨year, month, day, date, htext, ⟨hy, hm, hd⟩, hdigits, ⟨hyear, hmonth, hday⟩,
    hsupported⟩ := h
  have hfields : (∀ c ∈ year, isDigit c = true) ∧ (∀ c ∈ month, isDigit c = true) ∧
      ∀ c ∈ day, isDigit c = true := by
    simp only [List.mem_append] at hdigits
    exact ⟨fun c hc => hdigits c (Or.inl (Or.inl hc)), fun c hc => hdigits c (Or.inl (Or.inr hc)),
      fun c hc => hdigits c (Or.inr hc)⟩
  refine ⟨⟨date, hsupported⟩, String.toList_injective ?_⟩
  have hyearNat : date.year.toNat = number year := by omega
  rw [toList_toIsoString, htext]
  simp only [hyearNat, hmonth, hday]
  rw [← hy, ← hm, padded_number hfields.1, padded_number hfields.2.1, hm, ← hd,
    padded_number hfields.2.2]

/-! ## Orders -/

/-- The order of two texts is the calendar order. -/
theorem toIsoString_lt_iff (a b : BirthDay) : a.toIsoString < b.toIsoString ↔ a < b := by
  have hlt : a.toIsoString < b.toIsoString ↔ a.toIsoString.toList < b.toIsoString.toList := Iff.rfl
  have ha := a.year_bounds
  have hb := b.year_bounds
  obtain ⟨hya, hma, hda⟩ := a.number_fields
  obtain ⟨hyb, hmb, hdb⟩ := b.number_fields
  -- fields of one width, compared as numbers
  have hfield (width n m : ℕ) : padded width n < padded width m ↔
      number (padded width n) < number (padded width m) :=
    lt_iff_number_lt (by simp) (fun _ hc => isDigit_padded hc) fun _ hc => isDigit_padded hc
  have heq (width n m : ℕ) : padded width n = padded width m ↔
      number (padded width n) = number (padded width m) :=
    ⟨congrArg number, number_inj (by simp) (fun _ hc => isDigit_padded hc)
      fun _ hc => isDigit_padded hc⟩
  rw [hlt, toList_toIsoString, toList_toIsoString, List.append_assoc, List.append_assoc,
    append_lt_append_iff (by simp), List.cons_append, List.cons_append, List.cons_lt_cons_iff,
    append_lt_append_iff (by simp), List.cons_lt_cons_iff, hfield, hfield, hfield, heq, heq, hya,
    hyb, hma, hmb, hda, hdb, lt_iff, Date.lt_iff]
  simp only [lt_irrefl, false_or, true_and]
  omega

section Parsing

variable [Chrono]

/-- The re-formatting leaves one text for each birth day. -/
theorem exact_parseIso :
    Exact (fun _ => True) PrimitiveError.InvalidDate toIsoString parseIso := by
  apply Exact.of_cases
  · intro b _
    exact parseIso_toIsoString b
  · intro text
    unfold parseIso
    split
    · exact Or.inl rfl
    · rename_i date _
      by_cases hcheck : date < firstDay ∨ date > lastDay ∨ NaiveDate.format date ≠ text
      · exact Or.inl (dif_pos hcheck)
      · have hrange := hcheck
        rw [firstDay_eq, lastDay_eq, not_or, not_or, not_lt, not_lt, not_not] at hrange
        exact Or.inr ⟨⟨date, hrange.1, hrange.2.1⟩, trivial, hrange.2.2⟩

theorem parseIso_eq_ok_iff {text : String} {b : BirthDay} :
    parseIso text = .ok b ↔ b.toIsoString = text := by
  rw [exact_parseIso.ok_iff, true_and]

/-- Exactly the texts of the language are birth days and are written back the
same; their order is the calendar's and that of the day numbers, which are the
exact day differences. -/
theorem birthDay_exact :
    (∀ text : String, (∃ b, parseIso text = .ok b) ↔ IsIsoDay text) ∧
      (∀ (text : String) (b : BirthDay), parseIso text = .ok b → b.toIsoString = text) ∧
      ∀ (s t : String) (d e : BirthDay), parseIso s = .ok d → parseIso t = .ok e →
        (s < t ↔ d < e) ∧ (d < e ↔ d.daysSince1900 < e.daysSince1900) ∧
          (d.daysSince1900 : ℤ) = d.date.dayNumber - firstDate.dayNumber := by
  refine ⟨?_, ?_, ?_⟩
  · intro text
    simp only [parseIso_eq_ok_iff]
    constructor
    · rintro ⟨b, rfl⟩
      exact b.isIsoDay_toIsoString
    · exact exists_toIsoString
  · intro text b h
    exact parseIso_eq_ok_iff.mp h
  · intro s t d e hd he
    rw [parseIso_eq_ok_iff] at hd he
    subst hd he
    exact ⟨toIsoString_lt_iff d e, daysSince1900_lt_iff.symm, d.daysSince1900_eq⟩

end Parsing

end BirthDay

end Zcaprio
