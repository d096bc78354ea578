import Zcaprio.Metatheory.Cutoff
import Zcaprio.Native.Policy

/-!
# The 18-year policy

Policies come out of one constructor and one decoder, which derives the policy
again. So each of them has the cutoff of its date, and that is a birthday of
18 completed years.
-/

namespace Zcaprio

open Calendar

section AgePolicy

variable [Chrono]

namespace AgePolicy

/-- The two ways to obtain a policy. -/
inductive Obtainable : AgePolicy → Prop where
  | fromAsOf {asOfDay : BirthDay} {scope : VerifierScope} {fingerprint : IssuerKeyFingerprint}
      {policy : AgePolicy} (h : AgePolicy.fromAsOf asOfDay scope fingerprint = .ok policy) :
      Obtainable policy
  | deserialize {text : AgePolicyText} {policy : AgePolicy}
      (h : AgePolicy.deserialize text = .ok policy) : Obtainable policy

/-- The derived cutoff is the stored one. -/
def Derived (policy : AgePolicy) : Prop :=
  AgePolicy.fromAsOf policy.asOfDay policy.verifierScope policy.issuerKeyFingerprint = .ok policy

theorem derived_of_fromAsOf {asOfDay : BirthDay} {scope : VerifierScope}
    {fingerprint : IssuerKeyFingerprint} {policy : AgePolicy}
    (h : AgePolicy.fromAsOf asOfDay scope fingerprint = .ok policy) : policy.Derived := by
  obtain ⟨hday, hscope, hfingerprint, -⟩ := fromAsOf_ok h
  unfold Derived
  rw [hday, hscope, hfingerprint]
  exact h

/-- After its fields were read, a wire object is decoded as `ofWire` says. -/
theorem deserialize_of_wire {text : AgePolicyText} {wire : AgePolicyWire}
    (h : AgePolicyWire.deserialize text = .ok wire) :
    AgePolicy.deserialize text = AgePolicy.ofWire wire := by
  rw [AgePolicy.deserialize, h]
  rfl

/-- Every policy is the one derived from its own date: the invariant of both ways. -/
theorem Obtainable.derived {policy : AgePolicy} (h : Obtainable policy) : policy.Derived := by
  cases h with
  | fromAsOf h => exact derived_of_fromAsOf h
  | deserialize h =>
      rename_i text
      cases hwire : AgePolicyWire.deserialize text with
      | error e =>
          rw [AgePolicy.deserialize, hwire] at h
          cases h
      | ok wire =>
          rw [deserialize_of_wire hwire, ofWire_ok_iff] at h
          exact derived_of_fromAsOf h.1

/-- The cutoff of a derived policy is the circuit's cutoff of threshold 18. -/
theorem Derived.cutoff_eq {policy : AgePolicy} (h : policy.Derived) {ε : Type} :
    (Zcaprio.cutoff ⟨policy.asOfDay⟩ 18 : Exec ε Fr) = .ok (policy.cutoffDay.daysSince1900 : Fr) := by
  obtain ⟨-, -, -, hcutoff⟩ := fromAsOf_ok h
  have hdate : cutoffDate ⟨policy.asOfDay⟩ 18 = policy.cutoffDay.date := hcutoff.symm
  have hsupported : CutoffSupported ⟨policy.asOfDay⟩ 18 := by
    rw [cutoffSupported_iff, hdate]
    exact policy.cutoffDay.supported
  rw [cutoff_of_supported hsupported, cutoffElement, hdate, days_birthDay, Int.toNat_natCast]

/-- Born no later than the cutoff is 18 completed years. -/
theorem Derived.le_cutoffDay_iff {policy : AgePolicy} (h : policy.Derived) (b : BirthDay) :
    b ≤ policy.cutoffDay ↔ 18 ≤ completedYears b.date policy.asOfDay.date := by
  obtain ⟨-, -, -, hcutoff⟩ := fromAsOf_ok h
  rw [BirthDay.le_iff, hcutoff]
  -- 18 years back from a leap day there is no leap day to move
  exact le_yearsBefore_iff (not_clampMoves_18 policy.asOfDay.date)

/-- Policies exist from 1918 on, mean 18 completed years, agree with the circuit,
survive transport, and are decoded exactly from a derived cutoff. -/
theorem age_policy_correct :
    (∀ (asOfDay : BirthDay) (scope : VerifierScope) (fingerprint : IssuerKeyFingerprint),
      ((∃ policy, AgePolicy.fromAsOf asOfDay scope fingerprint = .ok policy) ↔
          1918 ≤ asOfDay.date.year) ∧
        (¬ 1918 ≤ asOfDay.date.year →
          AgePolicy.fromAsOf asOfDay scope fingerprint = .error .InvalidDate)) ∧
    (∀ policy, Obtainable policy →
      (∀ b : BirthDay, b ≤ policy.cutoffDay ↔
        policy.asOfDay.date.year - b.date.year -
          (if policy.asOfDay.date.month < b.date.month ∨
              policy.asOfDay.date.month = b.date.month ∧ policy.asOfDay.date.day < b.date.day
            then 1 else 0) ≥ 18) ∧
      (Zcaprio.cutoff ⟨policy.asOfDay⟩ 18 : Exec SynthesisError Fr) =
        .ok (policy.cutoffDay.daysSince1900 : Fr) ∧
      AgePolicy.deserialize policy.serialize = .ok policy) ∧
    ∀ (text : AgePolicyText) (wire : AgePolicyWire), AgePolicyWire.deserialize text = .ok wire →
      ((∃ policy, AgePolicy.deserialize text = .ok policy) ↔
        ∃ derived, AgePolicy.fromAsOf wire.asOfDay wire.verifierScope wire.issuerKeyFingerprint =
          .ok derived ∧ derived.cutoffDay = wire.cutoffDay) := by
  refine ⟨fun asOfDay scope fingerprint => ?_, fun policy hobtainable => ?_, ?_⟩
  · rw [fromAsOf_eq]
    split <;> simp_all
  · have hderived := hobtainable.derived
    refine ⟨fun b => hderived.le_cutoffDay_iff b, hderived.cutoff_eq, ?_⟩
    rw [deserialize_of_wire (AgePolicyWire.deserialize_serialize policy), ofWire_ok_iff]
    exact ⟨hderived, rfl⟩
  · intro text wire hwire
    rw [deserialize_of_wire hwire]
    exact exists_congr fun policy => ofWire_ok_iff wire policy

end AgePolicy

end AgePolicy

end Zcaprio
