import Zcaprio.Instances.Reference
import Zcaprio.Metatheory.Backend

/-!
# Eligibility

Waiting and weaker thresholds keep what can be proved: the clamped cutoff grows
with the date and shrinks with the threshold, and a tree without negation is
monotone in its leaves.
-/

namespace Zcaprio

open Calendar

/-! ## Weaker proofs -/

/-- The same claim, or a smaller threshold of `AgeIsAbove`. -/
inductive Claim.WeakenedTo : Claim → Claim → Prop where
  | ageIsAbove {n m : UInt8} (h : m ≤ n) : WeakenedTo (ageIsAbove n) (ageIsAbove m)
  | countryIsEu : WeakenedTo countryIsEu countryIsEu
  | roleIs (role : Role) : WeakenedTo (roleIs role) (roleIs role)

theorem Claim.WeakenedTo.kind_ne_custom {claim claim' : Claim} (h : claim.WeakenedTo claim') :
    claim.kind ≠ .Custom ∧ claim'.kind ≠ .Custom := by
  cases h with
  | ageIsAbove => exact ⟨ClaimKind.noConfusion, ClaimKind.noConfusion⟩
  | countryIsEu => exact ⟨ClaimKind.noConfusion, ClaimKind.noConfusion⟩
  | roleIs => exact ⟨ClaimKind.noConfusion, ClaimKind.noConfusion⟩

section Weakening

variable [Gadgets] [Chrono] {p p' : Proof}

/-- The same tree over issued credentials, with weakened claims at its leaves. -/
inductive Proof.WeakenedTo : Proof → Proof → Prop where
  | is {credential : SignedAttributeCredential} {claim claim' : Claim}
      (hissued : credential.Issued) (hclaim : claim.WeakenedTo claim') :
      WeakenedTo (credential.is claim) (credential.is claim')
  | and {p q p' q' : Proof} (hp : WeakenedTo p p') (hq : WeakenedTo q q') :
      WeakenedTo (p.and q) (p'.and q')
  | or {p q p' q' : Proof} (hp : WeakenedTo p p') (hq : WeakenedTo q q') :
      WeakenedTo (p.or q) (p'.or q')

/-- Two leaves over one issued credential, the second with a weaker claim. -/
def DirectProofPlan.WeakenedTo (direct direct' : DirectProofPlan) : Prop :=
  ∃ credential, credential.Issued ∧ direct.Records credential ∧ direct'.Records credential ∧
    direct.claim.WeakenedTo direct'.claim

theorem Proof.WeakenedTo.leaves (h : p.WeakenedTo p') :
    p.request.plan.leaves.Rel DirectProofPlan.WeakenedTo p'.request.plan.leaves := by
  induction h with
  | is hissued hclaim => exact .leaf ⟨_, hissued, ⟨rfl, rfl⟩, ⟨rfl, rfl⟩, hclaim⟩
  | and _ _ ihp ihq => exact .and ihp ihq
  | or _ _ ihp ihq => exact .or ihp ihq

/-- Both trees are over issued credentials. -/
theorem Proof.WeakenedTo.honest (h : p.WeakenedTo p') :
    p.request.plan.Honest ∧ p'.request.plan.Honest := by
  apply h.leaves.imp_all
  rintro direct direct' ⟨credential, hissued, hrecords, hrecords', -⟩
  exact ⟨⟨credential, hrecords, hissued⟩, ⟨credential, hrecords', hissued⟩⟩

theorem Proof.WeakenedTo.compilable (h : p.WeakenedTo p') :
    p.request.plan.Compilable ∧ p'.request.plan.Compilable := by
  apply h.leaves.imp_all
  rintro direct direct' ⟨-, -, -, -, hclaim⟩
  exact hclaim.kind_ne_custom

end Weakening

/-! ## Cutoffs -/

section Cutoffs

variable {a a' : BirthDay} {n m : UInt8}

/-- The cutoff of a smaller threshold at a later date is later. -/
theorem cutoffDate_mono (hdates : a ≤ a') (hyears : m ≤ n) :
    cutoffDate ⟨a⟩ n ≤ cutoffDate ⟨a'⟩ m := by
  apply Date.yearsBefore_mono ((BirthDay.le_iff a a').mp hdates)
  exact Int.ofNat_le.mpr (UInt8.le_iff_toNat_le.mp hyears)

/-- So a supported threshold stays supported. -/
theorem cutoffIsSupported_mono {claim claim' : Claim} (hclaim : claim.WeakenedTo claim')
    (hdates : a ≤ a') (h : CutoffIsSupported ⟨a⟩ claim.kind) :
    CutoffIsSupported ⟨a'⟩ claim'.kind := by
  cases hclaim with
  | ageIsAbove hyears =>
      -- the threshold year only grows
      have hyear : 1900 ≤ a.date.year - _ := (cutoffSupported_iff _ _).mpr h
      have hlater : a.date.year ≤ a'.date.year := Date.year_le hdates
      have hthreshold := UInt8.le_iff_toNat_le.mp hyears
      apply (cutoffSupported_iff _ _).mp
      show 1900 ≤ a'.date.year - _
      omega
  | countryIsEu => trivial
  | roleIs role => trivial

section Meets

variable [Curve] [Chrono]

/-- And a claim that was met stays met. -/
theorem meets_mono {credential : SignedAttributeCredential} {claim claim' : Claim}
    (hclaim : claim.WeakenedTo claim') (hdates : a ≤ a')
    (h : credential.Meets ⟨a⟩ claim.kind) : credential.Meets ⟨a'⟩ claim'.kind := by
  cases hclaim with
  | ageIsAbove hyears =>
      have hdate := SignedAttributeCredential.meets_ageAbove_iff.mp h
      exact SignedAttributeCredential.meets_ageAbove_iff.mpr
        (hdate.trans (cutoffDate_mono hdates hyears))
  | countryIsEu => exact h
  | roleIs role => exact h

end Meets

end Cutoffs

/-! ## Provable stays provable -/

section Provable

variable [Gadgets] [Chrono] {p p' : Proof} {a a' : BirthDay}

theorem Proof.WeakenedTo.cutoffsSupported (h : p.WeakenedTo p') (hdates : a ≤ a')
    (hcutoffs : p.request.plan.CutoffsSupported ⟨a⟩) :
    p'.request.plan.CutoffsSupported ⟨a'⟩ := by
  apply h.leaves.all hcutoffs
  rintro direct direct' ⟨-, -, -, -, hclaim⟩ hsupported
  exact cutoffIsSupported_mono hclaim hdates hsupported

/-- The tree of truth values stays true. -/
theorem Proof.WeakenedTo.holds (h : p.WeakenedTo p') (hdates : a ≤ a')
    (hholds : p.request.plan.leaves.Holds (DirectProofPlan.Meets ⟨a⟩)) :
    p'.request.plan.leaves.Holds (DirectProofPlan.Meets ⟨a'⟩) := by
  apply h.leaves.holds hholds
  rintro direct direct' ⟨credential, -, hrecords, hrecords', hclaim⟩ ⟨other, hother, hmeets⟩
  obtain rfl := Option.some.inj (hrecords.2.symm.trans hother)
  exact ⟨credential, hrecords'.2, meets_mono hclaim hdates hmeets⟩

variable [Groth16]

/-- If a proof is not unprovable at a date, then with weaker thresholds and at a
later date its backend is set up, unless key generation fails, and the proof is
proved with it and verifies. -/
theorem eligibility_monotone (hweakened : p.WeakenedTo p') (hdates : a ≤ a')
    (hcutoffs : p.request.plan.CutoffsSupported ⟨a⟩) {backend : Groth16Backend}
    {rng rng' : Groth16.Randomness} (hsetup : Groth16Backend.setup p ⟨a⟩ rng = .ok backend)
    (hprove : p.prove (backend.prover.prove rng') ≠ .error (.error .Unprovable)) :
    (∀ rng, (∃ backend', Groth16Backend.setup p' ⟨a'⟩ rng = .ok backend') ∨
        Groth16Backend.setup p' ⟨a'⟩ rng = .error (.error .IncompatibleBackend)) ∧
      ∀ rng backend', Groth16Backend.setup p' ⟨a'⟩ rng = .ok backend' → ∀ rng',
        ∃ artifact, p'.prove (backend'.prover.prove rng') = .ok artifact ∧
          artifact.verify backend'.verifier = .ok .accepted := by
  obtain ⟨hhonest, hhonest'⟩ := hweakened.honest
  have hcutoffs' := hweakened.cutoffsSupported hdates hcutoffs
  have hholds : p.request.plan.leaves.Holds (DirectProofPlan.Meets ⟨a⟩) := by
    by_contra hfalse
    exact hprove ((Groth16Backend.prove_own rng' hsetup hhonest hcutoffs).2 hfalse)
  constructor
  · intro rng
    rcases setup_errors hhonest' hcutoffs' rng with ⟨hclaims, -⟩ | ⟨-, hbackend⟩
    · exact absurd hweakened.compilable.2 hclaims
    · exact hbackend
  · intro rng backend' hsetup' rng'
    exact (Groth16Backend.prove_own rng' hsetup' hhonest' hcutoffs').1
      (hweakened.holds hdates hholds)

end Provable

open Reference in
/-- At least 18 and from the Union, on the 18th birthday; two years later on a leap
day, with threshold 16. -/
theorem eligibility_monotone_adult :
    let p := (credential.is (Claim.ageIsAbove 18)).and (credential.is Claim.countryIsEu)
    let p' := (credential.is (Claim.ageIsAbove 16)).and (credential.is Claim.countryIsEu)
    let a : BirthDay := ⟨⟨2018, 1, 1, by decide⟩, by decide⟩
    let a' : BirthDay := ⟨⟨2020, 2, 29, by decide⟩, by decide⟩
    (∃ backend, Groth16Backend.setup p ⟨a⟩ () = .ok backend ∧
        p.prove (backend.prover.prove ()) ≠ .error (.error .Unprovable)) ∧
      ∃ backend artifact, Groth16Backend.setup p' ⟨a'⟩ () = .ok backend ∧
        p'.prove (backend.prover.prove ()) = .ok artifact ∧
        artifact.verify backend.verifier = .ok .accepted := by
  intro p p' a a'
  have hweakened : p.WeakenedTo p' :=
    .and (.is credential_issued (.ageIsAbove (by decide))) (.is credential_issued .countryIsEu)
  have hdates : a ≤ a' := by decide
  have hcutoffs : p.request.plan.CutoffsSupported ⟨a⟩ :=
    ⟨(cutoffSupported_iff ⟨a⟩ 18).mp (by decide), trivial⟩
  -- the first tree is true on the birthday itself
  have hage : credential.Meets ⟨a⟩ (.AgeAbove 18) := by
    rw [SignedAttributeCredential.meets_ageAbove_iff, credential_birthDay]
    decide
  have hcountry : credential.Meets ⟨a⟩ .CountryIsEu := by
    rw [SignedAttributeCredential.Meets,
      (SignedAttributeCredential.issue_stores credential_issue).2.1]
    decide
  obtain ⟨backend, hsetup⟩ := exists_setup hweakened.honest.1 hweakened.compilable.1 hcutoffs
  obtain ⟨artifact, hok, -⟩ := (Groth16Backend.prove_own () hsetup hweakened.honest.1 hcutoffs).1
    ⟨⟨credential, rfl, hage⟩, ⟨credential, rfl, hcountry⟩⟩
  have hprove : p.prove (backend.prover.prove ()) ≠ .error (.error .Unprovable) := by
    rw [hok]
    simp
  obtain ⟨-, hproved⟩ := eligibility_monotone hweakened hdates hcutoffs hsetup hprove
  obtain ⟨backend', hsetup'⟩ := exists_setup hweakened.honest.2 hweakened.compilable.2
    (hweakened.cutoffsSupported hdates hcutoffs)
  obtain ⟨artifact', hprove', hverify'⟩ := hproved () backend' hsetup' ()
  exact ⟨⟨backend, hsetup, hprove⟩, backend', artifact', hsetup', hprove', hverify'⟩

end Zcaprio
