import Zcaprio.Metatheory.Plans

/-!
# The honest prover

With issued credentials every leaf of a template accepts, so the constraints of
the circuit say that the tree of claims is true of the stored attributes.
-/

namespace Zcaprio

open Trace ProofPlan

/-! ## Claims on stored attributes -/

theorem packed_inj {a b c d : UInt8} : Country.packed a b = Country.packed c d ↔ a = c ∧ b = d := by
  have ha := a.toNat_lt
  have hb := b.toNat_lt
  have hc := c.toNat_lt
  have hd := d.toNat_lt
  unfold Country.packed
  rw [← UInt8.toNat_inj, ← UInt8.toNat_inj]
  omega

theorem packed_lt (a b : UInt8) : Country.packed a b < frModulus := by
  have ha := a.toNat_lt
  have hb := b.toNat_lt
  have hbound : 2 ^ 16 < frModulus := by decide
  rw [Country.packed]
  omega

theorem packed_mem_euCountryNumbers {a b : UInt8} :
    Country.packed a b ∈ euCountryNumbers ↔ (a, b) ∈ euCountryBytes := by
  rw [euCountryNumbers, List.mem_map]
  constructor
  · rintro ⟨code, hcode, heq⟩
    obtain ⟨rfl, rfl⟩ := packed_inj.mp heq
    exact hcode
  · intro hmem
    exact ⟨(a, b), hmem, rfl⟩

theorem daysSince1900_lt [Chrono] (b : BirthDay) : b.daysSince1900 ≤ halfModulus ∧
    b.daysSince1900 < frModulus := by
  have hdays := b.daysSince1900_le
  have hhalf : 73048 ≤ halfModulus := by decide
  have hbound : 73048 < frModulus := by decide
  omega

section Meets

variable [Curve] [Chrono]

/-- The claim is true of the stored attributes at the policy date. -/
def SignedAttributeCredential.Meets (credential : SignedAttributeCredential)
    (policy : VerificationPolicy) : ClaimKind → Prop
  | .AgeAbove years => (credential.birthDay.daysSince1900 : ℤ) ≤ days (cutoffDate policy years)
  | .AgeBelow years => days (cutoffDate policy years) < (credential.birthDay.daysSince1900 : ℤ)
  | .CountryIsEu => (credential.country.first, credential.country.second) ∈ euCountryBytes
  | .Role role => credential.role = role
  | .Custom => False

/-- On the opening of a credential the claim speaks about the stored attributes. -/
theorem claimHolds_opening {credential : SignedAttributeCredential} {policy : VerificationPolicy}
    {claim : ClaimKind} :
    ClaimHolds policy credential.opening claim ↔ credential.Meets policy claim := by
  have hbirthDay : credential.opening.birthDay.val = credential.birthDay.daysSince1900 :=
    natCast_val_of_lt (daysSince1900_lt _).2
  cases claim with
  | AgeAbove years => rw [ClaimHolds, hbirthDay, SignedAttributeCredential.Meets]
  | AgeBelow years => rw [ClaimHolds, hbirthDay, SignedAttributeCredential.Meets]
  | CountryIsEu =>
      have hcountry : credential.opening.country.val =
          Country.packed credential.country.first credential.country.second :=
        natCast_val_of_lt (packed_lt _ _)
      unfold ClaimHolds
      rw [hcountry, packed_mem_euCountryNumbers, SignedAttributeCredential.Meets]
  | Role role =>
      have hrole : credential.opening.role.val = credential.role.code :=
        natCast_val_of_lt (Role.code_lt _)
      have hinj : credential.role.code = role.code ↔ credential.role = role := by
        cases credential.role <;> cases role <;> decide
      rw [ClaimHolds, hrole, hinj, SignedAttributeCredential.Meets]
  | Custom => rfl

/-- Thresholds compare the birth day with the cutoff date. -/
theorem SignedAttributeCredential.meets_ageAbove_iff {credential : SignedAttributeCredential}
    {policy : VerificationPolicy} {years : UInt8} :
    credential.Meets policy (.AgeAbove years) ↔
      credential.birthDay.date ≤ cutoffDate policy years := by
  rw [SignedAttributeCredential.Meets, ← days_birthDay, days_le_iff]

theorem SignedAttributeCredential.meets_ageBelow_iff {credential : SignedAttributeCredential}
    {policy : VerificationPolicy} {years : UInt8} :
    credential.Meets policy (.AgeBelow years) ↔
      ¬ credential.birthDay.date ≤ cutoffDate policy years := by
  rw [SignedAttributeCredential.Meets, ← days_birthDay, ← not_le, days_le_iff]

theorem inRange_opening (credential : SignedAttributeCredential) (claim : ClaimKind) :
    InRange credential.opening claim := by
  have hbirthDay : credential.opening.birthDay.val ≤ halfModulus := by
    rw [show credential.opening.birthDay.val = credential.birthDay.daysSince1900 from
      natCast_val_of_lt (daysSince1900_lt _).2]
    exact (daysSince1900_lt _).1
  cases claim <;> first | exact hbirthDay | exact trivial

variable [Hashes]

/-- Commitments that open, and a schema version 2, make the native message. -/
theorem message_opening {credential : SignedAttributeCredential} (hopens : credential.Opens)
    (hschema : credential.credential.schemaVersion = ageCredentialSchemaV2) :
    credential.opening.message = credential.credential.message := by
  have hage : credential.credential.ageCommitment = _ := of_decide_eq_true hopens.age
  have howner : credential.credential.ownerCommitment = _ := of_decide_eq_true hopens.owner
  have hattributes : credential.credential.attributeCommitment = _ :=
    of_decide_eq_true hopens.attributes
  unfold AgeCredential.message
  rw [hage, howner, hattributes, hschema]
  rfl

/-- The bytes of an opening are those of one signature, which is checked. -/
theorem signed_opening_iff {credential : SignedAttributeCredential} {key : IssuerPublicKey} :
    credential.opening.Signed key ↔
      credential.credential.signature.isValid key credential.opening.message = true := by
  constructor
  · rintro ⟨signature, hresponse, hchallenge, hvalid⟩
    have hsame : signature = credential.credential.signature := by
      rcases signature with ⟨response, challenge⟩
      have hr := canonical_injective jubJubModulus_lt hresponse
      have hc := canonical_injective jubJubModulus_lt hchallenge
      rw [show response = _ from hr, show challenge = _ from hc]
    rwa [← hsame]
  · intro hvalid
    exact ⟨credential.credential.signature, rfl, rfl, hvalid⟩

/-- The opening of an issued credential is signed, for the identity key too. -/
theorem SignedAttributeCredential.Issued.signed {credential : SignedAttributeCredential}
    (h : credential.Issued) : credential.opening.Signed credential.issuer := by
  obtain ⟨hopens, hschema, -, hvalid⟩ := h.spec
  rw [signed_opening_iff, message_opening hopens hschema]
  exact hvalid

end Meets

/-! ## Leaves of an accepted plan -/

section Leaves

variable [Gadgets] [Chrono] {w : Assignment Fr} {policy : VerificationPolicy}

/-- The claim of a leaf is true of the credential it records. -/
def DirectProofPlan.Meets (policy : VerificationPolicy) (direct : DirectProofPlan) : Prop :=
  ∃ credential, direct.evidence = some credential ∧ credential.Meets policy direct.claim.kind

/-- A plan whose leaves record issued credentials. -/
def ProofPlan.Honest (plan : ProofPlan) : Prop :=
  plan.leaves.All fun direct => ∃ credential, direct.Records credential ∧ credential.Issued

theorem ProofPlan.Honest.recorded {plan : ProofPlan} (h : plan.Honest) : plan.Recorded :=
  h.imp fun _ ⟨credential, hrecords, _⟩ => ⟨credential, hrecords⟩

/-- A built proof over issued credentials is an honest plan. -/
theorem Proof.Built.honest {p : Proof} {Q : Claim → Prop}
    (h : p.Built SignedAttributeCredential.Issued Q) : p.request.plan.Honest :=
  h.leaves.imp fun _ ⟨credential, hrecords, hissued, _⟩ => ⟨credential, hrecords, hissued⟩

/-- At a leaf the supplied opening is the credential's, so the leaf accepts. -/
theorem leaf_honest {template : DirectTemplate} {credential : SignedAttributeCredential} {n : ℕ}
    (hissued : credential.Issued) (hissuer : credential.issuer = template.issuer)
    (h : Supplies w n (leafBlock template (some credential) policy n)) :
    LeafAccepts w (template, n) ∧ openingAt w n = credential.opening := by
  unfold leafBlock Supplies at h
  rw [along_append] at h
  obtain ⟨hbits, hopening⟩ := (holds_of_supplies h.1).spec
  refine ⟨⟨hbits, ?_, ?_⟩, hopening⟩
  · show (openingAt w n).Signed template.issuer
    rw [hopening, ← hissuer]
    exact hissued.signed
  · show InRange (openingAt w n) template.claim
    rw [hopening]
    exact inRange_opening credential template.claim

/-- The Boolean a supported leaf computes for a credential, signed or not, is its
claim on the stored attributes. -/
theorem DirectTemplate.relation_value (template : DirectTemplate)
    (credential : SignedAttributeCredential) (policy : VerificationPolicy)
    (hsupported : Supported policy template.claim) :
    ∃ root cs, run (template.relation (some credential) policy) [] = (.ok root, cs) ∧
      (Boolean.value (complete cs.input cs.shape) root = true ↔
        credential.Meets policy template.claim) := by
  refine ⟨_, _, (DirectTemplate.relation_emits hsupported (some credential) 0).run, ?_⟩
  show Boolean.value (complete (leafBlock template (some credential) policy 0).input
    (leafBlock template (some credential) policy 0).shape) _ = true ↔ _
  have hscoped : Scoped 0 (leafBlock template (some credential) policy 0).shape := leafBlock_scoped
  have hsupplies := (complete_extends
    (leafBlock template (some credential) policy 0).input hscoped).supplies
  have hdetermined := determined_of_computes (complete_computes
    (leafBlock template (some credential) policy 0).input hscoped)
  generalize complete (leafBlock template (some credential) policy 0).input
    (leafBlock template (some credential) policy 0).shape = w at hsupplies hdetermined
  -- the block allocates the opening of the credential
  unfold leafBlock Supplies at hsupplies
  rw [along_append] at hsupplies
  obtain ⟨-, hopening⟩ := (holds_of_supplies hsupplies.1).spec
  have hrow := (leafBlock_spec hsupported hdetermined).2
    (by rw [hopening]; exact inRange_opening credential template.claim)
  have hvalue : Boolean.value w (.Var ⟨0 + 24 + claimOutput template.claim, 0⟩) =
      decide (LeafHolds policy w (template, 0)) := by
    rw [Boolean.value, hrow, ofBit_bit]
  rw [hvalue, decide_eq_true_iff, LeafHolds, hopening, claimHolds_opening]

omit [Chrono] in
/-- Two blocks and a gate, as properties of supplied systems. -/
theorem supplies_gate {n k : ℕ} {es ds : ConstraintSystem} {p : Event × List Fr}
    (hes : es.length = k) (h : Supplies w n (es ++ (ds ++ [p]))) :
    Supplies w n es ∧ Supplies w (n + k) ds := by
  subst hes
  unfold Supplies at h
  rw [along_append, along_append] at h
  exact ⟨h.1, h.2.1⟩

/-- In the circuit of an accepted honest plan every leaf accepts, and holds
exactly where the plan's leaf is true of its credential. -/
theorem template_honest {template : CircuitTemplate} {plan : ProofPlan} {n : ℕ}
    (hsupported : template.SupportedAt policy) (haccepts : template.accepts plan = true)
    (hhonest : plan.Honest) (h : Supplies w n (template.block (some plan) policy n)) :
    (template.placed n).All (LeafAccepts w) ∧
      ((template.placed n).Holds (LeafHolds policy w) ↔
        plan.leaves.Holds (DirectProofPlan.Meets policy)) := by
  induction template generalizing plan n with
  | Direct template =>
      obtain ⟨direct, rfl, hdirect⟩ := CircuitTemplate.accepts_direct_iff.mp haccepts
      obtain ⟨credential, hrecords, hissued⟩ := hhonest
      -- the matcher compared the issuer and the claim kind
      rw [DirectTemplate.accepts_iff hrecords] at hdirect
      simp only [DirectTemplate.statement, DirectProofPlan.statement, hrecords.2,
        Option.map_some, Prod.mk.injEq, Option.some_inj] at hdirect
      have hblock : Supplies w n (leafBlock template direct.evidence policy n) := h
      rw [hrecords.2] at hblock
      obtain ⟨hleaf, hopening⟩ := leaf_honest hissued hdirect.1.symm hblock
      refine ⟨hleaf, ?_⟩
      show ClaimHolds policy (openingAt w n) template.claim ↔ direct.Meets policy
      rw [hopening, claimHolds_opening, hdirect.2]
      constructor
      · intro hmeets
        exact ⟨credential, hrecords.2, hmeets⟩
      · rintro ⟨credential', hevidence, hmeets⟩
        obtain rfl := Option.some.inj (hrecords.2.symm.trans hevidence)
        exact hmeets
  | Conjunction left right ihl ihr =>
      obtain ⟨otherLeft, otherRight, rfl, hleft, hright⟩ :=
        CircuitTemplate.accepts_conjunction_iff.mp haccepts
      obtain ⟨hl, hr⟩ := supplies_gate (CircuitTemplate.length_block hsupported.1 _ _) h
      obtain ⟨hal, hhl⟩ := ihl hsupported.1 hleft hhonest.1 hl
      obtain ⟨har, hhr⟩ := ihr hsupported.2 hright hhonest.2 hr
      exact ⟨⟨hal, har⟩, and_congr hhl hhr⟩
  | Disjunction left right ihl ihr =>
      obtain ⟨otherLeft, otherRight, rfl, hleft, hright⟩ :=
        CircuitTemplate.accepts_disjunction_iff.mp haccepts
      obtain ⟨hl, hr⟩ := supplies_gate (CircuitTemplate.length_block hsupported.1 _ _) h
      obtain ⟨hal, hhl⟩ := ihl hsupported.1 hleft hhonest.1 hl
      obtain ⟨har, hhr⟩ := ihr hsupported.2 hright hhonest.2 hr
      exact ⟨⟨hal, har⟩, or_congr hhl hhr⟩

/-- The constraints at the values an honest prover computes: the tree of claims. -/
theorem ProofCircuit.satisfies_honest {circuit : ProofCircuit} {plan : ProofPlan}
    (hplan : circuit.plan = some plan)
    (hsupported : circuit.template.SupportedAt circuit.policy)
    (haccepts : circuit.template.accepts plan = true) (hhonest : plan.Honest) :
    Satisfies (complete circuit.block.input circuit.block.shape) 0 circuit.block.shape ↔
      plan.leaves.Holds (DirectProofPlan.Meets circuit.policy) := by
  have hsupplies :=
    (complete_extends circuit.block.input (circuit.block_scoped hsupported)).supplies
  rw [circuit.satisfies_complete_iff hsupported]
  generalize complete circuit.block.input circuit.block.shape = w at hsupplies
  unfold ProofCircuit.block Supplies at hsupplies
  rw [along_append, hplan] at hsupplies
  obtain ⟨hall, hholds⟩ := template_honest hsupported haccepts hhonest hsupplies.1
  rw [hholds]
  exact and_iff_right hall

/-- An issued credential that meets its claim satisfies the circuit of that claim. -/
theorem satisfies_is {credential : SignedAttributeCredential} {claim : Claim}
    (hissued : credential.Issued) (hsupported : Supported policy claim.kind)
    (hmeets : credential.Meets policy claim.kind) {cs : ConstraintSystem}
    (hcs : ({ policy, template := .Direct ⟨credential.issuer, claim.kind⟩,
              plan := some (credential.is claim).request.plan } : ProofCircuit).synthesize = .ok cs) :
    ∃ w, Satisfies w 0 cs.shape := by
  obtain ⟨-, haccepts⟩ := fromPlan_is credential claim (supported_iff.mp hsupported).1
  have hsupportedAt : CircuitTemplate.SupportedAt (.Direct ⟨credential.issuer, claim.kind⟩) policy :=
    hsupported
  rw [ProofCircuit.synthesize_eq hsupportedAt (CircuitTemplate.fits_of_accepts haccepts)] at hcs
  obtain rfl := Except.ok.inj hcs
  refine ⟨_, (ProofCircuit.satisfies_honest rfl hsupportedAt haccepts ?_).mpr ?_⟩
  · exact ⟨credential, records_is credential claim, hissued⟩
  · exact ⟨credential, rfl, hmeets⟩

end Leaves

end Zcaprio
