import Zcaprio.Metatheory.Template

/-!
# Plans and templates

What compiling a plan gives, and which plans a compiled template accepts: those
with the same tree, issuer keys and claim kinds.
-/

namespace Zcaprio

variable [Curve]

/-- What a leaf shows of itself: the issuer of its credential, and its claim kind. -/
def DirectProofPlan.statement (direct : DirectProofPlan) : Option IssuerPublicKey × ClaimKind :=
  (direct.evidence.map SignedAttributeCredential.issuer, direct.claim.kind)

def DirectTemplate.statement (template : DirectTemplate) : Option IssuerPublicKey × ClaimKind :=
  (some template.issuer, template.claim)

/-- The tree of a plan with the issuer key and claim kind of each leaf. -/
def ProofPlan.statement (plan : ProofPlan) : Formula (Option IssuerPublicKey × ClaimKind) :=
  plan.leaves.map DirectProofPlan.statement

def CircuitTemplate.statement (template : CircuitTemplate) :
    Formula (Option IssuerPublicKey × ClaimKind) :=
  template.leaves.map DirectTemplate.statement

variable [Hashes]

/-- Every leaf of the plan records a credential. -/
def ProofPlan.Recorded (plan : ProofPlan) : Prop :=
  plan.leaves.All fun direct => ∃ credential, direct.Records credential

/-- Every leaf has a built-in claim kind. -/
def ProofPlan.Compilable (plan : ProofPlan) : Prop :=
  plan.leaves.All fun direct => direct.claim.kind ≠ .Custom

/-- Proofs over the exported claims compile. -/
theorem Proof.Built.compilable {P : SignedAttributeCredential → Prop} {p : Proof}
    (h : p.Built P Claim.BuiltIn) : p.request.plan.Compilable :=
  h.leaves.imp fun _ ⟨_, _, _, hclaim⟩ => hclaim.kind_ne_custom

/-- Compiling a leaf that records its credential fails only on a custom claim. -/
theorem DirectTemplate.fromPlan_of_records {direct : DirectProofPlan}
    {credential : SignedAttributeCredential} (h : direct.Records credential) :
    DirectTemplate.fromPlan direct =
      if direct.claim.kind = .Custom then .error .UnsupportedClaim
      else .ok { issuer := credential.issuer, claim := direct.claim.kind } := by
  simp only [DirectTemplate.fromPlan, h.2, h.1]
  rw [if_neg (by simp)]

/-- What a leaf has to pass to be compiled, and what it is compiled to. -/
theorem DirectTemplate.fromPlan_eq_ok_iff {direct : DirectProofPlan} {template : DirectTemplate} :
    fromPlan direct = .ok template ↔
      ∃ credential, direct.evidence = some credential ∧ credential.hash = direct.credential ∧
        direct.claim.kind ≠ .Custom ∧
        template = { issuer := credential.issuer, claim := direct.claim.kind } := by
  unfold fromPlan
  constructor
  · intro h
    split at h
    · cases h
    · rename_i credential hevidence
      split_ifs at h with hhash hclaim
      exact ⟨credential, hevidence, not_not.mp hhash, hclaim, (Except.ok.inj h).symm⟩
  · rintro ⟨credential, hevidence, hhash, hclaim, rfl⟩
    simp only [hevidence]
    rw [if_neg (not_not.mpr hhash), if_neg hclaim]

/-- What the matcher compares at a leaf. -/
theorem DirectTemplate.accepts_eq_true_iff {template : DirectTemplate} {direct : DirectProofPlan} :
    template.accepts direct = true ↔
      ∃ credential, direct.evidence = some credential ∧ credential.hash = direct.credential ∧
        credential.issuer = template.issuer ∧ direct.claim.kind = template.claim := by
  unfold accepts
  split
  · rename_i hnone
    simp [hnone]
  · rename_i credential hsome
    simp [hsome]

namespace CircuitTemplate

/-- A leaf compiles to a leaf. -/
theorem fromPlan_direct_ok_iff {direct : DirectProofPlan} {template : CircuitTemplate} :
    fromPlan (.Direct direct) = .ok template ↔
      ∃ leaf, DirectTemplate.fromPlan direct = .ok leaf ∧ template = .Direct leaf := by
  rw [fromPlan_direct]
  cases DirectTemplate.fromPlan direct with
  | error e => simp [Except.map]
  | ok leaf => simp [Except.map, eq_comm]

/-- A node compiles when both children do, to the node of what they compile to. -/
theorem fromPlan_conjunction_ok_iff {left right : ProofPlan} {template : CircuitTemplate} :
    fromPlan (.Conjunction left right) = .ok template ↔
      ∃ l r, fromPlan left = .ok l ∧ fromPlan right = .ok r ∧ template = .Conjunction l r := by
  rw [fromPlan_conjunction]
  exact except_bind_ok_iff

theorem fromPlan_disjunction_ok_iff {left right : ProofPlan} {template : CircuitTemplate} :
    fromPlan (.Disjunction left right) = .ok template ↔
      ∃ l r, fromPlan left = .ok l ∧ fromPlan right = .ok r ∧ template = .Disjunction l r := by
  rw [fromPlan_disjunction]
  exact except_bind_ok_iff

end CircuitTemplate

/-- A recorded plan of built-in claims compiles, to the template with its statement. -/
theorem CircuitTemplate.fromPlan_ok {plan : ProofPlan} (h : plan.Recorded)
    (hclaims : plan.Compilable) :
    ∃ template, fromPlan plan = .ok template ∧ template.statement = plan.statement := by
  induction plan with
  | Direct direct =>
      obtain ⟨credential, hrecords⟩ := h
      refine ⟨.Direct ⟨credential.issuer, direct.claim.kind⟩, ?_, ?_⟩
      · rw [fromPlan_direct, DirectTemplate.fromPlan_of_records hrecords, if_neg hclaims]
        rfl
      · simp [CircuitTemplate.statement, ProofPlan.statement, leaves, ProofPlan.leaves,
          Formula.map, DirectTemplate.statement, DirectProofPlan.statement, hrecords.2]
  | Conjunction left right ihl ihr =>
      obtain ⟨l, hl, hsl⟩ := ihl h.1 hclaims.1
      obtain ⟨r, hr, hsr⟩ := ihr h.2 hclaims.2
      refine ⟨.Conjunction l r, ?_, congrArg₂ Formula.and hsl hsr⟩
      exact fromPlan_conjunction_ok_iff.mpr ⟨l, r, hl, hr, rfl⟩
  | Disjunction left right ihl ihr =>
      obtain ⟨l, hl, hsl⟩ := ihl h.1 hclaims.1
      obtain ⟨r, hr, hsr⟩ := ihr h.2 hclaims.2
      refine ⟨.Disjunction l r, ?_, congrArg₂ Formula.or hsl hsr⟩
      exact fromPlan_disjunction_ok_iff.mpr ⟨l, r, hl, hr, rfl⟩

/-- A recorded plan with a custom claim is unsupported. -/
theorem CircuitTemplate.fromPlan_error {plan : ProofPlan} (h : plan.Recorded)
    (hclaims : ¬ plan.Compilable) : fromPlan plan = .error .UnsupportedClaim := by
  induction plan with
  | Direct direct =>
      obtain ⟨credential, hrecords⟩ := h
      rw [fromPlan_direct, DirectTemplate.fromPlan_of_records hrecords,
        if_pos (not_not.mp hclaims)]
      rfl
  | Conjunction left right ihl ihr =>
      -- the left child is compiled first, and its error returned
      by_cases hleft : left.Compilable
      · obtain ⟨l, hl, -⟩ := fromPlan_ok h.1 hleft
        rw [fromPlan_conjunction, hl, ihr h.2 fun hright => hclaims ⟨hleft, hright⟩]
        rfl
      · rw [fromPlan_conjunction, ihl h.1 hleft]
        rfl
  | Disjunction left right ihl ihr =>
      by_cases hleft : left.Compilable
      · obtain ⟨l, hl, -⟩ := fromPlan_ok h.1 hleft
        rw [fromPlan_disjunction, hl, ihr h.2 fun hright => hclaims ⟨hleft, hright⟩]
        rfl
      · rw [fromPlan_disjunction, ihl h.1 hleft]
        rfl

/-- A recorded plan that compiled has built-in claims, and the statement of its template. -/
theorem CircuitTemplate.fromPlan_spec {plan : ProofPlan} {template : CircuitTemplate}
    (h : plan.Recorded) (hok : fromPlan plan = .ok template) :
    plan.Compilable ∧ template.statement = plan.statement := by
  by_cases hclaims : plan.Compilable
  · obtain ⟨template', hok', hstatement⟩ := fromPlan_ok h hclaims
    obtain rfl := Except.ok.inj (hok'.symm.trans hok)
    exact ⟨hclaims, hstatement⟩
  · rw [fromPlan_error h hclaims] at hok
    cases hok

/-- A compiled template has the shape of its plan, and each leaf is compiled in place. -/
theorem CircuitTemplate.fromPlan_leaves {plan : ProofPlan} {template : CircuitTemplate}
    (h : fromPlan plan = .ok template) :
    plan.leaves.Rel (fun direct leaf => DirectTemplate.fromPlan direct = .ok leaf)
      template.leaves := by
  induction plan generalizing template with
  | Direct direct =>
      obtain ⟨leaf, hleaf, rfl⟩ := fromPlan_direct_ok_iff.mp h
      exact .leaf hleaf
  | Conjunction left right ihl ihr =>
      obtain ⟨l, r, hl, hr, rfl⟩ := fromPlan_conjunction_ok_iff.mp h
      exact .and (ihl hl) (ihr hr)
  | Disjunction left right ihl ihr =>
      obtain ⟨l, r, hl, hr, rfl⟩ := fromPlan_disjunction_ok_iff.mp h
      exact .or (ihl hl) (ihr hr)

/-- The templates the compiler returns have built-in claims only. -/
theorem CircuitTemplate.fromPlan_builtIn {plan : ProofPlan} {template : CircuitTemplate}
    (h : fromPlan plan = .ok template) : template.leaves.All fun leaf => leaf.claim ≠ .Custom := by
  refine ((fromPlan_leaves h).imp_all (p := fun _ => True) fun direct leaf hleaf => ⟨trivial, ?_⟩).2
  obtain ⟨credential, -, -, hclaim, rfl⟩ := DirectTemplate.fromPlan_eq_ok_iff.mp hleaf
  exact hclaim

/-- Their issuer keys are those of the credentials in the plan. -/
theorem CircuitTemplate.fromPlan_issuers {plan : ProofPlan} {template : CircuitTemplate}
    {K : IssuerPublicKey → Prop} (h : fromPlan plan = .ok template)
    (hplan : plan.leaves.All fun direct =>
      ∀ credential, direct.evidence = some credential → K credential.issuer) :
    template.leaves.All fun leaf => K leaf.issuer := by
  apply (fromPlan_leaves h).all hplan
  intro direct leaf hleaf hkey
  obtain ⟨credential, hevidence, -, -, rfl⟩ := DirectTemplate.fromPlan_eq_ok_iff.mp hleaf
  exact hkey credential hevidence

/-- At a leaf the matcher asks for what the compiler asks for, custom claims apart. -/
theorem DirectTemplate.accepts_iff_fromPlan {template : DirectTemplate}
    (h : template.claim ≠ .Custom) (direct : DirectProofPlan) :
    template.accepts direct = true ↔ DirectTemplate.fromPlan direct = .ok template := by
  rw [accepts_eq_true_iff, fromPlan_eq_ok_iff]
  refine exists_congr fun credential => and_congr_right fun _ => and_congr_right fun _ => ?_
  rcases template with ⟨issuer, claim⟩
  constructor
  · rintro ⟨rfl, rfl⟩
    exact ⟨h, rfl⟩
  · rintro ⟨-, heq⟩
    rw [DirectTemplate.mk.injEq] at heq
    exact ⟨heq.1.symm, heq.2.symm⟩

/-- The matcher accepts exactly the plans that compile to the template. -/
theorem CircuitTemplate.accepts_iff_fromPlan {template : CircuitTemplate}
    (h : template.leaves.All fun leaf => leaf.claim ≠ .Custom) (plan : ProofPlan) :
    template.accepts plan = true ↔ CircuitTemplate.fromPlan plan = .ok template := by
  induction template generalizing plan with
  | Direct template =>
      rw [accepts_direct_iff]
      cases plan with
      | Direct direct => simp [DirectTemplate.accepts_iff_fromPlan h, fromPlan_direct_ok_iff]
      | Conjunction => simp [fromPlan_conjunction_ok_iff]
      | Disjunction => simp [fromPlan_disjunction_ok_iff]
  | Conjunction left right ihl ihr =>
      rw [accepts_conjunction_iff]
      cases plan with
      | Direct => simp [fromPlan_direct_ok_iff]
      | Conjunction => simp [ihl h.1, ihr h.2, fromPlan_conjunction_ok_iff]
      | Disjunction => simp [fromPlan_disjunction_ok_iff]
  | Disjunction left right ihl ihr =>
      rw [accepts_disjunction_iff]
      cases plan with
      | Direct => simp [fromPlan_direct_ok_iff]
      | Conjunction => simp [fromPlan_conjunction_ok_iff]
      | Disjunction => simp [ihl h.1, ihr h.2, fromPlan_disjunction_ok_iff]

/-- What compiles is accepted by its own template, which has no custom leaf. -/
theorem CircuitTemplate.accepts_of_fromPlan {plan : ProofPlan} {template : CircuitTemplate}
    (h : fromPlan plan = .ok template) : template.accepts plan = true :=
  (accepts_iff_fromPlan (fromPlan_builtIn h) plan).mpr h

theorem DirectTemplate.accepts_iff {template : DirectTemplate} {direct : DirectProofPlan}
    {credential : SignedAttributeCredential} (h : direct.Records credential) :
    template.accepts direct = true ↔ template.statement = direct.statement := by
  simp only [accepts, DirectTemplate.statement, DirectProofPlan.statement, h.1, h.2,
    Option.map_some, Prod.mk.injEq, Option.some_inj, decide_eq_true_iff, true_and]
  exact and_congr eq_comm eq_comm

/-- A recorded plan is accepted when it has the statement of the template. -/
theorem CircuitTemplate.accepts_iff {template : CircuitTemplate} {plan : ProofPlan}
    (h : plan.Recorded) : template.accepts plan = true ↔ template.statement = plan.statement := by
  induction template generalizing plan with
  | Direct template =>
      rw [accepts_direct_iff]
      constructor
      · rintro ⟨direct, rfl, hdirect⟩
        obtain ⟨credential, hrecords⟩ := h
        exact congrArg Formula.leaf ((DirectTemplate.accepts_iff hrecords).mp hdirect)
      · intro hs
        cases plan with
        | Direct direct =>
            obtain ⟨credential, hrecords⟩ := h
            exact ⟨direct, rfl, (DirectTemplate.accepts_iff hrecords).mpr (Formula.leaf.inj hs)⟩
        | Conjunction | Disjunction => cases hs
  | Conjunction left right ihl ihr =>
      rw [accepts_conjunction_iff]
      constructor
      · rintro ⟨l, r, rfl, hl, hr⟩
        exact congrArg₂ Formula.and ((ihl h.1).mp hl) ((ihr h.2).mp hr)
      · intro hs
        cases plan with
        | Conjunction l r =>
            obtain ⟨hl, hr⟩ := Formula.and.inj hs
            exact ⟨l, r, rfl, (ihl h.1).mpr hl, (ihr h.2).mpr hr⟩
        | Direct | Disjunction => cases hs
  | Disjunction left right ihl ihr =>
      rw [accepts_disjunction_iff]
      constructor
      · rintro ⟨l, r, rfl, hl, hr⟩
        exact congrArg₂ Formula.or ((ihl h.1).mp hl) ((ihr h.2).mp hr)
      · intro hs
        cases plan with
        | Disjunction l r =>
            obtain ⟨hl, hr⟩ := Formula.or.inj hs
            exact ⟨l, r, rfl, (ihl h.1).mpr hl, (ihr h.2).mpr hr⟩
        | Direct | Conjunction => cases hs

/-! ## Cutoffs -/

/-- Every age threshold of the plan has a supported cutoff. -/
def ProofPlan.CutoffsSupported (policy : VerificationPolicy) (plan : ProofPlan) : Prop :=
  plan.leaves.All fun direct => CutoffIsSupported policy direct.claim.kind

omit [Hashes] in
/-- A property of the claim kinds, read on a template or on a plan of its statement. -/
theorem all_claims_iff {template : CircuitTemplate} {plan : ProofPlan} (P : ClaimKind → Prop)
    (h : template.statement = plan.statement) :
    (template.leaves.All fun leaf => P leaf.claim) ↔
      plan.leaves.All fun direct => P direct.claim.kind := by
  have hall := congrArg (Formula.All fun s => P s.2) h
  unfold CircuitTemplate.statement ProofPlan.statement at hall
  rw [Formula.all_map, Formula.all_map] at hall
  exact iff_of_eq hall

/-- A compiled template can be synthesized exactly where the plan's cutoffs are supported. -/
theorem CircuitTemplate.supportedAt_iff {plan : ProofPlan} {template : CircuitTemplate}
    {policy : VerificationPolicy} (h : plan.Recorded) (hok : fromPlan plan = .ok template) :
    template.SupportedAt policy ↔ plan.CutoffsSupported policy := by
  rw [ProofPlan.CutoffsSupported, ← all_claims_iff _ (fromPlan_spec h hok).2]
  constructor
  · intro hsupported
    exact hsupported.imp fun _ hleaf => (supported_iff.mp hleaf).2
  · intro hcutoffs
    exact ((fromPlan_builtIn hok).and hcutoffs).imp fun _ => supported_iff.mpr

/-! ## A single leaf -/

theorem records_is (credential : SignedAttributeCredential) (claim : Claim) :
    DirectProofPlan.Records
      { credential := credential.hash, claim, evidence := some credential } credential := ⟨rfl, rfl⟩

/-- One built-in claim on a credential compiles to one leaf, which accepts it. -/
theorem fromPlan_is (credential : SignedAttributeCredential) (claim : Claim)
    (h : claim.kind ≠ .Custom) :
    CircuitTemplate.fromPlan (credential.is claim).request.plan =
        .ok (.Direct ⟨credential.issuer, claim.kind⟩) ∧
      CircuitTemplate.accepts (.Direct ⟨credential.issuer, claim.kind⟩)
        (credential.is claim).request.plan = true := by
  have hrecords := records_is credential claim
  constructor
  · show (DirectTemplate.fromPlan _).map _ = _
    rw [DirectTemplate.fromPlan_of_records hrecords, if_neg h]
    rfl
  · exact (DirectTemplate.accepts_iff hrecords).mpr rfl

end Zcaprio
