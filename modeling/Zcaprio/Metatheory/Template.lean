import Zcaprio.Metatheory.Claims

/-!
# The circuit of a template

The events of a whole template, the leaves at their places in the trace, and
what the constraints say of them: every leaf is signed, and the and/or tree of
the claims is true.
-/

namespace Zcaprio

open Trace ProofPlan

section Placement

variable [Curve]

namespace CircuitTemplate

/-- The and/or tree of a template. -/
def leaves : CircuitTemplate → Formula DirectTemplate
  | Direct template => .leaf template
  | Conjunction left right => .and left.leaves right.leaves
  | Disjunction left right => .or left.leaves right.leaves

/-- Every leaf can be compiled at the policy. -/
def SupportedAt (template : CircuitTemplate) (policy : VerificationPolicy) : Prop :=
  template.leaves.All fun leaf => Supported policy leaf.claim

/-- The number of events. -/
def size : CircuitTemplate → ℕ
  | Direct template => 24 + (claimOutput template.claim + 1)
  | Conjunction left right | Disjunction left right => left.size + (right.size + 1)

/-- The step of the output bit. -/
def output : CircuitTemplate → ℕ → ℕ
  | Direct template, n => n + 24 + claimOutput template.claim
  | Conjunction left right, n | Disjunction left right, n => n + left.size + right.size

/-- The leaves, each with the step its block starts at. -/
def placed : CircuitTemplate → ℕ → Formula (DirectTemplate × ℕ)
  | Direct template, n => .leaf (template, n)
  | Conjunction left right, n => .and (left.placed n) (right.placed (n + left.size))
  | Disjunction left right, n => .or (left.placed n) (right.placed (n + left.size))

/-- A plan of the shape of the template, or none. -/
def Fits : CircuitTemplate → Option ProofPlan → Prop
  | Direct _, none | Conjunction _ _, none | Disjunction _ _, none => True
  | Direct _, some (.Direct _) => True
  | Conjunction left right, some (.Conjunction otherLeft otherRight) =>
      left.Fits (some otherLeft) ∧ right.Fits (some otherRight)
  | Disjunction left right, some (.Disjunction otherLeft otherRight) =>
      left.Fits (some otherLeft) ∧ right.Fits (some otherRight)
  | _, _ => False

theorem fits_none (template : CircuitTemplate) : template.Fits none := by
  cases template <;> trivial

/-- The matcher accepts only plans of the shape of the template. -/
theorem fits_of_accepts [Hashes] {template : CircuitTemplate} {plan : ProofPlan}
    (h : template.accepts plan = true) : template.Fits (some plan) := by
  induction template generalizing plan with
  | Direct template =>
      obtain ⟨direct, rfl, -⟩ := accepts_direct_iff.mp h
      trivial
  | Conjunction left right ihl ihr =>
      obtain ⟨otherLeft, otherRight, rfl, hl, hr⟩ := accepts_conjunction_iff.mp h
      exact ⟨ihl hl, ihr hr⟩
  | Disjunction left right ihl ihr =>
      obtain ⟨otherLeft, otherRight, rfl, hl, hr⟩ := accepts_disjunction_iff.mp h
      exact ⟨ihl hl, ihr hr⟩

/-- The plans a circuit is synthesized with: none at setup, or an accepted one. -/
theorem fits_of_plan [Hashes] {template : CircuitTemplate} {plan : Option ProofPlan}
    (h : ∀ other, plan = some other → template.accepts other = true) : template.Fits plan := by
  cases plan with
  | none => exact template.fits_none
  | some other => exact fits_of_accepts (h other rfl)

end CircuitTemplate

namespace ProofPlan

/-- The credential and the children of an optional plan. -/
def evidenceOf : Option ProofPlan → Option SignedAttributeCredential
  | some (.Direct direct) => direct.evidence
  | _ => none

def leftOf : Option ProofPlan → Option ProofPlan
  | some (.Conjunction left _) | some (.Disjunction left _) => some left
  | _ => none

def rightOf : Option ProofPlan → Option ProofPlan
  | some (.Conjunction _ right) | some (.Disjunction _ right) => some right
  | _ => none

end ProofPlan

namespace CircuitTemplate

/-- A plan of the shape of two branches has children of their shapes. -/
theorem fits_conjunction {left right : CircuitTemplate} {plan : Option ProofPlan}
    (h : (Conjunction left right).Fits plan) :
    left.Fits (leftOf plan) ∧ right.Fits (rightOf plan) := by
  rcases plan with _ | (_ | ⟨l, r⟩ | _)
  · exact ⟨left.fits_none, right.fits_none⟩
  · exact h.elim
  · exact h
  · exact h.elim

theorem fits_disjunction {left right : CircuitTemplate} {plan : Option ProofPlan}
    (h : (Disjunction left right).Fits plan) :
    left.Fits (leftOf plan) ∧ right.Fits (rightOf plan) := by
  rcases plan with _ | (_ | _ | ⟨l, r⟩)
  · exact ⟨left.fits_none, right.fits_none⟩
  · exact h.elim
  · exact h.elim
  · exact h

end CircuitTemplate

/-! ## What the circuit records -/

variable [Chrono]

/-! On a plan of the shape of the template, or none, the two arms for each
constructor are one. -/

namespace CircuitTemplate

variable {policy : VerificationPolicy} {mismatch : SynthesisError} {plan : Option ProofPlan}

theorem relationWith_direct {template : DirectTemplate} (h : (Direct template).Fits plan) :
    (Direct template).relationWith mismatch plan policy =
      template.relation (evidenceOf plan) policy := by
  rcases plan with _ | (direct | _ | _)
  · rfl
  · rfl
  · exact h.elim
  · exact h.elim

theorem relationWith_conjunction {left right : CircuitTemplate}
    (h : (Conjunction left right).Fits plan) :
    (Conjunction left right).relationWith mismatch plan policy =
      (left.relationWith mismatch (leftOf plan) policy >>= fun l =>
        right.relationWith mismatch (rightOf plan) policy >>= fun r =>
          callBoolean (.and l r)) := by
  rcases plan with _ | (_ | ⟨otherLeft, otherRight⟩ | _)
  · rfl
  · exact h.elim
  · rfl
  · exact h.elim

theorem relationWith_disjunction {left right : CircuitTemplate}
    (h : (Disjunction left right).Fits plan) :
    (Disjunction left right).relationWith mismatch plan policy =
      (left.relationWith mismatch (leftOf plan) policy >>= fun l =>
        right.relationWith mismatch (rightOf plan) policy >>= fun r =>
          callBoolean (.or l r)) := by
  rcases plan with _ | (_ | _ | ⟨otherLeft, otherRight⟩)
  · rfl
  · exact h.elim
  · exact h.elim
  · rfl

end CircuitTemplate

/-- The events of a leaf at step `n`. -/
def leafBlock (template : DirectTemplate) (credential : Option SignedAttributeCredential)
    (policy : VerificationPolicy) (n : ℕ) : ConstraintSystem :=
  credentialBlock template.issuer credential n ++ claimBlock policy n template.claim

namespace CircuitTemplate

/-- The events of a template at step `n`. -/
def block : CircuitTemplate → Option ProofPlan → VerificationPolicy → ℕ → ConstraintSystem
  | Direct template, plan, policy, n => leafBlock template (evidenceOf plan) policy n
  | Conjunction left right, plan, policy, n =>
      left.block (leftOf plan) policy n ++ (right.block (rightOf plan) policy (n + left.size) ++
        [(.call (.and (.Var ⟨left.output n, 0⟩) (.Var ⟨right.output (n + left.size), 0⟩)), [])])
  | Disjunction left right, plan, policy, n =>
      left.block (leftOf plan) policy n ++ (right.block (rightOf plan) policy (n + left.size) ++
        [(.call (.or (.Var ⟨left.output n, 0⟩) (.Var ⟨right.output (n + left.size), 0⟩)), [])])

variable {template : CircuitTemplate} {policy : VerificationPolicy}

theorem length_block (h : template.SupportedAt policy) (plan : Option ProofPlan) (n : ℕ) :
    (template.block plan policy n).length = template.size := by
  induction template generalizing plan n with
  | Direct template =>
      have hclaim : template.claim ≠ .Custom := by
        intro hc
        have h : Supported policy template.claim := h
        rw [hc] at h
        exact h
      unfold block leafBlock
      rw [List.length_append, length_credentialBlock, length_claimBlock hclaim, size]
  | Conjunction left right ihl ihr =>
      simp [block, size, ihl h.1, ihr h.2]
  | Disjunction left right ihl ihr =>
      simp [block, size, ihl h.1, ihr h.2]

/-- The values of the plan do not show in the shape. -/
theorem shape_block (plan : Option ProofPlan) (n : ℕ) :
    (template.block plan policy n).shape = (template.block none policy n).shape := by
  induction template generalizing plan n with
  | Direct template => simp only [block, leafBlock, shape_append]; rfl
  | Conjunction left right ihl ihr =>
      simp only [block, shape_append]
      rw [ihl (leftOf plan), ihr (rightOf plan)]
      rfl
  | Disjunction left right ihl ihr =>
      simp only [block, shape_append]
      rw [ihl (leftOf plan), ihr (rightOf plan)]
      rfl

omit [Curve] [Chrono] in
/-- Two children and the gate over them. -/
theorem emits_gate {m m' : Synthesis Boolean} {n : ℕ} {l r : Boolean} {es ds : ConstraintSystem}
    {g : Boolean → Boolean → Gadget FpVar Boolean} {k k' : ℕ} (hes : es.length = k)
    (hds : ds.length = k') (hm : Emits m n l es) (hm' : Emits m' (n + k) r ds) :
    Emits (m >>= fun l => m' >>= fun r => callBoolean (g l r)) n (.Var ⟨n + k + k', 0⟩)
      (es ++ (ds ++ [(.call (g l r), [])])) := by
  subst hes hds
  exact hm.bind (hm'.bind (callBoolean_emits _ _))

/-- A supported template and a plan of its shape record the block. -/
theorem relationWith_emits (mismatch : SynthesisError) {plan : Option ProofPlan}
    (hfits : template.Fits plan) (h : template.SupportedAt policy) (n : ℕ) :
    Emits (template.relationWith mismatch plan policy) n (.Var ⟨template.output n, 0⟩)
      (template.block plan policy n) := by
  induction template generalizing plan n with
  | Direct template =>
      rw [relationWith_direct hfits]
      exact DirectTemplate.relation_emits h (evidenceOf plan) n
  | Conjunction left right ihl ihr =>
      obtain ⟨hl, hr⟩ := fits_conjunction hfits
      rw [relationWith_conjunction hfits]
      exact emits_gate (g := .and) (length_block h.1 _ _) (length_block h.2 _ _) (ihl hl h.1 n)
        (ihr hr h.2 _)
  | Disjunction left right ihl ihr =>
      obtain ⟨hl, hr⟩ := fits_disjunction hfits
      rw [relationWith_disjunction hfits]
      exact emits_gate (g := .or) (length_block h.1 _ _) (length_block h.2 _ _) (ihl hl h.1 n)
        (ihr hr h.2 _)

/-- The events of the leaf, from its own step on. -/
def BlockAt (policy : VerificationPolicy) (es : List Event) (n : ℕ) (leaf : DirectTemplate × ℕ) :
    Prop :=
  ∃ before after, es = before ++ ((leafBlock leaf.1 none policy leaf.2).shape ++ after) ∧
    n + before.length = leaf.2

theorem BlockAt.append_right {es ys : List Event} {n : ℕ} {leaf : DirectTemplate × ℕ}
    (h : BlockAt policy es n leaf) : BlockAt policy (es ++ ys) n leaf := by
  obtain ⟨before, after, rfl, hbefore⟩ := h
  exact ⟨before, after ++ ys, by simp [List.append_assoc], hbefore⟩

theorem BlockAt.append_left {es ds : List Event} {n k : ℕ} {leaf : DirectTemplate × ℕ}
    (hds : ds.length = k) (h : BlockAt policy es (n + k) leaf) :
    BlockAt policy (ds ++ es) n leaf := by
  obtain ⟨before, after, rfl, hbefore⟩ := h
  refine ⟨ds ++ before, after, by simp [List.append_assoc], ?_⟩
  rw [List.length_append]
  omega

/-- Each placed leaf has its block at its step. -/
theorem placed_blockAt (h : template.SupportedAt policy) (plan : Option ProofPlan) (n : ℕ) :
    (template.placed n).All (BlockAt policy (template.block plan policy n).shape n) := by
  induction template generalizing plan n with
  | Direct template =>
      rw [shape_block]
      exact ⟨[], [], by simp [block, evidenceOf], rfl⟩
  | Conjunction left right ihl ihr =>
      -- the right block starts where the left one ends
      have hl : (left.block (leftOf plan) policy n).shape.length = left.size := by
        rw [length_shape, length_block h.1]
      simp only [placed, block, shape_append]
      exact ⟨(ihl h.1 _ n).imp fun _ hleaf => hleaf.append_right,
        (ihr h.2 _ _).imp fun _ hleaf => hleaf.append_right.append_left hl⟩
  | Disjunction left right ihl ihr =>
      have hl : (left.block (leftOf plan) policy n).shape.length = left.size := by
        rw [length_shape, length_block h.1]
      simp only [placed, block, shape_append]
      exact ⟨(ihl h.1 _ n).imp fun _ hleaf => hleaf.append_right,
        (ihr h.2 _ _).imp fun _ hleaf => hleaf.append_right.append_left hl⟩

end CircuitTemplate

end Placement

/-! ## What the constraints say -/

section Meaning

variable [Gadgets] [Chrono] {w : Assignment Fr} {n : ℕ} {policy : VerificationPolicy}
  {template : CircuitTemplate}

/-- The constraints of a leaf at step `n`: its scalars are bits, its opening is
signed, a compared birth day is in range. -/
structure LeafAccepts (w : Assignment Fr) (leaf : DirectTemplate × ℕ) : Prop where
  bits : ScalarBits w (leaf.2 + 8)
  signed : (openingAt w leaf.2).Signed leaf.1.issuer
  inRange : InRange (openingAt w leaf.2) leaf.1.claim

/-- The claim of a leaf, read on the opening its block allocates. -/
def LeafHolds (policy : VerificationPolicy) (w : Assignment Fr) (leaf : DirectTemplate × ℕ) :
    Prop :=
  ClaimHolds policy (openingAt w leaf.2) leaf.1.claim

instance : DecidablePred (LeafHolds policy w) := fun _ => decidableClaimHolds policy _ _

/-- What a leaf at step `n` proves: its scalars are bytes, canonical and accepted
by the native check on the message of its opening, and its claim is true of
that same opening. -/
structure LeafProves (policy : VerificationPolicy) (w : Assignment Fr)
    (leaf : DirectTemplate × ℕ) : Prop where
  bits : ScalarBits w (leaf.2 + 8)
  signed : (openingAt w leaf.2).Signed leaf.1.issuer
  holds : ClaimHolds policy (openingAt w leaf.2) leaf.1.claim

theorem leafBlock_scoped {leaf : DirectTemplate} {credential : Option SignedAttributeCredential} :
    Scoped n (leafBlock leaf credential policy n).shape := by
  unfold leafBlock
  rw [shape_append, Scoped, along_append, length_shape, length_credentialBlock]
  exact ⟨credentialBlock_scoped, claimBlock_scoped _⟩

theorem leafBlock_spec {leaf : DirectTemplate} {credential : Option SignedAttributeCredential}
    (hsupported : Supported policy leaf.claim)
    (h : Determined w n (leafBlock leaf credential policy n).shape) :
    (Satisfies w n (leafBlock leaf credential policy n).shape ↔ LeafAccepts w (leaf, n)) ∧
      (InRange (openingAt w n) leaf.claim →
        w ⟨n + 24 + claimOutput leaf.claim, 0⟩ = bit (LeafHolds policy w (leaf, n))) := by
  unfold leafBlock at h
  rw [shape_append, Determined, along_append, length_shape, length_credentialBlock] at h
  obtain ⟨hrange, hrow⟩ := claimBlock_spec hsupported h.2
  refine ⟨?_, hrow⟩
  have hcredential := credentialBlock_satisfies_iff h.1
  unfold leafBlock
  rw [shape_append, Satisfies, along_append, length_shape, length_credentialBlock]
  constructor
  · rintro ⟨hc, hr⟩
    obtain ⟨hbits, hsigned⟩ := hcredential.mp hc
    exact ⟨hbits, hsigned, hrange.mp hr⟩
  · rintro ⟨hbits, hsigned, hr⟩
    exact ⟨hcredential.mpr ⟨hbits, hsigned⟩, hrange.mpr hr⟩

namespace CircuitTemplate

omit [Chrono] in
/-- The output of a template is recorded before its last event. -/
theorem output_lt (template : CircuitTemplate) (n : ℕ) : template.output n < n + template.size := by
  cases template <;> simp only [output, size] <;> omega

omit [Chrono] in
/-- A gate over two children reads only what came before it. -/
theorem gate_scoped {left right : CircuitTemplate} {m : ℕ} {g : Boolean → Boolean → Gadget FpVar Boolean}
    (hfields : ∀ l r, (g l r).fields = []) (hbools : ∀ l r, (g l r).bools = [l, r])
    (hm : n + left.size + right.size = m) :
    Scoped m [Event.call (g (.Var ⟨left.output n, 0⟩)
      (.Var ⟨right.output (n + left.size), 0⟩))] := by
  refine ⟨reads_call_lt (by simp [hfields]) ?_, trivial⟩
  have hl := left.output_lt n
  have hr := right.output_lt (n + left.size)
  rw [hbools]
  intro b hb v hv
  rcases List.mem_pair.mp hb with rfl | rfl
  · obtain rfl := List.mem_singleton.mp hv
    show left.output n < m
    omega
  · obtain rfl := List.mem_singleton.mp hv
    show right.output (n + left.size) < m
    omega

omit [Gadgets] [Chrono] in
/-- Two blocks and a gate, as properties along the trace. -/
theorem along_gate {P : ℕ → Event → Prop} {es ds : ConstraintSystem} {g : Gadget FpVar Boolean}
    {k k' : ℕ} (hes : es.length = k) (hds : ds.length = k') :
    Along P n (es ++ (ds ++ [(Event.call g, [])])).shape ↔
      Along P n es.shape ∧ Along P (n + k) ds.shape ∧ P (n + k + k') (.call g) := by
  subst hes hds
  rw [shape_append, shape_append, along_append, along_append, length_shape, length_shape]
  simp [System.shape]

/-- The block reads only what came before each of its events. -/
theorem block_scoped (h : template.SupportedAt policy) (plan : Option ProofPlan) :
    Scoped n (template.block plan policy n).shape := by
  induction template generalizing plan n with
  | Direct template => exact leafBlock_scoped
  | Conjunction left right ihl ihr =>
      unfold block Scoped
      rw [along_gate (length_block h.1 _ _) (length_block h.2 _ _)]
      exact ⟨ihl h.1 _, ihr h.2 _,
        (gate_scoped (g := .and) (fun _ _ => rfl) (fun _ _ => rfl) rfl).1⟩
  | Disjunction left right ihl ihr =>
      unfold block Scoped
      rw [along_gate (length_block h.1 _ _) (length_block h.2 _ _)]
      exact ⟨ihl h.1 _, ihr h.2 _,
        (gate_scoped (g := .or) (fun _ _ => rfl) (fun _ _ => rfl) rfl).1⟩

omit [Chrono] in
/-- The gate over two determined blocks adds no condition, and returns its bit. -/
theorem gate_spec {es ds : ConstraintSystem} {g : Gadget FpVar Boolean} {k k' : ℕ} {b : Bool}
    (hes : es.length = k) (hds : ds.length = k')
    (hgate : (Event.call g).Determined (n + k + k') w →
      w ⟨n + k + k', 0⟩ = bit b ∧ Vocabulary.Enforced (Event.call g) (n + k + k') w)
    (h : Determined w n (es ++ (ds ++ [(Event.call g, [])])).shape) :
    Determined w n es.shape ∧ Determined w (n + k) ds.shape ∧
      (Satisfies w n (es ++ (ds ++ [(Event.call g, [])])).shape ↔
        Satisfies w n es.shape ∧ Satisfies w (n + k) ds.shape) ∧
      w ⟨n + k + k', 0⟩ = bit b := by
  rw [Determined, along_gate hes hds] at h
  obtain ⟨hl, hr, hcall⟩ := h
  obtain ⟨hrow, hok⟩ := hgate hcall
  refine ⟨hl, hr, ?_, hrow⟩
  rw [Satisfies, along_gate hes hds]
  constructor
  · rintro ⟨hsl, hsr, -⟩
    exact ⟨hsl, hsr⟩
  · rintro ⟨hsl, hsr⟩
    exact ⟨hsl, hsr, hok⟩

/-- The constraints of a determined template say that every leaf accepts, and
then its output bit is the truth of the tree of claims. -/
theorem block_spec (hsupported : template.SupportedAt policy) (plan : Option ProofPlan)
    (h : Determined w n (template.block plan policy n).shape) :
    (Satisfies w n (template.block plan policy n).shape ↔
      (template.placed n).All (LeafAccepts w)) ∧
    ((template.placed n).All (fun leaf => InRange (openingAt w leaf.2) leaf.1.claim) →
      w ⟨template.output n, 0⟩ = bit ((template.placed n).Holds (LeafHolds policy w))) := by
  induction template generalizing plan n with
  | Direct template => exact leafBlock_spec hsupported h
  | Conjunction left right ihl ihr =>
      obtain ⟨hdl, hdr, hs, hrow⟩ := gate_spec (length_block hsupported.1 _ _)
        (length_block hsupported.2 _ _) determined_and h
      obtain ⟨hsl, hol⟩ := ihl hsupported.1 _ hdl
      obtain ⟨hsr, hor⟩ := ihr hsupported.2 _ hdr
      refine ⟨hs.trans (and_congr hsl hsr), fun hrange => hrow.trans (congrArg bit ?_)⟩
      rw [Boolean.value, Boolean.value, hol hrange.1, hor hrange.2, ofBit_bit, ofBit_bit,
        ← Bool.decide_and]
      rfl
  | Disjunction left right ihl ihr =>
      obtain ⟨hdl, hdr, hs, hrow⟩ := gate_spec (length_block hsupported.1 _ _)
        (length_block hsupported.2 _ _) determined_or h
      obtain ⟨hsl, hol⟩ := ihl hsupported.1 _ hdl
      obtain ⟨hsr, hor⟩ := ihr hsupported.2 _ hdr
      refine ⟨hs.trans (and_congr hsl hsr), fun hrange => hrow.trans (congrArg bit ?_)⟩
      rw [Boolean.value, Boolean.value, hol hrange.1, hor hrange.2, ofBit_bit, ofBit_bit,
        ← Bool.decide_or]
      rfl

/-- The constraints of a part of a circuit hold, and its Boolean is true. -/
structure BranchTrue (w : Assignment Fr) (n : ℕ) (branch : ConstraintSystem) (root : Boolean) :
    Prop where
  satisfies : Satisfies w n branch.shape
  root : root.value w = true

/-- For a determined template this says that every leaf accepts and that the
tree of claims is true. -/
theorem branchTrue_iff (hsupported : template.SupportedAt policy) {plan : Option ProofPlan}
    (h : Determined w n (template.block plan policy n).shape) :
    BranchTrue w n (template.block plan policy n) (.Var ⟨template.output n, 0⟩) ↔
      (template.placed n).All (LeafAccepts w) ∧ (template.placed n).Holds (LeafHolds policy w) := by
  obtain ⟨hsatisfies, hroot⟩ := block_spec hsupported plan h
  -- the output bit is the tree's truth only once every birth day is in range
  have hvalue (hall : (template.placed n).All (LeafAccepts w)) :
      Boolean.value w (.Var ⟨template.output n, 0⟩) =
        decide ((template.placed n).Holds (LeafHolds policy w)) := by
    rw [Boolean.value, hroot (hall.imp fun _ hleaf => hleaf.inRange), ofBit_bit]
  constructor
  · rintro ⟨hblock, htrue⟩
    have hall := hsatisfies.mp hblock
    rw [hvalue hall] at htrue
    exact ⟨hall, of_decide_eq_true htrue⟩
  · rintro ⟨hall, hholds⟩
    exact ⟨hsatisfies.mpr hall, (hvalue hall).trans (decide_eq_true hholds)⟩

end CircuitTemplate

end Meaning

/-! ## The complete circuit -/

section Circuit

variable [Chrono]

namespace ProofCircuit

/-- The events of a complete circuit: its template, and the assertion of its root. -/
def block [Curve] (circuit : ProofCircuit) : ConstraintSystem :=
  circuit.template.block circuit.plan circuit.policy 0 ++
    [(.call (.enforceEqual [.Var ⟨circuit.template.output 0, 0⟩] [.Constant true]), [])]

/-- A supported template and a plan of its shape synthesize to the block. -/
theorem synthesize_eq [Curve] {circuit : ProofCircuit}
    (hsupported : circuit.template.SupportedAt circuit.policy)
    (hfits : circuit.template.Fits circuit.plan) : circuit.synthesize = .ok circuit.block := by
  have hroot := CircuitTemplate.relationWith_emits .Unsatisfiable hfits hsupported 0
  have hrun : Emits circuit.generateConstraints 0 () circuit.block :=
    hroot.bind (callUnit_emits _ _)
  rw [synthesize, hrun.run]
  rfl

variable [Gadgets] {circuit : ProofCircuit} {w : Assignment Fr}

theorem block_scoped (hsupported : circuit.template.SupportedAt circuit.policy) :
    Scoped 0 circuit.block.shape := by
  have hlt := circuit.template.output_lt 0
  unfold block
  rw [shape_append, Scoped, along_append, length_shape,
    CircuitTemplate.length_block hsupported]
  refine ⟨CircuitTemplate.block_scoped hsupported _, reads_call_lt (by simp [Gadget.fields]) ?_,
    trivial⟩
  intro b hb v hv
  rcases List.mem_append.mp hb with hb | hb
  · obtain rfl := List.mem_singleton.mp hb
    obtain rfl := List.mem_singleton.mp hv
    exact hlt
  · obtain rfl := List.mem_singleton.mp hb
    simp [Boolean.reads] at hv

/-- In a determined circuit, the constraints say that every leaf accepts and
that the tree of claims is true. -/
theorem satisfies_iff (hsupported : circuit.template.SupportedAt circuit.policy)
    (h : Determined w 0 circuit.block.shape) :
    Satisfies w 0 circuit.block.shape ↔
      (circuit.template.placed 0).All (LeafAccepts w) ∧
        (circuit.template.placed 0).Holds (LeafHolds circuit.policy w) := by
  unfold block at h
  rw [shape_append, Determined, along_append] at h
  rw [← CircuitTemplate.branchTrue_iff hsupported h.1, block, shape_append, Satisfies, along_append]
  -- the last event asserts the root bit
  have hassert (step : ℕ) : Vocabulary.Enforced (Event.call (.enforceEqual
      [.Var ⟨circuit.template.output 0, 0⟩] [.Constant true])) step w ↔
        Boolean.value w (.Var ⟨circuit.template.output 0, 0⟩) = true := by
    rw [enforced_enforceEqual (by simp)]
    simp [Boolean.value]
  constructor
  · rintro ⟨hblock, htrue, -⟩
    exact ⟨hblock, (hassert _).mp htrue⟩
  · rintro ⟨hblock, htrue⟩
    exact ⟨hblock, (hassert _).mpr htrue, trivial⟩

/-- The same at the values computed from any allocation values. -/
theorem satisfies_complete_iff (hsupported : circuit.template.SupportedAt circuit.policy)
    (input : ℕ → List Fr) :
    Satisfies (complete input circuit.block.shape) 0 circuit.block.shape ↔
      (circuit.template.placed 0).All (LeafAccepts (complete input circuit.block.shape)) ∧
        (circuit.template.placed 0).Holds
          (LeafHolds circuit.policy (complete input circuit.block.shape)) := by
  apply satisfies_iff hsupported
  exact determined_of_computes (complete_computes input (block_scoped hsupported))

end ProofCircuit

end Circuit

end Zcaprio
