import Zcaprio.Instances.Reference
import Zcaprio.Metatheory.Plans

/-!
# The matcher and the compiler

Two recursions over pairs of trees, one with early errors and one with
Booleans. They agree on every plan: also on leaves that hold no credential, or
one of another hash.
-/

namespace Zcaprio

section Matching

variable [Curve] [Hashes]

/-- For a template without custom leaves and any plan: the template accepts the
plan exactly when the plan compiles to it. So no other such template accepts the
plan, and what compiles is accepted by its own template. -/
theorem matcher_exact {template : CircuitTemplate}
    (h : template.leaves.All fun leaf => leaf.claim ≠ .Custom) (plan : ProofPlan) :
    (template.accepts plan = true ↔ CircuitTemplate.fromPlan plan = .ok template) ∧
      (∀ other : CircuitTemplate, (other.leaves.All fun leaf => leaf.claim ≠ .Custom) →
        template.accepts plan = true → other.accepts plan = true → other = template) ∧
      ∀ compiled : CircuitTemplate, CircuitTemplate.fromPlan plan = .ok compiled →
        compiled.accepts plan = true := by
  refine ⟨CircuitTemplate.accepts_iff_fromPlan h plan, ?_, ?_⟩
  · intro other hother haccepts haccepts'
    rw [CircuitTemplate.accepts_iff_fromPlan h] at haccepts
    rw [CircuitTemplate.accepts_iff_fromPlan hother, haccepts] at haccepts'
    exact (Except.ok.inj haccepts').symm
  · intro compiled hcompiled
    exact CircuitTemplate.accepts_of_fromPlan hcompiled

end Matching

open Reference in
/-- A staff credential, asked for its role and for an age: the template of the
conjunction accepts that plan, and not the disjunction of the same leaves. -/
theorem matcher_exact_staff :
    let left := credential.is (Claim.roleIs .Staff)
    let right := credential.is (Claim.ageIsAbove 18)
    let template : CircuitTemplate := .Conjunction (.Direct ⟨credential.issuer, .Role .Staff⟩)
      (.Direct ⟨credential.issuer, .AgeAbove 18⟩)
    template.accepts (left.and right).request.plan = true ∧
      template.accepts (left.or right).request.plan = false := by
  intro left right template
  have hbuiltIn : template.leaves.All fun leaf => leaf.claim ≠ .Custom := by
    constructor
    · show ClaimKind.Role .Staff ≠ .Custom
      decide
    · show ClaimKind.AgeAbove 18 ≠ .Custom
      decide
  have hleft := (fromPlan_is credential (Claim.roleIs .Staff) (by decide)).1
  have hright := (fromPlan_is credential (Claim.ageIsAbove 18) (by decide)).1
  constructor
  · rw [(matcher_exact hbuiltIn _).1]
    exact CircuitTemplate.fromPlan_conjunction_ok_iff.mpr ⟨_, _, hleft, hright, rfl⟩
  · rw [← Bool.not_eq_true, (matcher_exact hbuiltIn _).1]
    intro hcompiled
    obtain ⟨l, r, -, -, htemplate⟩ := CircuitTemplate.fromPlan_disjunction_ok_iff.mp hcompiled
    simp [template] at htemplate

end Zcaprio
