import Mathlib.Logic.Basic

/-!
# Runs of a labelled transition system

Finite runs, and the rule for what every step keeps.
-/

namespace Zcaprio

variable {σ α : Type}

/-- The steps `as` lead from one state to another. -/
inductive Run (step : σ → α → σ → Prop) : σ → List α → σ → Prop where
  | nil (s : σ) : Run step s [] s
  | cons {s s' s'' : σ} {a : α} {as : List α} (h : step s a s') (hrun : Run step s' as s'') :
      Run step s (a :: as) s''

/-- What each step keeps, given what is known of its label, holds in every state reached. -/
theorem Run.invariant {step : σ → α → σ → Prop} {I : σ → Prop} {P : α → Prop}
    (hstep : ∀ s a s', step s a s' → P a → I s → I s') {s s' : σ} {as : List α}
    (hrun : Run step s as s') (hlabels : ∀ a ∈ as, P a) (hs : I s) : I s' := by
  induction hrun with
  | nil => exact hs
  | cons h _ ih =>
      apply ih
      · intro a ha
        exact hlabels a (List.mem_cons_of_mem _ ha)
      · exact hstep _ _ _ h (hlabels _ List.mem_cons_self) hs

end Zcaprio
