import Mathlib.Data.Nat.Notation
import Mathlib.Logic.Equiv.Defs
import Zcaprio.Framework.Run

/-!
# Machines with fresh randomness

A deterministic machine whose outputs also depend on a random value that is
drawn anew for each action and never stored. Runs are folds; a run shows its
outputs. Two rules for whole runs: an invariant is kept, and two runs that are
matched action by action show the same up to a permutation of the randomness of
each step, so their outputs have one distribution.
-/

namespace Zcaprio

/-- A state transition and an output for each action. -/
structure Machine (σ α ρ ω : Type) where
  step : σ → α → σ
  out : σ → α → ρ → ω

namespace Machine

variable {σ α ρ ω : Type} (M : Machine σ α ρ ω)

/-- The state after some actions. -/
def after (s : σ) (as : List α) : σ := as.foldl M.step s

@[simp] theorem after_nil (s : σ) : M.after s [] = s := rfl

@[simp] theorem after_cons (s : σ) (a : α) (as : List α) :
    M.after s (a :: as) = M.after (M.step s a) as := rfl

theorem after_append (s : σ) (as bs : List α) :
    M.after s (as ++ bs) = M.after (M.after s as) bs := by
  unfold after
  rw [List.foldl_append]

/-- The outputs of a run, the `i`-th action drawing the `i`-th random value. -/
def transcript : σ → List α → (ℕ → ρ) → List ω
  | _, [], _ => []
  | s, a :: as, r => M.out s a (r 0) :: transcript (M.step s a) as fun i => r (i + 1)

/-- The output of an action is the one in the state the actions before it lead to. -/
theorem transcript_getElem? (s : σ) (as : List α) (r : ℕ → ρ) (i : ℕ) :
    (M.transcript s as r)[i]? = as[i]?.map fun a => M.out (M.after s (as.take i)) a (r i) := by
  induction as generalizing s r i with
  | nil => simp [transcript]
  | cons a as ih =>
      cases i with
      | zero => rfl
      | succ i =>
          rw [transcript, List.getElem?_cons_succ, List.getElem?_cons_succ, ih]
          rfl

/-! ## Invariants -/

/-- A run of the machine as a run of its step relation. -/
theorem run_after (s : σ) (as : List α) : Run (fun s a s' => M.step s a = s') s as (M.after s as) := by
  induction as generalizing s with
  | nil => exact .nil s
  | cons a as ih => exact .cons rfl (ih (M.step s a))

/-- What each step keeps holds in every state reached. -/
theorem after_invariant {I : σ → Prop} (hstep : ∀ s a, I s → I (M.step s a)) {s : σ}
    (hs : I s) (as : List α) : I (M.after s as) := by
  have hkeep : ∀ s a s', M.step s a = s' → True → I s → I s' := by
    rintro s a _ rfl - hI
    exact hstep s a hI
  exact (M.run_after s as).invariant hkeep (fun _ _ => trivial) hs

/-- What no step takes back is still so after more actions. -/
theorem after_mono {I : σ → Prop} (hstep : ∀ s a, I s → I (M.step s a)) {s : σ} {as : List α}
    {i j : ℕ} (hij : i ≤ j) (h : I (M.after s (as.take i))) : I (M.after s (as.take j)) := by
  have hsplit := List.take_append_drop i (as.take j)
  rw [List.take_take, Nat.min_eq_left hij] at hsplit
  rw [← hsplit, after_append]
  exact M.after_invariant hstep h _

/-! ## Refinement -/

/-- The labels of another level that the actions of a run stand for. An action
may stand for none. -/
def labels {β : Type} (label : σ → α → Option β) : σ → List α → List β
  | _, [] => []
  | s, a :: as => (label s a).toList ++ labels label (M.step s a) as

/-- If an action is the step of its label, or leaves the state as it is where it
has none, then a run is the run of its labels. -/
theorem run_labels {τ β : Type} {step : τ → β → τ → Prop} {label : σ → α → Option β} (abs : σ → τ)
    (hstep : ∀ s a, (label s a).elim (abs (M.step s a) = abs s)
      fun b => step (abs s) b (abs (M.step s a)))
    (s : σ) (as : List α) : Run step (abs s) (M.labels label s as) (abs (M.after s as)) := by
  induction as generalizing s with
  | nil => exact .nil _
  | cons a as ih =>
      have hhead := hstep s a
      have htail := ih (M.step s a)
      unfold labels
      cases hlabel : label s a with
      | none =>
          rw [hlabel] at hhead
          rw [Option.toList_none, List.nil_append, after_cons, ← hhead]
          exact htail
      | some b =>
          rw [hlabel] at hhead
          exact .cons hhead htail

/-- Each label is that of an action, in the state it was taken in. -/
theorem exists_of_mem_labels {β : Type} {label : σ → α → Option β} {s : σ} {as : List α} {b : β}
    (h : b ∈ M.labels label s as) : ∃ s' a, a ∈ as ∧ label s' a = some b := by
  induction as generalizing s with
  | nil => cases h
  | cons a as ih =>
      rcases List.mem_append.mp h with hhead | htail
      · exact ⟨s, a, List.mem_cons_self, Option.mem_toList.mp hhead⟩
      · obtain ⟨s', a', ha', hlabel⟩ := ih htail
        exact ⟨s', a', List.mem_cons_of_mem a ha', hlabel⟩

/-! ## Matched runs -/

/-- Two runs whose actions are related in the states they are taken in. -/
inductive Matched (A : σ → σ → α → α → Prop) : σ → σ → List α → List α → Prop where
  | nil (s s' : σ) : Matched A s s' [] []
  | cons {s s' : σ} {a a' : α} {as as' : List α} (h : A s s' a a')
      (hrest : Matched A (M.step s a) (M.step s' a') as as') : Matched A s s' (a :: as) (a' :: as')

variable {M} {A : σ → σ → α → α → Prop} {R : σ → σ → Prop}

/-- If matched actions in related states show the same up to a permutation of
the randomness, then so do the runs, step by step. -/
theorem Matched.transcript {s s' : σ} {as as' : List α} (h : M.Matched A s s' as as')
    (hstep : ∀ s s' a a', R s s' → A s s' a a' → R (M.step s a) (M.step s' a'))
    (hout : ∀ s s' a a', R s s' → A s s' a a' →
      ∃ π : Equiv.Perm ρ, ∀ r, M.out s' a' (π r) = M.out s a r)
    (hs : R s s') :
    ∃ π : ℕ → Equiv.Perm ρ, ∀ r : ℕ → ρ,
      M.transcript s' as' (fun i => π i (r i)) = M.transcript s as r := by
  induction h with
  | nil =>
      refine ⟨fun _ => Equiv.refl ρ, ?_⟩
      intro r
      rfl
  | cons ha _ ih =>
      obtain ⟨π₀, hfirst⟩ := hout _ _ _ _ hs ha
      obtain ⟨π, hrest⟩ := ih (hstep _ _ _ _ hs ha)
      refine ⟨fun i => Nat.casesOn i π₀ π, ?_⟩
      intro r
      exact congrArg₂ List.cons (hfirst (r 0)) (hrest fun i => r (i + 1))

end Machine

end Zcaprio
