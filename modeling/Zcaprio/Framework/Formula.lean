import Mathlib.Logic.Basic

/-!
# And/or trees

Monotone Boolean formulas over arbitrary leaves. Their truth under a reading
of the leaves is monotone in that reading, and depends on it only at the
leaves that occur.
-/

namespace Zcaprio

/-- A finite tree of conjunctions and disjunctions. -/
inductive Formula (α : Type) where
  | leaf (a : α)
  | and (left right : Formula α)
  | or (left right : Formula α)
  deriving DecidableEq, Repr

namespace Formula

variable {α β : Type}

/-- Truth of the tree when each leaf is read by `p`. -/
def Holds (p : α → Prop) : Formula α → Prop
  | leaf a => p a
  | and l r => l.Holds p ∧ r.Holds p
  | or l r => l.Holds p ∨ r.Holds p

/-- Every leaf satisfies `p`. -/
def All (p : α → Prop) : Formula α → Prop
  | leaf a => p a
  | and l r => l.All p ∧ r.All p
  | or l r => l.All p ∧ r.All p

def map (f : α → β) : Formula α → Formula β
  | leaf a => leaf (f a)
  | and l r => and (l.map f) (r.map f)
  | or l r => or (l.map f) (r.map f)

/-- The leaves from left to right. -/
def toList : Formula α → List α
  | leaf a => [a]
  | and l r | or l r => l.toList ++ r.toList

/-- A tree in place of each leaf. -/
def bind (f : α → Formula β) : Formula α → Formula β
  | leaf a => f a
  | and l r => and (l.bind f) (r.bind f)
  | or l r => or (l.bind f) (r.bind f)

instance decidableHolds (p : α → Prop) [DecidablePred p] : ∀ f : Formula α, Decidable (f.Holds p)
  | leaf a => inferInstanceAs (Decidable (p a))
  | and l r =>
      have := decidableHolds p l
      have := decidableHolds p r
      inferInstanceAs (Decidable (l.Holds p ∧ r.Holds p))
  | or l r =>
      have := decidableHolds p l
      have := decidableHolds p r
      inferInstanceAs (Decidable (l.Holds p ∨ r.Holds p))

@[simp] theorem all_map (p : β → Prop) (f : α → β) (t : Formula α) :
    (t.map f).All p ↔ t.All (p ∘ f) := by
  induction t with
  | leaf a => rfl
  | and l r ihl ihr => exact and_congr ihl ihr
  | or l r ihl ihr => exact and_congr ihl ihr

@[simp] theorem holds_map (p : β → Prop) (f : α → β) (t : Formula α) :
    (t.map f).Holds p ↔ t.Holds (p ∘ f) := by
  induction t with
  | leaf a => rfl
  | and l r ihl ihr => exact and_congr ihl ihr
  | or l r ihl ihr => exact or_congr ihl ihr

theorem all_bind (p : β → Prop) (f : α → Formula β) (t : Formula α) :
    (t.bind f).All p ↔ t.All fun a => (f a).All p := by
  induction t with
  | leaf a => rfl
  | and l r ihl ihr => exact and_congr ihl ihr
  | or l r ihl ihr => exact and_congr ihl ihr

/-- Truth of a tree of trees is the outer truth of the inner truths. -/
theorem holds_bind (p : β → Prop) (f : α → Formula β) (t : Formula α) :
    (t.bind f).Holds p ↔ t.Holds fun a => (f a).Holds p := by
  induction t with
  | leaf a => rfl
  | and l r ihl ihr => exact and_congr ihl ihr
  | or l r ihl ihr => exact or_congr ihl ihr

theorem All.imp {p q : α → Prop} {t : Formula α} (h : t.All p) (hpq : ∀ a, p a → q a) :
    t.All q := by
  induction t with
  | leaf a => exact hpq a h
  | and l r ihl ihr => exact ⟨ihl h.1, ihr h.2⟩
  | or l r ihl ihr => exact ⟨ihl h.1, ihr h.2⟩

theorem All.and {p q : α → Prop} {t : Formula α} (hp : t.All p) (hq : t.All q) :
    t.All fun a => p a ∧ q a := by
  induction t with
  | leaf a => exact ⟨hp, hq⟩
  | and l r ihl ihr => exact ⟨ihl hp.1 hq.1, ihr hp.2 hq.2⟩
  | or l r ihl ihr => exact ⟨ihl hp.1 hq.1, ihr hp.2 hq.2⟩

/-- Truth is monotone in the reading, needed only at the leaves of the tree. -/
theorem Holds.mono {p q : α → Prop} {t : Formula α} (h : t.Holds p)
    (hpq : t.All fun a => p a → q a) : t.Holds q := by
  induction t with
  | leaf a => exact hpq h
  | and l r ihl ihr => exact ⟨ihl h.1 hpq.1, ihr h.2 hpq.2⟩
  | or l r ihl ihr =>
      rcases h with h | h
      · exact Or.inl (ihl h hpq.1)
      · exact Or.inr (ihr h hpq.2)

/-- Trees of one shape whose leaves are related in place. -/
inductive Rel (R : α → β → Prop) : Formula α → Formula β → Prop where
  | leaf {a : α} {b : β} (h : R a b) : Rel R (leaf a) (leaf b)
  | and {l r : Formula α} {l' r' : Formula β} (hl : Rel R l l') (hr : Rel R r r') :
      Rel R (and l r) (and l' r')
  | or {l r : Formula α} {l' r' : Formula β} (hl : Rel R l l') (hr : Rel R r r') :
      Rel R (or l r) (or l' r')

/-- No and/or step breaks what the related leaves keep. -/
theorem Rel.holds {R : α → β → Prop} {p : α → Prop} {q : β → Prop} {t : Formula α}
    {t' : Formula β} (h : Rel R t t') (ht : t.Holds p) (hR : ∀ a b, R a b → p a → q b) :
    t'.Holds q := by
  induction h with
  | leaf hab => exact hR _ _ hab ht
  | and _ _ ihl ihr => exact ⟨ihl ht.1, ihr ht.2⟩
  | or _ _ ihl ihr =>
      rcases ht with ht | ht
      · exact Or.inl (ihl ht)
      · exact Or.inr (ihr ht)

theorem Rel.all {R : α → β → Prop} {p : α → Prop} {q : β → Prop} {t : Formula α}
    {t' : Formula β} (h : Rel R t t') (ht : t.All p) (hR : ∀ a b, R a b → p a → q b) :
    t'.All q := by
  induction h with
  | leaf hab => exact hR _ _ hab ht
  | and _ _ ihl ihr => exact ⟨ihl ht.1, ihr ht.2⟩
  | or _ _ ihl ihr => exact ⟨ihl ht.1, ihr ht.2⟩

theorem Rel.all_iff {R : α → β → Prop} {p : α → Prop} {q : β → Prop} {t : Formula α}
    {t' : Formula β} (h : Rel R t t') (hR : ∀ a b, R a b → (p a ↔ q b)) : t.All p ↔ t'.All q := by
  induction h with
  | leaf hab => exact hR _ _ hab
  | and _ _ ihl ihr | or _ _ ihl ihr => exact and_congr ihl ihr

/-- What a relation says of both leaves alone holds at all leaves. -/
theorem Rel.imp_all {R : α → β → Prop} {p : α → Prop} {q : β → Prop} {t : Formula α}
    {t' : Formula β} (h : Rel R t t') (hR : ∀ a b, R a b → p a ∧ q b) : t.All p ∧ t'.All q := by
  induction h with
  | leaf hab => exact hR _ _ hab
  | and _ _ ihl ihr => exact ⟨⟨ihl.1, ihr.1⟩, ⟨ihl.2, ihr.2⟩⟩
  | or _ _ ihl ihr => exact ⟨⟨ihl.1, ihr.1⟩, ⟨ihl.2, ihr.2⟩⟩

/-- Two readings that agree on the leaves of a tree give it one truth value. -/
theorem holds_congr {p q : α → Prop} {t : Formula α} (h : t.All fun a => p a ↔ q a) :
    t.Holds p ↔ t.Holds q := by
  constructor
  · intro hp
    exact hp.mono (h.imp fun _ hpq => hpq.mp)
  · intro hq
    exact hq.mono (h.imp fun _ hpq => hpq.mpr)

end Formula

end Zcaprio
