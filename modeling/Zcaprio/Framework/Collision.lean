import Mathlib.Logic.Basic

/-!
# Collisions

No hash of unbounded inputs is injective, so what a hash binds is stated with
the collision in hand: equal hashes have equal inputs, or those inputs collide.
-/

namespace Zcaprio

variable {α β : Type}

/-- Two different inputs with one hash. -/
structure Collision (h : α → β) (x y : α) : Prop where
  different : x ≠ y
  equal : h x = h y

theorem eq_or_collision {h : α → β} {x y : α} (hxy : h x = h y) : x = y ∨ Collision h x y := by
  by_cases hne : x = y
  · exact Or.inl hne
  · exact Or.inr ⟨hne, hxy⟩

end Zcaprio
