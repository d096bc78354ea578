import Mathlib.Logic.Basic

/-!
# Computations that return, fail or panic

A Rust function with result type `Result<α, ε>` that also contains `expect`
calls has three outcomes. They are kept apart here: a returned error is a
value the caller can map, a panic passes through every caller unchanged.
-/

namespace Zcaprio

/-- How a computation ends when it does not return a value. -/
inductive Abort (ε : Type) where
  | error (e : ε)
  | panic (message : String)
  deriving DecidableEq, Repr

/-- A computation that returns `α`, fails with `ε`, or panics. -/
abbrev Exec (ε α : Type) := Except (Abort ε) α

/-- `expect` where the error cannot occur: the proof replaces the message. -/
def expectOk {ε α : Type} : (r : Except ε α) → (∃ a, r = .ok a) → α
  | .ok a, _ => a
  | .error _, h => absurd h (by simp)

theorem expectOk_of_eq {ε α : Type} {r : Except ε α} {a : α} (hr : r = .ok a)
    (h : ∃ a, r = .ok a) : expectOk r h = a := by
  subst hr
  rfl

/-- Two fallible steps in a row succeed when both do. -/
theorem except_bind_ok_iff {ε α β γ : Type} {a : Except ε α} {b : Except ε β} {f : α → β → γ}
    {c : γ} : (do let x ← a; let y ← b; return f x y) = .ok c ↔
      ∃ x y, a = .ok x ∧ b = .ok y ∧ c = f x y := by
  cases a with
  | error e => simp [bind, Except.bind]
  | ok x =>
      cases b with
      | error e => simp [bind, Except.bind]
      | ok y => simp [bind, Except.bind, pure, Except.pure, eq_comm]

/-- One fallible step before another. -/
theorem except_bind_eq_ok_iff {ε α β : Type} {x : Except ε α} {f : α → Except ε β} {b : β} :
    x >>= f = .ok b ↔ ∃ a, x = .ok a ∧ f a = .ok b := by
  cases x with
  | error e => simp [bind, Except.bind]
  | ok a => simp [bind, Except.bind]

/-- Renaming the error changes no result. -/
theorem except_mapError_eq_ok_iff {ε ε' α : Type} {f : ε → ε'} {x : Except ε α} {a : α} :
    x.mapError f = .ok a ↔ x = .ok a := by
  cases x with
  | ok a' =>
      show (Except.ok a' : Except ε' α) = .ok a ↔ _
      rw [Except.ok.injEq, Except.ok.injEq]
  | error e =>
      constructor
      · intro h
        cases h
      · intro h
        cases h

namespace Exec

variable {ε ε' α β : Type}

/-- The `?` operator on a `Result`. -/
def ofResult : Except ε α → Exec ε α
  | .ok a => .ok a
  | .error e => .error (.error e)

/-- `expect`: an error becomes a panic with the given message. -/
def expect (message : String) : Except ε' α → Exec ε α
  | .ok a => .ok a
  | .error _ => .error (.panic message)

/-- `expect` on an `Option`. -/
def expectSome (message : String) : Option α → Exec ε α
  | some a => .ok a
  | none => .error (.panic message)

/-- `map_err`: acts on returned errors, never on panics. -/
def mapErr (f : ε → ε') : Exec ε α → Exec ε' α
  | .ok a => .ok a
  | .error (.error e) => .error (.error (f e))
  | .error (.panic message) => .error (.panic message)

/-- The computation reaches a panicking branch. -/
def Panics (x : Exec ε α) : Prop := ∃ message, x = .error (.panic message)

@[simp] theorem ofResult_ok (a : α) : (ofResult (.ok a) : Exec ε α) = .ok a := rfl

@[simp] theorem ofResult_error (e : ε) :
    (ofResult (.error e) : Exec ε α) = .error (.error e) := rfl

@[simp] theorem mapErr_ok (f : ε → ε') (a : α) : mapErr f (.ok a : Exec ε α) = .ok a := rfl

@[simp] theorem mapErr_error (f : ε → ε') (e : ε) :
    mapErr f (.error (.error e) : Exec ε α) = .error (.error (f e)) := rfl

@[simp] theorem mapErr_panic (f : ε → ε') (message : String) :
    mapErr f (.error (.panic message) : Exec ε α) = .error (.panic message) := rfl

@[simp] theorem not_panics_ok (a : α) : ¬ Panics (.ok a : Exec ε α) := by
  rintro ⟨_, h⟩; cases h

@[simp] theorem not_panics_error (e : ε) : ¬ Panics (.error (.error e) : Exec ε α) := by
  rintro ⟨_, h⟩; cases h

@[simp] theorem panics_panic (message : String) :
    Panics (.error (.panic message) : Exec ε α) := ⟨message, rfl⟩

@[simp] theorem panics_mapErr (f : ε → ε') (x : Exec ε α) : Panics (mapErr f x) ↔ Panics x := by
  rcases x with (e | message) | a <;> simp

end Exec

end Zcaprio
