import Zcaprio.Framework.Trace
import Zcaprio.Native.Issuer

/-!
# Circuit variables and gadget calls

The part of the constraint library the circuits call. A gadget call is data:
the gadget and its operands. What its constraints enforce is a parameter,
tied by law to the native function the gadget stands for. Each gadget's own
internal variables are summed up in that parameter: an operand and output
valuation satisfies it when internal values exist that satisfy the emitted
constraints.
-/

namespace Zcaprio

open Trace

/-- The calls to the library, over field operands `F` and Boolean operands `B`. -/
inductive Gadget (F B : Type) where
  | poseidon (input : List F)
  | scalarMulLe (base : F × F) (bits : List B)
  | add (left right : F × F)
  | toBytesLe (element : F)
  | evaluateBlake2s (input : List B)
  | enforceSmallerOrEqualThanLe (bits : List B) (element : ℕ)
  | enforceEqual (left right : List B)
  | isCmp (left right : F) (ordering : Ordering) (shouldAlsoCheckEquality : Bool)
  | isEq (left right : F)
  | karyOr (bits : List B)
  | and (left right : B)
  | or (left right : B)
  deriving DecidableEq

namespace Gadget

variable {F B F' B' : Type}

def map (f : F → F') (b : B → B') : Gadget F B → Gadget F' B'
  | poseidon input => poseidon (input.map f)
  | scalarMulLe base bits => scalarMulLe (f base.1, f base.2) (bits.map b)
  | add left right => add (f left.1, f left.2) (f right.1, f right.2)
  | toBytesLe element => toBytesLe (f element)
  | evaluateBlake2s input => evaluateBlake2s (input.map b)
  | enforceSmallerOrEqualThanLe bits element =>
      enforceSmallerOrEqualThanLe (bits.map b) element
  | enforceEqual left right => enforceEqual (left.map b) (right.map b)
  | isCmp left right ordering shouldAlsoCheckEquality =>
      isCmp (f left) (f right) ordering shouldAlsoCheckEquality
  | isEq left right => isEq (f left) (f right)
  | karyOr bits => karyOr (bits.map b)
  | and left right => and (b left) (b right)
  | or left right => or (b left) (b right)

/-- The field operands. -/
def fields : Gadget F B → List F
  | poseidon input => input
  | scalarMulLe base _ => [base.1, base.2]
  | add left right => [left.1, left.2, right.1, right.2]
  | toBytesLe element => [element]
  | isCmp left right _ _ => [left, right]
  | isEq left right => [left, right]
  | _ => []

/-- The Boolean operands. -/
def bools : Gadget F B → List B
  | scalarMulLe _ bits => bits
  | evaluateBlake2s input => input
  | enforceSmallerOrEqualThanLe bits _ => bits
  | enforceEqual left right => left ++ right
  | karyOr bits => bits
  | and left right => [left, right]
  | or left right => [left, right]
  | _ => []

/-- The number of values a call returns. -/
def width : Gadget F B → ℕ
  | poseidon _ => 1
  | scalarMulLe _ _ => 2
  | add _ _ => 2
  | toBytesLe _ => 256
  | evaluateBlake2s _ => 256
  | enforceSmallerOrEqualThanLe _ _ => 0
  | enforceEqual _ _ => 0
  | isCmp _ _ _ _ => 1
  | isEq _ _ => 1
  | karyOr _ => 1
  | and _ _ => 1
  | or _ _ => 1

theorem width_map (f : F → F') (b : B → B') (g : Gadget F B) : (g.map f b).width = g.width := by
  cases g <;> rfl

/-- A call is determined by its operands. -/
theorem map_congr {f f' : F → F'} {b b' : B → B'} {g : Gadget F B}
    (hf : ∀ x ∈ g.fields, f x = f' x) (hb : ∀ x ∈ g.bools, b x = b' x) :
    g.map f b = g.map f' b' := by
  cases g <;> simp_all [map, fields, bools]

end Gadget

/-! ## Variables -/

/-- A field element of the circuit. -/
inductive FpVar where
  | Constant (value : Fr)
  | Var (variable_ : Variable)
  deriving DecidableEq

/-- A bit of the circuit. -/
inductive Boolean where
  | Constant (value : Bool)
  | Var (variable_ : Variable)
  deriving DecidableEq

/-- The bits of a byte, least significant first. -/
structure UInt8Var where
  bits : List Boolean
  deriving DecidableEq

/-- A curve point by its affine coordinates. -/
structure EdwardsVar where
  x : FpVar
  y : FpVar
  deriving DecidableEq

/-- How the field represents a bit. -/
def bit (b : Bool) : Fr := if b then 1 else 0

def ofBit (x : Fr) : Bool := x = 1

@[simp] theorem ofBit_bit (b : Bool) : ofBit (bit b) = b := by
  cases b <;> decide

/-- A field element constrained to `x * (1 - x) = 0`. -/
def IsBit (x : Fr) : Prop := x = 0 ∨ x = 1

instance (x : Fr) : Decidable (IsBit x) := inferInstanceAs (Decidable (x = 0 ∨ x = 1))

@[simp] theorem isBit_bit (b : Bool) : IsBit (bit b) := by
  cases b <;> simp [bit, IsBit]

namespace FpVar

def value (w : Assignment Fr) : FpVar → Fr
  | Constant value => value
  | Var v => w v

def reads : FpVar → List Variable
  | Constant _ => []
  | Var v => [v]

theorem value_congr {w w' : Assignment Fr} {x : FpVar} (h : ∀ v ∈ x.reads, w v = w' v) :
    x.value w = x.value w' := by
  cases x with
  | Constant value => rfl
  | Var v => exact h v (by simp [reads])

end FpVar

namespace Boolean

def value (w : Assignment Fr) : Boolean → Bool
  | Constant value => value
  | Var v => ofBit (w v)

def reads : Boolean → List Variable
  | Constant _ => []
  | Var v => [v]

theorem value_congr {w w' : Assignment Fr} {b : Boolean} (h : ∀ v ∈ b.reads, w v = w' v) :
    b.value w = b.value w' := by
  cases b with
  | Constant value => rfl
  | Var v => rw [value, value, h v (by simp [reads])]

end Boolean

/-- `to_bits_le` of each byte, concatenated. -/
def bitsOf (bytes : List UInt8Var) : List Boolean := bytes.flatMap UInt8Var.bits

def UInt8Var.value (w : Assignment Fr) (byte : UInt8Var) : UInt8 :=
  Digits.byteOfBits (byte.bits.map (Boolean.value w))

/-- `UInt8::constant_vec`. -/
def constantVec (bytes : List UInt8) : List UInt8Var :=
  bytes.map fun byte => ⟨(Digits.bitsOfByte byte).map .Constant⟩

/-- The bits an event returned, grouped into bytes. -/
def bytesAt (step count : ℕ) : List UInt8Var :=
  (List.range count).map fun i => ⟨(List.range 8).map fun j => .Var ⟨step, 8 * i + j⟩⟩

/-- The constant with the given affine coordinates. -/
def EdwardsVar.constant (c : Fr × Fr) : EdwardsVar := ⟨.Constant c.1, .Constant c.2⟩

/-! ## What a gadget computes -/

section Laws

variable [Curve] [Hashes]

/-- The largest element the comparison accepts. -/
def halfModulus : ℕ := (frModulus - 1) / 2

/-- The documented meaning of a call, as a relation between operands and
returned values. A comparison also fails on an operand above the half modulus. -/
def Gadget.Native : Gadget Fr Bool → List Fr → Prop
  | .poseidon input, out => out = [poseidonHash input]
  | .scalarMulLe base bits, out => ∃ P : EdwardsAffine, base = affine P ∧
      out = [Curve.x (Digits.ofBits bits • P), Curve.y (Digits.ofBits bits • P)]
  | .add left right, out => ∃ P Q : EdwardsAffine, left = affine P ∧ right = affine Q ∧
      out = [Curve.x (P + Q), Curve.y (P + Q)]
  | .toBytesLe element, out => out = (Digits.toBits (canonical element)).map bit
  | .evaluateBlake2s input, out => ∃ bytes, input = Digits.toBits bytes ∧
      out = (Digits.toBits (Hashes.blake2s256 bytes)).map bit
  | .enforceSmallerOrEqualThanLe bits element, out => Digits.ofBits bits ≤ element ∧ out = []
  | .enforceEqual left right, out => left = right ∧ out = []
  | .isCmp left right ordering shouldAlsoCheckEquality, out =>
      left.val ≤ halfModulus ∧ right.val ≤ halfModulus ∧
        out = [bit (compare left.val right.val = ordering ∨
          shouldAlsoCheckEquality = true ∧ left = right)]
  | .isEq left right, out => out = [bit (left = right)]
  | .karyOr bits, out => out = [bit (bits.any id)]
  | .and left right, out => out = [bit (left && right)]
  | .or left right, out => out = [bit (left || right)]

/-- The operands the documentation speaks about: points of the curve, whole
bytes, bit strings of one length, a strict comparison or one whose larger side
has a successor in range, a disjunction that is not empty. -/
def Gadget.InDomain : Gadget Fr Bool → Prop
  | .scalarMulLe base _ => ∃ P : EdwardsAffine, base = affine P
  | .add left right => (∃ P : EdwardsAffine, left = affine P) ∧
      ∃ Q : EdwardsAffine, right = affine Q
  | .evaluateBlake2s input => ∃ bytes, input = Digits.toBits bytes
  | .enforceEqual left right => left.length = right.length
  -- the non-strict comparison adds one to its larger side
  | .isCmp left right ordering shouldAlsoCheckEquality =>
      (ordering = .lt ∧ (shouldAlsoCheckEquality = true → right.val < halfModulus)) ∨
        (ordering = .gt ∧ (shouldAlsoCheckEquality = true → left.val < halfModulus))
  | .karyOr bits => bits ≠ []
  | _ => True

end Laws

/-- The external gadget library. -/
class Gadgets extends Curve, Hashes where
  constraints : Gadget Fr Bool → List Fr → Bool
  assign : Gadget Fr Bool → List Fr
  constraints_iff : ∀ g out, g.InDomain → (constraints g out = true ↔ g.Native out)
  assign_eq : ∀ g out, g.InDomain → g.Native out → assign g = out

/-! ## Events -/

/-- How a variable is allocated. -/
inductive AllocationMode where
  | Input
  | Witness
  deriving DecidableEq, Repr

/-- What a circuit records. -/
inductive Event where
  | allocFp (mode : AllocationMode)
  | allocBytes (mode : AllocationMode) (count : ℕ)
  | call (gadget : Gadget FpVar Boolean)
  deriving DecidableEq

namespace Event

/-- The allocation makes a public input. -/
def isPublic : Event → Bool
  | allocFp mode => mode = .Input
  | allocBytes mode _ => mode = .Input
  | call _ => false

/-- The values of the operands. -/
def operands (w : Assignment Fr) (g : Gadget FpVar Boolean) : Gadget Fr Bool :=
  g.map (FpVar.value w) (Boolean.value w)

def reads : Event → List Variable
  | call g => g.fields.flatMap FpVar.reads ++ g.bools.flatMap Boolean.reads
  | _ => []

def isAllocation : Event → Bool
  | call _ => false
  | _ => true

theorem operands_congr {g : Gadget FpVar Boolean} {w w' : Assignment Fr}
    (h : ∀ v ∈ (call g).reads, w v = w' v) : operands w g = operands w' g := by
  apply Gadget.map_congr
  · intro x hx
    exact FpVar.value_congr fun v hv =>
      h v (List.mem_append_left _ (List.mem_flatMap.mpr ⟨x, hx, hv⟩))
  · intro b hb
    exact Boolean.value_congr fun v hv =>
      h v (List.mem_append_right _ (List.mem_flatMap.mpr ⟨b, hb, hv⟩))

variable [Gadgets]

def compute : Event → Assignment Fr → List Fr
  | call g, w => Gadgets.assign (operands w g)
  | _, _ => []

/-- The bits of an allocated byte are constrained to be bits. -/
def Enforced : Event → ℕ → Assignment Fr → Prop
  | allocFp _, _, _ => True
  | allocBytes _ count, step, w => ∀ slot < 8 * count, IsBit (w ⟨step, slot⟩)
  | call g, step, w => Gadgets.constraints (operands w g) (row w step g.width) = true

instance decidableEnforced : ∀ (e : Event) (step : ℕ) (w : Assignment Fr),
    Decidable (e.Enforced step w)
  | allocFp _, _, _ => inferInstanceAs (Decidable True)
  | allocBytes _ count, step, w =>
      inferInstanceAs (Decidable (∀ slot < 8 * count, IsBit (w ⟨step, slot⟩)))
  | call g, step, w =>
      inferInstanceAs (Decidable (Gadgets.constraints (operands w g) (row w step g.width) = true))

instance : Vocabulary Event Fr where
  reads := reads
  isInput := isAllocation
  compute := compute
  Enforced := Enforced
  compute_congr := by
    intro e w w' h
    cases e with
    | call g => exact congrArg Gadgets.assign (operands_congr h)
    | allocFp mode => rfl
    | allocBytes mode count => rfl

instance (e : Event) (step : ℕ) (w : Assignment Fr) :
    Decidable (Vocabulary.Enforced e step w) := decidableEnforced e step w

end Event

/-! ## Recording -/

/-- The errors of circuit synthesis and of the proof system. -/
inductive SynthesisError where
  | MissingCS
  | AssignmentMissing
  | DivisionByZero
  | Unsatisfiable
  | PolynomialDegreeTooLarge
  | UnexpectedIdentity
  | MalformedVerifyingKey
  | UnconstrainedVariable
  deriving DecidableEq, Repr

abbrev Synthesis (α : Type) := Builder Event Fr SynthesisError α

/-- A constraint system under construction. -/
abbrev ConstraintSystem := System Event Fr

/-- `FpVar::new_witness`. -/
def newWitness (value : Fr) : Synthesis FpVar := do
  let step ← emit (.allocFp .Witness) [value]
  return .Var ⟨step, 0⟩

/-- `UInt8::new_witness_vec`. -/
def newWitnessVec (values : List UInt8) : Synthesis (List UInt8Var) := do
  let step ← emit (.allocBytes .Witness values.length) ((Digits.toBits values).map bit)
  return bytesAt step values.length

/-- A gadget call that returns one field element. -/
def callFp (g : Gadget FpVar Boolean) : Synthesis FpVar := do
  let step ← emit (.call g) []
  return .Var ⟨step, 0⟩

/-- A gadget call that returns one bit. -/
def callBoolean (g : Gadget FpVar Boolean) : Synthesis Boolean := do
  let step ← emit (.call g) []
  return .Var ⟨step, 0⟩

/-- A gadget call that returns a point. -/
def callPoint (g : Gadget FpVar Boolean) : Synthesis EdwardsVar := do
  let step ← emit (.call g) []
  return ⟨.Var ⟨step, 0⟩, .Var ⟨step, 1⟩⟩

/-- A gadget call that returns 32 bytes. -/
def callBytes (g : Gadget FpVar Boolean) : Synthesis (List UInt8Var) := do
  let step ← emit (.call g) []
  return bytesAt step 32

/-- A gadget call that returns nothing. -/
def callUnit (g : Gadget FpVar Boolean) : Synthesis Unit := do
  let _ ← emit (.call g) []

/-- Returning an error. -/
def fail {α : Type} (e : SynthesisError) : Synthesis α := lift (.error (.error e))

end Zcaprio
