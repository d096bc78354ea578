import Zcaprio.Circuit.Gadget

/-!
# What a trace says about its rows

Both readings of a trace determine the rows of its gadget calls: satisfying
the constraints forces each row to be the native one, and the prover computes
it. `Determined` is what they have in common, so each circuit is analysed once.
-/

namespace Zcaprio

open Trace

/-! ## Bits of a row -/

/-- The first `count` values of a row, read as bits. -/
def bitsAt (w : Assignment Fr) (step count : ℕ) : List Bool :=
  (List.range count).map fun slot => ofBit (w ⟨step, slot⟩)

theorem row_map_ofBit (w : Assignment Fr) (step count : ℕ) :
    (row w step count).map ofBit = bitsAt w step count := by
  rw [row, List.map_map]
  rfl

@[simp] theorem map_ofBit_map_bit (bits : List Bool) : (bits.map bit).map ofBit = bits := by
  rw [List.map_map]
  simp [Function.comp_def]

theorem bitsAt_of_row {w : Assignment Fr} {step count : ℕ} {bits : List Bool}
    (h : row w step count = bits.map bit) : bitsAt w step count = bits := by
  rw [← row_map_ofBit, h, map_ofBit_map_bit]

@[simp] theorem bitsOf_append (xs ys : List UInt8Var) :
    bitsOf (xs ++ ys) = bitsOf xs ++ bitsOf ys := List.flatMap_append

theorem row_two (w : Assignment Fr) (step : ℕ) : row w step 2 = [w ⟨step, 0⟩, w ⟨step, 1⟩] := rfl

/-- The grouping into bytes keeps the order of the bits. -/
theorem bitsOf_bytesAt (step count : ℕ) :
    bitsOf (bytesAt step count) =
      (List.range (8 * count)).map fun slot => .Var ⟨step, slot⟩ := by
  induction count with
  | zero => rfl
  | succ count ih =>
      have hlast : bytesAt step (count + 1) = bytesAt step count ++
          [⟨(List.range 8).map fun j => .Var ⟨step, 8 * count + j⟩⟩] := by
        simp only [bytesAt, List.range_succ, List.map_append]
        rfl
      rw [hlast, bitsOf_append, ih, show 8 * (count + 1) = 8 * count + 8 by omega,
        List.range_add, List.map_append, List.map_map]
      rfl

theorem value_bitsOf_bytesAt (w : Assignment Fr) (step count : ℕ) :
    (bitsOf (bytesAt step count)).map (Boolean.value w) = bitsAt w step (8 * count) := by
  rw [bitsOf_bytesAt, List.map_map]
  rfl

theorem value_bitsOf_constantVec (w : Assignment Fr) (bs : List UInt8) :
    (bitsOf (constantVec bs)).map (Boolean.value w) = Digits.toBits bs := by
  induction bs with
  | nil => rfl
  | cons b bs ih =>
      rw [Digits.toBits_cons, ← ih]
      simp [constantVec, bitsOf, Boolean.value, Function.comp_def]

/-- The bytes an allocation stands for. -/
def readBytes (w : Assignment Fr) (step count : ℕ) : List UInt8 :=
  (bytesAt step count).map (UInt8Var.value w)

@[simp] theorem length_readBytes (w : Assignment Fr) (step count : ℕ) :
    (readBytes w step count).length = count := by
  simp [readBytes, bytesAt]

theorem toBits_readBytes (w : Assignment Fr) (step count : ℕ) :
    Digits.toBits (readBytes w step count) = bitsAt w step (8 * count) := by
  rw [← value_bitsOf_bytesAt, readBytes]
  have hlen : ∀ byte ∈ bytesAt step count, byte.bits.length = 8 := by
    intro byte hbyte
    obtain ⟨i, -, rfl⟩ := List.mem_map.mp hbyte
    simp
  generalize bytesAt step count = bytes at hlen
  induction bytes with
  | nil => rfl
  | cons byte bytes ih =>
      rw [List.map_cons, Digits.toBits_cons, ih fun b hb => hlen b (List.mem_cons_of_mem _ hb),
        UInt8Var.value, Digits.bitsOfByte_byteOfBits (by simpa using hlen byte (List.mem_cons_self))]
      simp [bitsOf]

/-! ## Scope -/

theorem step_of_mem_bytesAt {v : Variable} {step count : ℕ} {b : Boolean}
    (hb : b ∈ bitsOf (bytesAt step count)) (hv : v ∈ b.reads) : v.step = step := by
  rw [bitsOf_bytesAt, List.mem_map] at hb
  obtain ⟨slot, -, rfl⟩ := hb
  obtain rfl : v = ⟨step, slot⟩ := by simpa [Boolean.reads] using hv
  rfl

theorem reads_of_mem_constantVec {bs : List UInt8} {b : Boolean}
    (hb : b ∈ bitsOf (constantVec bs)) : b.reads = [] := by
  simp only [bitsOf, constantVec, List.mem_flatMap, List.mem_map] at hb
  obtain ⟨_, ⟨_, _, rfl⟩, hb⟩ := hb
  obtain ⟨_, _, rfl⟩ := List.mem_map.mp hb
  rfl

/-- The operands of a call come from earlier steps. -/
theorem reads_call_lt {g : Gadget FpVar Boolean} {step : ℕ}
    (hf : ∀ x ∈ g.fields, ∀ v ∈ x.reads, v.step < step)
    (hb : ∀ b ∈ g.bools, ∀ v ∈ b.reads, v.step < step) :
    ∀ v ∈ (Event.call g).reads, v.step < step := by
  intro v hv
  unfold Event.reads at hv
  rw [List.mem_append, List.mem_flatMap, List.mem_flatMap] at hv
  rcases hv with ⟨x, hx, hv⟩ | ⟨b, hb', hv⟩
  · exact hf x hx v hv
  · exact hb b hb' v hv

/-! ## What each call records -/

theorem newWitness_emits (value : Fr) (n : ℕ) :
    Emits (newWitness value) n (.Var ⟨n, 0⟩) [(.allocFp .Witness, [value])] :=
  (Emits.emit n _ _).bind (Emits.pure _ _)

theorem newWitnessVec_emits (values : List UInt8) (n : ℕ) :
    Emits (newWitnessVec values) n (bytesAt n values.length)
      [(.allocBytes .Witness values.length, (Digits.toBits values).map bit)] :=
  (Emits.emit n _ _).bind (Emits.pure _ _)

theorem callFp_emits (g : Gadget FpVar Boolean) (n : ℕ) :
    Emits (callFp g) n (.Var ⟨n, 0⟩) [(.call g, [])] := (Emits.emit n _ _).bind (Emits.pure _ _)

theorem callBoolean_emits (g : Gadget FpVar Boolean) (n : ℕ) :
    Emits (callBoolean g) n (.Var ⟨n, 0⟩) [(.call g, [])] := (Emits.emit n _ _).bind (Emits.pure _ _)

theorem callPoint_emits (g : Gadget FpVar Boolean) (n : ℕ) :
    Emits (callPoint g) n ⟨.Var ⟨n, 0⟩, .Var ⟨n, 1⟩⟩ [(.call g, [])] :=
  (Emits.emit n _ _).bind (Emits.pure _ _)

theorem callBytes_emits (g : Gadget FpVar Boolean) (n : ℕ) :
    Emits (callBytes g) n (bytesAt n 32) [(.call g, [])] := (Emits.emit n _ _).bind (Emits.pure _ _)

theorem callUnit_emits (g : Gadget FpVar Boolean) (n : ℕ) :
    Emits (callUnit g) n () [(.call g, [])] := (Emits.emit n _ _).bind (Emits.pure _ _)

/-! ## Calls in their domain -/

section Calls

variable [Gadgets] {w : Assignment Fr} {n step : ℕ}

theorem Gadget.Native.length {g : Gadget Fr Bool} {out : List Fr} (h : g.Native out) :
    out.length = g.width := by
  cases g with
  | scalarMulLe base bits =>
      obtain ⟨_, _, rfl⟩ := h
      rfl
  | add left right =>
      obtain ⟨_, _, _, _, rfl⟩ := h
      rfl
  | toBytesLe element =>
      obtain rfl := h
      simp [Gadget.width]
  | evaluateBlake2s input =>
      obtain ⟨_, _, rfl⟩ := h
      simp [Gadget.width, Hashes.length_blake2s256]
  | enforceSmallerOrEqualThanLe bits element =>
      obtain ⟨_, rfl⟩ := h
      rfl
  | enforceEqual left right =>
      obtain ⟨_, rfl⟩ := h
      rfl
  | isCmp left right ordering shouldAlsoCheckEquality =>
      obtain ⟨_, _, rfl⟩ := h
      rfl
  | poseidon _ | isEq _ _ | karyOr _ | and _ _ | or _ _ =>
      obtain rfl := h
      rfl

/-- A call whose operands are in its domain has the native row, if there is one. -/
def Event.Determined (e : Event) (step : ℕ) (w : Assignment Fr) : Prop :=
  ∀ g, e = .call g → (Event.operands w g).InDomain → (∃ out, (Event.operands w g).Native out) →
    (Event.operands w g).Native (row w step g.width)

/-- Every call of the trace is determined. -/
def Determined (w : Assignment Fr) (n : ℕ) (es : List Event) : Prop :=
  Along (fun step e => e.Determined step w) n es

theorem determined_of_satisfies {es : List Event} (h : Satisfies w n es) : Determined w n es := by
  refine Along.imp h fun step e henforced g he hdomain _ => ?_
  subst he
  exact (Gadgets.constraints_iff _ _ hdomain).mp henforced

theorem determined_of_computes {es : List Event} (h : Computes w n es) : Determined w n es := by
  refine Along.imp h fun step e hrow g he hdomain hnative => ?_
  subst he
  obtain ⟨out, hout⟩ := hnative
  -- the library assigns the native values wherever they exist
  have hrow := hrow rfl
  rw [show Vocabulary.compute (Event.call g) w = out from Gadgets.assign_eq _ _ hdomain hout] at hrow
  have hwidth : out.length = g.width := by
    rw [hout.length, Event.operands, Gadget.width_map]
  rw [← hwidth, hrow.row_eq]
  exact hout

/-- The constraints of a call in its domain say that its row is the native one. -/
theorem enforced_call_iff (w : Assignment Fr) (step : ℕ) (g : Gadget FpVar Boolean)
    (h : (Event.operands w g).InDomain) :
    Vocabulary.Enforced (Event.call g) step w ↔ (Event.operands w g).Native (row w step g.width) :=
  Gadgets.constraints_iff _ _ h

/-! ### One lemma for each gadget

Each gives the row, and with it that the constraints of the call hold. -/

/-- A call that is determined and has a native row satisfies its constraints. -/
theorem Event.Determined.spec {g : Gadget FpVar Boolean} (h : (Event.call g).Determined step w)
    (hdomain : (Event.operands w g).InDomain) {out : List Fr}
    (hnative : (Event.operands w g).Native out) :
    (Event.operands w g).Native (row w step g.width) ∧
      Vocabulary.Enforced (Event.call g) step w := by
  have hrow := h g rfl hdomain ⟨out, hnative⟩
  exact ⟨hrow, (enforced_call_iff w step g hdomain).mpr hrow⟩

theorem determined_poseidon {input : List FpVar}
    (h : (Event.call (.poseidon input)).Determined step w) :
    w ⟨step, 0⟩ = poseidonHash (input.map (FpVar.value w)) ∧
      Vocabulary.Enforced (Event.call (.poseidon input)) step w := by
  obtain ⟨hrow, henforced⟩ := h.spec trivial rfl
  exact ⟨List.head_eq_of_cons_eq hrow, henforced⟩

theorem determined_scalarMulLe {base : FpVar × FpVar} {bits : List Boolean} {P : EdwardsAffine}
    (h : (Event.call (.scalarMulLe base bits)).Determined step w)
    (hbase : (base.1.value w, base.2.value w) = affine P) :
    (w ⟨step, 0⟩, w ⟨step, 1⟩) = affine (Digits.ofBits (bits.map (Boolean.value w)) • P) ∧
      Vocabulary.Enforced (Event.call (.scalarMulLe base bits)) step w := by
  obtain ⟨hrow, henforced⟩ := h.spec ⟨P, hbase⟩ ⟨P, hbase, rfl⟩
  obtain ⟨Q, hQ, hrow⟩ := hrow
  -- coordinates name one point
  obtain rfl : P = Q := affine_injective (hbase.symm.trans hQ)
  refine ⟨?_, henforced⟩
  obtain ⟨hx, hy⟩ : w ⟨step, 0⟩ = _ ∧ w ⟨step, 1⟩ = _ := by simpa [Gadget.width, row_two] using hrow
  rw [hx, hy]
  rfl

theorem determined_add {left right : FpVar × FpVar} {P Q : EdwardsAffine}
    (h : (Event.call (.add left right)).Determined step w)
    (hleft : (left.1.value w, left.2.value w) = affine P)
    (hright : (right.1.value w, right.2.value w) = affine Q) :
    (w ⟨step, 0⟩, w ⟨step, 1⟩) = affine (P + Q) ∧
      Vocabulary.Enforced (Event.call (.add left right)) step w := by
  obtain ⟨hrow, henforced⟩ := h.spec ⟨⟨P, hleft⟩, ⟨Q, hright⟩⟩ ⟨P, Q, hleft, hright, rfl⟩
  obtain ⟨P', Q', hP, hQ, hrow⟩ := hrow
  obtain rfl : P = P' := affine_injective (hleft.symm.trans hP)
  obtain rfl : Q = Q' := affine_injective (hright.symm.trans hQ)
  refine ⟨?_, henforced⟩
  obtain ⟨hx, hy⟩ : w ⟨step, 0⟩ = _ ∧ w ⟨step, 1⟩ = _ := by simpa [Gadget.width, row_two] using hrow
  rw [hx, hy]
  rfl

theorem determined_toBytesLe {element : FpVar}
    (h : (Event.call (.toBytesLe element)).Determined step w) :
    bitsAt w step 256 = Digits.toBits (canonical (element.value w)) ∧
      Vocabulary.Enforced (Event.call (.toBytesLe element)) step w := by
  obtain ⟨hrow, henforced⟩ := h.spec trivial rfl
  exact ⟨bitsAt_of_row hrow, henforced⟩

theorem determined_evaluateBlake2s {input : List Boolean} {bytes : List UInt8}
    (h : (Event.call (.evaluateBlake2s input)).Determined step w)
    (hinput : input.map (Boolean.value w) = Digits.toBits bytes) :
    bitsAt w step 256 = Digits.toBits (Hashes.blake2s256 bytes) ∧
      Vocabulary.Enforced (Event.call (.evaluateBlake2s input)) step w := by
  obtain ⟨hrow, henforced⟩ := h.spec ⟨bytes, hinput⟩ ⟨bytes, hinput, rfl⟩
  obtain ⟨bytes', hbytes, hrow⟩ := hrow
  -- whole bytes are determined by their bits
  have hbits : Digits.toBits bytes = Digits.toBits bytes' := hinput.symm.trans hbytes
  have hlen : bytes.length = bytes'.length := by
    have := congrArg List.length hbits
    simpa using this
  obtain rfl : bytes = bytes' := (Digits.toBits_inj hlen).mp hbits
  exact ⟨bitsAt_of_row hrow, henforced⟩

theorem determined_isEq {left right : FpVar}
    (h : (Event.call (.isEq left right)).Determined step w) :
    w ⟨step, 0⟩ = bit (left.value w = right.value w) ∧
      Vocabulary.Enforced (Event.call (.isEq left right)) step w := by
  obtain ⟨hrow, henforced⟩ := h.spec trivial rfl
  exact ⟨List.head_eq_of_cons_eq hrow, henforced⟩

theorem determined_karyOr {bits : List Boolean} (h : (Event.call (.karyOr bits)).Determined step w)
    (hbits : bits ≠ []) :
    w ⟨step, 0⟩ = bit (bits.any (Boolean.value w)) ∧
      Vocabulary.Enforced (Event.call (.karyOr bits)) step w := by
  have hdomain : (Event.operands w (.karyOr bits)).InDomain := by
    simpa [Event.operands, Gadget.map, Gadget.InDomain] using hbits
  obtain ⟨hrow, henforced⟩ := h.spec hdomain rfl
  refine ⟨(List.head_eq_of_cons_eq hrow).trans ?_, henforced⟩
  simp

theorem determined_and {left right : Boolean}
    (h : (Event.call (.and left right)).Determined step w) :
    w ⟨step, 0⟩ = bit (left.value w && right.value w) ∧
      Vocabulary.Enforced (Event.call (.and left right)) step w := by
  obtain ⟨hrow, henforced⟩ := h.spec trivial rfl
  exact ⟨List.head_eq_of_cons_eq hrow, henforced⟩

theorem determined_or {left right : Boolean}
    (h : (Event.call (.or left right)).Determined step w) :
    w ⟨step, 0⟩ = bit (left.value w || right.value w) ∧
      Vocabulary.Enforced (Event.call (.or left right)) step w := by
  obtain ⟨hrow, henforced⟩ := h.spec trivial rfl
  exact ⟨List.head_eq_of_cons_eq hrow, henforced⟩

/-- A comparison can be satisfied only below the half modulus, and there it is
satisfied by one value. -/
theorem determined_isCmp {left right : FpVar} {ordering : Ordering} {shouldAlsoCheckEquality : Bool}
    (h : (Event.call (.isCmp left right ordering shouldAlsoCheckEquality)).Determined step w)
    (hdomain : (Event.operands w (.isCmp left right ordering shouldAlsoCheckEquality)).InDomain) :
    (Vocabulary.Enforced (Event.call (.isCmp left right ordering shouldAlsoCheckEquality)) step w ↔
      (left.value w).val ≤ halfModulus ∧ (right.value w).val ≤ halfModulus) ∧
    ((left.value w).val ≤ halfModulus → (right.value w).val ≤ halfModulus →
      w ⟨step, 0⟩ = bit (compare (left.value w).val (right.value w).val = ordering ∨
        shouldAlsoCheckEquality = true ∧ left.value w = right.value w)) := by
  have hspec (hleft : (left.value w).val ≤ halfModulus) (hright : (right.value w).val ≤ halfModulus) :=
    h.spec hdomain ⟨hleft, hright, rfl⟩
  refine ⟨⟨?_, ?_⟩, ?_⟩
  · intro henforced
    obtain ⟨hleft, hright, -⟩ := (enforced_call_iff w step _ hdomain).mp henforced
    exact ⟨hleft, hright⟩
  · rintro ⟨hleft, hright⟩
    exact (hspec hleft hright).2
  · intro hleft hright
    obtain ⟨-, -, hrow⟩ := (hspec hleft hright).1
    exact List.head_eq_of_cons_eq hrow

theorem enforced_smallerOrEqual {bits : List Boolean} {element : ℕ} :
    Vocabulary.Enforced (Event.call (.enforceSmallerOrEqualThanLe bits element)) step w ↔
      Digits.ofBits (bits.map (Boolean.value w)) ≤ element := by
  exact (enforced_call_iff w step (.enforceSmallerOrEqualThanLe bits element) trivial).trans
    (and_iff_left rfl)

theorem enforced_enforceEqual {left right : List Boolean} (h : left.length = right.length) :
    Vocabulary.Enforced (Event.call (.enforceEqual left right)) step w ↔
      left.map (Boolean.value w) = right.map (Boolean.value w) := by
  have hdomain : (Event.operands w (.enforceEqual left right)).InDomain := by
    simpa [Event.operands, Gadget.map, Gadget.InDomain] using h
  exact (enforced_call_iff w step (.enforceEqual left right) hdomain).trans (and_iff_left rfl)

end Calls

end Zcaprio
