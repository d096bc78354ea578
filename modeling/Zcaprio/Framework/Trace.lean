import Mathlib.Data.List.GetD
import Mathlib.Tactic.Set
import Zcaprio.Framework.Execution

/-!
# Constraint systems as traces

A constraint system is the list of events a program recorded: allocations of
witness variables and gadget calls, each with its operands. Variables are
named by the event that produced them. An assignment gives every variable a
value, and it satisfies the system when every event holds under it.

The vocabulary of events is a parameter. What is proved here for every
vocabulary: satisfaction is local to the variables an event mentions, and
a well-scoped trace has, for any choice of values for its allocations, an
assignment in which every other variable is computed from its operands.
-/

namespace Zcaprio.Trace

/-- The `slot`-th value produced by the `step`-th event. -/
structure Variable where
  step : ℕ
  slot : ℕ
  deriving DecidableEq, Repr

abbrev Assignment (F : Type) := Variable → F

/-- The values an assignment gives to one event. -/
def row {F : Type} (w : Assignment F) (step width : ℕ) : List F :=
  (List.range width).map fun slot => w ⟨step, slot⟩

/-- A kind of event: the variables it mentions, whether its values are chosen
or computed, how they are computed, and what its constraints enforce. -/
class Vocabulary (E : Type) (F : outParam Type) where
  reads : E → List Variable
  isInput : E → Bool
  compute : E → Assignment F → List F
  Enforced : E → ℕ → Assignment F → Prop
  compute_congr : ∀ e (w w' : Assignment F), (∀ v ∈ reads e, w v = w' v) →
    compute e w = compute e w'

/-! ## Properties along a trace -/

/-- `P` holds of every event together with its step number. -/
def Along {E : Type} (P : ℕ → E → Prop) : ℕ → List E → Prop
  | _, [] => True
  | n, e :: es => P n e ∧ Along P (n + 1) es

section Along

variable {E : Type} {P Q : ℕ → E → Prop}

@[simp] theorem along_nil (n : ℕ) : Along P n [] := trivial

@[simp] theorem along_cons (n : ℕ) (e : E) (es : List E) :
    Along P n (e :: es) ↔ P n e ∧ Along P (n + 1) es := Iff.rfl

theorem along_append {n : ℕ} {xs ys : List E} :
    Along P n (xs ++ ys) ↔ Along P n xs ∧ Along P (n + xs.length) ys := by
  induction xs generalizing n with
  | nil => simp
  | cons x xs ih =>
      rw [List.cons_append, along_cons, along_cons, ih, List.length_cons, and_assoc]
      rw [show n + (xs.length + 1) = n + 1 + xs.length by omega]

theorem Along.imp {n : ℕ} {es : List E} (h : Along P n es) (hpq : ∀ n e, P n e → Q n e) :
    Along Q n es := by
  induction es generalizing n with
  | nil => trivial
  | cons e es ih => exact ⟨hpq n e h.1, ih h.2⟩

/-- Reading one event off a property of the whole trace. -/
theorem Along.get {n i : ℕ} {es : List E} {e : E} (h : Along P n es) (he : es[i]? = some e) :
    P (n + i) e := by
  induction es generalizing n i with
  | nil => simp at he
  | cons x xs ih =>
      cases i with
      | zero =>
          obtain rfl : x = e := by simpa using he
          exact h.1
      | succ i =>
          have := ih h.2 (by simpa using he)
          rwa [show n + 1 + i = n + (i + 1) by omega] at this

/-- A property of the whole trace, event by event. -/
theorem along_iff {n : ℕ} {es : List E} :
    Along P n es ↔ ∀ i e, es[i]? = some e → P (n + i) e := by
  constructor
  · intro h i e he
    exact h.get he
  · intro h
    induction es generalizing n with
    | nil => trivial
    | cons x xs ih =>
        refine ⟨h 0 x rfl, ?_⟩
        apply ih
        intro i e he
        rw [show n + 1 + i = n + (i + 1) by omega]
        exact h (i + 1) e (by simpa using he)

theorem along_map {γ : Type} {n : ℕ} {xs : List γ} {f : γ → E} :
    Along P n (xs.map f) ↔ ∀ i x, xs[i]? = some x → P (n + i) (f x) := by
  rw [along_iff]
  constructor
  · intro h i x hx
    exact h i (f x) (by rw [List.getElem?_map, hx]; rfl)
  · intro h i e he
    rw [List.getElem?_map, Option.map_eq_some_iff] at he
    obtain ⟨x, hx, rfl⟩ := he
    exact h i x hx

instance decidableAlong [∀ n e, Decidable (P n e)] : ∀ n es, Decidable (Along P n es)
  | _, [] => inferInstanceAs (Decidable True)
  | n, e :: es =>
      have := decidableAlong (n + 1) es
      inferInstanceAs (Decidable (P n e ∧ Along P (n + 1) es))

end Along

/-! ## Satisfaction and completion -/

section Completion

variable {E F : Type} [Vocabulary E F]

open Vocabulary

/-- Every event, numbered from `n`, holds under the assignment. -/
def Satisfies (w : Assignment F) (n : ℕ) (es : List E) : Prop :=
  Along (fun step e => Enforced e step w) n es

instance decidableSatisfies [∀ (e : E) (step : ℕ) (w : Assignment F), Decidable (Enforced e step w)]
    (w : Assignment F) (n : ℕ) (es : List E) : Decidable (Satisfies w n es) :=
  inferInstanceAs (Decidable (Along _ n es))

/-- Operands are produced before they are used. -/
def Scoped (n : ℕ) (es : List E) : Prop :=
  Along (fun step e => ∀ v ∈ reads e, v.step < step) n es

variable [Zero F]

/-- Row `step` of an assignment is the given list, padded with zeros. -/
def HasRow (w : Assignment F) (step : ℕ) (values : List F) : Prop :=
  ∀ slot, w ⟨step, slot⟩ = values.getD slot 0

/-- The allocations of the trace take their values from `input`. -/
def Extends (w : Assignment F) (input : ℕ → List F) (n : ℕ) (es : List E) : Prop :=
  Along (fun step e => isInput e = true → HasRow w step (input step)) n es

/-- Every variable that is not allocated has the value its event computes. -/
def Computes (w : Assignment F) (n : ℕ) (es : List E) : Prop :=
  Along (fun step e => isInput e = false → HasRow w step (compute e w)) n es

/-- The allocation values `input` can be completed to a satisfying assignment. -/
def Satisfiable (input : ℕ → List F) (es : List E) : Prop :=
  ∃ w, Extends w input 0 es ∧ Satisfies w 0 es

theorem HasRow.row_eq {w : Assignment F} {step : ℕ} {values : List F}
    (h : HasRow w step values) : row w step values.length = values := by
  apply List.ext_getElem (by simp [row])
  intro i h1 h2
  simp [row, h i, List.getElem?_eq_getElem h2]

/-- The assignment read off a table of rows; missing entries are zero. -/
def ofTable (t : List (List F)) : Assignment F := fun v => (t.getD v.step []).getD v.slot 0

/-- Run through the trace, taking allocations from `input` and computing every
other row from the rows before it. -/
def completeFrom (input : ℕ → List F) : List (List F) → List E → List (List F)
  | t, [] => t
  | t, e :: es =>
      completeFrom input
        (t ++ [if isInput e then input t.length else compute e (ofTable t)]) es

/-- The assignment the prover computes from its allocation values. -/
def complete (input : ℕ → List F) (es : List E) : Assignment F :=
  ofTable (completeFrom input [] es)

theorem ofTable_append {t t' : List (List F)} {v : Variable} (h : v.step < t.length) :
    ofTable (t ++ t') v = ofTable t v := by
  simp only [ofTable]
  rw [List.getD_append _ _ _ _ h]

theorem ofTable_append_row {t t' : List (List F)} {values : List F} :
    HasRow (ofTable (t ++ values :: t')) t.length values := by
  intro slot
  simp [ofTable]

/-- Completion only adds rows. -/
theorem completeFrom_eq_append (input : ℕ → List F) (t : List (List F)) (es : List E) :
    ∃ t', completeFrom input t es = t ++ t' := by
  induction es generalizing t with
  | nil => exact ⟨[], by simp [completeFrom]⟩
  | cons e es ih =>
      obtain ⟨t', ht'⟩ := ih (t ++ [if isInput e then input t.length else compute e (ofTable t)])
      exact ⟨_ :: t', by rw [completeFrom, ht', List.append_assoc]; rfl⟩

/-- Along a well-scoped trace the completed rows are the allocated and the
computed ones: later rows never disturb the operands of earlier events. -/
theorem completeFrom_spec (input : ℕ → List F) {t : List (List F)} {es : List E}
    (h : Scoped t.length es) :
    Extends (ofTable (completeFrom input t es)) input t.length es ∧
      Computes (ofTable (completeFrom input t es)) t.length es := by
  induction es generalizing t with
  | nil => exact ⟨trivial, trivial⟩
  | cons e es ih =>
      set values := if isInput e then input t.length else compute e (ofTable t) with hvalues
      have hlen : (t ++ [values]).length = t.length + 1 := by simp
      obtain ⟨hext, hcomp⟩ := ih (t := t ++ [values]) (by rw [hlen]; exact h.2)
      rw [hlen] at hext hcomp
      obtain ⟨t', ht'⟩ := completeFrom_eq_append input (t ++ [values]) es
      have hfinal : completeFrom input t (e :: es) = t ++ values :: t' := by
        unfold completeFrom
        rw [← hvalues, ht', List.append_assoc]
        rfl
      have hrow : HasRow (ofTable (completeFrom input t (e :: es))) t.length values := by
        rw [hfinal]
        exact ofTable_append_row
      -- the operands are rows of `t`, which no later row overwrites
      have hread : compute e (ofTable (completeFrom input t (e :: es))) =
          compute e (ofTable t) := by
        apply compute_congr
        intro v hv
        rw [hfinal]
        exact ofTable_append (h.1 v hv)
      refine ⟨⟨?_, hext⟩, ⟨?_, hcomp⟩⟩
      · intro hin
        rw [hvalues, if_pos hin] at hrow
        exact hrow
      · intro hin
        rw [hvalues, if_neg (by simp [hin])] at hrow
        rw [hread]
        exact hrow

theorem complete_extends (input : ℕ → List F) {es : List E} (h : Scoped 0 es) :
    Extends (complete input es) input 0 es := (completeFrom_spec input (t := []) h).1

theorem complete_computes (input : ℕ → List F) {es : List E} (h : Scoped 0 es) :
    Computes (complete input es) 0 es := (completeFrom_spec input (t := []) h).2

end Completion

/-! ## Building a system -/

/-- A system under construction: the events, each with the values supplied for it. -/
abbrev System (E F : Type) := List (E × List F)

/-- The events without the supplied values: what key generation sees. -/
def System.shape {E F : Type} (cs : System E F) : List E := cs.map Prod.fst

/-- The values supplied at each step. -/
def System.input {E F : Type} (cs : System E F) : ℕ → List F :=
  fun step => (cs[step]?.map Prod.snd).getD []

/-- The allocated rows have the supplied values. -/
def Supplies {E F : Type} [Vocabulary E F] [Zero F] (w : Assignment F) (n : ℕ)
    (cs : System E F) : Prop :=
  Along (fun step p => Vocabulary.isInput p.1 = true → HasRow w step p.2) n cs

theorem Extends.supplies {E F : Type} [Vocabulary E F] [Zero F] {w : Assignment F}
    {cs : System E F} (h : Extends w cs.input 0 cs.shape) : Supplies w 0 cs := by
  rw [Supplies, along_iff]
  intro i p hp hinput
  have hrow := h.get (i := i) (e := p.1) (by simp [System.shape, hp]) hinput
  unfold System.input at hrow
  rw [Nat.zero_add, hp] at hrow
  rw [Nat.zero_add]
  exact hrow

/-- A computation that records events. What it recorded stays when it fails. -/
abbrev Builder (E F ε α : Type) := ExceptT (Abort ε) (StateM (System E F)) α

section Builder

variable {E F ε α β : Type}

/-- The outcome of a run from a system, and the system it leaves. -/
def run (m : Builder E F ε α) (cs : System E F) : Exec ε α × System E F := m cs

/-- Record an event and return its step. -/
def emit (e : E) (values : List F) : Builder E F ε ℕ :=
  ExceptT.mk fun cs => (.ok cs.length, cs ++ [(e, values)])

/-- A computation that records nothing. -/
def lift (x : Exec ε α) : Builder E F ε α := ExceptT.mk fun cs => (x, cs)

@[simp] theorem run_emit (e : E) (values : List F) (cs : System E F) :
    run (emit e values : Builder E F ε ℕ) cs = (.ok cs.length, cs ++ [(e, values)]) := rfl

@[simp] theorem run_lift (x : Exec ε α) (cs : System E F) :
    run (lift x : Builder E F ε α) cs = (x, cs) := rfl

@[simp] theorem run_pure (a : α) (cs : System E F) :
    run (pure a : Builder E F ε α) cs = (.ok a, cs) := rfl

/-- The second part runs on what the first one left, if that returned. -/
theorem run_bind_eq (m : Builder E F ε α) (f : α → Builder E F ε β) (cs : System E F) :
    run (m >>= f) cs = match (run m cs).1 with
      | .ok a => run (f a) (run m cs).2
      | .error e => (.error e, (run m cs).2) := by
  show ExceptT.bindCont f (run m cs).1 (run m cs).2 = _
  cases (run m cs).1 <;> rfl

theorem run_bind {m : Builder E F ε α} {f : α → Builder E F ε β} {cs cs' : System E F} {a : α}
    (h : run m cs = (.ok a, cs')) : run (m >>= f) cs = run (f a) cs' := by
  rw [run_bind_eq, h]

theorem run_bind_error {m : Builder E F ε α} {f : α → Builder E F ε β} {cs cs' : System E F}
    {e : Abort ε} (h : run m cs = (.error e, cs')) : run (m >>= f) cs = (.error e, cs') := by
  rw [run_bind_eq, h]

@[simp] theorem shape_append (cs ds : System E F) :
    (cs ++ ds).shape = cs.shape ++ ds.shape := by simp [System.shape]

@[simp] theorem length_shape (cs : System E F) : cs.shape.length = cs.length := by
  simp [System.shape]

/-! ### Runs that return -/

/-- From any system of `n` events, `m` returns `a` and records `es`. -/
def Emits (m : Builder E F ε α) (n : ℕ) (a : α) (es : System E F) : Prop :=
  ∀ cs : System E F, cs.length = n → run m cs = (.ok a, cs ++ es)

theorem Emits.pure (n : ℕ) (a : α) : Emits (pure a : Builder E F ε α) n a [] := by
  intro cs _
  rw [run_pure, List.append_nil]

theorem Emits.emit (n : ℕ) (e : E) (values : List F) :
    Emits (emit e values : Builder E F ε ℕ) n n [(e, values)] := by
  intro cs hcs
  rw [run_emit, hcs]

theorem Emits.lift {x : Exec ε α} {a : α} (h : x = .ok a) (n : ℕ) :
    Emits (lift x : Builder E F ε α) n a [] := by
  intro cs _
  rw [run_lift, h, List.append_nil]

theorem Emits.bind {m : Builder E F ε α} {f : α → Builder E F ε β} {n : ℕ} {a : α} {b : β}
    {es ds : System E F} (hm : Emits m n a es) (hf : Emits (f a) (n + es.length) b ds) :
    Emits (m >>= f) n b (es ++ ds) := by
  intro cs hcs
  rw [run_bind (hm cs hcs), hf (cs ++ es) (by rw [List.length_append, hcs]), List.append_assoc]

theorem Emits.cons {m : Builder E F ε α} {f : α → Builder E F ε β} {n : ℕ} {a : α} {b : β}
    {e : E × List F} {ds : System E F} (hm : Emits m n a [e]) (hf : Emits (f a) (n + 1) b ds) :
    Emits (m >>= f) n b (e :: ds) := hm.bind hf

/-- One event for each element of a list. -/
theorem Emits.mapM {γ : Type} {f : γ → Builder E F ε α} {r : ℕ → α} {e : γ → E × List F}
    (h : ∀ c n, Emits (f c) n (r n) [e c]) (xs : List γ) (n : ℕ) :
    Emits (xs.mapM f) n ((List.range xs.length).map fun i => r (n + i)) (xs.map e) := by
  induction xs generalizing n with
  | nil => simpa using Emits.pure n []
  | cons x xs ih =>
      rw [List.mapM_cons]
      have hrest := (ih (n + 1)).bind (f := fun as => Pure.pure (r n :: as)) (Emits.pure _ _)
      have hrun := (h x n).bind (f := fun a => do let as ← xs.mapM f; Pure.pure (a :: as)) hrest
      simpa [List.range_succ_eq_map, Function.comp_def, Nat.add_assoc, Nat.add_comm 1] using hrun

theorem Emits.mapM_bind {γ : Type} {f : γ → Builder E F ε α} {r : ℕ → α} {e : γ → E × List F}
    {k : List α → Builder E F ε β} {xs : List γ} {n : ℕ} {b : β} {ds : System E F}
    (h : ∀ c n, Emits (f c) n (r n) [e c])
    (hk : Emits (k ((List.range xs.length).map fun i => r (n + i))) (n + xs.length) b ds) :
    Emits (xs.mapM f >>= k) n b (xs.map e ++ ds) := by
  refine (Emits.mapM h xs n).bind ?_
  rwa [List.length_map]

/-- The first run of a system. -/
theorem Emits.run {m : Builder E F ε α} {a : α} {es : System E F} (h : Emits m 0 a es) :
    run m [] = (.ok a, es) := h [] rfl

/-! ### Runs that abort -/

/-- From every system, `m` aborts with `e`. -/
def Aborts (m : Builder E F ε α) (e : Abort ε) : Prop :=
  ∀ cs : System E F, (run m cs).1 = .error e

theorem Aborts.lift {x : Exec ε α} {e : Abort ε} (h : x = .error e) :
    Aborts (lift x : Builder E F ε α) e := fun _ => h

theorem Aborts.bind {m : Builder E F ε α} {e : Abort ε} (h : Aborts m e)
    (f : α → Builder E F ε β) : Aborts (m >>= f) e := by
  intro cs
  rcases hr : run m cs with ⟨r, cs'⟩
  obtain rfl : r = .error e := by rw [← h cs, hr]
  rw [run_bind_error hr]

/-- The first part returned, the second one aborts. -/
theorem Emits.aborts {m : Builder E F ε α} {f : α → Builder E F ε β} {a : ℕ → α}
    {es : ℕ → System E F} {e : Abort ε} (hm : ∀ n, Emits m n (a n) (es n))
    (hf : ∀ n, Aborts (f (a n)) e) : Aborts (m >>= f) e := by
  intro cs
  rw [run_bind (hm cs.length cs rfl)]
  exact hf _ _

/-! ### Two runs that record the same events -/

/-- From systems of one shape, both runs end alike and add the same events, all
of them with the property, whether the runs return or abort. -/
def Twin (P : E → Prop) (m m' : Builder E F ε α) : Prop :=
  ∀ cs cs' : System E F, cs.shape = cs'.shape → (run m cs).1 = (run m' cs').1 ∧
    ∃ es : List E, (∀ e ∈ es, P e) ∧
      (run m cs).2.shape = cs.shape ++ es ∧ (run m' cs').2.shape = cs'.shape ++ es

variable {P : E → Prop}

theorem Twin.pure (a : α) : Twin P (pure a : Builder E F ε α) (pure a) :=
  fun _ _ _ => ⟨rfl, [], by simp⟩

theorem Twin.lift (x : Exec ε α) : Twin P (lift x : Builder E F ε α) (lift x) :=
  fun _ _ _ => ⟨rfl, [], by simp⟩

/-- Supplied values are the one thing in which two twins may differ. -/
theorem Twin.emit {e : E} (he : P e) (values values' : List F) :
    Twin P (emit e values : Builder E F ε ℕ) (emit e values') := by
  intro cs cs' h
  have hlen : cs.length = cs'.length := by
    rw [← length_shape cs, h, length_shape]
  rw [run_emit, run_emit, hlen, shape_append, shape_append]
  exact ⟨rfl, [e], by simpa using he, rfl, rfl⟩

theorem Twin.bind {m m' : Builder E F ε α} {f f' : α → Builder E F ε β} (hm : Twin P m m')
    (hf : ∀ a, Twin P (f a) (f' a)) : Twin P (m >>= f) (m' >>= f') := by
  intro cs cs' h
  obtain ⟨hend, es, hes, hshape, hshape'⟩ := hm cs cs' h
  rw [run_bind_eq, run_bind_eq, ← hend]
  cases (run m cs).1 with
  | error e => exact ⟨rfl, es, hes, hshape, hshape'⟩
  | ok a =>
      -- the second parts start from systems of one shape again
      obtain ⟨hend', ds, hds, hrest, hrest'⟩ :=
        hf a (run m cs).2 (run m' cs').2 (by rw [hshape, hshape', h])
      refine ⟨hend', es ++ ds, ?_, ?_, ?_⟩
      · intro e he
        exact (List.mem_append.mp he).elim (hes e) (hds e)
      · exact hrest.trans (by rw [hshape, List.append_assoc])
      · exact hrest'.trans (by rw [hshape', List.append_assoc])

theorem Twin.mapM {γ : Type} {f f' : γ → Builder E F ε α} (h : ∀ c, Twin P (f c) (f' c))
    (xs : List γ) : Twin P (xs.mapM f) (xs.mapM f') := by
  induction xs with
  | nil => simpa using Twin.pure []
  | cons x xs ih =>
      rw [List.mapM_cons, List.mapM_cons]
      exact (h x).bind fun a => ih.bind fun as => Twin.pure _

end Builder

end Zcaprio.Trace
