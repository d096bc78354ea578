import Zcaprio.Metatheory.Template

/-!
# The shape of a circuit

What a circuit records does not depend on the private values: with and without
them the two runs end alike and add the same events, none of them public. This
is read off the code, one lemma for each function, also where the runs abort.
-/

namespace Zcaprio

open Trace

/-- Two runs with the same end and the same events, none of which is a public input. -/
abbrev SameShape {α : Type} (m m' : Synthesis α) : Prop :=
  Twin (fun e : Event => e.isPublic = false) m m'

/-- One event that is no public input, and its variables. -/
theorem sameShape_emit {α : Type} {e : Event} (he : e.isPublic = false) (values values' : List Fr)
    (f : ℕ → α) : SameShape (emit e values >>= fun step => pure (f step))
      (emit e values' >>= fun step => pure (f step)) :=
  Twin.bind (Twin.emit (P := fun e : Event => e.isPublic = false) he values values')
    fun step => Twin.pure (f step)

theorem sameShape_newWitness (value value' : Fr) :
    SameShape (newWitness value) (newWitness value') := sameShape_emit rfl _ _ _

theorem sameShape_newWitnessVec {values values' : List UInt8} (h : values.length = values'.length) :
    SameShape (newWitnessVec values) (newWitnessVec values') := by
  unfold newWitnessVec
  rw [h]
  exact sameShape_emit rfl _ _ _

theorem sameShape_callFp (g : Gadget FpVar Boolean) : SameShape (callFp g) (callFp g) :=
  sameShape_emit rfl _ _ _

theorem sameShape_callBoolean (g : Gadget FpVar Boolean) :
    SameShape (callBoolean g) (callBoolean g) := sameShape_emit rfl _ _ _

theorem sameShape_callPoint (g : Gadget FpVar Boolean) : SameShape (callPoint g) (callPoint g) :=
  sameShape_emit rfl _ _ _

theorem sameShape_callBytes (g : Gadget FpVar Boolean) : SameShape (callBytes g) (callBytes g) :=
  sameShape_emit rfl _ _ _

theorem sameShape_callUnit (g : Gadget FpVar Boolean) : SameShape (callUnit g) (callUnit g) :=
  sameShape_emit rfl _ _ _

/-! ## Signatures -/

/-- Scalars of 32 bytes and the 32 zero bytes of setup allocate alike. -/
theorem ScalarBytes.sameShape_witness {value value' : Option (List UInt8)}
    (h : ∀ bytes ∈ value, bytes.length = 32) (h' : ∀ bytes ∈ value', bytes.length = 32) :
    SameShape (witness value) (witness value') := by
  have hlength : ∀ v : Option (List UInt8), (∀ bytes ∈ v, bytes.length = 32) →
      (v.getD (List.replicate 32 0)).length = 32 := by
    intro v hv
    cases v with
    | none => exact List.length_replicate
    | some bytes => exact hv bytes rfl
  refine (sameShape_newWitnessVec ?_).bind fun _ => Twin.pure _
  rw [hlength value h, hlength value' h']

theorem ScalarBytes.sameShape_matches (scalar : ScalarBytes) (digest : List UInt8Var) :
    SameShape (scalar.matches digest) (scalar.matches digest) :=
  (sameShape_callUnit _).bind fun _ => sameShape_callUnit _

theorem CommitmentPoint.sameShape_point (commitment : CommitmentPoint)
    (response challenge : List Boolean) :
    SameShape (commitment.point response challenge) (commitment.point response challenge) :=
  (sameShape_callPoint _).bind fun _ => (sameShape_callPoint _).bind fun _ => sameShape_callPoint _

theorem TranscriptBytes.sameShape_length (message : List FpVar) :
    SameShape (length message) (length message) := by
  unfold length
  split
  · exact Twin.pure _
  · exact Twin.lift _

section Signature

variable [Curve]

theorem TranscriptBytes.sameShape_new (commitment : EdwardsVar) (message : List FpVar) :
    SameShape (new commitment message) (new commitment message) := by
  refine (sameShape_callBytes _).bind fun x => (sameShape_callBytes _).bind fun y => ?_
  refine (sameShape_length message).bind fun length => ?_
  exact (Twin.mapM (fun _ => sameShape_callBytes _) message).bind fun _ => Twin.pure _

/-- The allocated scalars are 32 bytes, with a signature or without. -/
theorem SchnorrRelation.sameShape_enforce (key : IssuerPublicKey)
    (signature signature' : Option IssuerSignature) (message : List FpVar) :
    SameShape (enforce key signature message) (enforce key signature' message) := by
  have hlength (f : IssuerSignature → List UInt8) (hf : ∀ s, (f s).length = 32)
      (s : Option IssuerSignature) : ∀ bytes ∈ s.map f, bytes.length = 32 := by
    intro bytes hbytes
    obtain ⟨signature, -, rfl⟩ := Option.mem_map.mp hbytes
    exact hf signature
  have hresponse := hlength IssuerSignature.proverResponseBytes fun _ => length_canonical _
  have hchallenge := hlength IssuerSignature.verifierChallengeBytes fun _ => length_canonical _
  refine (ScalarBytes.sameShape_witness (hresponse _) (hresponse _)).bind fun response => ?_
  refine (ScalarBytes.sameShape_witness (hchallenge _) (hchallenge _)).bind fun challenge => ?_
  refine (sameShape_callUnit _).bind fun _ => (sameShape_callUnit _).bind fun _ => ?_
  refine (CommitmentPoint.sameShape_point _ _ _).bind fun commitment => ?_
  refine (TranscriptBytes.sameShape_new commitment message).bind fun transcript => ?_
  exact (sameShape_callBytes _).bind fun expected => challenge.sameShape_matches expected

/-! ## Credentials and claims -/

variable [Chrono]

/-- Seven allocations take their values from the credential, or defaults. -/
theorem CredentialRelation.sameShape_enforce (key : IssuerPublicKey)
    (credential credential' : Option SignedAttributeCredential) :
    SameShape (enforce key credential) (enforce key credential') := by
  -- the five field elements are the only values that differ before the signature
  refine (sameShape_newWitness _ _).bind fun birthDay => ?_
  refine (sameShape_newWitness _ _).bind fun country => ?_
  refine (sameShape_newWitness _ _).bind fun role => ?_
  refine (sameShape_newWitness _ _).bind fun salt => ?_
  refine (sameShape_newWitness _ _).bind fun secret => ?_
  refine (sameShape_callFp _).bind fun age => (sameShape_callFp _).bind fun owner => ?_
  refine (sameShape_callFp _).bind fun attributes => ?_
  exact (SchnorrRelation.sameShape_enforce key _ _ _).bind fun _ => Twin.pure _

omit [Curve] [Chrono] in
theorem CredentialRelation.sameShape_age (credential : CredentialRelation) (cutoff : Fr)
    (atLeast : Bool) :
    SameShape (credential.age cutoff atLeast) (credential.age cutoff atLeast) := by
  cases atLeast <;> exact sameShape_callBoolean _

omit [Curve] [Chrono] in
theorem CredentialRelation.sameShape_countryAmong (credential : CredentialRelation)
    (values : List Fr) :
    SameShape (credential.countryAmong values) (credential.countryAmong values) :=
  (Twin.mapM (fun _ => sameShape_callBoolean _) values).bind fun _ => sameShape_callBoolean _

/-! ## Templates -/

/-- A leaf records the same with any credential, and fails alike where its
threshold is not supported. -/
theorem DirectTemplate.sameShape_relation (template : DirectTemplate)
    (credential credential' : Option SignedAttributeCredential) (policy : VerificationPolicy) :
    SameShape (template.relation credential policy) (template.relation credential' policy) := by
  refine (CredentialRelation.sameShape_enforce template.issuer _ _).bind fun relation => ?_
  cases template.claim with
  | AgeAbove years => exact (Twin.lift _).bind fun _ => relation.sameShape_age _ true
  | AgeBelow years => exact (Twin.lift _).bind fun _ => relation.sameShape_age _ false
  | CountryIsEu => exact relation.sameShape_countryAmong euCountries
  | Role role => exact sameShape_callBoolean _
  | Custom => exact Twin.lift _

omit [Curve] [Chrono] in
/-- Two children and the gate over them. -/
theorem sameShape_gate {m m' l l' : Synthesis Boolean} (g : Boolean → Boolean → Gadget FpVar Boolean)
    (hm : SameShape m m') (hl : SameShape l l') :
    SameShape (m >>= fun a => l >>= fun b => callBoolean (g a b))
      (m' >>= fun a => l' >>= fun b => callBoolean (g a b)) :=
  hm.bind fun _ => hl.bind fun _ => sameShape_callBoolean _

namespace CircuitTemplate

/-- Over plans of the shape of the template, or none, the tree records the same,
whatever the error of the arm for other shapes. -/
theorem sameShape_relationWith {template : CircuitTemplate} {plan plan' : Option ProofPlan}
    (policy : VerificationPolicy) (mismatch mismatch' : SynthesisError)
    (h : template.Fits plan) (h' : template.Fits plan') :
    SameShape (template.relationWith mismatch plan policy)
      (template.relationWith mismatch' plan' policy) := by
  induction template generalizing plan plan' with
  | Direct template =>
      rw [relationWith_direct h, relationWith_direct h']
      exact template.sameShape_relation _ _ policy
  | Conjunction left right ihl ihr =>
      obtain ⟨hl, hr⟩ := fits_conjunction h
      obtain ⟨hl', hr'⟩ := fits_conjunction h'
      rw [relationWith_conjunction h, relationWith_conjunction h']
      exact sameShape_gate .and (ihl hl hl') (ihr hr hr')
  | Disjunction left right ihl ihr =>
      obtain ⟨hl, hr⟩ := fits_disjunction h
      obtain ⟨hl', hr'⟩ := fits_disjunction h'
      rw [relationWith_disjunction h, relationWith_disjunction h']
      exact sameShape_gate .or (ihl hl hl') (ihr hr hr')

/-- The arm for other shapes is not reached, at any depth: its error does not matter. -/
theorem relationWith_mismatch {template : CircuitTemplate} {plan : Option ProofPlan}
    (policy : VerificationPolicy) (mismatch mismatch' : SynthesisError) (h : template.Fits plan) :
    template.relationWith mismatch plan policy = template.relationWith mismatch' plan policy := by
  induction template generalizing plan with
  | Direct template => rw [relationWith_direct h, relationWith_direct h]
  | Conjunction left right ihl ihr =>
      obtain ⟨hl, hr⟩ := fits_conjunction h
      rw [relationWith_conjunction h, relationWith_conjunction h, ihl hl, ihr hr]
  | Disjunction left right ihl ihr =>
      obtain ⟨hl, hr⟩ := fits_disjunction h
      rw [relationWith_disjunction h, relationWith_disjunction h, ihl hl, ihr hr]

end CircuitTemplate

end Signature

end Zcaprio
