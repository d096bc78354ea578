import Zcaprio.Circuit.Commitment
import Zcaprio.Metatheory.Signature

/-!
# The credential block

What `CredentialRelation.enforce` records, and what its constraints say of the
opening its allocations hold.
-/

namespace Zcaprio

open Trace

/-! ## Openings -/

/-- The private values of one credential as the circuit holds them: any field
elements, and the bytes of two scalars. -/
@[ext] structure Opening where
  birthDay : Fr
  country : Fr
  role : Fr
  salt : Fr
  secret : Fr
  response : List UInt8
  challenge : List UInt8
  length_response : response.length = 32
  length_challenge : challenge.length = 32

/-- The opening allocated by a credential block at step `n`. -/
def openingAt (w : Assignment Fr) (n : ℕ) : Opening where
  birthDay := w ⟨n, 0⟩
  country := w ⟨n + 1, 0⟩
  role := w ⟨n + 2, 0⟩
  salt := w ⟨n + 3, 0⟩
  secret := w ⟨n + 4, 0⟩
  response := readBytes w (n + 8) 32
  challenge := readBytes w (n + 9) 32
  length_response := length_readBytes _ _ _
  length_challenge := length_readBytes _ _ _

namespace Opening

section Native

variable [Hashes]

/-- The message the commitments of an opening make. -/
def message (opening : Opening) : Vector Fr 4 :=
  credentialMessage
    ⟨poseidonHash [ageDomain, opening.birthDay, opening.salt]⟩
    ⟨poseidonHash [ownerDomain, opening.secret]⟩
    ⟨poseidonHash [attributeDomain, opening.country, opening.role, opening.salt]⟩
    ageCredentialSchemaV2

/-- The bytes are canonical scalars that the native check accepts on the message. -/
def Signed [Curve] (opening : Opening) (key : IssuerPublicKey) : Prop :=
  SignedBy key opening.response opening.challenge opening.message

end Native

end Opening

/-- The opening an honest prover allocates. -/
def SignedAttributeCredential.opening [Curve] [Chrono] (credential : SignedAttributeCredential) :
    Opening where
  birthDay := (credential.birthDay.daysSince1900 : Fr)
  country := credential.country.fieldElement
  role := credential.role.fieldElement
  salt := credential.ageSalt.fieldElement
  secret := credential.walletSecret.fieldElement
  response := credential.credential.signature.proverResponseBytes
  challenge := credential.credential.signature.verifierChallengeBytes
  length_response := length_canonical _
  length_challenge := length_canonical _

/-! ## What the circuit records -/

section Block

variable [Curve] [Chrono]

/-- The private field elements and the three commitments. -/
def openingBlock (credential : Option SignedAttributeCredential) (n : ℕ) : ConstraintSystem :=
  [(.allocFp .Witness, [credential.elim 0 fun value => (value.birthDay.daysSince1900 : Fr)]),
   (.allocFp .Witness, [credential.elim 0 fun value => value.country.fieldElement]),
   (.allocFp .Witness, [credential.elim 0 fun value => value.role.fieldElement]),
   (.allocFp .Witness, [credential.elim 0 fun value => value.ageSalt.fieldElement]),
   (.allocFp .Witness, [credential.elim 0 fun value => value.walletSecret.fieldElement]),
   (.call (.poseidon [.Constant ageDomain, .Var ⟨n, 0⟩, .Var ⟨n + 3, 0⟩]), []),
   (.call (.poseidon [.Constant ownerDomain, .Var ⟨n + 4, 0⟩]), []),
   (.call (.poseidon [.Constant attributeDomain, .Var ⟨n + 1, 0⟩, .Var ⟨n + 2, 0⟩,
      .Var ⟨n + 3, 0⟩]), [])]

/-- The variables of the signed message. -/
def messageVar (n : ℕ) : List FpVar :=
  [.Var ⟨n + 5, 0⟩, .Var ⟨n + 6, 0⟩, .Var ⟨n + 7, 0⟩,
    .Constant (ageCredentialSchemaV2.toNat : Fr)]

/-- The block `CredentialRelation.enforce` records at step `n`. -/
def credentialBlock (key : IssuerPublicKey) (credential : Option SignedAttributeCredential)
    (n : ℕ) : ConstraintSystem :=
  openingBlock credential n ++ signatureBlock key
    (credential.map fun value => value.credential.signature) (messageVar n) (n + 8)

/-- The variables handed to the claim. -/
def relationAt (n : ℕ) : CredentialRelation where
  birthDay := .Var ⟨n, 0⟩
  country := .Var ⟨n + 1, 0⟩
  role := .Var ⟨n + 2, 0⟩

theorem CredentialRelation.enforce_emits (key : IssuerPublicKey)
    (credential : Option SignedAttributeCredential) (n : ℕ) :
    Emits (CredentialRelation.enforce key credential) n (relationAt n)
      (credentialBlock key credential n) := by
  have hlength : (messageVar n).length * 32 < 2 ^ 64 := by simp [messageVar]
  have hsignature := SchnorrRelation.enforce_emits key
    (credential.map fun value => value.credential.signature) hlength (n + 8)
  refine (newWitness_emits _ n).cons ((newWitness_emits _ _).cons ((newWitness_emits _ _).cons
    ((newWitness_emits _ _).cons ((newWitness_emits _ _).cons ?_))))
  refine (callFp_emits _ _).cons ((callFp_emits _ _).cons ((callFp_emits _ _).cons ?_))
  rw [← List.append_nil (signatureBlock _ _ _ _)]
  exact hsignature.bind (Emits.pure _ _)

omit [Chrono] in
theorem length_signatureBlock (key : IssuerPublicKey) (signature : Option IssuerSignature)
    (message : List FpVar) (n : ℕ) :
    (signatureBlock key signature message n).length = message.length + 12 := by
  simp [signatureBlock, signatureHead, signatureMessage, signatureTail]

@[simp] theorem length_credentialBlock (key : IssuerPublicKey)
    (credential : Option SignedAttributeCredential) (n : ℕ) :
    (credentialBlock key credential n).length = 24 := by
  unfold credentialBlock
  rw [List.length_append, length_signatureBlock]
  rfl

end Block

/-! ## What the constraints say -/

section Meaning

variable [Gadgets] [Chrono] {w : Assignment Fr} {n : ℕ} {key : IssuerPublicKey}
  {credential : Option SignedAttributeCredential}

theorem openingBlock_scoped : Scoped n (openingBlock credential n).shape := by
  have hnone : ∀ v ∈ ([] : List Variable), v.step < n := by simp
  refine ⟨by simp [Vocabulary.reads, Event.reads], by simp [Vocabulary.reads, Event.reads],
    by simp [Vocabulary.reads, Event.reads], by simp [Vocabulary.reads, Event.reads],
    by simp [Vocabulary.reads, Event.reads], ?_, ?_, ?_, trivial⟩
  all_goals
    refine reads_call_lt ?_ (by simp [Gadget.bools])
    simp [Gadget.fields, FpVar.reads]
  all_goals omega

theorem credentialBlock_scoped : Scoped n (credentialBlock key credential n).shape := by
  unfold credentialBlock
  rw [shape_append, Scoped, along_append]
  refine ⟨openingBlock_scoped, signatureBlock_scoped key _ ?_⟩
  have hlength : (openingBlock credential n).shape.length = 8 := rfl
  simp [messageVar, FpVar.reads, hlength]

/-- The commitment rows of a determined block commit to its opening. -/
theorem openingBlock_spec (h : Determined w n (openingBlock credential n).shape) :
    (messageVar n).map (FpVar.value w) = (openingAt w n).message.toList ∧
      Satisfies w n (openingBlock credential n).shape := by
  obtain ⟨-, -, -, -, -, hage, howner, hattributes, -⟩ := h
  obtain ⟨hagerow, hageok⟩ := determined_poseidon hage
  obtain ⟨hownerrow, hownerok⟩ := determined_poseidon howner
  obtain ⟨hattributesrow, hattributesok⟩ := determined_poseidon hattributes
  refine ⟨?_, trivial, trivial, trivial, trivial, trivial, hageok, hownerok, hattributesok, trivial⟩
  have hmessage : (messageVar n).map (FpVar.value w) = [w ⟨n + 5, 0⟩, w ⟨n + 6, 0⟩,
      w ⟨n + 7, 0⟩, (ageCredentialSchemaV2.toNat : Fr)] := rfl
  rw [hmessage, show w ⟨n + 5, 0⟩ = _ from hagerow, show w ⟨n + 6, 0⟩ = _ from hownerrow,
    show w ⟨n + 7, 0⟩ = _ from hattributesrow]
  rfl

/-- In a determined credential block, the constraints say that the allocated
bytes are bits and that the opening is signed. -/
theorem credentialBlock_satisfies_iff
    (h : Determined w n (credentialBlock key credential n).shape) :
    Satisfies w n (credentialBlock key credential n).shape ↔
      ScalarBits w (n + 8) ∧ (openingAt w n).Signed key := by
  unfold credentialBlock at h
  rw [shape_append, Determined, along_append] at h
  obtain ⟨hmessage, hopening⟩ := openingBlock_spec h.1
  unfold credentialBlock
  rw [shape_append, Satisfies, along_append]
  rw [length_shape] at h ⊢
  have hsignature := signatureBlock_satisfies_iff hmessage h.2
  exact (and_iff_right hopening).trans hsignature

/-- The bytes a determined credential block hashes: the transcript of a signature
with the allocated bytes, on the message of the opening. -/
theorem credentialBlock_transcript
    (h : Determined w n (credentialBlock key credential n).shape) {signature : IssuerSignature}
    (hresponse : signature.proverResponseBytes = (openingAt w n).response)
    (hchallenge : signature.verifierChallengeBytes = (openingAt w n).challenge) :
    (bitsOf (transcriptVar 4 (n + 8))).map (Boolean.value w) =
      Digits.toBits (credentialChallengeTranscript key signature (openingAt w n).message) := by
  unfold credentialBlock at h
  rw [shape_append, Determined, along_append] at h
  obtain ⟨hmessage, -⟩ := openingBlock_spec h.1
  have htranscript := signatureBlock_transcript hmessage h.2
  have hr : responseValue w (n + 8) = signature.proverResponse.val := by
    unfold responseValue
    rw [← ofBytes_readBytes, ← ofBytes_canonical jubJubModulus_lt]
    exact congrArg Digits.ofBytes hresponse.symm
  have hc : challengeValue w (n + 8) = signature.verifierChallenge.val := by
    unfold challengeValue
    rw [← ofBytes_readBytes, ← ofBytes_canonical jubJubModulus_lt]
    exact congrArg Digits.ofBytes hchallenge.symm
  have hlength : (openingBlock credential n).shape.length = 8 := rfl
  rw [hlength, hr, hc, Vector.length_toList] at htranscript
  exact htranscript

/-! ## Supplied values -/

/-- The allocations of an opening: rows of its values. -/
structure Holds (w : Assignment Fr) (n : ℕ) (opening : Opening) : Prop where
  birthDay : w ⟨n, 0⟩ = opening.birthDay
  country : w ⟨n + 1, 0⟩ = opening.country
  role : w ⟨n + 2, 0⟩ = opening.role
  salt : w ⟨n + 3, 0⟩ = opening.salt
  secret : w ⟨n + 4, 0⟩ = opening.secret
  response : HasRow w (n + 8) ((Digits.toBits opening.response).map bit)
  challenge : HasRow w (n + 9) ((Digits.toBits opening.challenge).map bit)

omit [Gadgets] [Chrono] in
theorem isBit_of_hasRow {bytes : List UInt8} {step : ℕ}
    (h : HasRow w step ((Digits.toBits bytes).map bit)) (slot : ℕ) : IsBit (w ⟨step, slot⟩) := by
  rw [h slot, List.getD_eq_getElem?_getD, List.getElem?_map]
  cases (Digits.toBits bytes)[slot]? with
  | none => exact Or.inl rfl
  | some b => exact isBit_bit b

omit [Gadgets] [Chrono] in
theorem readBytes_of_hasRow {bytes : List UInt8} {step : ℕ} (hlen : bytes.length = 32)
    (h : HasRow w step ((Digits.toBits bytes).map bit)) : readBytes w step 32 = bytes := by
  have hrow := h.row_eq
  rw [List.length_map, Digits.length_toBits, hlen] at hrow
  rw [← Digits.toBits_inj (by rw [length_readBytes, hlen]), toBits_readBytes]
  exact bitsAt_of_row hrow

omit [Gadgets] [Chrono] in
/-- Allocated bytes of an opening are bits, and the opening is read back. -/
theorem Holds.spec {opening : Opening} (h : Holds w n opening) :
    ScalarBits w (n + 8) ∧ openingAt w n = opening := by
  refine ⟨⟨?_, ?_⟩, ?_⟩
  · intro slot _
    exact isBit_of_hasRow h.response slot
  · intro slot _
    exact isBit_of_hasRow h.challenge slot
  apply Opening.ext
  · exact h.birthDay
  · exact h.country
  · exact h.role
  · exact h.salt
  · exact h.secret
  · exact readBytes_of_hasRow opening.length_response h.response
  · exact readBytes_of_hasRow opening.length_challenge h.challenge

/-- A prover that holds a credential allocates its opening. -/
theorem holds_of_supplies {credential : SignedAttributeCredential}
    (h : Supplies w n (credentialBlock key (some credential) n)) :
    Holds w n credential.opening := by
  obtain ⟨hbirthDay, hcountry, hrole, hsalt, hsecret, -, -, -, hresponse, hchallenge, -⟩ := h
  exact ⟨hbirthDay rfl 0, hcountry rfl 0, hrole rfl 0, hsalt rfl 0, hsecret rfl 0, hresponse rfl,
    hchallenge rfl⟩

/-- The values of the allocations of a block at step 0. -/
def Opening.input (opening : Opening) : ℕ → List Fr
  | 0 => [opening.birthDay]
  | 1 => [opening.country]
  | 2 => [opening.role]
  | 3 => [opening.salt]
  | 4 => [opening.secret]
  | 8 => (Digits.toBits opening.response).map bit
  | 9 => (Digits.toBits opening.challenge).map bit
  | _ => []

theorem holds_of_extends {opening : Opening}
    (h : Extends w opening.input 0 (credentialBlock key credential 0).shape) :
    Holds w 0 opening := by
  obtain ⟨hbirthDay, hcountry, hrole, hsalt, hsecret, -, -, -, hresponse, hchallenge, -⟩ := h
  exact ⟨hbirthDay rfl 0, hcountry rfl 0, hrole rfl 0, hsalt rfl 0, hsecret rfl 0, hresponse rfl,
    hchallenge rfl⟩

/-- The values of an opening satisfy the credential constraints exactly where it is signed. -/
theorem credentialBlock_satisfiable_iff {opening : Opening} :
    Satisfiable opening.input (credentialBlock key credential 0).shape ↔ opening.Signed key := by
  constructor
  · -- whatever the other variables are, the allocated opening is this one
    rintro ⟨w, hextends, hsatisfies⟩
    obtain ⟨-, hopening⟩ := (holds_of_extends hextends).spec
    rw [← hopening]
    exact ((credentialBlock_satisfies_iff (determined_of_satisfies hsatisfies)).mp hsatisfies).2
  · -- the completed assignment satisfies the block
    intro hsigned
    have hscoped : Scoped 0 (credentialBlock key credential 0).shape := credentialBlock_scoped
    have hextends := complete_extends opening.input hscoped
    have hcomputes := complete_computes opening.input hscoped
    obtain ⟨hbits, hopening⟩ := (holds_of_extends hextends).spec
    refine ⟨_, hextends, (credentialBlock_satisfies_iff (determined_of_computes hcomputes)).mpr ?_⟩
    rw [hopening]
    exact ⟨hbits, hsigned⟩

end Meaning

end Zcaprio
