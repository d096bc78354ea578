import Zcaprio.Circuit.Signature
import Zcaprio.Metatheory.Gadgets

/-!
# The signature block

What `SchnorrRelation.enforce` records, and what its constraints say: the
allocated bytes are canonical scalars forming a signature the native check accepts.
-/

namespace Zcaprio

open Trace

/-! ## Integers behind the bits -/

theorem val_neg_one : (-1 : JubJubScalar).val = jubJubModulus - 1 := by
  decide

/-- The two comparisons of the circuit against the digest, as one on integers. -/
theorem challenge_bits_iff {challenge digest : List UInt8} (hc : challenge.length = 32)
    (hd : digest.length = 32) :
    ((Digits.toBits challenge).take 251 = (Digits.toBits digest).take 251 ∧
      (Digits.toBits challenge).drop 251 = List.replicate 5 false) ↔
    Digits.ofBytes challenge = Digits.ofBytes digest % 2 ^ 251 := by
  have hclen : (Digits.toBits challenge).length = 256 := by simp [hc]
  have hdlen : (Digits.toBits digest).length = 256 := by simp [hd]
  -- equal low bits are equal remainders
  have htake : (Digits.toBits challenge).take 251 = (Digits.toBits digest).take 251 ↔
      Digits.ofBytes challenge % 2 ^ 251 = Digits.ofBytes digest % 2 ^ 251 := by
    rw [← Digits.ofBits_inj (by simp [hc, hd]), Digits.ofBits_take, Digits.ofBits_take,
      Digits.ofBits_toBits, Digits.ofBits_toBits]
  -- zero high bits are a value below `2 ^ 251`
  have hdrop : (Digits.toBits challenge).drop 251 = List.replicate 5 false ↔
      Digits.ofBytes challenge < 2 ^ 251 := by
    have hhigh : (Digits.toBits challenge).drop 251 =
        List.replicate ((Digits.toBits challenge).length - 251) false ↔
          Digits.ofBits (Digits.toBits challenge) < 2 ^ 251 :=
      Digits.drop_eq_replicate_false (by omega)
    rw [hclen, Digits.ofBits_toBits] at hhigh
    exact hhigh
  rw [htake, hdrop]
  constructor
  · rintro ⟨hmod, hlt⟩
    rw [← hmod, Nat.mod_eq_of_lt hlt]
  · intro h
    have hlt : Digits.ofBytes challenge < 2 ^ 251 := h ▸ Nat.mod_lt _ (by decide)
    exact ⟨by rw [Nat.mod_eq_of_lt hlt, h], hlt⟩

/-! ## What the native check accepts -/

section Native

variable [Curve] [Hashes]

/-- The bytes are canonical scalars, and the native check accepts them. -/
def SignedBy (key : IssuerPublicKey) (response challenge : List UInt8) (message : Vector Fr 4) :
    Prop :=
  ∃ signature : IssuerSignature, signature.proverResponseBytes = response ∧
    signature.verifierChallengeBytes = challenge ∧ signature.isValid key message = true

/-- The point the transcript of a signature starts from, by its integers. -/
def recomputedCommitment (key : IssuerPublicKey) (response challenge : ℕ) : EdwardsAffine :=
  response • schnorrParameters.generator + challenge • key.point

/-- The digest the challenge is compared with. -/
def expectedDigest (key : IssuerPublicKey) (response challenge : ℕ) (message : Vector Fr 4) :
    List UInt8 :=
  Hashes.blake2s256
    (SchnorrTranscript.fromCommitment (recomputedCommitment key response challenge) message).bytes

theorem isValid_iff_integers {signature : IssuerSignature} {key : IssuerPublicKey}
    {message : Vector Fr 4} :
    signature.isValid key message = true ↔
      Digits.ofBytes (expectedDigest key signature.proverResponse.val
        signature.verifierChallenge.val message) % 2 ^ 251 = signature.verifierChallenge.val := by
  rw [IssuerSignature.isValid_iff, SchnorrTranscript.challenge, fromRandomBytes_eq_some_iff]
  rfl

/-- A signature as bytes, by the integers the bytes stand for. -/
theorem signedBy_iff {key : IssuerPublicKey} {response challenge : List UInt8}
    {message : Vector Fr 4} (hr : response.length = 32) (hc : challenge.length = 32) :
    SignedBy key response challenge message ↔
      Digits.ofBytes response < jubJubModulus ∧ Digits.ofBytes challenge < jubJubModulus ∧
        Digits.ofBytes challenge = Digits.ofBytes (expectedDigest key (Digits.ofBytes response)
          (Digits.ofBytes challenge) message) % 2 ^ 251 := by
  constructor
  · rintro ⟨signature, rfl, rfl, hvalid⟩
    rw [isValid_iff_integers] at hvalid
    simp only [IssuerSignature.proverResponseBytes, IssuerSignature.verifierChallengeBytes,
      ofBytes_canonical jubJubModulus_lt]
    exact ⟨ZMod.val_lt _, ZMod.val_lt _, hvalid.symm⟩
  · rintro ⟨hresponse, hchallenge, hdigest⟩
    refine ⟨⟨(Digits.ofBytes response : JubJubScalar), (Digits.ofBytes challenge : JubJubScalar)⟩,
      canonical_natCast hr hresponse, canonical_natCast hc hchallenge, ?_⟩
    rw [isValid_iff_integers]
    simp only [ZMod.val_natCast_of_lt hresponse, ZMod.val_natCast_of_lt hchallenge]
    exact hdigest.symm

end Native

/-! ## What the circuit records -/

section Block

variable [Curve]

/-- The bytes allocated for an optional scalar. -/
def scalarBytes (value : Option JubJubScalar) : List UInt8 :=
  (value.map canonical).getD (List.replicate 32 0)

omit [Curve] in
@[simp] theorem length_scalarBytes (value : Option JubJubScalar) :
    (scalarBytes value).length = 32 := by
  cases value with
  | none => rfl
  | some s => exact length_canonical s

/-- The variables of the transcript of a block at step `n`. -/
def transcriptVar (messageLength n : ℕ) : List UInt8Var :=
  constantVec issuerSignatureSalt ++ bytesAt (n + 7) 32 ++ bytesAt (n + 8) 32 ++
    constantVec (Digits.toBytes 8 (messageLength * 32)) ++
    ((List.range messageLength).map fun i => bytesAt (n + 9 + i) 32).flatten

/-- Allocations, range checks, the commitment point and its bytes. -/
def signatureHead (key : IssuerPublicKey) (signature : Option IssuerSignature) (n : ℕ) :
    ConstraintSystem :=
  [(.allocBytes .Witness 32,
      (Digits.toBits (scalarBytes (signature.map IssuerSignature.proverResponse))).map bit),
   (.allocBytes .Witness 32,
      (Digits.toBits (scalarBytes (signature.map IssuerSignature.verifierChallenge))).map bit),
   (.call (.enforceSmallerOrEqualThanLe (bitsOf (bytesAt n 32)) (-1 : JubJubScalar).val), []),
   (.call (.enforceSmallerOrEqualThanLe (bitsOf (bytesAt (n + 1) 32)) (-1 : JubJubScalar).val), []),
   (.call (.scalarMulLe (.Constant issuerGeneratorCoordinates.1,
      .Constant issuerGeneratorCoordinates.2) (bitsOf (bytesAt n 32))), []),
   (.call (.scalarMulLe (.Constant key.coordinates.1, .Constant key.coordinates.2)
      (bitsOf (bytesAt (n + 1) 32))), []),
   (.call (.add (.Var ⟨n + 4, 0⟩, .Var ⟨n + 4, 1⟩) (.Var ⟨n + 5, 0⟩, .Var ⟨n + 5, 1⟩)), []),
   (.call (.toBytesLe (.Var ⟨n + 6, 0⟩)), []),
   (.call (.toBytesLe (.Var ⟨n + 6, 1⟩)), [])]

/-- The bytes of the message. -/
def signatureMessage (message : List FpVar) : ConstraintSystem :=
  message.map fun element => (.call (.toBytesLe element), [])

/-- The digest and its comparison with the challenge. -/
def signatureTail (messageLength n : ℕ) : ConstraintSystem :=
  [(.call (.evaluateBlake2s (bitsOf (transcriptVar messageLength n))), []),
   (.call (.enforceEqual ((bitsOf (bytesAt (n + 1) 32)).take 251)
      ((bitsOf (bytesAt (n + 9 + messageLength) 32)).take 251)), []),
   (.call (.enforceEqual ((bitsOf (bytesAt (n + 1) 32)).drop 251)
      (List.replicate 5 (.Constant false))), [])]

/-- The block `SchnorrRelation.enforce` records at step `n`. -/
def signatureBlock (key : IssuerPublicKey) (signature : Option IssuerSignature)
    (message : List FpVar) (n : ℕ) : ConstraintSystem :=
  signatureHead key signature n ++ (signatureMessage message ++ signatureTail message.length n)

omit [Curve] in
theorem ScalarBytes.witness_emits (value : Option JubJubScalar) (n : ℕ) :
    Emits (ScalarBytes.witness (value.map Zcaprio.canonical)) n ⟨bytesAt n 32⟩
      [(.allocBytes .Witness 32, (Digits.toBits (scalarBytes value)).map bit)] := by
  have hrun := newWitnessVec_emits (scalarBytes value) n
  rw [length_scalarBytes] at hrun
  exact hrun.bind (Emits.pure _ _)

theorem CommitmentPoint.point_emits (key : IssuerPublicKey) (response challenge : List Boolean)
    (n : ℕ) :
    Emits ((CommitmentPoint.new key).point response challenge) n
      ⟨.Var ⟨n + 2, 0⟩, .Var ⟨n + 2, 1⟩⟩
      [(.call (.scalarMulLe (.Constant issuerGeneratorCoordinates.1,
          .Constant issuerGeneratorCoordinates.2) response), []),
       (.call (.scalarMulLe (.Constant key.coordinates.1, .Constant key.coordinates.2)
          challenge), []),
       (.call (.add (.Var ⟨n, 0⟩, .Var ⟨n, 1⟩) (.Var ⟨n + 1, 0⟩, .Var ⟨n + 1, 1⟩)), [])] :=
  (callPoint_emits _ n).bind ((callPoint_emits _ (n + 1)).bind (callPoint_emits _ (n + 2)))

omit [Curve] in
theorem TranscriptBytes.length_emits {message : List FpVar} (h : message.length * 32 < 2 ^ 64)
    (n : ℕ) :
    Emits (TranscriptBytes.length message) n (Digits.toBytes 8 (message.length * 32)) [] := by
  unfold TranscriptBytes.length
  rw [if_pos ⟨by omega, h⟩]
  exact Emits.pure _ _

/-- At step `n + 7` of a signature block. -/
theorem TranscriptBytes.new_emits {message : List FpVar} (h : message.length * 32 < 2 ^ 64)
    (commitment : EdwardsVar) (n : ℕ) :
    Emits (TranscriptBytes.new commitment message) (n + 7) ⟨transcriptVar message.length n⟩
      ([(.call (.toBytesLe commitment.x), []), (.call (.toBytesLe commitment.y), [])] ++
        signatureMessage message) := by
  have helements := Emits.mapM (fun element => callBytes_emits (.toBytesLe element)) message
    (n + 9)
  rw [← List.append_nil (signatureMessage message)]
  refine (callBytes_emits _ _).cons ((callBytes_emits _ _).cons ?_)
  exact (TranscriptBytes.length_emits h _).bind (helements.bind (Emits.pure _ _))

theorem SchnorrRelation.enforce_emits (key : IssuerPublicKey) (signature : Option IssuerSignature)
    {message : List FpVar} (h : message.length * 32 < 2 ^ 64) (n : ℕ) :
    Emits (SchnorrRelation.enforce key signature message) n ()
      (signatureBlock key signature message n) := by
  -- head: steps `n` to `n + 8`, with the point at `n + 6`
  have hresponse := ScalarBytes.witness_emits (signature.map IssuerSignature.proverResponse) n
  have hchallenge := ScalarBytes.witness_emits (signature.map IssuerSignature.verifierChallenge)
    (n + 1)
  rw [Option.map_map] at hresponse hchallenge
  have hpoint := CommitmentPoint.point_emits key (bitsOf (bytesAt n 32)) (bitsOf (bytesAt (n + 1) 32))
    (n + 4)
  have htail : Emits (Blake2s.hash ⟨transcriptVar message.length n⟩ >>= fun expected =>
        ScalarBytes.matches ⟨bytesAt (n + 1) 32⟩ expected)
      (n + 9 + message.length) () (signatureTail message.length n) :=
    (callBytes_emits _ _).cons ((callUnit_emits _ _).cons (callUnit_emits _ _))
  have hstep : n + 9 + message.length = n + 7 + ((signatureMessage message).length + 2) := by
    simp [signatureMessage]
    omega
  rw [hstep] at htail
  refine hresponse.cons (hchallenge.cons ((callUnit_emits _ _).cons ((callUnit_emits _ _).cons ?_)))
  exact hpoint.bind ((TranscriptBytes.new_emits h _ n).bind htail)

end Block

/-! ## Scope -/

section Scope

variable [Gadgets] {n : ℕ}

omit [Gadgets] in
theorem reads_bytes_lt {step m : ℕ} (h : step < m) :
    ∀ b ∈ bitsOf (bytesAt step 32), ∀ v ∈ b.reads, v.step < m :=
  fun _ hb _ hv => step_of_mem_bytesAt hb hv ▸ h

omit [Gadgets] in
theorem reads_point_lt {step m : ℕ} (h : step < m) :
    ∀ x ∈ [FpVar.Var ⟨step, 0⟩, FpVar.Var ⟨step, 1⟩], ∀ v ∈ x.reads, v.step < m := by
  intro x hx v hv
  rcases List.mem_pair.mp hx with rfl | rfl <;>
    · obtain rfl := List.mem_singleton.mp hv
      exact h

theorem signatureHead_scoped (key : IssuerPublicKey) (signature : Option IssuerSignature) :
    Scoped n (signatureHead key signature n).shape := by
  have hconst (c d : Fr) (m : ℕ) : ∀ x ∈ [FpVar.Constant c, .Constant d], ∀ v ∈ x.reads,
      v.step < m := by
    simp [FpVar.reads]
  have hnil {α : Type} {P : α → Prop} : ∀ x ∈ ([] : List α), P x := by simp
  have hsingle {step m : ℕ} (h : step < m) (slot : ℕ) :
      ∀ x ∈ [FpVar.Var ⟨step, slot⟩], ∀ v ∈ x.reads, v.step < m := by
    simpa [FpVar.reads] using h
  refine ⟨hnil, hnil, reads_call_lt hnil (reads_bytes_lt (by omega)),
    reads_call_lt hnil (reads_bytes_lt (by omega)),
    reads_call_lt (hconst _ _ _) (reads_bytes_lt (by omega)),
    reads_call_lt (hconst _ _ _) (reads_bytes_lt (by omega)),
    reads_call_lt ?_ hnil, reads_call_lt (hsingle (by omega) 0) hnil,
    reads_call_lt (hsingle (by omega) 1) hnil, trivial⟩
  intro x hx
  rcases List.mem_append.mp (show x ∈ [FpVar.Var ⟨n + 4, 0⟩, FpVar.Var ⟨n + 4, 1⟩] ++
      [FpVar.Var ⟨n + 5, 0⟩, FpVar.Var ⟨n + 5, 1⟩] from hx) with hx | hx
  · exact reads_point_lt (by omega) x hx
  · exact reads_point_lt (by omega) x hx

theorem signatureTail_scoped (messageLength : ℕ) :
    Scoped (n + 9 + messageLength) (signatureTail messageLength n).shape := by
  have hnil {α : Type} {P : α → Prop} : ∀ x ∈ ([] : List α), P x := by simp
  refine ⟨reads_call_lt hnil ?_, reads_call_lt hnil ?_, reads_call_lt hnil ?_, trivial⟩
  · intro b hb v hv
    simp only [Gadget.bools, transcriptVar, bitsOf_append, List.mem_append] at hb
    rcases hb with (((hb | hb) | hb) | hb) | hb
    · simp [reads_of_mem_constantVec hb] at hv
    · rw [step_of_mem_bytesAt hb hv]
      omega
    · rw [step_of_mem_bytesAt hb hv]
      omega
    · simp [reads_of_mem_constantVec hb] at hv
    · -- a bit of the `i`-th message element
      simp only [bitsOf, List.mem_flatMap, List.mem_flatten, List.mem_map, List.mem_range] at hb
      obtain ⟨byte, ⟨_, ⟨i, hi, rfl⟩, hbyte⟩, hb⟩ := hb
      rw [step_of_mem_bytesAt (List.mem_flatMap.mpr ⟨byte, hbyte, hb⟩) hv]
      omega
  · intro b hb
    rcases List.mem_append.mp hb with hb | hb
    · exact reads_bytes_lt (by omega) b (List.mem_of_mem_take hb)
    · exact reads_bytes_lt (by omega) b (List.mem_of_mem_take hb)
  · intro b hb
    rcases List.mem_append.mp hb with hb | hb
    · exact reads_bytes_lt (by omega) b (List.mem_of_mem_drop hb)
    · rw [List.eq_of_mem_replicate hb]
      exact hnil

/-- The block reads only what came before each of its events. -/
theorem signatureBlock_scoped (key : IssuerPublicKey) (signature : Option IssuerSignature)
    {message : List FpVar} (h : ∀ x ∈ message, ∀ v ∈ x.reads, v.step < n) :
    Scoped n (signatureBlock key signature message n).shape := by
  unfold signatureBlock
  rw [shape_append, shape_append, Scoped, along_append, along_append, length_shape,
    length_shape, signatureMessage, List.length_map]
  refine ⟨signatureHead_scoped key signature, ?_, signatureTail_scoped _⟩
  unfold System.shape
  rw [List.map_map, along_map]
  intro i x hx
  refine reads_call_lt ?_ (by simp [Gadget.bools])
  intro y hy v hv
  obtain rfl := List.mem_singleton.mp hy
  have := h y (List.mem_of_getElem? hx) v hv
  omega

end Scope

/-! ## What the constraints say -/

section Meaning

variable [Gadgets] {w : Assignment Fr} {n : ℕ} {key : IssuerPublicKey}

omit [Gadgets] in
theorem value_messageVar {message : List Fr} {m : ℕ}
    (h : ∀ i x, message[i]? = some x → bitsAt w (m + i) 256 = Digits.toBits (canonical x)) :
    (bitsOf ((List.range message.length).map fun i => bytesAt (m + i) 32).flatten).map
      (Boolean.value w) = Digits.toBits (message.flatMap canonical) := by
  induction message generalizing m with
  | nil => rfl
  | cons x message ih =>
      have hrest := ih (m := m + 1) fun i y hy => by
        rw [show m + 1 + i = m + (i + 1) by omega]
        exact h (i + 1) y (by simpa using hy)
      have hshift : (fun i => bytesAt (m + (i + 1)) 32) = fun i => bytesAt (m + 1 + i) 32 := by
        funext i
        rw [show m + (i + 1) = m + 1 + i by omega]
      rw [List.length_cons, List.range_succ_eq_map, List.map_cons, List.map_map, List.flatten_cons,
        bitsOf_append, List.map_append, List.flatMap_cons, Digits.toBits_append,
        value_bitsOf_bytesAt, ← h 0 x rfl]
      congr 1
      rw [← hrest, ← hshift]
      rfl

omit [Gadgets] in
theorem length_messageBytes (message : Vector Fr 4) :
    (messageBytes message).length = message.toList.length * 32 := by
  simp [messageBytes, List.length_flatMap]

/-- The transcript variables hold the native transcript of the point and message. -/
theorem value_transcriptVar {P : EdwardsAffine} {message : Vector Fr 4}
    (hx : bitsAt w (n + 7) 256 = Digits.toBits (canonical (Curve.x P)))
    (hy : bitsAt w (n + 8) 256 = Digits.toBits (canonical (Curve.y P)))
    (hmessage : ∀ i x, message.toList[i]? = some x →
      bitsAt w (n + 9 + i) 256 = Digits.toBits (canonical x)) :
    (bitsOf (transcriptVar message.toList.length n)).map (Boolean.value w) =
      Digits.toBits (SchnorrTranscript.fromCommitment P message).bytes := by
  rw [SchnorrTranscript.fromCommitment, length_messageBytes]
  simp only [transcriptVar, bitsOf_append, List.map_append, Digits.toBits_append,
    value_bitsOf_constantVec, value_bitsOf_bytesAt, value_messageVar hmessage]
  rw [hx, hy, List.append_assoc _ (Digits.toBits (Digits.toBytes _ _))]
  rfl

/-- The scalars of a block, as integers. -/
def responseValue (w : Assignment Fr) (n : ℕ) : ℕ := Digits.ofBits (bitsAt w n 256)

def challengeValue (w : Assignment Fr) (n : ℕ) : ℕ := Digits.ofBits (bitsAt w (n + 1) 256)

/-- The head of a determined block holds the coordinates of the native point,
and its computed rows satisfy their constraints. -/
theorem signatureHead_spec {signature : Option IssuerSignature}
    (h : Determined w n (signatureHead key signature n).shape) :
    let P := recomputedCommitment key (responseValue w n) (challengeValue w n)
    bitsAt w (n + 7) 256 = Digits.toBits (canonical (Curve.x P)) ∧
      bitsAt w (n + 8) 256 = Digits.toBits (canonical (Curve.y P)) ∧
      (Satisfies w n (signatureHead key signature n).shape ↔
        ((∀ slot < 256, IsBit (w ⟨n, slot⟩)) ∧ ∀ slot < 256, IsBit (w ⟨n + 1, slot⟩)) ∧
        responseValue w n < jubJubModulus ∧ challengeValue w n < jubJubModulus) := by
  obtain ⟨-, -, -, -, hG, hK, hadd, hx, hy, -⟩ := h
  -- both products and their sum are points, so each call is in its domain
  obtain ⟨hGrow, hGok⟩ := determined_scalarMulLe (P := schnorrParameters.generator) hG rfl
  obtain ⟨hKrow, hKok⟩ := determined_scalarMulLe (P := key.point) hK rfl
  obtain ⟨haddrow, haddok⟩ := determined_add hadd hGrow hKrow
  rw [value_bitsOf_bytesAt, value_bitsOf_bytesAt] at haddrow
  obtain ⟨hpx, hpy⟩ := Prod.mk.inj haddrow
  obtain ⟨hxrow, hxok⟩ := determined_toBytesLe hx
  obtain ⟨hyrow, hyok⟩ := determined_toBytesLe hy
  have hcanonical (step m : ℕ) :
      Vocabulary.Enforced (Event.call (.enforceSmallerOrEqualThanLe (bitsOf (bytesAt step 32))
        (-1 : JubJubScalar).val)) m w ↔ Digits.ofBits (bitsAt w step 256) < jubJubModulus := by
    rw [enforced_smallerOrEqual, value_bitsOf_bytesAt, val_neg_one, ← Nat.lt_iff_le_pred (by decide)]
  refine ⟨?_, ?_, ?_⟩
  · exact hxrow.trans (congrArg (fun x => Digits.toBits (canonical x)) hpx)
  · exact hyrow.trans (congrArg (fun y => Digits.toBits (canonical y)) hpy)
  · constructor
    · rintro ⟨hrbits, hcbits, hr, hc, -⟩
      exact ⟨⟨hrbits, hcbits⟩, (hcanonical _ _).mp hr, (hcanonical _ _).mp hc⟩
    · rintro ⟨⟨hrbits, hcbits⟩, hr, hc⟩
      exact ⟨hrbits, hcbits, (hcanonical _ _).mpr hr, (hcanonical _ _).mpr hc, hGok, hKok, haddok,
        hxok, hyok, trivial⟩

/-- The message rows are the bytes of the message. -/
theorem signatureMessage_spec {message : List FpVar} {m : ℕ}
    (h : Determined w m (signatureMessage message).shape) :
    (∀ i x, (message.map (FpVar.value w))[i]? = some x →
      bitsAt w (m + i) 256 = Digits.toBits (canonical x)) ∧
    Satisfies w m (signatureMessage message).shape := by
  unfold signatureMessage System.shape at h ⊢
  rw [List.map_map, Function.comp_def] at h ⊢
  have hrows i (x : FpVar) (hx : message[i]? = some x) := determined_toBytesLe (along_map.mp h i x hx)
  constructor
  · intro i y hy
    rw [List.getElem?_map, Option.map_eq_some_iff] at hy
    obtain ⟨x, hx, rfl⟩ := hy
    exact (hrows i x hx).1
  · apply along_map.mpr
    intro i x hx
    exact (hrows i x hx).2

/-- The tail compares the challenge with the digest of the transcript. -/
theorem signatureTail_spec {messageLength : ℕ} {transcript : List UInt8}
    (h : Determined w (n + 9 + messageLength) (signatureTail messageLength n).shape)
    (htranscript : (bitsOf (transcriptVar messageLength n)).map (Boolean.value w) =
      Digits.toBits transcript) :
    Satisfies w (n + 9 + messageLength) (signatureTail messageLength n).shape ↔
      challengeValue w n = Digits.ofBytes (Hashes.blake2s256 transcript) % 2 ^ 251 := by
  obtain ⟨hhash, -⟩ := h
  obtain ⟨hdigest, hhashok⟩ := determined_evaluateBlake2s hhash htranscript
  have hlen (step : ℕ) : (bitsOf (bytesAt step 32)).length = 256 := by
    simp [bitsOf_bytesAt]
  have hlow (m : ℕ) : Vocabulary.Enforced (Event.call (.enforceEqual
        ((bitsOf (bytesAt (n + 1) 32)).take 251)
        ((bitsOf (bytesAt (n + 9 + messageLength) 32)).take 251))) m w ↔
      (bitsAt w (n + 1) 256).take 251 =
        (Digits.toBits (Hashes.blake2s256 transcript)).take 251 := by
    rw [enforced_enforceEqual (by simp [hlen]), List.map_take, List.map_take, value_bitsOf_bytesAt,
      value_bitsOf_bytesAt, ← hdigest]
  have hhigh (m : ℕ) : Vocabulary.Enforced (Event.call (.enforceEqual
        ((bitsOf (bytesAt (n + 1) 32)).drop 251) (List.replicate 5 (.Constant false)))) m w ↔
      (bitsAt w (n + 1) 256).drop 251 = List.replicate 5 false := by
    rw [enforced_enforceEqual (by simp [hlen]), List.map_drop, List.map_replicate,
      value_bitsOf_bytesAt]
    rfl
  have hchallenge := toBits_readBytes w (n + 1) 32
  unfold challengeValue
  rw [← hchallenge, Digits.ofBits_toBits,
    ← challenge_bits_iff (length_readBytes w (n + 1) 32) (Hashes.length_blake2s256 transcript),
    hchallenge]
  constructor
  · rintro ⟨-, hl, hh, -⟩
    exact ⟨(hlow _).mp hl, (hhigh _).mp hh⟩
  · rintro ⟨hl, hh⟩
    exact ⟨hhashok, (hlow _).mpr hl, (hhigh _).mpr hh, trivial⟩

/-- The allocated scalars are bits. -/
def ScalarBits (w : Assignment Fr) (n : ℕ) : Prop :=
  (∀ slot < 256, IsBit (w ⟨n, slot⟩)) ∧ ∀ slot < 256, IsBit (w ⟨n + 1, slot⟩)

/-- A property along a signature block, part by part. -/
theorem along_signatureBlock {P : ℕ → Event → Prop} {signature : Option IssuerSignature}
    {message : List FpVar} {values : Vector Fr 4}
    (hvalues : message.map (FpVar.value w) = values.toList) :
    Along P n (signatureBlock key signature message n).shape ↔
      Along P n (signatureHead key signature n).shape ∧
        Along P (n + 9) (signatureMessage message).shape ∧
          Along P (n + 9 + values.toList.length) (signatureTail values.toList.length n).shape := by
  have hlength : message.length = values.toList.length := by
    rw [← hvalues, List.length_map]
  have hmessageLength : (signatureMessage message).shape.length = values.toList.length := by
    rw [length_shape, signatureMessage, List.length_map, hlength]
  unfold signatureBlock
  rw [shape_append, shape_append, hlength, along_append, along_append,
    hmessageLength]
  rfl

/-- The bytes a determined block hashes are the native transcript of its scalars. -/
theorem signatureBlock_transcript {signature : Option IssuerSignature} {message : List FpVar}
    {values : Vector Fr 4} (hvalues : message.map (FpVar.value w) = values.toList)
    (h : Determined w n (signatureBlock key signature message n).shape) :
    (bitsOf (transcriptVar values.toList.length n)).map (Boolean.value w) =
      Digits.toBits (SchnorrTranscript.fromCommitment
        (recomputedCommitment key (responseValue w n) (challengeValue w n)) values).bytes := by
  obtain ⟨hhead, hmessage, -⟩ := (along_signatureBlock hvalues).mp h
  obtain ⟨hx, hy, -⟩ := signatureHead_spec hhead
  obtain ⟨hrows, -⟩ := signatureMessage_spec hmessage
  rw [hvalues] at hrows
  exact value_transcriptVar hx hy hrows

omit [Gadgets] in
theorem ofBytes_readBytes (step : ℕ) :
    Digits.ofBytes (readBytes w step 32) = Digits.ofBits (bitsAt w step 256) := by
  rw [← Digits.ofBits_toBits, toBits_readBytes]

/-- In a determined signature block, the constraints say that the allocated
bytes are bits, and scalars that the native check accepts. -/
theorem signatureBlock_satisfies_iff {signature : Option IssuerSignature} {message : List FpVar}
    {values : Vector Fr 4} (hvalues : message.map (FpVar.value w) = values.toList)
    (h : Determined w n (signatureBlock key signature message n).shape) :
    Satisfies w n (signatureBlock key signature message n).shape ↔
      ScalarBits w n ∧ SignedBy key (readBytes w n 32) (readBytes w (n + 1) 32) values := by
  obtain ⟨hhead, hmessage, htail⟩ := (along_signatureBlock hvalues).mp h
  obtain ⟨-, -, hheadok⟩ := signatureHead_spec hhead
  obtain ⟨-, hmessageok⟩ := signatureMessage_spec hmessage
  have htailok := signatureTail_spec htail (signatureBlock_transcript hvalues h)
  unfold Satisfies
  rw [along_signatureBlock hvalues, signedBy_iff (length_readBytes _ _ _)
    (length_readBytes _ _ _), ofBytes_readBytes, ofBytes_readBytes]
  constructor
  · rintro ⟨hh, -, ht⟩
    obtain ⟨hbits, hr, hc⟩ := hheadok.mp hh
    exact ⟨hbits, hr, hc, htailok.mp ht⟩
  · rintro ⟨hbits, hr, hc, hd⟩
    exact ⟨hheadok.mpr ⟨hbits, hr, hc⟩, hmessageok, htailok.mpr hd⟩

end Meaning

end Zcaprio
