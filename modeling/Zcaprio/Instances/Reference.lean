import Zcaprio.Metatheory.Backend

/-!
# A reference library

Small executable stand-ins for the external libraries, satisfying every law
asked of them: a strict date parser, the prime-order subgroup as multiples of
its generator, a polynomial sponge and a positional checksum in place of the
two hashes (about a quarter of the digests are no scalar), gadgets that are
satisfied exactly by the native value, and a proof system whose proof is the
verdict on the constraints. Runs on fixed inputs use it.
-/

namespace Zcaprio.Reference

open Trace Calendar

/-! ## Dates -/

def digitValue (c : Char) : Option ℕ :=
  if 48 ≤ c.toNat ∧ c.toNat ≤ 57 then some (c.toNat - 48) else none

/-- The strict reading of `YYYY-MM-DD`. -/
def parseDate (value : String) : Option NaiveDate :=
  match value.toList with
  | [y0, y1, y2, y3, '-', m0, m1, '-', d0, d1] => do
      let y0 ← digitValue y0
      let y1 ← digitValue y1
      let y2 ← digitValue y2
      let y3 ← digitValue y3
      let m0 ← digitValue m0
      let m1 ← digitValue m1
      let d0 ← digitValue d0
      let d1 ← digitValue d1
      NaiveDate.fromYmdOpt (y0 * 1000 + y1 * 100 + y2 * 10 + y3 : ℕ) (m0 * 10 + m1) (d0 * 10 + d1)
  | _ => none

theorem digitValue_digit (n : ℕ) : digitValue (NaiveDate.digit n) = some (n % 10) := by
  have h : ∀ k < 10, digitValue (Char.ofNat (48 + k)) = some k := by decide
  exact h (n % 10) (Nat.mod_lt _ (by decide))

theorem parseDate_format (d : NaiveDate) (h0 : 0 ≤ d.year) (h1 : d.year ≤ 9999) :
    parseDate (NaiveDate.format d) = some d := by
  have hm := d.month_bounds
  have hd := d.day_le
  have hyear : ((d.year.toNat / 1000 % 10 * 1000 + d.year.toNat / 100 % 10 * 100 +
      d.year.toNat / 10 % 10 * 10 + d.year.toNat % 10 : ℕ) : ℤ) = d.year := by omega
  have hmonth : d.month / 10 % 10 * 10 + d.month % 10 = d.month := by omega
  have hday : d.day / 10 % 10 * 10 + d.day % 10 = d.day := by omega
  have hymd : NaiveDate.fromYmdOpt d.year d.month d.day = some d := by
    apply NaiveDate.fromYmdOpt_self
    rw [NaiveDate.minYear, NaiveDate.maxYear]
    omega
  unfold NaiveDate.format NaiveDate.formatYear
  rw [if_pos ⟨h0, h1⟩, parseDate, String.toList_ofList]
  simp only [NaiveDate.fourDigits, NaiveDate.twoDigits, List.cons_append, List.nil_append,
    digitValue_digit, Option.bind_eq_bind, Option.bind_some]
  rw [hyear, hmonth, hday, hymd]

scoped instance chrono : Chrono where
  parseFromStr := parseDate
  parse_format := parseDate_format

/-! ## Hashes -/

/-- A sum of bytes weighted by their position, below `2 ^ 16`. -/
def checksum (bs : List UInt8) : ℕ := bs.foldl (fun acc b => (acc * 3 + b.toNat) % 65521) 1

scoped instance hashes : Hashes where
  poseidonSponge input := input.foldl (fun state x => (state + x) ^ 5 + 1) 0
  blake2s256 bs := Digits.toBytes 32 (checksum bs * 2 ^ 235)
  length_blake2s256 _ := Digits.length_toBytes _ _

/-! ## The curve -/

theorem jubJubModulus_lt_frModulus : jubJubModulus < frModulus := by decide

/-- The multiple of the generator a point is, as its abscissa. -/
def abscissa (P : JubJubScalar) : Fr := (P.val : Fr)

theorem abscissa_val (P : JubJubScalar) : (abscissa P).val = P.val :=
  ZMod.val_natCast_of_lt ((ZMod.val_lt P).trans jubJubModulus_lt_frModulus)

theorem abscissa_injective : Function.Injective abscissa := by
  intro P Q h
  apply ZMod.val_injective
  rw [← abscissa_val, h, abscissa_val]

theorem subgroup (P : JubJubScalar) : jubJubModulus • P = 0 := by
  rw [nsmul_eq_mul, ZMod.natCast_self, zero_mul]

scoped instance curve : Curve where
  Point := JubJubScalar
  group := inferInstance
  decEq := inferInstance
  x := abscissa
  y := fun _ => 1
  coordinates_injective := fun _ _ h _ => abscissa_injective h
  serialize := canonical
  deserialize := deserializeField jubJubModulus
  setup := fun seed => ⟨1, (seed ++ List.replicate 32 0).take 32⟩
  length_serialize := length_canonical
  deserialize_serialize := fun P rest _ => deserializeField_canonical jubJubModulus_lt P rest
  deserialize_subgroup := fun _ P _ _ => subgroup P
  generator_subgroup := fun _ => subgroup _
  length_salt := by simp

/-- The point with the given coordinates. -/
def pointOf (c : Fr × Fr) : Option EdwardsAffine :=
  if c.2 = 1 ∧ c.1.val < jubJubModulus then some (c.1.val : JubJubScalar) else none

theorem pointOf_eq_some_iff {c : Fr × Fr} {P : EdwardsAffine} :
    pointOf c = some P ↔ c = affine P := by
  unfold pointOf
  constructor
  · intro h
    split at h
    · rename_i hc
      obtain rfl := Option.some.inj h
      refine Prod.ext ?_ hc.1
      apply ZMod.val_injective
      exact ((abscissa_val _).trans (ZMod.val_natCast_of_lt hc.2)).symm
    · cases h
  · rintro rfl
    have hlt : (abscissa P).val < jubJubModulus := abscissa_val P ▸ ZMod.val_lt _
    have hpoint : ((abscissa P).val : JubJubScalar) = P := by
      rw [abscissa_val]
      exact ZMod.natCast_zmod_val _
    exact (if_pos ⟨rfl, hlt⟩).trans (congrArg some hpoint)

/-! ## Gadgets -/

/-- The bytes of a bit string. -/
def bytesOfBits (bits : List Bool) : Option (List UInt8) :=
  let bytes := Digits.toBytes (bits.length / 8) (Digits.ofBits bits)
  if bits = Digits.toBits bytes then some bytes else none

/-- The values a call returns, where its constraints can be satisfied. -/
def native : Gadget Fr Bool → Option (List Fr)
  | .poseidon input => some [poseidonHash input]
  | .scalarMulLe base bits => (pointOf base).map fun P =>
      [Curve.x (Digits.ofBits bits • P), Curve.y (Digits.ofBits bits • P)]
  | .add left right => do
      let P ← pointOf left
      let Q ← pointOf right
      return [Curve.x (P + Q), Curve.y (P + Q)]
  | .toBytesLe element => some ((Digits.toBits (canonical element)).map bit)
  | .evaluateBlake2s input => (bytesOfBits input).map fun bytes =>
      (Digits.toBits (Hashes.blake2s256 bytes)).map bit
  | .enforceSmallerOrEqualThanLe bits element => if Digits.ofBits bits ≤ element then some [] else none
  | .enforceEqual left right => if left = right then some [] else none
  | .isCmp left right ordering shouldAlsoCheckEquality =>
      if left.val ≤ halfModulus ∧ right.val ≤ halfModulus then
        some [bit (compare left.val right.val = ordering ∨
          shouldAlsoCheckEquality = true ∧ left = right)]
      else none
  | .isEq left right => some [bit (left = right)]
  | .karyOr bits => some [bit (bits.any id)]
  | .and left right => some [bit (left && right)]
  | .or left right => some [bit (left || right)]

theorem bytesOfBits_eq_some_iff {bits : List Bool} {bytes : List UInt8} :
    bytesOfBits bits = some bytes ↔ bits = Digits.toBits bytes := by
  unfold bytesOfBits
  dsimp only
  constructor
  · intro h
    split at h
    · rename_i hbits
      obtain rfl := Option.some.inj h
      exact hbits
    · cases h
  · rintro rfl
    have hlength : (Digits.toBits bytes).length / 8 = bytes.length := by
      rw [Digits.length_toBits, Nat.mul_div_cancel_left _ (by decide)]
    rw [hlength, Digits.ofBits_toBits, Digits.toBytes_ofBytes, if_pos rfl]

theorem native_eq_some_iff {g : Gadget Fr Bool} {out : List Fr} :
    native g = some out ↔ g.Native out := by
  cases g with
  | poseidon | toBytesLe | isEq | karyOr | and | or =>
      simp only [native, Gadget.Native, Option.some_inj]
      exact eq_comm
  | scalarMulLe base bits =>
      simp only [native, Gadget.Native, Option.map_eq_some_iff, pointOf_eq_some_iff]
      exact exists_congr fun P => and_congr_right fun _ => eq_comm
  | add left right =>
      simp only [native, Gadget.Native, Option.bind_eq_bind, Option.bind_eq_some_iff,
        pointOf_eq_some_iff, Option.pure_def, Option.some_inj]
      constructor
      · rintro ⟨P, hP, Q, hQ, rfl⟩
        exact ⟨P, Q, hP, hQ, rfl⟩
      · rintro ⟨P, Q, hP, hQ, rfl⟩
        exact ⟨P, hP, Q, hQ, rfl⟩
  | evaluateBlake2s input =>
      simp only [native, Gadget.Native, Option.map_eq_some_iff, bytesOfBits_eq_some_iff]
      exact exists_congr fun P => and_congr_right fun _ => eq_comm
  | enforceSmallerOrEqualThanLe bits element =>
      simp only [native, Gadget.Native]
      split <;> simp_all [eq_comm]
  | enforceEqual left right =>
      simp only [native, Gadget.Native]
      split <;> simp_all [eq_comm]
  | isCmp left right ordering shouldAlsoCheckEquality =>
      simp only [native, Gadget.Native]
      split <;> simp_all [eq_comm]

scoped instance gadgets : Gadgets where
  toCurve := curve
  toHashes := hashes
  constraints g out := native g = some out
  assign g := (native g).getD []
  constraints_iff g out _ := decide_eq_true_iff.trans native_eq_some_iff
  assign_eq g out _ h := by rw [native_eq_some_iff.mpr h]; rfl

/-! ## The proof system -/

scoped instance groth16 : Groth16 where
  ProvingKey := List Event
  VerifyingKey := Unit
  PreparedVerifyingKey := Unit
  GrothProof := Bool
  Randomness := Unit
  generate shape _ := .ok shape
  vk _ := ()
  processVk _ := .ok ()
  create cs provingKey _ :=
    .ok (decide (cs.shape = provingKey ∧ Satisfies (complete cs.input cs.shape) 0 cs.shape))
  verifyProof _ proof _ := .ok proof
  serializeCompressed proof := [if proof then 1 else 0]
  deserializeCompressed
    | 1 :: rest => some (true, rest)
    | 0 :: rest => some (false, rest)
    | _ => none
  deserialize_serialize := by
    intro proof rest
    cases proof <;> rfl
  serialize_deserialize := by
    intro bs proof rest h
    split at h
    · cases h
      rfl
    · cases h
      rfl
    · cases h
  complete := by
    intro cs provingKey _ _ _ hkey _ hsatisfies _
    obtain rfl := Except.ok.inj hkey
    exact ⟨true, by rw [decide_eq_true ⟨rfl, hsatisfies⟩], rfl⟩

/-- Key generation never fails here, so setup returns once the circuit is synthesized. -/
theorem setup_ok {proof : Proof} {policy : VerificationPolicy} {template : CircuitTemplate}
    {cs : ConstraintSystem} (h : CircuitTemplate.fromPlan proof.request.plan = .ok template)
    (hcs : ProofCircuit.synthesize { policy, template, plan := none } = .ok cs) :
    Groth16Backend.setup proof policy () =
      .ok ⟨⟨policy, template, cs.shape⟩, ⟨policy, ()⟩⟩ := by
  simp only [Groth16Backend.setup, h, generateRandomParametersWithReduction, hcs, bind,
    Except.bind, Exec.ofResult_ok]
  rfl

/-- In particular for proofs of supported claims over issued credentials. -/
theorem exists_setup {proof : Proof} {policy : VerificationPolicy}
    (hhonest : proof.request.plan.Honest) (hclaims : proof.request.plan.Compilable)
    (hcutoffs : proof.request.plan.CutoffsSupported policy) :
    ∃ backend, Groth16Backend.setup proof policy () = .ok backend := by
  obtain ⟨template, htemplate, -⟩ := CircuitTemplate.fromPlan_ok hhonest.recorded hclaims
  have hsupported := (CircuitTemplate.supportedAt_iff hhonest.recorded htemplate).mpr hcutoffs
  exact ⟨_, setup_ok htemplate (ProofCircuit.synthesize_eq hsupported template.fits_none)⟩

/-! ## An issued credential -/

def issuer : IssuerKeyPair := .generateWithRng 5

/-- Born on the first day of 2000, staff in Germany. -/
def attributes : CredentialAttributes where
  birthDay := ⟨⟨2000, 1, 1, by decide⟩, by decide⟩
  country := ⟨68, 69, by decide⟩
  role := .Staff
  ageSalt := ⟨7⟩
  walletSecret := ⟨11⟩

/-- The first nonce hashes to no scalar, the second one does. -/
def nonces : List JubJubScalar := [4, 3]

theorem issue_isSome : (issuer.credentials.issue attributes nonces).isSome = true := by
  set_option maxRecDepth 4000 in
  decide

def credential : SignedAttributeCredential :=
  (issuer.credentials.issue attributes nonces).get issue_isSome

theorem credential_issue : issuer.credentials.issue attributes nonces = some credential :=
  (Option.some_get issue_isSome).symm

theorem credential_issued : credential.Issued := ⟨issuer, attributes, nonces, credential_issue⟩

theorem credential_birthDay : credential.birthDay.date = attributes.birthDay.date := by
  rw [(SignedAttributeCredential.issue_stores credential_issue).1]

theorem issuer_not_identity : issuer.publicKey.isIdentity = false := by decide

theorem credential_verify : credential.credential.verify issuer.publicKey = .ok () :=
  SignedAttributeCredential.issue_verify issuer_not_identity credential_issue

end Zcaprio.Reference
