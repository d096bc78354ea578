import Zcaprio.Properties.AgePolicy
import Zcaprio.Properties.BirthDays
import Zcaprio.Properties.Scopes
import Zcaprio.Properties.WireValues

/-!
# Wire objects

Credentials, policies and demo identities as records of text. A fingerprint is
trimmed when it is read, so an object has a normal form: the one text that its
value is written as. Whatever decodes is the value written as its normal form.
-/

namespace Zcaprio

/-- White space around the fingerprint does not count. -/
def AgeCredentialText.normal (text : AgeCredentialText) : AgeCredentialText :=
  { text with issuerKeyFingerprint := trim text.issuerKeyFingerprint }

def AgePolicyText.normal (text : AgePolicyText) : AgePolicyText :=
  { text with issuerKeyFingerprint := trim text.issuerKeyFingerprint }

/-! ## Fields -/

theorem IssuerKeyFingerprint.deserialize_eq_ok_iff {text : String}
    {fingerprint : IssuerKeyFingerprint} :
    deserialize text = .ok fingerprint ↔ fingerprint.value = trim text := by
  rw [deserialize, except_mapError_eq_ok_iff, new]
  by_cases hempty : trim text = ""
  · rw [dif_pos hempty, hempty]
    constructor
    · intro h
      cases h
    · intro h
      exact absurd h fingerprint.valid.1
  · rw [dif_neg hempty]
    constructor
    · intro h
      rw [← Except.ok.inj h]
    · intro h
      rcases fingerprint with ⟨value, valid⟩
      obtain rfl : value = trim text := h
      rfl

theorem VerifierScope.deserialize_eq_ok_iff {text : String} {scope : VerifierScope} :
    deserialize text = .ok scope ↔ scope.value = text := by
  rw [deserialize, except_mapError_eq_ok_iff]
  constructor
  · exact value_of_new
  · rintro rfl
    exact scope.new_value

/-- The four types of field elements are read alike. -/
theorem element_eq_ok_iff {T : Type} {mk : Fr → T} {get : T → Fr} (hmk : ∀ c, mk (get c) = c)
    (hget : ∀ x, get (mk x) = x) {text : String} {c : T} :
    (deserializeElement text).map mk = .ok c ↔ serializeElement (get c) = text := by
  rw [(exact_element.wrap hmk hget).ok_iff, true_and]

theorem AgeCommitment.deserialize_eq_ok_iff {text : String} {c : AgeCommitment} :
    deserialize text = .ok c ↔ c.serialize = text := element_eq_ok_iff (fun _ => rfl) fun _ => rfl

theorem OwnerCommitment.deserialize_eq_ok_iff {text : String} {c : OwnerCommitment} :
    deserialize text = .ok c ↔ c.serialize = text := element_eq_ok_iff (fun _ => rfl) fun _ => rfl

theorem AttributeCommitment.deserialize_eq_ok_iff {text : String} {c : AttributeCommitment} :
    deserialize text = .ok c ↔ c.serialize = text := element_eq_ok_iff (fun _ => rfl) fun _ => rfl

theorem IssuerSignature.deserialize_eq_ok_iff {text : String} {signature : IssuerSignature} :
    deserialize text = .ok signature ↔ signature.serialize = text := by
  rw [deserialize, except_mapError_eq_ok_iff, exact_decoded.ok_iff, true_and]

/-! ## Credentials -/

theorem AgeCredential.normalizes_deserialize :
    Normalizes (fun _ => True) AgeCredentialText.normal serialize deserialize where
  norm_encode credential _ := by
    unfold AgeCredentialText.normal serialize
    rw [credential.issuerKeyFingerprint.valid.2]
  ok_iff text credential := by
    simp only [deserialize, except_bind_eq_ok_iff, IssuerKeyFingerprint.deserialize_eq_ok_iff,
      AgeCommitment.deserialize_eq_ok_iff, OwnerCommitment.deserialize_eq_ok_iff,
      AttributeCommitment.deserialize_eq_ok_iff, IssuerSignature.deserialize_eq_ok_iff]
    constructor
    · rintro ⟨fingerprint, hfingerprint, age, hage, owner, howner, attributes, hattributes,
        signature, hsignature, hcredential⟩
      obtain rfl := Except.ok.inj hcredential
      refine ⟨trivial, ?_⟩
      unfold AgeCredentialText.normal serialize
      rw [hfingerprint, hage, howner, hattributes, hsignature]
    · rintro ⟨-, htext⟩
      refine ⟨credential.issuerKeyFingerprint, ?_, credential.ageCommitment, ?_,
        credential.ownerCommitment, ?_, credential.attributeCommitment, ?_, credential.signature,
        ?_, ?_⟩
      · exact congrArg AgeCredentialText.issuerKeyFingerprint htext
      · exact congrArg AgeCredentialText.ageCommitment htext
      · exact congrArg AgeCredentialText.ownerCommitment htext
      · exact congrArg AgeCredentialText.attributeCommitment htext
      · exact congrArg AgeCredentialText.signature htext
      · have hversion : credential.schemaVersion = text.schemaVersion :=
          congrArg AgeCredentialText.schemaVersion htext
        rw [← hversion]
        rfl

/-! ## Policies and identities -/

section Policies

variable [Chrono]

theorem BirthDay.deserialize_eq_ok_iff {text : String} {b : BirthDay} :
    deserialize text = .ok b ↔ b.toIsoString = text := by
  rw [deserialize, except_mapError_eq_ok_iff, parseIso_eq_ok_iff]

theorem AgePolicyWire.deserialize_eq_ok_iff {text : AgePolicyText} {wire : AgePolicyWire} :
    deserialize text = .ok wire ↔ wire.issuerKeyFingerprint.value = trim text.issuerKeyFingerprint ∧
      wire.asOfDay.toIsoString = text.asOfDay ∧ wire.cutoffDay.toIsoString = text.cutoffDay ∧
        wire.verifierScope.value = text.verifierScope := by
  simp only [deserialize, except_bind_eq_ok_iff, IssuerKeyFingerprint.deserialize_eq_ok_iff,
    BirthDay.deserialize_eq_ok_iff, VerifierScope.deserialize_eq_ok_iff]
  constructor
  · rintro ⟨fingerprint, hfingerprint, asOfDay, hasOf, cutoffDay, hcutoff, scope, hscope, hwire⟩
    obtain rfl := Except.ok.inj hwire
    exact ⟨hfingerprint, hasOf, hcutoff, hscope⟩
  · rintro ⟨hfingerprint, hasOf, hcutoff, hscope⟩
    exact ⟨_, hfingerprint, _, hasOf, _, hcutoff, _, hscope, rfl⟩

/-- A policy is read where its four texts are, and its cutoff is the derived one. -/
theorem AgePolicy.normalizes_deserialize :
    Normalizes Derived AgePolicyText.normal serialize deserialize where
  norm_encode policy _ := by
    unfold AgePolicyText.normal serialize
    rw [policy.issuerKeyFingerprint.valid.2]
  ok_iff text policy := by
    simp only [deserialize, except_bind_eq_ok_iff, AgePolicyWire.deserialize_eq_ok_iff,
      ofWire_ok_iff]
    constructor
    · rintro ⟨wire, ⟨hfingerprint, hasOf, hcutoff, hscope⟩, hpolicy, hday⟩
      obtain ⟨hasOf', hscope', hfingerprint', -⟩ := fromAsOf_ok hpolicy
      refine ⟨derived_of_fromAsOf hpolicy, ?_⟩
      unfold AgePolicyText.normal serialize
      rw [hfingerprint', hasOf', hday, hscope', hfingerprint, hasOf, hcutoff, hscope]
    · rintro ⟨hderived, htext⟩
      refine ⟨⟨policy.issuerKeyFingerprint, policy.asOfDay, policy.cutoffDay,
        policy.verifierScope⟩, ⟨?_, ?_, ?_, ?_⟩, hderived, rfl⟩
      · exact congrArg AgePolicyText.issuerKeyFingerprint htext
      · exact congrArg AgePolicyText.asOfDay htext
      · exact congrArg AgePolicyText.cutoffDay htext
      · exact congrArg AgePolicyText.verifierScope htext

/-- Demo identities have one text. -/
theorem RawDemoIdentity.normalizes_deserialize :
    Normalizes (fun _ => True) id serialize deserialize where
  norm_encode _ _ := rfl
  ok_iff text identity := by
    simp only [deserialize, except_bind_eq_ok_iff, BirthDay.deserialize_eq_ok_iff]
    constructor
    · rintro ⟨birthDate, hbirthDate, hidentity⟩
      obtain rfl := Except.ok.inj hidentity
      rw [serialize, hbirthDate]
      exact ⟨trivial, rfl⟩
    · rintro ⟨-, rfl⟩
      exact ⟨identity.birthDate, rfl, rfl⟩

/-- What each decoder accepts: exactly the texts whose normal form is written for
the value it returns, and for policies only those with the derived cutoff. -/
theorem wire_objects_exact :
    Normalizes (fun _ => True) AgeCredentialText.normal
        AgeCredential.serialize AgeCredential.deserialize ∧
      Normalizes AgePolicy.Derived AgePolicyText.normal
        AgePolicy.serialize AgePolicy.deserialize ∧
      Normalizes (fun _ => True) id RawDemoIdentity.serialize RawDemoIdentity.deserialize :=
  ⟨AgeCredential.normalizes_deserialize, AgePolicy.normalizes_deserialize,
    RawDemoIdentity.normalizes_deserialize⟩

end Policies

end Zcaprio
