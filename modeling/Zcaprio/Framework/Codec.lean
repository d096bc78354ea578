import Mathlib.Logic.Function.Basic

/-!
# Formats with one encoding for each value

An encoder and a decoder of one format, where the decoder accepts exactly the
image of the encoder and answers everything else with one error. Such formats
compose: a text form over a byte form, a wrapper around a value, a reader that
has to use up its input.
-/

namespace Zcaprio

variable {α β γ ι ε ε' : Type}

/-- The values of `dom` have exactly one encoding each, and nothing else decodes. -/
structure Exact (dom : α → Prop) (e : ε) (encode : α → β) (decode : β → Except ε α) : Prop where
  decode_encode : ∀ a, dom a → decode (encode a) = .ok a
  encode_decode : ∀ b a, decode b = .ok a → dom a ∧ encode a = b
  reject : ∀ b, (∀ a, dom a → encode a ≠ b) → decode b = .error e

namespace Exact

variable {dom : α → Prop} {e : ε} {encode : α → β} {decode : β → Except ε α}

/-- It is enough that encodings are read back and that what is not rejected is one. -/
theorem of_cases (hdecode : ∀ a, dom a → decode (encode a) = .ok a)
    (hcases : ∀ b, decode b = .error e ∨ ∃ a, dom a ∧ encode a = b) :
    Exact dom e encode decode where
  decode_encode := hdecode
  encode_decode b a h := by
    rcases hcases b with herror | ⟨a', ha', rfl⟩
    · rw [herror] at h
      cases h
    · -- the encoded value is the decoded one
      rw [hdecode a' ha'] at h
      obtain rfl := Except.ok.inj h
      exact ⟨ha', rfl⟩
  reject b h := by
    rcases hcases b with herror | ⟨a, ha, hb⟩
    · exact herror
    · exact absurd hb (h a ha)

theorem ok_iff (h : Exact dom e encode decode) {b : β} {a : α} :
    decode b = .ok a ↔ dom a ∧ encode a = b := by
  constructor
  · exact h.encode_decode b a
  · rintro ⟨ha, rfl⟩
    exact h.decode_encode a ha

/-- Every input is an encoding or rejected. -/
theorem cases (h : Exact dom e encode decode) (b : β) :
    decode b = .error e ∨ ∃ a, dom a ∧ encode a = b := by
  by_cases hb : ∃ a, dom a ∧ encode a = b
  · exact Or.inr hb
  · refine Or.inl (h.reject b ?_)
    intro a ha heq
    exact hb ⟨a, ha, heq⟩

/-- A format over another one. -/
theorem comp {encode' : β → γ} {decode' : γ → Except ε β}
    (outer : Exact (fun _ => True) e encode' decode') (inner : Exact dom e encode decode) :
    Exact dom e (fun a => encode' (encode a)) fun w => decode' w >>= decode := by
  apply of_cases
  · intro a ha
    rw [outer.decode_encode _ trivial]
    exact inner.decode_encode a ha
  · intro w
    rcases outer.cases w with herror | ⟨b, -, rfl⟩
    · rw [herror]
      exact Or.inl rfl
    · rw [outer.decode_encode b trivial]
      rcases inner.cases b with herror | ⟨a, ha, rfl⟩
      · exact Or.inl herror
      · exact Or.inr ⟨a, ha, rfl⟩

/-- The error, under another name. -/
theorem mapError (f : ε → ε') (h : Exact dom e encode decode) :
    Exact dom (f e) encode fun b => (decode b).mapError f := by
  apply of_cases
  · intro a ha
    rw [h.decode_encode a ha]
    rfl
  · intro b
    rcases h.cases b with herror | hb
    · rw [herror]
      exact Or.inl rfl
    · exact Or.inr hb

/-- The value, in a wrapper. -/
theorem wrap {mk : α → γ} {get : γ → α} (hmk : ∀ c, mk (get c) = c) (hget : ∀ a, get (mk a) = a)
    (h : Exact dom e encode decode) :
    Exact (fun c => dom (get c)) e (fun c => encode (get c)) fun b => (decode b).map mk := by
  apply of_cases
  · intro c hc
    rw [h.decode_encode _ hc]
    exact congrArg Except.ok (hmk c)
  · intro b
    rcases h.cases b with herror | ⟨a, ha, rfl⟩
    · rw [herror]
      exact Or.inl rfl
    · refine Or.inr ⟨mk a, ?_, ?_⟩
      · rwa [hget]
      · rw [hget]

end Exact

/-! ## Normal forms -/

/-- A decoder that accepts more than the encodings: an input stands for the value
whose encoding is its normal form. -/
structure Normalizes (dom : α → Prop) (norm : β → β) (encode : α → β) (decode : β → Except ε α) :
    Prop where
  norm_encode : ∀ a, dom a → norm (encode a) = encode a
  ok_iff : ∀ b a, decode b = .ok a ↔ dom a ∧ encode a = norm b

/-! ## Readers -/

/-- A decoder that reads one value off the front of its input. -/
structure Reads (encode : α → List ι) (read : List ι → Option (α × List ι)) : Prop where
  read_encode : ∀ a rest, read (encode a ++ rest) = some (a, rest)
  encode_read : ∀ w a rest, read w = some (a, rest) → encode a ++ rest = w

/-- Reads one value and rejects leftover input. -/
def readAll (e : ε) (read : List ι → Option (α × List ι)) (w : List ι) : Except ε α :=
  match read w with
  | some (a, []) => .ok a
  | _ => .error e

/-- A reader that has to use up its input is exact. -/
theorem Reads.exact {encode : α → List ι} {read : List ι → Option (α × List ι)}
    (h : Reads encode read) (e : ε) : Exact (fun _ => True) e encode (readAll e read) := by
  apply Exact.of_cases
  · intro a _
    have hread := h.read_encode a []
    rw [List.append_nil] at hread
    rw [readAll, hread]
  · intro w
    rcases hread : read w with _ | ⟨a, _ | ⟨x, rest⟩⟩
    · exact Or.inl (by rw [readAll, hread])
    · refine Or.inr ⟨a, trivial, ?_⟩
      rw [← h.encode_read w a [] hread, List.append_nil]
    · exact Or.inl (by rw [readAll, hread])

end Zcaprio
