import SealedEnvelope.Proofs.Message

/-!
What a text opens to.

Each outcome has a condition that speaks of writing only: of base64 texts as encodings, of
envelopes as sealed messages, of messages as encoded texts. Every text meets exactly one of them.
-/

namespace SealedEnvelope.Codec

variable {C : Type} [BlockCipher C]

/-- What a text opens to, told by what stands between the blank characters at its ends. -/
inductive TextOutcome (codec : Codec C) (text : String) : Except Error String → Prop where
  | noBase64 (unspelled : ∀ bytes, Text.trim text ≠ Base64.encode bytes) :
      TextOutcome codec text (.error .base64)
  | short {bytes : Bytes} (spelled : Text.trim text = Base64.encode bytes)
      (few : bytes.length < 28) :
      TextOutcome codec text (.error (.invalidEnvelope bytes.length))
  | unsealed {bytes : Bytes} (spelled : Text.trim text = Base64.encode bytes)
      (enough : 28 ≤ bytes.length)
      (apart : ∀ nonce plaintext, bytes ≠ codec.sealed nonce [] plaintext) :
      TextOutcome codec text (.error .authenticationFailure)
  | noText {nonce : Nonce} {plaintext : Bytes} {error : Utf8.Error}
      (spelled : Text.trim text = codec.sealedText nonce plaintext)
      (undecodable : Utf8.decode plaintext = .error error) :
      TextOutcome codec text (.error (.utf8 error))
  | opened {nonce : Nonce} {message : String}
      (spelled : Text.trim text = codec.sealedText nonce (Utf8.encode message)) :
      TextOutcome codec text (.ok message)

theorem textOutcome (codec : Codec C) (text : String) :
    TextOutcome codec text (codec.openedText text) := by
  by_cases unspelled : ∀ bytes, Text.trim text ≠ Base64.encode bytes
  · rw [openedText_of_no_base64 unspelled]
    exact .noBase64 unspelled
  obtain ⟨bytes, spelled⟩ : ∃ bytes, Text.trim text = Base64.encode bytes := by
    simpa only [ne_eq, Classical.not_forall, Classical.not_not] using unspelled
  by_cases few : bytes.length < 28
  · rw [openedText_of_base64 spelled, opened_of_short few]
    exact .short spelled few
  have enough : 28 ≤ bytes.length := Nat.le_of_not_lt few
  by_cases apart : ∀ nonce plaintext, bytes ≠ codec.sealed nonce [] plaintext
  · rw [openedText_of_base64 spelled, opened_of_unsealed enough apart]
    exact .unsealed spelled enough apart
  obtain ⟨nonce, plaintext, rfl⟩ : ∃ nonce plaintext, bytes = codec.sealed nonce [] plaintext := by
    simpa only [ne_eq, Classical.not_forall, Classical.not_not] using apart
  rw [openedText_of_sealedText spelled, messageOf]
  cases decodes : Utf8.decode plaintext with
  | error error => exact .noText spelled decodes
  | ok message =>
    obtain rfl := Utf8.decode_eq_ok_iff.mp decodes
    exact .opened spelled

/-- No text has two outcomes. -/
theorem openedText_eq_iff {codec : Codec C} {text : String} {result : Except Error String} :
    codec.openedText text = result ↔ TextOutcome codec text result := by
  constructor
  · rintro rfl
    exact codec.textOutcome text
  · intro outcome
    cases outcome with
    | noBase64 unspelled => exact openedText_of_no_base64 unspelled
    | short spelled few =>
      rw [openedText_of_base64 spelled, opened_of_short few]
      rfl
    | unsealed spelled enough apart =>
      rw [openedText_of_base64 spelled, opened_of_unsealed enough apart]
      rfl
    | noText spelled undecodable =>
      rw [openedText_of_sealedText spelled, messageOf, undecodable]
      rfl
    | opened spelled => rw [openedText_of_sealedText spelled, messageOf_encode]

section Conditions

variable {codec : Codec C} {text : String}

theorem openedText_eq_base64_iff :
    codec.openedText text = .error .base64 ↔ ∀ bytes, Text.trim text ≠ Base64.encode bytes := by
  rw [openedText_eq_iff]
  constructor
  · rintro ⟨unspelled⟩
    exact unspelled
  · exact .noBase64

theorem openedText_eq_invalidEnvelope_iff {length : Nat} :
    codec.openedText text = .error (.invalidEnvelope length) ↔
      length < 28 ∧ ∃ bytes : Bytes, bytes.length = length ∧
        Text.trim text = Base64.encode bytes := by
  rw [openedText_eq_iff]
  constructor
  · rintro ⟨⟩
    rename_i bytes spelled few
    exact ⟨few, bytes, rfl, spelled⟩
  · rintro ⟨few, bytes, rfl, spelled⟩
    exact .short spelled few

theorem openedText_eq_authenticationFailure_iff :
    codec.openedText text = .error .authenticationFailure ↔
      ∃ bytes : Bytes, 28 ≤ bytes.length ∧ Text.trim text = Base64.encode bytes ∧
        ∀ nonce plaintext, bytes ≠ codec.sealed nonce [] plaintext := by
  rw [openedText_eq_iff]
  constructor
  · rintro ⟨⟩
    rename_i bytes spelled enough apart
    exact ⟨bytes, enough, spelled, apart⟩
  · rintro ⟨bytes, enough, spelled, apart⟩
    exact .unsealed spelled enough apart

theorem openedText_eq_utf8_iff {error : Utf8.Error} :
    codec.openedText text = .error (.utf8 error) ↔
      ∃ nonce plaintext, Text.trim text = codec.sealedText nonce plaintext ∧
        Utf8.decode plaintext = .error error := by
  rw [openedText_eq_iff]
  constructor
  · rintro ⟨⟩
    rename_i nonce plaintext spelled undecodable
    exact ⟨nonce, plaintext, spelled, undecodable⟩
  · rintro ⟨nonce, plaintext, spelled, undecodable⟩
    exact .noText spelled undecodable

theorem openedText_eq_ok_iff {message : String} :
    codec.openedText text = .ok message ↔
      ∃ nonce, Text.trim text = codec.sealedText nonce (Utf8.encode message) := by
  rw [openedText_eq_iff]
  constructor
  · rintro ⟨⟩
    rename_i nonce spelled
    exact ⟨nonce, spelled⟩
  · rintro ⟨nonce, spelled⟩
    exact .opened spelled

theorem exists_openedText_eq_utf8_iff :
    (∃ error, codec.openedText text = .error (.utf8 error)) ↔
      ∃ nonce plaintext, Text.trim text = codec.sealedText nonce plaintext ∧
        ∀ message, plaintext ≠ Utf8.encode message := by
  simp only [openedText_eq_utf8_iff, ← Utf8.exists_error_iff]
  constructor
  · rintro ⟨error, nonce, plaintext, spelled, undecodable⟩
    exact ⟨nonce, plaintext, spelled, error, undecodable⟩
  · rintro ⟨nonce, plaintext, spelled, error, undecodable⟩
    exact ⟨error, nonce, plaintext, spelled, undecodable⟩

/-- The message and the nonce determine the text between the blank characters. -/
theorem trim_eq_sealedText_iff {nonce : Nonce} {message : String} :
    (codec.openedText text = .ok message ∧ ∃ envelope : Envelope,
      envelope.nonce = nonce ∧ Text.trim text = Base64.encode envelope.bytes) ↔
        Text.trim text = codec.sealedText nonce (Utf8.encode message) := by
  constructor
  · rintro ⟨opens, envelope, rfl, spelled⟩
    obtain ⟨nonce, sealed⟩ := openedText_eq_ok_iff.mp opens
    have same : envelope = (codec.sealEnvelope nonce [] (Utf8.encode message)).result :=
      Envelope.bytes_injective (Base64.encode_injective (spelled.symm.trans sealed))
    have sameNonce : envelope.nonce = nonce := by rw [same, result_sealEnvelope]
    rw [sameNonce]
    exact sealed
  · intro sealed
    have itsNonce : (codec.sealEnvelope nonce [] (Utf8.encode message)).result.nonce = nonce := by
      rw [result_sealEnvelope]
    exact ⟨openedText_eq_ok_iff.mpr ⟨nonce, sealed⟩, _, itsNonce, sealed⟩

end Conditions

/-- Opening tells texts apart by what was written. With `trimmed` for the text without blank
characters at its ends, it is no base64 if it encodes no bytes, no envelope if it encodes less
than 28 of them, not authentic if it encodes enough that no message is sealed to, no text if it is
a sealed plaintext that encodes none, and opens to a message if that was sealed. One of these holds
of every text. So opening undoes sealing, also with blank characters around, and a nonce and a
message have one accepted text between blank characters. -/
theorem openedText_classified (codec : Codec C) :
    (∀ text, let trimmed := Text.trim text
      (codec.openedText text = .error .base64 ↔ ∀ bytes, trimmed ≠ Base64.encode bytes) ∧
      (∀ length, codec.openedText text = .error (.invalidEnvelope length) ↔
        length < 28 ∧ ∃ bytes : Bytes, bytes.length = length ∧ trimmed = Base64.encode bytes) ∧
      (codec.openedText text = .error .authenticationFailure ↔
        ∃ bytes : Bytes, 28 ≤ bytes.length ∧ trimmed = Base64.encode bytes ∧
          ∀ nonce plaintext, bytes ≠ codec.sealed nonce [] plaintext) ∧
      ((∃ error, codec.openedText text = .error (.utf8 error)) ↔
        ∃ nonce plaintext, trimmed = codec.sealedText nonce plaintext ∧
          ∀ message, plaintext ≠ Utf8.encode message) ∧
      (∀ message, codec.openedText text = .ok message ↔
        ∃ nonce, trimmed = codec.sealedText nonce (Utf8.encode message)) ∧
      (codec.openedText text = .error .base64 ∨
        (∃ length, codec.openedText text = .error (.invalidEnvelope length)) ∨
        codec.openedText text = .error .authenticationFailure ∨
        (∃ error, codec.openedText text = .error (.utf8 error)) ∨
        ∃ message, codec.openedText text = .ok message)) ∧
    (∀ before after, Text.Blank before → Text.Blank after → ∀ nonce message,
      codec.openedText (before ++ codec.sealedText nonce (Utf8.encode message) ++ after) =
        .ok message) ∧
    ∀ nonce message, let spelling := codec.sealedText nonce (Utf8.encode message)
      Text.trim spelling = spelling ∧
      ∀ text, (codec.openedText text = .ok message ∧ ∃ envelope : Envelope,
        envelope.nonce = nonce ∧ Text.trim text = Base64.encode envelope.bytes) ↔
          Text.trim text = spelling := by
  refine ⟨fun text => ⟨openedText_eq_base64_iff, fun _ => openedText_eq_invalidEnvelope_iff,
    openedText_eq_authenticationFailure_iff, exists_openedText_eq_utf8_iff,
    fun _ => openedText_eq_ok_iff, ?_⟩, ?_, ?_⟩
  · have outcome := codec.textOutcome text
    generalize codec.openedText text = result at outcome
    cases outcome with
    | noBase64 => exact .inl rfl
    | short => exact .inr (.inl ⟨_, rfl⟩)
    | unsealed => exact .inr (.inr (.inl rfl))
    | noText => exact .inr (.inr (.inr (.inl ⟨_, rfl⟩)))
    | opened => exact .inr (.inr (.inr (.inr ⟨_, rfl⟩)))
  · intro before after blankBefore blankAfter nonce message
    rw [openedText_surrounded blankBefore blankAfter, openedText_sealedText]
  · intro nonce message
    exact ⟨codec.trim_sealedText nonce _, fun text => trim_eq_sealedText_iff⟩

/-- A message with characters of two and four bytes, sealed under the subkey zero, and its text
between blank characters of one, two and three bytes. -/
theorem openedText_classified_blanks :
    let codec : Codec (Block → Block) := { cipher := id, subkey := 0 }
    let sealed := codec.sealedText 7 (Utf8.encode "é😀")
    Text.Blank "\u2003\n" ∧ Text.Blank "\u00a0" ∧
      codec.openedText ("\u2003\n" ++ sealed ++ "\u00a0") = .ok "é😀" ∧
      Text.trim sealed = sealed := by
  intro codec sealed
  have blankBefore : Text.Blank "\u2003\n" := by decide
  have blankAfter : Text.Blank "\u00a0" := by decide
  obtain ⟨_, opens, spells⟩ := openedText_classified codec
  exact ⟨blankBefore, blankAfter, opens _ _ blankBefore blankAfter 7 "é😀", (spells 7 "é😀").1⟩

end SealedEnvelope.Codec
