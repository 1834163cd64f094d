import SealedEnvelope.Message
import SealedEnvelope.Proofs.Codec.RoundTrip
import SealedEnvelope.Proofs.Text.Base64
import SealedEnvelope.Proofs.Text.Blank
import SealedEnvelope.Proofs.Text.Utf8

/-!
Sealing into text and opening from text as functions, and what each of the four layers of a text
contributes: blank characters around it, base64, the envelope, and the encoding of the message.
-/

namespace SealedEnvelope.Codec

variable {C : Type} [BlockCipher C]

/-- The text that sealing yields. -/
def sealedText (codec : Codec C) (nonce : Nonce) (plaintext : Bytes) : String :=
  (codec.sealText nonce plaintext).result

/-- The message that opening a text yields, or why it yields none. -/
def openedText (codec : Codec C) (text : String) : Except Error String :=
  (codec.openText text).run.result

theorem sealedText_eq (codec : Codec C) (nonce : Nonce) (plaintext : Bytes) :
    codec.sealedText nonce plaintext = Base64.encode (codec.sealed nonce [] plaintext) := rfl

/-- The message that a plaintext is, which must be a text. -/
def messageOf (plaintext : Bytes) : Except Error String :=
  (Utf8.decode plaintext).mapError .utf8

theorem messageOf_encode (message : String) : messageOf (Utf8.encode message) = .ok message := by
  rw [messageOf, Utf8.decode_eq_ok_iff.mpr rfl]
  rfl

theorem openedText_of_no_base64 {codec : Codec C} {text : String}
    (unspelled : ∀ bytes, Text.trim text ≠ Base64.encode bytes) :
    codec.openedText text = .error .base64 := by
  rw [openedText, openText, Base64.decode_eq_none_iff.mpr unspelled]
  rfl

theorem openedText_of_base64 {codec : Codec C} {text : String} {bytes : Bytes}
    (spelled : Text.trim text = Base64.encode bytes) :
    codec.openedText text = codec.opened [] bytes >>= messageOf := by
  rw [openedText, openText, Base64.decode_eq_some_iff.mpr spelled, opened]
  simp only [ExceptT.run_bind, Traced.result_bind]
  cases (codec.openBytes [] bytes).run.result with
  | error => rfl
  | ok plaintext =>
    simp only [messageOf, bind, Except.bind]
    cases Utf8.decode plaintext with
    | error => rfl
    | ok => rfl

theorem openedText_of_sealedText {codec : Codec C} {text : String} {nonce : Nonce}
    {plaintext : Bytes} (spelled : Text.trim text = codec.sealedText nonce plaintext) :
    codec.openedText text = messageOf plaintext := by
  rw [sealedText_eq] at spelled
  rw [openedText_of_base64 spelled, opened_sealed]
  rfl

theorem opened_of_unsealed {codec : Codec C} {associated bytes : Bytes}
    (enough : 28 ≤ bytes.length)
    (apart : ∀ nonce plaintext, bytes ≠ codec.sealed nonce associated plaintext) :
    codec.opened associated bytes = .error .authenticationFailure := by
  obtain ⟨envelope, rfl⟩ := Envelope.exists_of_length enough
  refine opened_bytes_eq_error_iff.mpr fun right => ?_
  have opens := opened_bytes codec associated envelope
  rw [if_pos right] at opens
  exact apart _ _ (opened_eq_ok_iff.mp opens).2

theorem openedText_surrounded {before after : String} (blankBefore : Text.Blank before)
    (blankAfter : Text.Blank after) (codec : Codec C) (text : String) :
    codec.openedText (before ++ text ++ after) = codec.openedText text := by
  simp only [openedText, openText, Text.trim_surrounded blankBefore blankAfter]

theorem trim_sealedText (codec : Codec C) (nonce : Nonce) (plaintext : Bytes) :
    Text.trim (codec.sealedText nonce plaintext) = codec.sealedText nonce plaintext :=
  Base64.trim_encode _

theorem openedText_sealedText (codec : Codec C) (nonce : Nonce) (message : String) :
    codec.openedText (codec.sealedText nonce (Utf8.encode message)) = .ok message := by
  rw [openedText_of_sealedText (codec.trim_sealedText nonce _), messageOf_encode]

end SealedEnvelope.Codec
