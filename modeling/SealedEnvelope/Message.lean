import SealedEnvelope.Body
import SealedEnvelope.Codec
import SealedEnvelope.Text.Base64
import SealedEnvelope.Text.Blank

/-!
Envelopes as text: in base64, and as the data of a body.
-/

namespace SealedEnvelope.Codec

variable {C : Type} [BlockCipher C]

/-- Seal a message into base64 text. -/
def sealText (codec : Codec C) (nonce : Nonce) (plaintext : Bytes) : Traced String := do
  let envelope ← codec.sealEnvelope nonce [] plaintext
  pure (Base64.encode envelope.bytes)

/-- The message of an envelope in base64 text, which must be a text itself. White space around
the base64 text does not matter. -/
def openText (codec : Codec C) (text : String) : Attempt String := do
  match Base64.decode (Text.trim text) with
  | none => throw .base64
  | some bytes =>
    let plaintext ← codec.openBytes [] bytes
    match Utf8.decode plaintext with
    | .ok message => pure message
    | .error error => throw (.utf8 error)

/-- Seal a message into the text of a body. -/
def sealBody (codec : Codec C) (nonce : Nonce) (plaintext : Bytes) : Traced String := do
  let data ← codec.sealText nonce plaintext
  pure (Body.write ⟨some data⟩)

/-- The message of the envelope that a body carries, if it carries one. White space around the
body does not matter. -/
def openBody (codec : Codec C) (text : String) : Attempt (Option String) := do
  match Body.parse (Text.trim text) with
  | .error error => throw (.json error)
  | .ok ⟨none⟩ => pure none
  | .ok ⟨some data⟩ =>
    tryCatch (some <$> codec.openText data) fun error => do
      Traced.report (.undecryptableBody error)
      throw error

end SealedEnvelope.Codec
