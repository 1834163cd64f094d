import SealedEnvelope.Json.Fault
import SealedEnvelope.Text.Utf8
import SealedEnvelope.Block

/-!
Everything that can go wrong with an envelope, and the wording of it.
-/

namespace SealedEnvelope

/-- Why an operation fails. -/
inductive Error where
  /-- A text is not the JSON it should be. -/
  | json (error : Json.Error)
  /-- A text is not canonical base64. -/
  | base64
  /-- A text is not hexadecimal. -/
  | hex
  /-- Bytes could not be moved. -/
  | transfer (reason : String)
  /-- Bytes are not a text. -/
  | utf8 (error : Utf8.Error)
  /-- No cipher takes a key of this many bytes. -/
  | invalidKey (length : Nat)
  /-- A nonce has this many bytes. -/
  | invalidNonce (length : Nat)
  /-- An envelope has this few bytes. -/
  | invalidEnvelope (length : Nat)
  /-- The tag is not that of the key, the nonce and the data. -/
  | authenticationFailure
  /-- Anything else, in its own words. -/
  | other (text : String)

/-- The wording of an error. -/
def Error.message : Error → String
  | json error => s!"json: {error.message}"
  | base64 => "expect base64 encoded data"
  | hex => "expect hex encoded data"
  | transfer reason => s!"io error: {reason}"
  | utf8 error => s!"utf8 conversion: {error.message}"
  | invalidKey length => s!"expect 16, 24 or 32 byte AES key but got {length} bytes"
  | invalidNonce length => s!"expect {Nonce.size} byte nonce but got {length} bytes"
  | invalidEnvelope length =>
    s!"envelope of {length} bytes is shorter than nonce and tag ({Nonce.size + Block.size} bytes)"
  | authenticationFailure => "authentication tag mismatch (tampered data or wrong key)"
  | other text => text

end SealedEnvelope
