import SealedEnvelope.Digest
import SealedEnvelope.Envelope
import SealedEnvelope.Keystream

/-!
Sealing and opening envelopes, for any cipher.

The message is masked by the payload keystream, and the digest of the ciphertext by the tag
keystream of the same nonce. An envelope is opened only after its tag is found right.
-/

namespace SealedEnvelope.Procedure

/-- The tag of a ciphertext: its digest under the tag keystream. -/
def tag (subkey : Block) (nonce : Nonce) (associated ciphertext : Bytes) : Procedure Tag := do
  let digest := digest subkey associated ciphertext
  let (masked, _) ← (Keystream.State.start nonce .tag).apply digest.bytes
  pure (Block.ofBytes masked)

/-- Seal a message under a nonce, together with associated data that is not part of the
envelope. -/
def sealEnvelope (subkey : Block) (nonce : Nonce) (associated plaintext : Bytes) :
    Procedure Envelope := do
  let (ciphertext, stream) ← (Keystream.State.start nonce .payload).apply plaintext
  let tag ← tag subkey nonce associated ciphertext
  report (.sealedEnvelope plaintext.length stream.blocks)
  pure { nonce, ciphertext, tag }

/-- The message of an envelope, if its tag is right. No block of the payload keystream is made
before that is known. -/
def openEnvelope (subkey : Block) (associated : Bytes) (envelope : Envelope) :
    ExceptT Error Procedure Bytes := do
  let expected ← tag subkey envelope.nonce associated envelope.ciphertext
  if expected ≠ envelope.tag then
    report (.failedAuthentication envelope.ciphertext.length)
    throw .authenticationFailure
  let (plaintext, stream) ←
    (Keystream.State.start envelope.nonce .payload).apply envelope.ciphertext
  report (.openedEnvelope plaintext.length stream.blocks)
  pure plaintext

/-- The message of the envelope that bytes hold. -/
def openBytes (subkey : Block) (associated bytes : Bytes) : ExceptT Error Procedure Bytes := do
  match Envelope.parse bytes with
  | .error error =>
    report (.rejectedEnvelope error)
    throw error
  | .ok envelope => openEnvelope subkey associated envelope

end SealedEnvelope.Procedure
