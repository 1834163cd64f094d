import SealedEnvelope.Error

/-!
The wire format of an envelope: nonce, ciphertext and tag, one behind the other.
-/

namespace SealedEnvelope

/-- A sealed message. -/
structure Envelope where
  nonce : Nonce
  ciphertext : Bytes
  tag : Tag
deriving DecidableEq

/-- Room for a number of bytes, and those already put there. -/
structure Buffer where
  capacity : Nat
  contents : Bytes

/-- Put bytes into the buffer. What fits is put there even if not all does. -/
def Buffer.put (bytes : Bytes) : ExceptT Error (StateM Buffer) Unit := do
  let buffer ← get
  let room := buffer.capacity - buffer.contents.length
  set { buffer with contents := buffer.contents ++ bytes.take room }
  if room < bytes.length then throw (.transfer "failed to write whole buffer")

namespace Envelope

/-- Bytes of an envelope beside its ciphertext. -/
def overhead : Nat := Nonce.size + Block.size

/-- The envelope that bytes hold, unless they are too few for a nonce and a tag. -/
def parse (bytes : Bytes) : Except Error Envelope :=
  if bytes.length < overhead then .error (.invalidEnvelope bytes.length)
  else
    let behindNonce := bytes.drop Nonce.size
    let length := bytes.length - overhead
    .ok {
      nonce := Nonce.ofBytes bytes
      ciphertext := behindNonce.take length
      tag := Block.ofBytes (behindNonce.drop length) }

/-- The bytes of an envelope. -/
def bytes (envelope : Envelope) : Bytes :=
  envelope.nonce.bytes ++ (envelope.ciphertext ++ envelope.tag.bytes)

/-- The number of bytes of an envelope. -/
def size (envelope : Envelope) : Nat :=
  Nonce.size + envelope.ciphertext.length + Block.size

/-- Put the parts of an envelope into a buffer, one after the other. -/
def write (envelope : Envelope) : ExceptT Error (StateM Buffer) Unit := do
  Buffer.put envelope.nonce.bytes
  Buffer.put envelope.ciphertext
  Buffer.put envelope.tag.bytes

@[simp] theorem length_bytes (envelope : Envelope) : envelope.bytes.length = envelope.size := by
  simp [bytes, size, Nat.add_assoc]

end Envelope

end SealedEnvelope
