import SealedEnvelope.Aes.Key
import SealedEnvelope.Sealing

/-!
Keys and codecs: sealing and opening with a cipher and a digest subkey.
-/

namespace SealedEnvelope

/-- The key that both ends of the protocol share. -/
def protocolKey : Bytes :=
  [0x4C, 0x48, 0x77, 0x55, 0x47, 0x6E, 0x6B, 0x74, 0x43, 0x6C, 0x4E, 0x76, 0x39, 0x55, 0x6F, 0x63,
    0x31, 0x47, 0x71, 0x7A, 0x63, 0x63, 0x62, 0x68, 0x72, 0x64, 0x61, 0x4A, 0x33, 0x41, 0x06, 0x0A]

/-- The digest subkey of the protocol: the zero block under `protocolKey`. -/
def protocolSubkey : Block := 0xE7B28776D1EF3FE0E068E41DD5C957FF#128

/-- The AES key made of the given bytes. -/
def loadKey (bytes : Bytes) : Except Error Aes.Key :=
  match Aes.Key.ofBytes? bytes with
  | some key => .ok key
  | none => .error (.invalidKey bytes.length)

/-- The first `count` keystream bytes of a counter block under an AES key. -/
def generateKeystream (key : Bytes) (counter : CounterBlock) (count : Nat) :
    Except Error Bytes := do
  let cipher ← loadKey key
  pure ((Keystream.ofCounter cipher counter).fill count).1

/-- The data under the keystream of a counter block and an AES key. -/
def applyKeystream (key : Bytes) (counter : CounterBlock) (data : Bytes) :
    Except Error Bytes := do
  let cipher ← loadKey key
  pure ((Keystream.ofCounter cipher counter).apply data).1

/-- The digest subkey that a cipher determines: the encryption of the zero block. -/
def deriveSubkey {C : Type} [BlockCipher C] (cipher : C) : Traced Block :=
  (Procedure.encrypt 0).run (BlockCipher.encrypt cipher)

/-- A cipher and a digest subkey. -/
structure Codec (C : Type) where
  cipher : C
  subkey : Block := protocolSubkey

namespace Codec

/-- The codec of an AES key, with the subkey of the protocol. -/
def ofKey (key : Bytes) : Except Error (Codec Aes.Key) :=
  (fun cipher => { cipher }) <$> loadKey key

/-- The codec of an AES key, with the subkey that the key determines. -/
def ofKeyDerived (key : Bytes) : Except Error (Codec Aes.Key) :=
  (fun cipher => { cipher, subkey := (deriveSubkey cipher).result }) <$> loadKey key

variable {C : Type} [BlockCipher C]

/-- The fresh keystream of a nonce for a purpose. -/
def keystream (codec : Codec C) (nonce : Nonce) (purpose : Purpose) : Keystream C :=
  Keystream.ofCounter codec.cipher (CounterBlock.start nonce purpose)

/-- Carry out a procedure with the cipher. -/
def perform {α : Type} (codec : Codec C) (procedure : Procedure α) : Traced α :=
  procedure.run (BlockCipher.encrypt codec.cipher)

/-- The tag of a ciphertext. -/
def tag (codec : Codec C) (nonce : Nonce) (associated ciphertext : Bytes) : Traced Tag :=
  codec.perform (Procedure.tag codec.subkey nonce associated ciphertext)

/-- Seal a message under a nonce, together with associated data. -/
def sealEnvelope (codec : Codec C) (nonce : Nonce) (associated plaintext : Bytes) :
    Traced Envelope :=
  codec.perform (Procedure.sealEnvelope codec.subkey nonce associated plaintext)

/-- The message of an envelope, if its tag is right. -/
def openEnvelope (codec : Codec C) (associated : Bytes) (envelope : Envelope) : Attempt Bytes :=
  ExceptT.mk (codec.perform (Procedure.openEnvelope codec.subkey associated envelope).run)

/-- The message of the envelope that bytes hold. -/
def openBytes (codec : Codec C) (associated bytes : Bytes) : Attempt Bytes :=
  ExceptT.mk (codec.perform (Procedure.openBytes codec.subkey associated bytes).run)

end Codec

end SealedEnvelope
