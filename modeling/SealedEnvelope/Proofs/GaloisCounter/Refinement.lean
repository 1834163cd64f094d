import SealedEnvelope.Proofs.Codec.RoundTrip
import SealedEnvelope.Proofs.GaloisCounter.Agreement

/-!
Sealing is authenticated encryption and opening is authenticated decryption, for texts whose
lengths in bits fit in 32 bits. Beyond that only the length fields of the tag differ.
-/

namespace SealedEnvelope

namespace Codec

open GaloisCounter

variable {C : Type} [BlockCipher C]

theorem toBlock_start_payload (nonce : Nonce) :
    (CounterBlock.start nonce .payload).toBlock = increment (firstCounter nonce) := by
  have first : (CounterBlock.start nonce .tag).toBlock = firstCounter nonce := rfl
  rw [← first, increment_toBlock]
  rfl

theorem masked_payload (codec : Codec C) (nonce : Nonce) (text : Bytes) :
    codec.masked nonce .payload text =
      counterMode (BlockCipher.encrypt codec.cipher) (increment (firstCounter nonce)) text := by
  rw [← toBlock_start_payload, counterMode_eq_apply]
  rfl

/-- The tag is the one of the mode, at any length, but for the length fields. -/
theorem dueTag_eq_tagWith (codec : Codec C) (nonce : Nonce) (associated ciphertext : Bytes) :
    codec.dueTag nonce associated ciphertext =
      tagWith keptLength (BlockCipher.encrypt codec.cipher) codec.subkey nonce associated
        ciphertext := by
  have first : firstCounter nonce = (CounterBlock.start nonce .tag).toBlock := rfl
  rw [tagWith, hash_hashed, first, counterMode_eq_apply, dueTag_eq]
  rfl

/-- Short texts have the same tag with either form of the length fields. -/
theorem dueTag_eq_tagWith_bitLength (codec : Codec C) (nonce : Nonce)
    {associated ciphertext : Bytes} (shortAssociated : associated.length < 2 ^ 29)
    (shortCiphertext : ciphertext.length < 2 ^ 29) :
    codec.dueTag nonce associated ciphertext =
      tagWith bitLength (BlockCipher.encrypt codec.cipher) codec.subkey nonce associated
        ciphertext := by
  rw [dueTag_eq_tagWith, tagWith, tagWith, hashed, hashed, keptLength_eq_bitLength shortAssociated,
    keptLength_eq_bitLength shortCiphertext]

theorem opened_bytes_eq_ok_iff_decrypt {codec : Codec C} {associated plaintext : Bytes}
    {envelope : Envelope} (shortAssociated : associated.length < 2 ^ 29)
    (shortCiphertext : envelope.ciphertext.length < 2 ^ 29) :
    codec.opened associated envelope.bytes = .ok plaintext ↔
      decrypt (BlockCipher.encrypt codec.cipher) codec.subkey envelope.nonce associated
        envelope.ciphertext envelope.tag = some plaintext := by
  have supported : 8 * envelope.ciphertext.length ≤ 2 ^ 39 - 256 ∧
      8 * associated.length ≤ 2 ^ 64 - 1 := by omega
  rw [opened_bytes, decrypt, if_pos supported,
    dueTag_eq_tagWith_bitLength codec envelope.nonce shortAssociated shortCiphertext,
    masked_payload]
  split
  · rw [Except.ok.injEq, Option.some.injEq]
  · constructor
    · intro opens
      cases opens
    · intro decrypts
      cases decrypts

/-- A codec does what the mode does with a cipher and a hash subkey, as long as the lengths of
the texts in bits fit in 32 bits. -/
structure Refines (codec : Codec C) (cipher : Block → Block) (subkey : Block) : Prop where
  sealing (nonce : Nonce) (associated plaintext : Bytes)
    (shortAssociated : associated.length < 2 ^ 29) (shortPlaintext : plaintext.length < 2 ^ 29) :
    codec.sealed nonce associated plaintext =
      let (ciphertext, tag) := encrypt cipher subkey nonce associated plaintext
      nonce.bytes ++ (ciphertext ++ tag.bytes)
  opening (associated data plaintext : Bytes) (shortAssociated : associated.length < 2 ^ 29)
    (shortData : data.length < 28 + 2 ^ 29) :
    codec.opened associated data = .ok plaintext ↔
      ∃ nonce ciphertext tag, nonce.bytes ++ (ciphertext ++ Block.bytes tag) = data ∧
        decrypt cipher subkey nonce associated ciphertext tag = some plaintext

theorem refines (codec : Codec C) :
    codec.Refines (BlockCipher.encrypt codec.cipher) codec.subkey where
  sealing nonce associated plaintext shortAssociated shortPlaintext := by
    have shortCiphertext : (codec.masked nonce .payload plaintext).length < 2 ^ 29 := by
      rwa [length_masked]
    have tag := dueTag_eq_tagWith_bitLength codec nonce shortAssociated shortCiphertext
    rw [masked_payload] at tag
    rw [sealed, result_sealEnvelope, Envelope.bytes, masked_payload, tag]
    rfl
  opening associated data plaintext shortAssociated shortData := by
    have shortCiphertext {envelope : Envelope} (holds : envelope.bytes = data) :
        envelope.ciphertext.length < 2 ^ 29 := by
      have size := envelope.length_bytes
      rw [holds, Envelope.size, Nonce.size, Block.size] at size
      omega
    constructor
    · intro opens
      obtain ⟨envelope, holds⟩ := Envelope.exists_of_length (opened_eq_ok_iff.mp opens).1
      refine ⟨envelope.nonce, envelope.ciphertext, envelope.tag, holds, ?_⟩
      rw [← holds] at opens
      exact (opened_bytes_eq_ok_iff_decrypt shortAssociated (shortCiphertext holds)).mp opens
    · rintro ⟨nonce, ciphertext, tag, holds, decrypts⟩
      have holds : (Envelope.mk nonce ciphertext tag).bytes = data := holds
      rw [← holds, opened_bytes_eq_ok_iff_decrypt shortAssociated (shortCiphertext holds)]
      exact decrypts

/-- The codec computes Galois/counter mode with its own cipher and subkey, and the one whose key
determines the subkey computes it with AES and the zero block under AES, for each of the three
key sizes. At any length the ciphertext is that of the mode, and so is the tag but for the
length fields, which are kept modulo 2³². -/
theorem refines_galoisCounter :
    (∀ {C : Type} [BlockCipher C] (codec : Codec C),
      codec.Refines (BlockCipher.encrypt codec.cipher) codec.subkey) ∧
    (∀ key : Bytes, key.length = 16 ∨ key.length = 24 ∨ key.length = 32 →
      ∃ codec : Codec Aes.Key, ofKeyDerived key = .ok codec ∧
        Aes.Key.ofBytes? key = some codec.cipher ∧
        codec.Refines codec.cipher.encrypt (codec.cipher.encrypt 0)) ∧
    (∀ {C : Type} [BlockCipher C] (codec : Codec C) (nonce : Nonce) (associated plaintext : Bytes),
      let ciphertext :=
        (encrypt (BlockCipher.encrypt codec.cipher) codec.subkey nonce associated plaintext).1
      let tag := tagWith keptLength (BlockCipher.encrypt codec.cipher) codec.subkey nonce associated
        ciphertext
      codec.sealed nonce associated plaintext = nonce.bytes ++ (ciphertext ++ tag.bytes)) := by
  refine ⟨fun codec => codec.refines, fun key keyLength => ?_,
    fun codec nonce associated plaintext => ?_⟩
  · obtain ⟨cipher, loads⟩ := Aes.Key.exists_of_length keyLength
    refine ⟨⟨cipher, cipher.encrypt 0⟩, ?_, loads, refines _⟩
    rw [ofKeyDerived, loadKey, loads]
    rfl
  · rw [sealed, result_sealEnvelope, dueTag_eq_tagWith, masked_payload]
    rfl

/-- A key of 24 bytes, and texts that both end in a partial block. -/
theorem refines_galoisCounter_partial_blocks :
    let key : Bytes := List.replicate 24 7
    let associated : Bytes := List.replicate 17 1
    let plaintext : Bytes := List.replicate 33 2
    (key.length = 16 ∨ key.length = 24 ∨ key.length = 32) ∧
      associated.length < 2 ^ 29 ∧ plaintext.length < 2 ^ 29 ∧
      ∃ codec : Codec Aes.Key, ofKeyDerived key = .ok codec ∧
        codec.sealed 5 associated plaintext =
          let (ciphertext, tag) := encrypt codec.cipher.encrypt (codec.cipher.encrypt 0) 5 associated
            plaintext
          Nonce.bytes 5 ++ (ciphertext ++ tag.bytes) := by
  intro key associated plaintext
  have keyLength : key.length = 16 ∨ key.length = 24 ∨ key.length = 32 := by decide
  have shortAssociated : associated.length < 2 ^ 29 := by decide
  have shortPlaintext : plaintext.length < 2 ^ 29 := by decide
  obtain ⟨codec, loads, _, agrees⟩ := refines_galoisCounter.2.1 key keyLength
  exact ⟨keyLength, shortAssociated, shortPlaintext, codec, loads,
    agrees.sealing 5 associated plaintext shortAssociated shortPlaintext⟩

end Codec

end SealedEnvelope
