import SealedEnvelope.Proofs.Aes.Rounds
import SealedEnvelope.Proofs.Codec.Freshness
import SealedEnvelope.Proofs.Codec.RoundTrip
import SealedEnvelope.Proofs.Difference

/-!
Envelopes whose nonce was changed after sealing.

The digest does not depend on the nonce, and the block that masks it is the encryption of one that
tells the nonce. So under a cipher that tells blocks apart a ciphertext has a tag of its own for
every nonce, whatever the subkey.
-/

namespace SealedEnvelope

/-- Envelopes that differ in front of the ciphertext only. -/
theorem Envelope.differ_in_nonce {one other : Envelope} {first last : Nat}
    (apart : DifferWithin first last one.bytes other.bytes) (beforeCiphertext : last ≤ Nonce.size) :
    one.nonce ≠ other.nonce ∧ one.ciphertext = other.ciphertext ∧ one.tag = other.tag := by
  obtain ⟨rest, nonce⟩ := apart.ahead (by simp) (by simpa using beforeCiphertext)
  have sameLength : one.ciphertext.length = other.ciphertext.length := by
    simpa using congrArg List.length rest
  obtain ⟨ciphertext, tag⟩ := List.append_inj rest sameLength
  exact ⟨fun same => nonce.different (by rw [same]), ciphertext, Block.bytes_injective tag⟩

namespace Codec

variable {C : Type} [BlockCipher C] {codec : Codec C} {nonce other : Nonce}
  {associated ciphertext data forged : Bytes}

/-- Under a cipher that tells blocks apart, a ciphertext has another tag for another nonce. -/
theorem dueTag_injective (injective : Function.Injective (BlockCipher.encrypt codec.cipher))
    (same : codec.dueTag nonce associated ciphertext = codec.dueTag other associated ciphertext) :
    nonce = other := by
  have sameBytes := congrArg Block.bytes same
  rw [bytes_dueTag_eq_xor, bytes_dueTag_eq_xor] at sameBytes
  have sameMask := Bytes.xor_left_cancel (by simp) (by simp) sameBytes
  have sameInput := injective (Block.bytes_injective sameMask)
  exact (counterInput_eq_iff.mp sameInput).1

/-- An accepted envelope is rejected under another nonce. -/
theorem rejects_nonce (injective : Function.Injective (BlockCipher.encrypt codec.cipher))
    (accepted : (codec.opened associated data).isOk) (apart : DifferWithin 0 12 data forged) :
    codec.opened associated forged = .error .authenticationFailure := by
  have enough : Envelope.overhead ≤ data.length := by
    by_cases short : data.length < Envelope.overhead
    · rw [opened_of_short short] at accepted
      cases accepted
    · omega
  obtain ⟨one, rfl⟩ := Envelope.exists_of_length enough
  obtain ⟨another, rfl⟩ := Envelope.exists_of_length (apart.sameLength ▸ enough)
  obtain ⟨otherNonce, sameCiphertext, sameTag⟩ :=
    Envelope.differ_in_nonce apart (Nat.le_refl Nonce.size)
  rw [isOk_opened_bytes_iff] at accepted
  rw [opened_bytes_eq_error_iff, ← sameCiphertext, ← sameTag, ← accepted]
  intro sameDue
  exact otherNonce (dueTag_injective injective sameDue).symm

/-- A changed nonce is noticed under AES. Whatever the key, of any of the three lengths, and
whatever the subkey, that of the protocol, the derived one, zero or another: bytes that differ from
an accepted envelope within the first twelve only are rejected. The same holds for every cipher
that tells blocks apart. -/
theorem changed_nonce_rejected :
    (∀ key : Bytes, key.length = 16 ∨ key.length = 24 ∨ key.length = 32 →
      ∃ cipher, loadKey key = .ok cipher ∧
        ofKey key = .ok { cipher, subkey := protocolSubkey } ∧
        ofKeyDerived key = .ok { cipher, subkey := cipher.encrypt 0 } ∧
        ∀ (subkey : Block) (associated data forged : Bytes),
          ((Codec.mk cipher subkey).opened associated data).isOk → DifferWithin 0 12 data forged →
            (Codec.mk cipher subkey).opened associated forged = .error .authenticationFailure) ∧
    (∀ {C : Type} [BlockCipher C] (codec : Codec C),
      Function.Injective (BlockCipher.encrypt codec.cipher) →
      ∀ associated data forged : Bytes,
        (codec.opened associated data).isOk → DifferWithin 0 12 data forged →
          codec.opened associated forged = .error .authenticationFailure) := by
  refine ⟨?_, ?_⟩
  · intro key length
    obtain ⟨cipher, loaded⟩ := exists_loadKey length
    refine ⟨cipher, loaded, ?_, ?_, ?_⟩
    · rw [ofKey, loaded]
      rfl
    · rw [ofKeyDerived, loaded]
      rfl
    · intro subkey associated data forged accepted apart
      exact rejects_nonce cipher.encrypt_injective accepted apart
  · intro C _ codec injective associated data forged accepted apart
    exact rejects_nonce injective accepted apart

/-- A message of two bytes under the subkey zero, once under an AES key and once under the cipher
that changes nothing, and its envelope with a bit of the nonce flipped. -/
theorem changed_nonce_rejected_flip :
    let key : Bytes := List.replicate 24 5
    let identity : Codec (Block → Block) := { cipher := id, subkey := 0 }
    let flipped (envelope : Bytes) := envelope.modify 11 (· ^^^ 1)
    (key.length = 16 ∨ key.length = 24 ∨ key.length = 32) ∧
    (∃ codec : Codec Aes.Key, loadKey key = .ok codec.cipher ∧ codec.subkey = 0 ∧
      (codec.opened [1] (codec.sealed 7 [1] [2, 3])).isOk ∧
      codec.opened [1] (flipped (codec.sealed 7 [1] [2, 3])) = .error .authenticationFailure) ∧
    (identity.opened [1] (identity.sealed 7 [1] [2, 3])).isOk ∧
    identity.opened [1] (flipped (identity.sealed 7 [1] [2, 3])) =
      .error .authenticationFailure := by
  intro key identity flipped
  have length : key.length = 16 ∨ key.length = 24 ∨ key.length = 32 := .inr (.inl rfl)
  have accepts {C : Type} [BlockCipher C] (codec : Codec C) :
      (codec.opened [1] (codec.sealed 7 [1] [2, 3])).isOk := by
    rw [opened_sealed]
    rfl
  have apart {C : Type} [BlockCipher C] (codec : Codec C) :
      DifferWithin 0 12 (codec.sealed 7 [1] [2, 3]) (flipped (codec.sealed 7 [1] [2, 3])) := by
    have inside : 11 < (codec.sealed 7 [1] [2, 3]).length := by
      rw [length_sealed]
      decide
    exact (flip_differs _ 11 (by decide) inside).widen 0 12 (by decide) (by decide)
  obtain ⟨underAes, underAny⟩ := changed_nonce_rejected
  obtain ⟨cipher, loaded, _, _, rejects⟩ := underAes key length
  refine ⟨length, ⟨{ cipher, subkey := 0 }, loaded, rfl, accepts _, ?_⟩, accepts _, ?_⟩
  · exact rejects 0 [1] _ _ (accepts _) (apart _)
  · exact underAny identity Function.injective_id [1] _ _ (accepts _) (apart _)

end Codec

end SealedEnvelope
