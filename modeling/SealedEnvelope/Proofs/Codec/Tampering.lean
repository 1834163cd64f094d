import SealedEnvelope.Proofs.Codec
import SealedEnvelope.Proofs.Digest.Horner

/-!
Envelopes that were changed after sealing.

A change inside one block of the ciphertext or of the associated data is noticed with
certainty, whatever the cipher, as long as the subkey is not zero; a change of the tag is
noticed always.
-/

namespace SealedEnvelope

namespace Envelope

variable {one other : Envelope} {first last : Nat}

private theorem sameNonce (apart : DifferWithin first last one.bytes other.bytes)
    (behindNonce : Nonce.size ≤ first) :
    one.nonce = other.nonce ∧ one.ciphertext.length = other.ciphertext.length ∧
      DifferWithin (first - Nonce.size) (last - Nonce.size)
        (one.ciphertext ++ one.tag.bytes) (other.ciphertext ++ other.tag.bytes) := by
  have parts := apart.behind (by simp) (by simpa using behindNonce)
  rw [Nonce.length_bytes] at parts
  refine ⟨Nonce.bytes_injective parts.1, ?_, parts.2⟩
  simpa using parts.2.sameLength

/-- Envelopes that differ in front of the tag only have the same tag. -/
theorem differ_in_ciphertext (apart : DifferWithin first last one.bytes other.bytes)
    (behindNonce : Nonce.size ≤ first) (beforeTag : last ≤ Nonce.size + one.ciphertext.length) :
    one.nonce = other.nonce ∧ one.tag = other.tag ∧
      DifferWithin (first - Nonce.size) (last - Nonce.size) one.ciphertext other.ciphertext := by
  obtain ⟨nonce, sameLength, rest⟩ := sameNonce apart behindNonce
  obtain ⟨tag, ciphertext⟩ := rest.ahead sameLength (by omega)
  exact ⟨nonce, Block.bytes_injective tag, ciphertext⟩

/-- Envelopes that differ in the tag only have different tags. -/
theorem differ_in_tag (apart : DifferWithin first last one.bytes other.bytes)
    (behindCiphertext : Nonce.size + one.ciphertext.length ≤ first) :
    one.nonce = other.nonce ∧ one.ciphertext = other.ciphertext ∧ one.tag ≠ other.tag := by
  obtain ⟨nonce, sameLength, rest⟩ := sameNonce apart (by omega)
  obtain ⟨ciphertext, tag⟩ := rest.behind sameLength (by omega)
  exact ⟨nonce, ciphertext, fun same => tag.different (by rw [same])⟩

end Envelope

namespace Codec

variable {C : Type} [BlockCipher C] {codec : Codec C} {nonce : Nonce}
  {associated plaintext forged : Bytes} {first last place : Nat}

private theorem exists_forged
    (apart : DifferWithin first last (codec.sealed nonce associated plaintext) forged) :
    ∃ envelope : Envelope, envelope.bytes = forged := by
  apply Envelope.exists_of_length
  rw [← apart.sameLength]
  exact Envelope.overhead_le_length_bytes _

/-- A change inside one block of the ciphertext is noticed just when the subkey is not zero. -/
theorem rejects_ciphertext_iff
    (apart : DifferWithin (Nonce.size + Block.size * place)
      (min (Nonce.size + Block.size * (place + 1)) (Nonce.size + plaintext.length))
      (codec.sealed nonce associated plaintext) forged) :
    codec.opened associated forged = .error .authenticationFailure ↔ codec.subkey ≠ 0 := by
  obtain ⟨envelope, rfl⟩ := exists_forged apart
  obtain ⟨sameNonce, sameTag, within⟩ := Envelope.differ_in_ciphertext apart (by omega)
    (by rw [result_sealEnvelope, length_masked]; omega)
  rw [result_sealEnvelope] at sameNonce sameTag within
  have block := within.widen (Block.size * place) (Block.size * (place + 1)) (by omega) (by omega)
  rw [opened_bytes_eq_error_iff, ← sameNonce, ← sameTag, ne_comm, ne_eq, dueTag_eq_iff rfl,
    digest_eq_iff_of_data associated block]

/-- A change inside one block of the associated data is noticed just when the subkey is not
zero. -/
theorem rejects_associated_iff {claimed : Bytes}
    (apart : DifferWithin (Block.size * place) (Block.size * (place + 1)) associated claimed) :
    codec.opened claimed (codec.sealed nonce associated plaintext) =
      .error .authenticationFailure ↔ codec.subkey ≠ 0 := by
  rw [sealed, opened_bytes_eq_error_iff, result_sealEnvelope, ne_comm, ne_eq, dueTag_eq_iff rfl,
    digest_eq_iff_of_associated _ apart]

/-- A change of the tag is noticed under every subkey. -/
theorem rejects_tag
    (apart : DifferWithin first last (codec.sealed nonce associated plaintext) forged)
    (behindCiphertext : Nonce.size + plaintext.length ≤ first) :
    codec.opened associated forged = .error .authenticationFailure := by
  obtain ⟨envelope, rfl⟩ := exists_forged apart
  obtain ⟨sameNonce, sameCiphertext, otherTag⟩ := Envelope.differ_in_tag apart
    (by rwa [result_sealEnvelope, length_masked])
  rw [result_sealEnvelope] at sameNonce sameCiphertext otherTag
  rw [opened_bytes_eq_error_iff, ← sameNonce, ← sameCiphertext]
  exact otherTag

/-- Flipping any bits of one byte behind the nonce is noticed. -/
theorem rejects_flip {mask : UInt8} (nonzero : codec.subkey ≠ 0) (masks : mask ≠ 0)
    (behindNonce : Nonce.size ≤ place)
    (inside : place < (codec.sealed nonce associated plaintext).length) :
    codec.opened associated ((codec.sealed nonce associated plaintext).modify place (· ^^^ mask)) =
      .error .authenticationFailure := by
  have apart := flip_differs _ _ masks inside
  by_cases inTag : Nonce.size + plaintext.length ≤ place
  · exact rejects_tag apart inTag
  · have block := apart.widen
      (Nonce.size + Block.size * ((place - Nonce.size) / Block.size))
      (min (Nonce.size + Block.size * ((place - Nonce.size) / Block.size + 1))
        (Nonce.size + plaintext.length))
      (by simp only [Block.size]; omega) (by simp only [Block.size]; omega)
    exact (rejects_ciphertext_iff block).mpr nonzero

theorem rejects_associated_flip {mask : UInt8} (nonzero : codec.subkey ≠ 0) (masks : mask ≠ 0)
    (inside : place < associated.length) :
    codec.opened (associated.modify place (· ^^^ mask)) (codec.sealed nonce associated plaintext) =
      .error .authenticationFailure := by
  have block := (flip_differs _ _ masks inside).widen
    (Block.size * (place / Block.size)) (Block.size * (place / Block.size + 1))
    (by simp only [Block.size]; omega) (by simp only [Block.size]; omega)
  exact (rejects_associated_iff block).mpr nonzero

/-- What a changed envelope or changed associated data of the same length comes to. A change
inside one block of sixteen bytes, of the ciphertext or of the associated data, is rejected if
and only if the subkey is not zero; a change of the tag is rejected in any case. So under the
subkey of the protocol, and under every other one but zero, no bit behind the nonce can be
flipped unnoticed. -/
theorem tampering_rejected (codec : Codec C) (nonce : Nonce) (associated plaintext : Bytes) :
    (∀ place forged,
      DifferWithin (12 + 16 * place) (min (12 + 16 * (place + 1)) (12 + plaintext.length))
        (codec.sealed nonce associated plaintext) forged →
      (codec.opened associated forged = .error .authenticationFailure ↔ codec.subkey ≠ 0)) ∧
    (∀ place claimed, DifferWithin (16 * place) (16 * (place + 1)) associated claimed →
      (codec.opened claimed (codec.sealed nonce associated plaintext) =
        .error .authenticationFailure ↔ codec.subkey ≠ 0)) ∧
    (∀ forged,
      DifferWithin (12 + plaintext.length) (28 + plaintext.length)
        (codec.sealed nonce associated plaintext) forged →
      codec.opened associated forged = .error .authenticationFailure) ∧
    (codec.subkey ≠ 0 → ∀ place (mask : UInt8), mask ≠ 0 →
      (12 ≤ place → place < (codec.sealed nonce associated plaintext).length →
        codec.opened associated
          ((codec.sealed nonce associated plaintext).modify place (· ^^^ mask)) =
            .error .authenticationFailure) ∧
      (place < associated.length →
        codec.opened (associated.modify place (· ^^^ mask))
          (codec.sealed nonce associated plaintext) = .error .authenticationFailure)) ∧
    protocolSubkey ≠ 0 := by
  refine ⟨fun place forged apart => rejects_ciphertext_iff apart,
    fun place claimed apart => rejects_associated_iff apart,
    fun forged apart => rejects_tag apart (Nat.le_refl _), ?_, by decide⟩
  intro nonzero place mask masks
  exact ⟨fun behindNonce inside => rejects_flip nonzero masks behindNonce inside,
    fun inside => rejects_associated_flip nonzero masks inside⟩

/-- The three kinds of change, on a message of two bytes under a subkey that is not zero. -/
theorem tampering_rejected_two_bytes :
    let codec : Codec (Block → Block) := { cipher := id, subkey := Field.one }
    let envelope := codec.sealed 7 [1] [2, 3]
    (DifferWithin 12 14 envelope (envelope.modify 13 (· ^^^ 1)) ∧
      codec.opened [1] (envelope.modify 13 (· ^^^ 1)) = .error .authenticationFailure) ∧
    (DifferWithin 0 16 ([1] : Bytes) [129] ∧
      codec.opened [129] envelope = .error .authenticationFailure) ∧
    (DifferWithin 14 30 envelope (envelope.modify 29 (· ^^^ 128)) ∧
      codec.opened [1] (envelope.modify 29 (· ^^^ 128)) = .error .authenticationFailure) := by
  intro codec envelope
  have nonzero : codec.subkey ≠ 0 := by decide
  have checks := tampering_rejected codec 7 [1] [2, 3]
  have inside (place : Nat) (bound : place < 30) : place < envelope.length := by
    rwa [length_sealed]
  have ciphertext : DifferWithin 12 14 envelope (envelope.modify 13 (· ^^^ 1)) :=
    (flip_differs envelope _ (by decide) (inside 13 (by decide))).widen 12 14 (by decide) (by decide)
  have associated : DifferWithin 0 16 ([1] : Bytes) [129] :=
    (flip_differs [1] 0 (by decide : (128 : UInt8) ≠ 0) (by decide)).widen 0 16
      (by decide) (by decide)
  have tag : DifferWithin 14 30 envelope (envelope.modify 29 (· ^^^ 128)) :=
    (flip_differs envelope _ (by decide) (inside 29 (by decide))).widen 14 30 (by decide) (by decide)
  exact ⟨⟨ciphertext, (checks.1 0 _ ciphertext).mpr nonzero⟩,
    ⟨associated, (checks.2.1 0 _ associated).mpr nonzero⟩, ⟨tag, checks.2.2.1 _ tag⟩⟩

end Codec

end SealedEnvelope
