import SealedEnvelope.Proofs.Codec

/-!
Opening accepts exactly what sealing yields.
-/

namespace SealedEnvelope.Codec

variable {C : Type} [BlockCipher C]

/-- An envelope opens to a message just when it is the one that sealing the message makes. -/
theorem opened_bytes_eq_ok_iff {codec : Codec C} {associated plaintext : Bytes}
    {envelope : Envelope} :
    codec.opened associated envelope.bytes = .ok plaintext ↔
      envelope = (codec.sealEnvelope envelope.nonce associated plaintext).result := by
  obtain ⟨nonce, ciphertext, tag⟩ := envelope
  rw [opened_bytes, result_sealEnvelope]
  simp only [Envelope.mk.injEq, true_and]
  constructor
  · intro opens
    split at opens
    · rename_i right
      have message : codec.masked nonce .payload ciphertext = plaintext := Except.ok.inj opens
      subst message
      rw [masked_masked]
      exact ⟨rfl, right.symm⟩
    · cases opens
  · rintro ⟨rfl, rfl⟩
    rw [if_pos rfl, masked_masked]

theorem opened_sealed (codec : Codec C) (nonce : Nonce) (associated plaintext : Bytes) :
    codec.opened associated (codec.sealed nonce associated plaintext) = .ok plaintext := by
  rw [sealed, opened_bytes_eq_ok_iff, result_sealEnvelope, result_sealEnvelope]

theorem opened_eq_ok_iff {codec : Codec C} {associated data plaintext : Bytes} :
    codec.opened associated data = .ok plaintext ↔
      Envelope.overhead ≤ data.length ∧
        data = codec.sealed (Nonce.ofBytes data) associated plaintext := by
  by_cases short : data.length < Envelope.overhead
  · rw [opened_of_short short]
    constructor
    · intro opens
      cases opens
    · rintro ⟨enough, _⟩
      omega
  · have enough : Envelope.overhead ≤ data.length := by omega
    obtain ⟨envelope, rfl⟩ := Envelope.exists_of_length enough
    have leading : Nonce.ofBytes envelope.bytes = envelope.nonce :=
      Nonce.ofBytes_bytes_append _ _
    rw [opened_bytes_eq_ok_iff, leading, sealed]
    constructor
    · intro same
      exact ⟨enough, congrArg Envelope.bytes same⟩
    · rintro ⟨_, same⟩
      exact Envelope.bytes_injective same

/-- Opening accepts exactly what sealing yields: bytes open to a message if and only if they are
enough for an envelope and are what the message is sealed to under their own first twelve bytes.
So opening undoes sealing, and no two byte strings open to one message under one nonce. -/
theorem opened_iff_sealed (codec : Codec C) (associated : Bytes) :
    (∀ data plaintext, codec.opened associated data = .ok plaintext ↔
      28 ≤ data.length ∧ data = codec.sealed (Nonce.ofBytes data) associated plaintext) ∧
    (∀ nonce plaintext,
      codec.opened associated (codec.sealed nonce associated plaintext) = .ok plaintext) ∧
    (∀ data plaintext, codec.opened associated data = .ok plaintext →
      codec.sealed (Nonce.ofBytes data) associated plaintext = data) ∧
    (∀ one other plaintext, codec.opened associated one = .ok plaintext →
      codec.opened associated other = .ok plaintext →
      one.take 12 = other.take 12 → one = other) := by
  refine ⟨fun data plaintext => opened_eq_ok_iff,
    fun nonce plaintext => codec.opened_sealed nonce associated plaintext,
    fun data plaintext opens => (opened_eq_ok_iff.mp opens).2.symm, ?_⟩
  intro one other plaintext opensOne opensOther sameNonce
  have nonceEq : Nonce.ofBytes one = Nonce.ofBytes other :=
    congrArg (fun leading => BitVec.ofNat 96 (Bytes.value leading)) sameNonce
  calc one
      = codec.sealed (Nonce.ofBytes one) associated plaintext := (opened_eq_ok_iff.mp opensOne).2
    _ = codec.sealed (Nonce.ofBytes other) associated plaintext := by rw [nonceEq]
    _ = other := (opened_eq_ok_iff.mp opensOther).2.symm

/-- A message of two bytes under the subkey zero, sealed, opened and sealed again. -/
theorem opened_iff_sealed_two_bytes :
    let codec : Codec (Block → Block) := { cipher := id, subkey := 0 }
    let envelope := codec.sealed 7 [1] [2, 3]
    codec.opened [1] envelope = .ok [2, 3] ∧ 28 ≤ envelope.length ∧
      codec.sealed (Nonce.ofBytes envelope) [1] [2, 3] = envelope := by
  intro codec envelope
  obtain ⟨accepts, undoes, sealsAgain, _⟩ := opened_iff_sealed codec [1]
  have opens : codec.opened [1] envelope = .ok [2, 3] := undoes 7 [2, 3]
  obtain ⟨enough, _⟩ := (accepts envelope [2, 3]).mp opens
  exact ⟨opens, enough, sealsAgain envelope [2, 3] opens⟩

end SealedEnvelope.Codec
