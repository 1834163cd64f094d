import SealedEnvelope.Codec
import SealedEnvelope.Proofs.Envelope
import SealedEnvelope.Proofs.Keystream
import SealedEnvelope.Proofs.Traced

/-!
Which byte strings are keys; sealing and opening as functions on bytes, and what each of them
computes.
-/

namespace SealedEnvelope

/-! ### Keys -/

section Keys

variable {key : Bytes}

/-- There is an AES key for every byte string of one of the three lengths. -/
theorem Aes.Key.exists_of_length (length : key.length = 16 ∨ key.length = 24 ∨ key.length = 32) :
    ∃ cipher, ofBytes? key = some cipher := by
  have size : (KeySize.ofBytes? key.length).isSome := by
    rcases length with length | length | length <;> rw [length] <;> rfl
  rw [ofBytes?, ← Option.isSome_iff_exists, Option.isSome_map]
  exact size

theorem exists_loadKey (length : key.length = 16 ∨ key.length = 24 ∨ key.length = 32) :
    ∃ cipher, loadKey key = .ok cipher := by
  obtain ⟨cipher, made⟩ := Aes.Key.exists_of_length length
  exact ⟨cipher, by rw [loadKey, made]⟩

theorem loadKey_of_unfit (unfit : ¬ (key.length = 16 ∨ key.length = 24 ∨ key.length = 32)) :
    loadKey key = .error (.invalidKey key.length) := by
  have noSize : Aes.KeySize.ofBytes? key.length = none := by
    unfold Aes.KeySize.ofBytes?
    split <;> first | rfl | omega
  rw [loadKey, Aes.Key.ofBytes?, noSize]
  rfl

end Keys

/-! ### Sealing and opening -/

namespace Codec

variable {C : Type} [BlockCipher C]

/-- The bytes that sealing yields. -/
def sealed (codec : Codec C) (nonce : Nonce) (associated plaintext : Bytes) : Bytes :=
  (codec.sealEnvelope nonce associated plaintext).result.bytes

/-- The message that opening yields, or why it yields none. -/
def opened (codec : Codec C) (associated data : Bytes) : Except Error Bytes :=
  (codec.openBytes associated data).run.result

/-- Data under the fresh keystream of a nonce for a purpose. -/
def masked (codec : Codec C) (nonce : Nonce) (purpose : Purpose) (data : Bytes) : Bytes :=
  ((codec.keystream nonce purpose).apply data).1

/-- The tag that belongs to a ciphertext. -/
def dueTag (codec : Codec C) (nonce : Nonce) (associated ciphertext : Bytes) : Tag :=
  (codec.tag nonce associated ciphertext).result

theorem masked_eq_maskedFrom (codec : Codec C) (nonce : Nonce) (purpose : Purpose)
    (data : Bytes) : codec.masked nonce purpose data =
      Keystream.maskedFrom codec.cipher (CounterBlock.start nonce purpose) 0 data := by
  rw [masked, keystream, ← Keystream.after_zero, Keystream.apply_after]

@[simp] theorem length_masked (codec : Codec C) (nonce : Nonce) (purpose : Purpose)
    (data : Bytes) : (codec.masked nonce purpose data).length = data.length := by
  rw [masked_eq_maskedFrom, Keystream.length_maskedFrom]

@[simp] theorem masked_masked (codec : Codec C) (nonce : Nonce) (purpose : Purpose)
    (data : Bytes) : codec.masked nonce purpose (codec.masked nonce purpose data) = data := by
  rw [masked_eq_maskedFrom, masked_eq_maskedFrom, Keystream.maskedFrom_maskedFrom]

/-- Masking data as a step of a procedure: the data under the keystream, and the blocks of it. -/
theorem run_apply_start (codec : Codec C) (nonce : Nonce) (purpose : Purpose) (data : Bytes) :
    ((Keystream.State.start nonce purpose).apply data).run (BlockCipher.encrypt codec.cipher) =
      { result := (codec.masked nonce purpose data,
          Keystream.stateAfter codec.cipher (CounterBlock.start nonce purpose) data.length)
        inputs := Keystream.inputsBetween (CounterBlock.start nonce purpose) 0 data.length
        events := []
        printed := [] } := by
  rw [Keystream.start_eq_stateAfter codec.cipher, Keystream.run_apply, masked_eq_maskedFrom,
    Nat.zero_add]

theorem masked_injective {codec : Codec C} {nonce : Nonce} {purpose : Purpose}
    {left right : Bytes} (same : codec.masked nonce purpose left = codec.masked nonce purpose right) :
    left = right := by
  rw [← codec.masked_masked nonce purpose left, same, masked_masked]

theorem dueTag_eq (codec : Codec C) (nonce : Nonce) (associated ciphertext : Bytes) :
    codec.dueTag nonce associated ciphertext =
      Block.ofBytes (codec.masked nonce .tag (digest codec.subkey associated ciphertext).bytes) := by
  rw [dueTag, tag, perform, Procedure.tag, Procedure.run_bind, run_apply_start]
  rfl

theorem bytes_dueTag (codec : Codec C) (nonce : Nonce) (associated ciphertext : Bytes) :
    (codec.dueTag nonce associated ciphertext).bytes =
      codec.masked nonce .tag (digest codec.subkey associated ciphertext).bytes := by
  rw [dueTag_eq]
  exact Block.bytes_ofBytes_of_length
    ((codec.length_masked nonce .tag _).trans (Block.length_bytes _))

/-- Under one nonce, tags agree just when digests do. -/
theorem dueTag_eq_iff {codec other : Codec C} {nonce : Nonce}
    {associated ciphertext associated' ciphertext' : Bytes} (sameCipher : codec.cipher = other.cipher) :
    codec.dueTag nonce associated ciphertext = other.dueTag nonce associated' ciphertext' ↔
      digest codec.subkey associated ciphertext = digest other.subkey associated' ciphertext' := by
  have sameMask (data : Bytes) : other.masked nonce .tag data = codec.masked nonce .tag data := by
    rw [masked, masked, keystream, keystream, sameCipher]
  constructor
  · intro same
    have sameBytes := congrArg Block.bytes same
    rw [bytes_dueTag, bytes_dueTag, sameMask] at sameBytes
    exact Block.bytes_injective (masked_injective sameBytes)
  · intro same
    apply Block.bytes_injective
    rw [bytes_dueTag, bytes_dueTag, sameMask, same]

/-- What sealing does, step by step. -/
theorem sealEnvelope_eq (codec : Codec C) (nonce : Nonce) (associated plaintext : Bytes) :
    codec.sealEnvelope nonce associated plaintext = (do
      let (ciphertext, stream) ←
        codec.perform ((Keystream.State.start nonce .payload).apply plaintext)
      let tag ← codec.tag nonce associated ciphertext
      Traced.report (.sealedEnvelope plaintext.length stream.blocks)
      pure { nonce, ciphertext, tag }) := by
  simp only [sealEnvelope, perform, Procedure.sealEnvelope, tag, Procedure.run_bind,
    Procedure.run_report, Procedure.run_pure]

/-- What opening does, step by step. -/
theorem run_openEnvelope (codec : Codec C) (associated : Bytes) (envelope : Envelope) :
    (codec.openEnvelope associated envelope).run = (do
      let expected ← codec.tag envelope.nonce associated envelope.ciphertext
      if expected ≠ envelope.tag then do
        Traced.report (.failedAuthentication envelope.ciphertext.length)
        pure (.error .authenticationFailure)
      else do
        let (plaintext, stream) ← codec.perform
          ((Keystream.State.start envelope.nonce .payload).apply envelope.ciphertext)
        Traced.report (.openedEnvelope plaintext.length stream.blocks)
        pure (.ok plaintext)) := by
  have steps : (codec.openEnvelope associated envelope).run =
      codec.perform (Procedure.openEnvelope codec.subkey associated envelope).run := rfl
  rw [steps, Procedure.openEnvelope, Procedure.run_liftM_bind, perform, Procedure.run_bind, tag,
    perform]
  congr 1
  funext expected
  by_cases right : expected = envelope.tag
  · simp [right, perform, Except.map]
  · simp [right]

theorem result_sealEnvelope (codec : Codec C) (nonce : Nonce) (associated plaintext : Bytes) :
    (codec.sealEnvelope nonce associated plaintext).result =
      { nonce
        ciphertext := codec.masked nonce .payload plaintext
        tag := codec.dueTag nonce associated (codec.masked nonce .payload plaintext) } := by
  rw [sealEnvelope_eq, perform, run_apply_start]
  rfl

@[simp] theorem length_sealed (codec : Codec C) (nonce : Nonce) (associated plaintext : Bytes) :
    (codec.sealed nonce associated plaintext).length = Envelope.overhead + plaintext.length := by
  rw [sealed, Envelope.length_bytes, result_sealEnvelope, Envelope.size, length_masked,
    Envelope.overhead]
  omega

theorem result_openEnvelope (codec : Codec C) (associated : Bytes) (envelope : Envelope) :
    (codec.openEnvelope associated envelope).run.result =
      if codec.dueTag envelope.nonce associated envelope.ciphertext = envelope.tag then
        .ok (codec.masked envelope.nonce .payload envelope.ciphertext)
      else .error .authenticationFailure := by
  rw [run_openEnvelope, Traced.result_bind, ← dueTag]
  by_cases right : codec.dueTag envelope.nonce associated envelope.ciphertext = envelope.tag
  · simp [right, perform, run_apply_start]
  · simp [right]

/-- Bytes that hold an envelope are opened as that envelope. -/
theorem openBytes_of_parse {codec : Codec C} {associated data : Bytes} {envelope : Envelope}
    (parsed : Envelope.parse data = .ok envelope) :
    codec.openBytes associated data = codec.openEnvelope associated envelope := by
  rw [openBytes, openEnvelope, Procedure.openBytes, parsed]

/-- Bytes that hold no envelope are rejected, and the reason is reported. -/
theorem run_openBytes_of_error {codec : Codec C} {associated data : Bytes} {error : Error}
    (rejected : Envelope.parse data = .error error) :
    (codec.openBytes associated data).run = (do
      Traced.report (.rejectedEnvelope error)
      pure (.error error)) := by
  have steps : (codec.openBytes associated data).run =
      codec.perform (Procedure.openBytes codec.subkey associated data).run := rfl
  rw [steps, Procedure.openBytes, rejected, Procedure.run_liftM_bind, perform, Procedure.run_bind]
  rfl

theorem opened_bytes (codec : Codec C) (associated : Bytes) (envelope : Envelope) :
    codec.opened associated envelope.bytes =
      if codec.dueTag envelope.nonce associated envelope.ciphertext = envelope.tag then
        .ok (codec.masked envelope.nonce .payload envelope.ciphertext)
      else .error .authenticationFailure := by
  rw [opened, openBytes_of_parse (Envelope.parse_bytes envelope), result_openEnvelope]

theorem opened_of_short {codec : Codec C} {associated data : Bytes}
    (short : data.length < Envelope.overhead) :
    codec.opened associated data = .error (.invalidEnvelope data.length) := by
  rw [opened, run_openBytes_of_error (Envelope.parse_of_short short)]
  rfl

/-- Bytes of sufficient length are rejected just when their tag is not the one due. -/
theorem opened_bytes_eq_error_iff {codec : Codec C} {associated : Bytes} {envelope : Envelope} :
    codec.opened associated envelope.bytes = .error .authenticationFailure ↔
      codec.dueTag envelope.nonce associated envelope.ciphertext ≠ envelope.tag := by
  rw [opened_bytes]
  split
  · rename_i right
    simp [right]
  · rename_i wrong
    simp [wrong]

theorem isOk_opened_bytes_iff {codec : Codec C} {associated : Bytes} {envelope : Envelope} :
    (codec.opened associated envelope.bytes).isOk ↔
      codec.dueTag envelope.nonce associated envelope.ciphertext = envelope.tag := by
  rw [opened_bytes]
  split
  · rename_i right
    simp [right, Except.isOk, Except.toBool]
  · rename_i wrong
    simp [wrong, Except.isOk, Except.toBool]

end Codec

end SealedEnvelope
