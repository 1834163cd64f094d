import SealedEnvelope.Proofs.Codec.Inputs
import SealedEnvelope.Proofs.Message.Bodies

/-!
What sealing and opening report.

A report of either tells a length and a number of blocks, which the length determines. The key, the
nonce and the plaintext do not enter.
-/

namespace SealedEnvelope.Codec

variable {C : Type} [BlockCipher C] (codec : Codec C)

/-- Masking a payload is not reported, and leaves the stream with its blocks counted. -/
theorem blocks_payload (nonce : Nonce) (text : Bytes) :
    let masking := codec.perform ((Keystream.State.start nonce .payload).apply text)
    masking.events = [] ∧ masking.result.1.length = text.length ∧
      masking.result.2.blocks = (text.length + 15) / 16 := by
  intro masking
  have made : masking = _ := codec.run_apply_start nonce .payload text
  rw [made]
  exact ⟨rfl, codec.length_masked nonce .payload text, rfl⟩

theorem events_tag (nonce : Nonce) (associated ciphertext : Bytes) :
    (codec.tag nonce associated ciphertext).events = [] := by
  rw [tag, perform, Procedure.tag, Procedure.run_bind, run_apply_start]
  rfl

theorem events_sealEnvelope (nonce : Nonce) (associated plaintext : Bytes) :
    (codec.sealEnvelope nonce associated plaintext).events =
      [.sealedEnvelope plaintext.length ((plaintext.length + 15) / 16)] := by
  obtain ⟨silent, _, blocks⟩ := codec.blocks_payload nonce plaintext
  simp only [sealEnvelope_eq, Traced.events_bind, silent, blocks, events_tag,
    Traced.events_report, Traced.events_pure, List.nil_append, List.append_nil]

theorem events_sealText (nonce : Nonce) (plaintext : Bytes) :
    (codec.sealText nonce plaintext).events =
      [.sealedEnvelope plaintext.length ((plaintext.length + 15) / 16)] := by
  rw [sealText, Traced.events_bind, events_sealEnvelope, Traced.events_pure, List.append_nil]

theorem events_sealBody (nonce : Nonce) (plaintext : Bytes) :
    (codec.sealBody nonce plaintext).events =
      [.sealedEnvelope plaintext.length ((plaintext.length + 15) / 16)] := by
  rw [sealBody, Traced.events_bind, events_sealText, Traced.events_pure, List.append_nil]

/-- The reports of opening an envelope. -/
def openReports (associated : Bytes) (envelope : Envelope) : List Event :=
  let length := envelope.ciphertext.length
  if codec.dueTag envelope.nonce associated envelope.ciphertext = envelope.tag then
    [.openedEnvelope length ((length + 15) / 16)]
  else [.failedAuthentication length]

theorem events_openEnvelope (associated : Bytes) (envelope : Envelope) :
    (codec.openEnvelope associated envelope).run.events =
      codec.openReports associated envelope := by
  rw [run_openEnvelope, Traced.events_bind, events_tag, ← dueTag, openReports, List.nil_append]
  by_cases right : codec.dueTag envelope.nonce associated envelope.ciphertext = envelope.tag
  · obtain ⟨silent, length, blocks⟩ := codec.blocks_payload envelope.nonce envelope.ciphertext
    simp [right, silent, length, blocks]
  · simp [right]

theorem events_openBytes (associated : Bytes) (envelope : Envelope) :
    (codec.openBytes associated envelope.bytes).run.events =
      codec.openReports associated envelope := by
  rw [openBytes_of_parse (Envelope.parse_bytes envelope), events_openEnvelope]

/-- Behind the envelope, no more is reported of a text. -/
theorem events_openText {text : String} {envelope : Envelope}
    (spelled : Text.trim text = Base64.encode envelope.bytes) :
    (codec.openText text).run.events = codec.openReports [] envelope := by
  rw [openText, Base64.decode_eq_some_iff.mpr spelled, ← events_openBytes]
  simp only [ExceptT.run_bind, Traced.events_bind]
  cases (codec.openBytes [] envelope.bytes).run.result with
  | error error => exact List.append_nil _
  | ok plaintext =>
    simp only
    cases Utf8.decode plaintext with
    | error error => exact List.append_nil _
    | ok message => exact List.append_nil _

/-- A body reports the error of its data as well, if there is one. -/
theorem events_openBody {text data : String} {envelope : Envelope}
    (parsed : Body.parse (Text.trim text) = .ok ⟨some data⟩)
    (spelled : Text.trim data = Base64.encode envelope.bytes) :
    (codec.openBody text).run.events =
      match codec.openedText data with
      | .ok _ => codec.openReports [] envelope
      | .error error => codec.openReports [] envelope ++ [.undecryptableBody error] := by
  rw [openBody, parsed]
  simp only [Traced.events_run_tryCatch, Traced.result_run_map, Traced.events_run_map,
    codec.events_openText spelled]
  rw [openedText]
  cases (codec.openText data).run.result with
  | ok message => rfl
  | error error => rfl

end SealedEnvelope.Codec
