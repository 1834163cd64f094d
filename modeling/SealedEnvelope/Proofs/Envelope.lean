import SealedEnvelope.Envelope
import SealedEnvelope.Proofs.Words

/-!
Bytes of sufficient length and envelopes are the same thing.
-/

namespace SealedEnvelope.Envelope

theorem overhead_le_length_bytes (envelope : Envelope) : overhead ≤ envelope.bytes.length := by
  rw [length_bytes, size, overhead]
  omega

theorem parse_bytes (envelope : Envelope) : parse envelope.bytes = .ok envelope := by
  have enough := overhead_le_length_bytes envelope
  have payload : envelope.bytes.length - overhead = envelope.ciphertext.length := by
    rw [length_bytes, size, overhead]
    omega
  have behindNonce : envelope.bytes.drop Nonce.size =
      envelope.ciphertext ++ envelope.tag.bytes :=
    List.drop_left' (Nonce.length_bytes _)
  rw [parse, if_neg (by omega)]
  simp only [payload, behindNonce, List.take_left, List.drop_left, Block.ofBytes_bytes]
  rw [bytes, Nonce.ofBytes_bytes_append]

theorem bytes_injective {left right : Envelope} (same : left.bytes = right.bytes) :
    left = right := by
  have parsed := parse_bytes right
  rw [← same, parse_bytes, Except.ok.injEq] at parsed
  exact parsed

/-- What stands in the places of the parts: the first twelve bytes, the last sixteen, and those
between. -/
def held (data : Bytes) : Envelope where
  nonce := Nonce.ofBytes data
  ciphertext := (data.drop 12).take (data.length - 28)
  tag := Block.ofBytes (data.drop (data.length - 16))

private theorem drop_before_tag {data : Bytes} (enough : 28 ≤ data.length) :
    (data.drop 12).drop (data.length - 28) = data.drop (data.length - 16) := by
  have tagPlace : 12 + (data.length - 28) = data.length - 16 := by omega
  rw [List.drop_drop, tagPlace]

theorem parse_eq_held {data : Bytes} (enough : 28 ≤ data.length) :
    parse data = .ok (held data) := by
  have long : ¬ data.length < overhead := Nat.not_lt.mpr enough
  rw [parse, if_neg long, held, ← drop_before_tag enough]
  rfl

theorem bytes_held {data : Bytes} (enough : 28 ≤ data.length) : (held data).bytes = data := by
  have nonceRoom : Nonce.size ≤ data.length := by
    rw [Nonce.size]
    omega
  have tagLength : (data.drop (data.length - 16)).length = Block.size := by
    rw [List.length_drop, Block.size]
    omega
  rw [bytes, held, Nonce.bytes_ofBytes nonceRoom, Block.bytes_ofBytes_of_length tagLength,
    ← drop_before_tag enough, List.take_append_drop]
  exact List.take_append_drop 12 data

@[simp] theorem held_bytes (envelope : Envelope) : held envelope.bytes = envelope := by
  have parsed := parse_eq_held envelope.overhead_le_length_bytes
  rw [parse_bytes, Except.ok.injEq] at parsed
  exact parsed.symm

theorem length_ciphertext_held {data : Bytes} (enough : 28 ≤ data.length) :
    (held data).ciphertext.length = data.length - 28 := by
  rw [held, List.length_take, List.length_drop]
  omega

theorem exists_of_length {data : Bytes} (enough : overhead ≤ data.length) :
    ∃ envelope : Envelope, envelope.bytes = data :=
  ⟨held data, bytes_held enough⟩

theorem parse_of_short {data : Bytes} (short : data.length < overhead) :
    parse data = .error (.invalidEnvelope data.length) := if_pos short

end SealedEnvelope.Envelope
