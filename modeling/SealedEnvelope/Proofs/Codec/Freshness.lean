import Mathlib.Data.List.Nodup
import SealedEnvelope.Proofs.Codec.Inputs

/-!
Whether the cipher is ever given one block twice.

The counter word comes round after 2³² blocks. The payload starts at two, so it meets the zero
block one block before it meets the block of the tag, and that is its last but none below 2³²
blocks.
-/

namespace SealedEnvelope.Codec

variable {nonce other : Nonce} {word length : Nat}

/-- A payload meets a counter block just when it has the nonce of it and is long enough to reach
its word from two on. -/
theorem counterInput_mem_payloadInputs_iff :
    counterInput nonce word ∈ payloadInputs other length ↔
      nonce = other ∧ (word + (2 ^ 32 - 2)) % 2 ^ 32 < (length + 15) / 16 := by
  rw [payloadInputs, List.mem_map]
  constructor
  · rintro ⟨place, member, same⟩
    obtain ⟨sameNonce, sameWord⟩ := counterInput_eq_iff.mp same
    have inside := List.mem_range.mp member
    exact ⟨sameNonce.symm, by omega⟩
  · rintro ⟨rfl, inside⟩
    refine ⟨(word + (2 ^ 32 - 2)) % 2 ^ 32, List.mem_range.mpr inside, ?_⟩
    exact counterInput_eq_iff.mpr ⟨rfl, by omega⟩

theorem tagInput_mem_payloadInputs_iff :
    tagInput nonce ∈ payloadInputs nonce length ↔ 2 ^ 32 ≤ (length + 15) / 16 := by
  rw [tagInput, counterInput_mem_payloadInputs_iff, eq_self, true_and]
  omega

theorem nodup_payloadInputs (few : (length + 15) / 16 ≤ 2 ^ 32) :
    (payloadInputs nonce length).Nodup := by
  refine List.Nodup.map_on ?_ List.nodup_range
  intro one oneMember another anotherMember same
  have oneInside := List.mem_range.mp oneMember
  have anotherInside := List.mem_range.mp anotherMember
  have sameWord := (counterInput_eq_iff.mp same).2
  omega

theorem nodup_payloadInputs_tagInput_iff :
    (payloadInputs nonce length ++ [tagInput nonce]).Nodup ↔ (length + 15) / 16 ≤ 2 ^ 32 - 1 := by
  have notMember : tagInput nonce ∉ payloadInputs nonce length ↔
      (length + 15) / 16 ≤ 2 ^ 32 - 1 := by
    rw [tagInput_mem_payloadInputs_iff]
    omega
  rw [← List.concat_eq_append, List.nodup_concat, notMember]
  constructor
  · rintro ⟨few, _⟩
    exact few
  · intro few
    exact ⟨few, nodup_payloadInputs (by omega)⟩

theorem zero_mem_payloadInputs_tagInput_iff :
    0 ∈ payloadInputs nonce length ++ [tagInput nonce] ↔
      nonce = 0 ∧ 2 ^ 32 - 1 ≤ (length + 15) / 16 := by
  have zero : counterInput 0 0 = 0 := counterInput_eq_zero_iff.mpr ⟨rfl, rfl⟩
  have notTag : (0 : Block) ≠ tagInput nonce := by
    intro same
    have word := (counterInput_eq_zero_iff.mp same.symm).2
    omega
  rw [List.mem_append, List.mem_singleton, or_iff_left notTag, ← zero,
    counterInput_mem_payloadInputs_iff]
  exact and_congr eq_comm (by omega)

/-- Every block that a payload or a tag asks for tells the nonce it is asked for. -/
theorem exists_of_mem_inputs {block : Block}
    (member : block ∈ payloadInputs nonce length ++ [tagInput nonce]) :
    ∃ word, block = counterInput nonce word := by
  rcases List.mem_append.mp member with payload | tag
  · obtain ⟨place, _, same⟩ := List.mem_map.mp payload
    exact ⟨2 + place, same.symm⟩
  · exact ⟨1, List.mem_singleton.mp tag⟩

variable {C : Type} [BlockCipher C]

/-- The block of a payload that no other follows is under the block of its own place. -/
theorem drop_masked_payload (codec : Codec C) (nonce : Nonce) (text : Bytes) (place : Nat)
    (last : text.length ≤ 16 * (place + 1)) :
    (codec.masked nonce .payload text).drop (16 * place) =
      Bytes.xor (text.drop (16 * place))
        (BlockCipher.encrypt codec.cipher (counterInput nonce (2 + place))).bytes := by
  have block := codec.take_drop_masked_payload nonce text place
  have short (other : Bytes) (same : other.length = text.length) :
      (other.drop (16 * place)).length ≤ 16 := by
    rw [List.length_drop, same]
    omega
  rwa [List.take_of_length_le (short _ (codec.length_masked nonce .payload text)),
    List.take_of_length_le (short text rfl)] at block

/-- After 2³² blocks the word of the tag is due again. -/
theorem counterInput_full_round (nonce : Nonce) :
    counterInput nonce (2 + (2 ^ 32 - 1)) = tagInput nonce := by
  rw [tagInput, counterInput_eq_iff]
  exact ⟨rfl, rfl⟩

theorem getElem?_inputs_of_payload {place : Nat} (inside : place < (length + 15) / 16) :
    (payloadInputs nonce length ++ [tagInput nonce])[place]? =
      some (counterInput nonce (2 + place)) := by
  have within : place < (payloadInputs nonce length).length := by rwa [length_payloadInputs]
  rw [List.getElem?_append_left within, getElem?_payloadInputs nonce inside]

theorem getElem?_inputs_of_tag :
    (payloadInputs nonce length ++ [tagInput nonce])[(length + 15) / 16]? =
      some (tagInput nonce) := by
  rw [← length_payloadInputs nonce length, List.getElem?_concat_length]

theorem getElem?_inputs_full_round (nonce : Nonce) (full : (length + 15) / 16 = 2 ^ 32) :
    (payloadInputs nonce length ++ [tagInput nonce])[2 ^ 32 - 1]? = some (tagInput nonce) ∧
      (payloadInputs nonce length ++ [tagInput nonce])[2 ^ 32]? = some (tagInput nonce) := by
  constructor
  · rw [getElem?_inputs_of_payload (by omega), counterInput_full_round]
  · rw [← full, getElem?_inputs_of_tag]

/-- Sealing gives the cipher a block for every sixteen bytes begun and one for the tag. What the
cipher makes of each is the mask of the bytes in its place, and what it makes of the last one is
the mask of the digest. The blocks are all different if and only if those for the bytes are fewer
than 2³². With exactly so many the last one of them is that of the tag: the end of the message and
the digest are then under one mask. A derived subkey is what the cipher makes of the zero block
alone, which is among the others if and only if the nonce is zero and the counter has come round.
Under two nonces no block is asked for twice, however long the messages. -/
theorem inputs_distinct_iff (codec : Codec C) (nonce : Nonce) (associated plaintext : Bytes) :
    let made := codec.sealEnvelope nonce associated plaintext
    let blocks := (plaintext.length + 15) / 16
    let mask := (BlockCipher.encrypt codec.cipher (tagInput nonce)).bytes
    made.inputs = payloadInputs nonce plaintext.length ++ [tagInput nonce] ∧
    (∀ place < blocks, ∃ input, made.inputs[place]? = some input ∧
      (made.result.ciphertext.drop (16 * place)).take 16 =
        Bytes.xor ((plaintext.drop (16 * place)).take 16)
          (BlockCipher.encrypt codec.cipher input).bytes) ∧
    (made.inputs[blocks]? = some (tagInput nonce) ∧
      made.result.tag.bytes =
        (digest codec.subkey associated made.result.ciphertext).bytes.xor mask) ∧
    (made.inputs.Nodup ↔ blocks ≤ 2 ^ 32 - 1) ∧
    (blocks = 2 ^ 32 →
      made.inputs[2 ^ 32 - 1]? = some (tagInput nonce) ∧
      made.inputs[2 ^ 32]? = some (tagInput nonce) ∧
      made.result.ciphertext.drop (16 * (2 ^ 32 - 1)) =
        Bytes.xor (plaintext.drop (16 * (2 ^ 32 - 1))) mask ∧
      made.result.tag.bytes =
        (digest codec.subkey associated made.result.ciphertext).bytes.xor mask) ∧
    ((deriveSubkey codec.cipher).result = BlockCipher.encrypt codec.cipher 0 ∧
      (deriveSubkey codec.cipher).inputs = [0]) ∧
    (0 ∈ made.inputs ↔ nonce = 0 ∧ 2 ^ 32 - 1 ≤ blocks) ∧
    (∀ (peer : Codec C) (other : Nonce), other ≠ nonce → ∀ otherAssociated otherPlaintext,
      made.inputs.Disjoint
        (peer.sealEnvelope other otherAssociated otherPlaintext).inputs) := by
  intro made blocks mask
  have inputs := codec.inputs_sealEnvelope nonce associated plaintext
  have result := codec.result_sealEnvelope nonce associated plaintext
  have tagged := codec.bytes_dueTag_eq_xor nonce associated (codec.masked nonce .payload plaintext)
  refine ⟨inputs, ?_, ?_, ?_, ?_, ⟨rfl, rfl⟩, ?_, ?_⟩
  · intro place inside
    rw [inputs, result]
    exact ⟨_, getElem?_inputs_of_payload inside,
      codec.take_drop_masked_payload nonce plaintext place⟩
  · rw [inputs, result]
    exact ⟨getElem?_inputs_of_tag, tagged⟩
  · rw [inputs]
    exact nodup_payloadInputs_tagInput_iff
  · intro full
    obtain ⟨last, tag⟩ := getElem?_inputs_full_round nonce full
    have masked := codec.drop_masked_payload nonce plaintext (2 ^ 32 - 1) (by omega)
    rw [counterInput_full_round] at masked
    rw [inputs, result]
    exact ⟨last, tag, masked, tagged⟩
  · rw [inputs]
    exact zero_mem_payloadInputs_tagInput_iff
  · intro peer other different otherAssociated otherPlaintext block member otherMember
    rw [inputs] at member
    rw [inputs_sealEnvelope] at otherMember
    obtain ⟨word, same⟩ := exists_of_mem_inputs member
    obtain ⟨otherWord, otherSame⟩ := exists_of_mem_inputs otherMember
    exact different (counterInput_eq_iff.mp (otherSame.symm.trans same)).1

/-- The shortest text to come round to the block of the tag. -/
theorem inputs_distinct_iff_full_round :
    ∃ plaintext : Bytes, plaintext = List.replicate (2 ^ 36 - 15) 0 ∧
      let codec : Codec (Block → Block) := { cipher := id, subkey := Field.one }
      let made := codec.sealEnvelope 0 [] plaintext
      (plaintext.length + 15) / 16 = 2 ^ 32 ∧ ¬ made.inputs.Nodup ∧
        made.inputs[2 ^ 32 - 1]? = made.inputs[2 ^ 32]? ∧ 0 ∈ made.inputs ∧
        (1 : Nonce) ≠ 0 ∧ made.inputs.Disjoint (codec.sealEnvelope 1 [] plaintext).inputs := by
  -- The text is too long to be evaluated: from here on only its length is known of it.
  obtain ⟨plaintext, zeros⟩ : ∃ text : Bytes, text = List.replicate (2 ^ 36 - 15) 0 := ⟨_, rfl⟩
  have size : plaintext.length = 2 ^ 36 - 15 := by rw [zeros, List.length_replicate]
  refine ⟨plaintext, zeros, ?_⟩
  intro codec made
  have blocks : (plaintext.length + 15) / 16 = 2 ^ 32 := by omega
  have otherNonce : (1 : Nonce) ≠ 0 := by decide
  obtain ⟨_, _, _, distinct, round, _, zero, apart⟩ := inputs_distinct_iff codec 0 [] plaintext
  have repeated : ¬ made.inputs.Nodup := by
    intro nodup
    have few := distinct.mp nodup
    omega
  have member : 0 ∈ made.inputs := zero.mpr ⟨rfl, by omega⟩
  obtain ⟨last, tag, _⟩ := round blocks
  exact ⟨blocks, repeated, last.trans tag.symm, member, otherNonce,
    apart codec 1 otherNonce [] plaintext⟩

end SealedEnvelope.Codec
