import SealedEnvelope.Proofs.Codec
import SealedEnvelope.Proofs.Counter

/-!
The blocks that sealing and opening give to the cipher.

A tag takes a single block, and a payload the blocks of the counter words from two on. Sealing
draws the payload first. Opening draws the tag first, and the payload only if the tag is right, so
what it asks of the cipher tells nothing of the bytes but their number, their nonce and whether
they are accepted. What the cipher makes of each block is the mask of the bytes in its place.
-/

namespace SealedEnvelope.Codec

variable {C : Type} [BlockCipher C]

/-- The blocks that mask a payload of so many bytes, in order. -/
def payloadInputs (nonce : Nonce) (length : Nat) : List Block :=
  (List.range ((length + 15) / 16)).map fun place => counterInput nonce (2 + place)

/-- The block that masks a tag. -/
def tagInput (nonce : Nonce) : Block := counterInput nonce 1

/-! ### The blocks of a payload -/

theorem length_payloadInputs (nonce : Nonce) (length : Nat) :
    (payloadInputs nonce length).length = (length + 15) / 16 := by
  rw [payloadInputs, List.length_map, List.length_range]

theorem getElem?_payloadInputs (nonce : Nonce) {length place : Nat}
    (inside : place < (length + 15) / 16) :
    (payloadInputs nonce length)[place]? = some (counterInput nonce (2 + place)) := by
  rw [payloadInputs, List.getElem?_map, List.getElem?_range inside, Option.map_some]

/-! ### What is asked for -/

/-- A fresh stream asks for the blocks from its starting word on, as many as the text reaches
into. -/
theorem inputsBetween_start (nonce : Nonce) (purpose : Purpose) (length : Nat) :
    Keystream.inputsBetween (CounterBlock.start nonce purpose) 0 length =
      (List.range ((length + 15) / 16)).map fun place =>
        counterInput nonce (purpose.code + place) := by
  rw [Keystream.inputsBetween_zero, Keystream.drawn]
  simp only [toBlock_advance_start]

theorem inputs_payload (codec : Codec C) (nonce : Nonce) (text : Bytes) :
    (codec.perform ((Keystream.State.start nonce .payload).apply text)).inputs =
      payloadInputs nonce text.length := by
  rw [perform, run_apply_start, inputsBetween_start, payloadInputs, Purpose.code]

/-- The digest asks nothing of the cipher, and its sixteen bytes need one block. -/
theorem inputs_tag (codec : Codec C) (nonce : Nonce) (associated ciphertext : Bytes) :
    (codec.tag nonce associated ciphertext).inputs = [tagInput nonce] := by
  have masked := inputsBetween_start nonce .tag
    (digest codec.subkey associated ciphertext).bytes.length
  rw [tag, perform, Procedure.tag, Procedure.run_bind, run_apply_start, Traced.inputs_bind, masked,
    Block.length_bytes]
  rfl

theorem inputs_sealEnvelope (codec : Codec C) (nonce : Nonce) (associated plaintext : Bytes) :
    (codec.sealEnvelope nonce associated plaintext).inputs =
      payloadInputs nonce plaintext.length ++ [tagInput nonce] := by
  simp only [sealEnvelope_eq, Traced.inputs_bind, inputs_payload, inputs_tag,
    Traced.inputs_report, Traced.inputs_pure, List.append_nil]

theorem inputs_openEnvelope (codec : Codec C) (associated : Bytes) (envelope : Envelope) :
    (codec.openEnvelope associated envelope).run.inputs =
      tagInput envelope.nonce ::
        if codec.dueTag envelope.nonce associated envelope.ciphertext = envelope.tag then
          payloadInputs envelope.nonce envelope.ciphertext.length
        else [] := by
  rw [run_openEnvelope, Traced.inputs_bind, inputs_tag, ← dueTag]
  by_cases right : codec.dueTag envelope.nonce associated envelope.ciphertext = envelope.tag
  · simp [right, inputs_payload]
  · simp [right]

/-- Bytes that are enough for an envelope are opened as the one they hold. -/
theorem openBytes_of_length (codec : Codec C) (associated : Bytes) {data : Bytes}
    (enough : 28 ≤ data.length) :
    codec.openBytes associated data = codec.openEnvelope associated (Envelope.held data) :=
  openBytes_of_parse (Envelope.parse_eq_held enough)

theorem inputs_openBytes_of_short (codec : Codec C) (associated : Bytes) {data : Bytes}
    (short : data.length < 28) : (codec.openBytes associated data).run.inputs = [] := by
  rw [run_openBytes_of_error (Envelope.parse_of_short short)]
  rfl

theorem inputs_openBytes_of_length (codec : Codec C) (associated : Bytes) {data : Bytes}
    (enough : 28 ≤ data.length) :
    (codec.openBytes associated data).run.inputs =
      tagInput (Nonce.ofBytes data) ::
        if (codec.opened associated data).isOk then
          payloadInputs (Nonce.ofBytes data) (data.length - 28)
        else [] := by
  rw [opened, openBytes_of_length codec associated enough, inputs_openEnvelope, result_openEnvelope,
    Envelope.length_ciphertext_held enough]
  split <;> rfl

/-- Bytes of one length and one nonce ask for the same blocks if both are accepted or neither
is. -/
theorem inputs_openBytes_congr (codec : Codec C) (associated : Bytes) {data other : Bytes}
    (sameLength : data.length = other.length) (sameLead : data.take 12 = other.take 12)
    (sameOutcome : (codec.opened associated data).isOk ↔ (codec.opened associated other).isOk) :
    (codec.openBytes associated data).run.inputs =
      (codec.openBytes associated other).run.inputs := by
  have sameNonce : Nonce.ofBytes data = Nonce.ofBytes other :=
    congrArg (fun lead => BitVec.ofNat 96 (Bytes.value lead)) sameLead
  by_cases enough : 28 ≤ data.length
  · rw [codec.inputs_openBytes_of_length associated enough,
      codec.inputs_openBytes_of_length associated (sameLength ▸ enough), sameNonce, sameLength]
    simp only [sameOutcome]
  · rw [codec.inputs_openBytes_of_short associated (by omega),
      codec.inputs_openBytes_of_short associated (by omega)]

/-! ### What the cipher makes of them -/

theorem maskedFrom_start_of_block (cipher : C) (nonce : Nonce) (purpose : Purpose) (place : Nat)
    {text : Bytes} (short : text.length ≤ Block.size) :
    Keystream.maskedFrom cipher (CounterBlock.start nonce purpose) (Block.size * place) text =
      text.xor (BlockCipher.encrypt cipher (counterInput nonce (purpose.code + place))).bytes := by
  rw [Keystream.maskedFrom_of_block _ _ _ short, Keystream.blockAt, toBlock_advance_start]

/-- Every block of a payload is under the block that the cipher is given in its place. -/
theorem take_drop_masked_payload (codec : Codec C) (nonce : Nonce) (text : Bytes) (place : Nat) :
    ((codec.masked nonce .payload text).drop (16 * place)).take 16 =
      Bytes.xor ((text.drop (16 * place)).take 16)
        (BlockCipher.encrypt codec.cipher (counterInput nonce (2 + place))).bytes := by
  rw [masked_eq_maskedFrom, Keystream.drop_maskedFrom, Keystream.take_maskedFrom, Nat.zero_add]
  exact maskedFrom_start_of_block codec.cipher nonce .payload place (List.length_take_le 16 _)

/-- A tag is the digest under what the cipher makes of its block. -/
theorem bytes_dueTag_eq_xor (codec : Codec C) (nonce : Nonce) (associated ciphertext : Bytes) :
    (codec.dueTag nonce associated ciphertext).bytes =
      (digest codec.subkey associated ciphertext).bytes.xor
        (BlockCipher.encrypt codec.cipher (tagInput nonce)).bytes := by
  have short : (digest codec.subkey associated ciphertext).bytes.length ≤ Block.size :=
    Nat.le_of_eq (Block.length_bytes _)
  rw [bytes_dueTag, masked_eq_maskedFrom]
  exact maskedFrom_start_of_block codec.cipher nonce .tag 0 short

/-! ### Opening and sealing -/

/-- What opening asks of the cipher, and in which order. Bytes that are too few for an envelope
ask nothing. All others ask first for the block of the tag, and those with a wrong tag for
nothing else; those with the right one ask for the blocks of the payload behind it, each once and
in order. So a block of the payload is asked for only after the tag was found right, and what is
asked for depends on the length, the nonce and the acceptance alone. What the cipher makes of the
first block tells the tag that is right, and what it makes of the others the message, each of them
in its place. Sealing asks for the same blocks, that of the tag last. -/
theorem payload_untouched_until_accepted (codec : Codec C) (associated data : Bytes) :
    let attempt := (codec.openBytes associated data).run
    let held := Envelope.held data
    let due := codec.dueTag held.nonce associated held.ciphertext
    (data.length < 28 →
      attempt.result = .error (.invalidEnvelope data.length) ∧ attempt.inputs = []) ∧
    (28 ≤ data.length → held.tag ≠ due →
      attempt.result = .error .authenticationFailure ∧ attempt.inputs = [tagInput held.nonce]) ∧
    (28 ≤ data.length → held.tag = due →
      attempt.result = .ok (codec.masked held.nonce .payload held.ciphertext) ∧
        attempt.inputs = tagInput held.nonce :: payloadInputs held.nonce (data.length - 28)) ∧
    (attempt.inputs.tail ≠ [] → 28 ≤ data.length ∧ held.tag = due) ∧
    (∀ other, data.length = other.length → data.take 12 = other.take 12 →
      ((codec.opened associated data).isOk ↔ (codec.opened associated other).isOk) →
        attempt.inputs = (codec.openBytes associated other).run.inputs) ∧
    (∀ nonce plaintext, (codec.sealEnvelope nonce associated plaintext).inputs =
      payloadInputs nonce plaintext.length ++ [tagInput nonce]) ∧
    (∀ input, attempt.inputs.head? = some input →
      due.bytes = (digest codec.subkey associated held.ciphertext).bytes.xor
        (BlockCipher.encrypt codec.cipher input).bytes) ∧
    (∀ plaintext, attempt.result = .ok plaintext →
      ∀ place < (plaintext.length + 15) / 16, ∃ input, attempt.inputs.tail[place]? = some input ∧
        (plaintext.drop (16 * place)).take 16 =
          Bytes.xor ((held.ciphertext.drop (16 * place)).take 16)
            (BlockCipher.encrypt codec.cipher input).bytes) := by
  intro attempt held due
  have short (few : data.length < 28) :
      attempt.result = .error (.invalidEnvelope data.length) ∧ attempt.inputs = [] :=
    ⟨opened_of_short few, codec.inputs_openBytes_of_short associated few⟩
  have wrong (enough : 28 ≤ data.length) (differs : held.tag ≠ due) :
      attempt.result = .error .authenticationFailure ∧ attempt.inputs = [tagInput held.nonce] := by
    simp only [attempt, codec.openBytes_of_length associated enough]
    rw [result_openEnvelope, inputs_openEnvelope, if_neg differs.symm, if_neg differs.symm]
    exact ⟨rfl, rfl⟩
  have right (enough : 28 ≤ data.length) (agrees : held.tag = due) :
      attempt.result = .ok (codec.masked held.nonce .payload held.ciphertext) ∧
        attempt.inputs = tagInput held.nonce :: payloadInputs held.nonce (data.length - 28) := by
    simp only [attempt, codec.openBytes_of_length associated enough]
    rw [result_openEnvelope, inputs_openEnvelope, if_pos agrees.symm, if_pos agrees.symm,
      Envelope.length_ciphertext_held enough]
    exact ⟨rfl, rfl⟩
  -- One case for every outcome: the error of a short text, that of a wrong tag, and the message.
  have outcomes : (data.length < 28 ∨ 28 ≤ data.length ∧ held.tag ≠ due) ∨
      28 ≤ data.length ∧ held.tag = due := by
    by_cases agrees : held.tag = due
    · exact (Nat.lt_or_ge data.length 28).imp .inl fun enough => ⟨enough, agrees⟩
    · exact .inl ((Nat.lt_or_ge data.length 28).imp_right fun enough => ⟨enough, agrees⟩)
  refine ⟨short, wrong, right, ?_, ?_, ?_, ?_, ?_⟩
  · intro further
    rcases outcomes with (few | ⟨enough, differs⟩) | accepted
    · exact absurd (congrArg List.tail (short few).2) further
    · exact absurd (congrArg List.tail (wrong enough differs).2) further
    · exact accepted
  · intro other sameLength sameLead sameOutcome
    exact codec.inputs_openBytes_congr associated sameLength sameLead sameOutcome
  · intro nonce plaintext
    exact codec.inputs_sealEnvelope nonce associated plaintext
  · intro input first
    have asked : tagInput held.nonce = input := by
      rcases outcomes with (few | ⟨enough, differs⟩) | ⟨enough, agrees⟩
      · rw [(short few).2] at first
        cases first
      · rw [(wrong enough differs).2] at first
        exact Option.some.inj first
      · rw [(right enough agrees).2] at first
        exact Option.some.inj first
    rw [← asked]
    exact codec.bytes_dueTag_eq_xor held.nonce associated held.ciphertext
  · intro plaintext opens place inside
    rcases outcomes with (few | ⟨enough, differs⟩) | ⟨enough, agrees⟩
    · cases (short few).1.symm.trans opens
    · cases (wrong enough differs).1.symm.trans opens
    · obtain ⟨result, inputs⟩ := right enough agrees
      obtain rfl := Except.ok.inj (result.symm.trans opens)
      rw [length_masked, Envelope.length_ciphertext_held enough] at inside
      rw [inputs, List.tail_cons]
      exact ⟨_, getElem?_payloadInputs held.nonce inside,
        codec.take_drop_masked_payload held.nonce held.ciphertext place⟩

/-- Two bytes of ciphertext under the tag that is due, the same cut short, and the same under
another tag. -/
theorem payload_untouched_until_accepted_two_bytes :
    let codec : Codec (Block → Block) := { cipher := id, subkey := Field.one }
    let due := codec.dueTag 7 [1] [2, 3]
    let envelope : Envelope := { nonce := 7, ciphertext := [2, 3], tag := due }
    let forged : Envelope := { nonce := 7, ciphertext := [2, 3], tag := due ^^^ 1 }
    (28 ≤ envelope.bytes.length ∧
      (codec.openBytes [1] envelope.bytes).run.inputs = [counterInput 7 1, counterInput 7 2]) ∧
    ((envelope.bytes.take 27).length < 28 ∧
      (codec.openBytes [1] (envelope.bytes.take 27)).run.inputs = []) ∧
    (28 ≤ forged.bytes.length ∧
      (codec.openBytes [1] forged.bytes).run.inputs = [counterInput 7 1]) := by
  intro codec due envelope forged
  have length : envelope.bytes.length = 30 := envelope.length_bytes
  have forgedLength : forged.bytes.length = 30 := forged.length_bytes
  have cutLength : (envelope.bytes.take 27).length < 28 := by
    rw [List.length_take]
    omega
  have differs : due ^^^ 1 ≠ due := by
    intro same
    have one : (1 : Tag) = 0 := (BitVec.xor_right_inj due).mp (same.trans BitVec.xor_zero.symm)
    exact absurd one (by decide)
  have accepted := payload_untouched_until_accepted codec [1] envelope.bytes
  have cut := payload_untouched_until_accepted codec [1] (envelope.bytes.take 27)
  have rejected := payload_untouched_until_accepted codec [1] forged.bytes
  rw [Envelope.held_bytes, length] at accepted
  rw [Envelope.held_bytes, forgedLength] at rejected
  refine ⟨⟨by omega, (accepted.2.2.1 (by decide) rfl).2⟩, ⟨cutLength, (cut.1 cutLength).2⟩,
    ⟨by omega, (rejected.2.1 (by decide) differs).2⟩⟩

end SealedEnvelope.Codec
