import SealedEnvelope.Proofs.Keystream.Requests

/-!
The books that a stream keeps: its position, its blocks, its counter and what the cipher was given.

A stream that has handed out some bytes has drawn the blocks that hold a byte of them, one after the
other from the start, and no other. That is so behind every request, whatever the lengths of the
requests are and wherever in a block they end.
-/

namespace SealedEnvelope.Keystream

variable {C : Type} [BlockCipher C]

/-- The blocks are as many as are needed to hold the bytes. -/
theorem blocks_after (cipher : C) (start : CounterBlock) (count : Nat) :
    (after cipher start count).blocks = (count + 15) / 16 := rfl

theorem counter_after (cipher : C) (start : CounterBlock) (count : Nat) :
    (after cipher start count).counter.toBlock =
      counterInput start.nonce
        (start.counter.toNat + ((after cipher start count).blocks - 1)) := by
  rw [blocks_after, ← toBlock_advance]
  rfl

theorem inputs_after_eq_counterInput (cipher : C) (start : CounterBlock) (count : Nat) :
    (after cipher start count).inputs =
      (List.range (after cipher start count).blocks).map fun place =>
        counterInput start.nonce (start.counter.toNat + place) := by
  have all : (after cipher start count).inputs = inputsBetween start 0 count := rfl
  rw [all, inputsBetween_zero, blocks_after, drawn]
  simp only [toBlock_advance]

theorem getElem?_inputs_after {cipher : C} {start : CounterBlock} {count place : Nat}
    (made : place < (after cipher start count).blocks) :
    (after cipher start count).inputs[place]? =
      some (counterInput start.nonce (start.counter.toNat + place)) := by
  rw [inputs_after_eq_counterInput, List.getElem?_map, List.getElem?_range made, Option.map_some]

/-- The latest block of keystream is what the cipher makes of the last block that it was given. -/
theorem block_after {cipher : C} {start : CounterBlock} {count : Nat} {input : Block}
    (last : (after cipher start count).inputs.getLast? = some input) :
    (after cipher start count).block = BlockCipher.encrypt cipher input := by
  rw [inputs_after_eq_counterInput, List.getLast?_map, List.getLast?_range] at last
  by_cases nothing : count = 0
  · subst nothing
    cases last
  · have made : (after cipher start count).blocks ≠ 0 := by
      rw [blocks_after]
      omega
    have latest : (after cipher start count).block = blockAt cipher start (drawn count - 1) :=
      if_neg nothing
    rw [if_neg made, Option.map_some] at last
    rw [latest, blockAt, toBlock_advance, ← Option.some.inj last]
    rfl

/-- Every byte is under what the cipher makes of the block that it was given in the place of the
byte. -/
theorem exists_input_of_byte (cipher : C) (start : CounterBlock) {text : Bytes} {offset : Nat}
    {byte : UInt8} (found : text[offset]? = some byte) :
    ∃ input, (after cipher start text.length).inputs[offset / 16]? = some input ∧
      (maskedFrom cipher start 0 text)[offset]? =
        some (byte ^^^ (BlockCipher.encrypt cipher input).bytes.getD (offset % 16) 0) := by
  have inside : offset < text.length := (List.getElem?_eq_some_iff.mp found).1
  have made : offset / 16 < (after cipher start text.length).blocks := by
    rw [blocks_after]
    omega
  refine ⟨_, getElem?_inputs_after made, ?_⟩
  rw [maskedFrom, List.getElem?_mapIdx, found, Option.map_some, Nat.zero_add,
    byteAt_eq_counterInput]

/-- A request for nothing leaves everything as it is. -/
theorem serve_of_empty (stream : Keystream C) {request : Request} (empty : request.text = []) :
    stream.serve request = ([], stream) := by
  have nothing : stream.toState.apply [] = pure ([], stream.toState) := by
    rw [State.apply, State.applyBehind, if_pos rfl]
    rfl
  rw [serve_eq_apply, empty, apply, answer, nothing, Procedure.run_pure]
  simp only [Traced.result_pure, Traced.inputs_pure, List.append_nil]

/-- The books of a fresh stream behind any requests. The position is the number of bytes in all,
and the blocks are as many as hold them. The counter is that of the latest block, and of the first
one before any is drawn. The cipher was given the blocks from the start on, the counter word modulo
2³², each once and in order. What it made of them is what the bytes are under, each byte under the
block of its own place, and the latest of it is the block that the stream holds. Requests for no
bytes leave the stream, with all its books, as it is. -/
theorem books_serveAll (cipher : C) (nonce : Nonce) (word : BitVec 32)
    (requests : List Request) :
    let text := Request.texts requests
    let answers := ((ofCounter cipher ⟨nonce, word⟩).serveAll requests).1
    let stream := ((ofCounter cipher ⟨nonce, word⟩).serveAll requests).2
    stream.position = text.length ∧
      stream.blocks = (text.length + 15) / 16 ∧
      stream.counter.toBlock = counterInput nonce (word.toNat + (stream.blocks - 1)) ∧
      stream.inputs =
        (List.range stream.blocks).map (fun place => counterInput nonce (word.toNat + place)) ∧
      (∀ offset byte, text[offset]? = some byte →
        ∃ input, stream.inputs[offset / 16]? = some input ∧
          answers.flatten[offset]? =
            some (byte ^^^ (BlockCipher.encrypt cipher input).bytes.getD (offset % 16) 0)) ∧
      (∀ input, stream.inputs.getLast? = some input →
        stream.block = BlockCipher.encrypt cipher input) ∧
      stream.serve (.apply []) = ([], stream) ∧ stream.serve (.fill []) = ([], stream) := by
  intro text answers stream
  obtain ⟨answered, reached⟩ : answers.flatten = maskedFrom cipher ⟨nonce, word⟩ 0 text ∧
      stream = after cipher ⟨nonce, word⟩ text.length := by
    have run := serveAll_after cipher ⟨nonce, word⟩ 0 requests
    rwa [after_zero, Nat.zero_add] at run
  refine ⟨?_, ?_, ?_, ?_, ?_, ?_, stream.serve_of_empty rfl, stream.serve_of_empty rfl⟩
  · rw [reached]
    rfl
  · rw [reached, blocks_after]
  · rw [reached]
    exact counter_after cipher ⟨nonce, word⟩ text.length
  · rw [reached]
    exact inputs_after_eq_counterInput cipher ⟨nonce, word⟩ text.length
  · rw [reached, answered]
    exact fun offset byte found => exists_input_of_byte cipher ⟨nonce, word⟩ found
  · rw [reached]
    exact fun input last => block_after last

end SealedEnvelope.Keystream
