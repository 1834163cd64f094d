import SealedEnvelope.Cipher
import SealedEnvelope.Counter
import SealedEnvelope.Procedure

/-!
Counter-mode keystream over any block cipher.

A stream has a block of keystream made only when a byte of it is needed. It goes on where the last
request has left it, so what it yields does not depend on how the bytes are asked for.
-/

namespace SealedEnvelope

/-- Where a keystream stands between two requests. -/
structure Keystream.State where
  /-- The counter block behind the latest block of keystream; before any, the first one. -/
  counter : CounterBlock
  /-- The latest block of keystream; before any, zeros. -/
  block : Block := 0
  /-- Keystream bytes handed out so far. -/
  position : Nat := 0
  /-- Blocks of keystream made so far. -/
  blocks : Nat := 0

namespace Keystream.State

/-- The start of the keystream of a nonce for a purpose. -/
def start (nonce : Nonce) (purpose : Purpose) : State where
  counter := CounterBlock.start nonce purpose

/-- Make the next block of keystream. The first one uses the starting counter as it is. -/
def nextBlock (state : State) : Procedure State := do
  let counter := if state.blocks ≠ 0 then state.counter.increment else state.counter
  let block ← Procedure.encrypt counter.toBlock
  pure { state with counter, block, blocks := state.blocks + 1 }

/-- Make the next block if all bytes of the last one are handed out. -/
def ready (state : State) : Procedure State :=
  if state.position % Block.size = 0 then state.nextBlock else pure state

/-- Mask the data behind the bytes that are masked already, latest first. -/
def applyBehind (masked : Bytes) (state : State) (data : Bytes) : Procedure (Bytes × State) :=
  if data = [] then pure (masked.reverse, state)
  else do
    let offset := state.position % Block.size
    let ready ← state.ready
    -- As much of the data as the block has bytes left for.
    let head := data.take (Block.size - offset)
    applyBehind ((Bytes.xor head (ready.block.bytes.drop offset)).reverse ++ masked)
      { ready with position := ready.position + head.length } (data.drop (Block.size - offset))
termination_by data.length
decreasing_by
  have inside : state.position % Block.size < Block.size := Nat.mod_lt _ (by decide)
  have some : 0 < data.length := List.length_pos_iff.mpr ‹_›
  rw [List.length_drop]
  omega

/-- Exclusive or of the data with the next keystream bytes. -/
def apply (state : State) (data : Bytes) : Procedure (Bytes × State) :=
  state.applyBehind [] data

/-- The next `count` keystream bytes. -/
def fill (state : State) (count : Nat) : Procedure (Bytes × State) :=
  state.apply (List.replicate count 0)

end Keystream.State

/-- A keystream of a cipher. -/
structure Keystream (C : Type) extends Keystream.State where
  cipher : C
  /-- The blocks that the cipher was given so far. -/
  inputs : List Block := []

namespace Keystream

variable {C : Type}

/-- The stream that starts at a counter block. -/
def ofCounter (cipher : C) (counter : CounterBlock) : Keystream C := { counter, cipher }

variable [BlockCipher C]

/-- The answer to a request, and the stream that it leaves. -/
def answer (stream : Keystream C) (request : State → Procedure (Bytes × State)) :
    Bytes × Keystream C :=
  let traced := (request stream.toState).run (BlockCipher.encrypt stream.cipher)
  (traced.result.1,
    { stream with toState := traced.result.2, inputs := stream.inputs ++ traced.inputs })

/-- Exclusive or of the data with the next keystream bytes. -/
def apply (stream : Keystream C) (data : Bytes) : Bytes × Keystream C :=
  stream.answer (·.apply data)

/-- The next `count` keystream bytes. -/
def fill (stream : Keystream C) (count : Nat) : Bytes × Keystream C :=
  stream.answer (·.fill count)

end Keystream

end SealedEnvelope
