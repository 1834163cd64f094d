import SealedEnvelope.Block
import SealedEnvelope.Purpose

/-!
Counter blocks: the cipher's input for one block of keystream.
-/

namespace SealedEnvelope

/-- A nonce and a counter word. Only the word moves, so no carry reaches the nonce. -/
structure CounterBlock where
  nonce : Nonce
  counter : BitVec 32
deriving DecidableEq

namespace CounterBlock

/-- The first counter block of the keystream that a nonce and a purpose select. -/
def start (nonce : Nonce) (purpose : Purpose) : CounterBlock :=
  ⟨nonce, BitVec.ofNat 32 purpose.code⟩

/-- The block made of the nonce and the counter word. -/
def toBlock (counter : CounterBlock) : Block :=
  counter.nonce ++ counter.counter

/-- A block read as a nonce and a counter word. -/
def ofBlock (block : Block) : CounterBlock :=
  ⟨block.extractLsb' 32 96, block.extractLsb' 0 32⟩

/-- The counter block `count` places further on, modulo 2³². -/
def advance (counter : CounterBlock) (count : Nat) : CounterBlock :=
  { counter with counter := counter.counter + BitVec.ofNat 32 count }

/-- The next counter block. -/
def increment (counter : CounterBlock) : CounterBlock :=
  { counter with counter := counter.counter + 1 }

@[simp] theorem ofBlock_toBlock (counter : CounterBlock) : ofBlock counter.toBlock = counter := by
  obtain ⟨nonce, word⟩ := counter
  have high : (nonce ++ word).extractLsb' 32 96 = nonce := by
    apply BitVec.eq_of_getLsbD_eq
    intro index inRange
    have above : ¬ 32 + index < 32 := by omega
    simp only [BitVec.getLsbD_extractLsb', BitVec.getLsbD_append]
    simp [inRange, above]
  have low : (nonce ++ word).extractLsb' 0 32 = word := by
    apply BitVec.eq_of_getLsbD_eq
    intro index inRange
    simp only [BitVec.getLsbD_extractLsb', BitVec.getLsbD_append]
    simp [inRange]
  exact congr (congrArg mk high) low

@[simp] theorem toBlock_ofBlock (block : Block) : (ofBlock block).toBlock = block := by
  apply BitVec.eq_of_getLsbD_eq (w := 96 + 32)
  intro index inRange
  simp only [toBlock, ofBlock, BitVec.getLsbD_append, BitVec.getLsbD_extractLsb']
  by_cases low : index < 32
  · simp [low]
  · have back : 32 + (index - 32) = index := by omega
    have bound : index - 32 < 96 := by omega
    simp [low, back, bound]

@[simp] theorem advance_zero (counter : CounterBlock) : counter.advance 0 = counter := by
  simp [advance]

theorem increment_advance (counter : CounterBlock) (count : Nat) :
    (counter.advance count).increment = counter.advance (count + 1) := by
  simp [advance, increment, BitVec.ofNat_add, BitVec.add_assoc]

end CounterBlock

end SealedEnvelope
