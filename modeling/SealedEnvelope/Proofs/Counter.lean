import SealedEnvelope.Counter
import SealedEnvelope.Proofs.Words

/-!
Counter blocks as the cipher sees them: twelve bytes of a nonce and four of a counter word.

A block tells its nonce and, modulo 2³², its counter word. So two counter blocks are the same
only if the nonces are, and only after the word has come all the way round.
-/

namespace SealedEnvelope

/-- The block of a nonce and a number: twelve bytes, and four for the number modulo 2³². -/
def counterInput (nonce : Nonce) (word : Nat) : Block :=
  Block.ofBytes (nonce.bytes ++ Bytes.bigEndian 4 (word % 2 ^ 32))

theorem toNat_counterInput (nonce : Nonce) (word : Nat) :
    (counterInput nonce word).toNat = nonce.toNat * 2 ^ 32 + word % 2 ^ 32 := by
  have full : (nonce.bytes ++ Bytes.bigEndian 4 (word % 2 ^ 32)).length = Block.size := by
    simp [Nonce.size, Block.size]
  have sameBase : (256 : Nat) ^ 4 = 2 ^ 32 := by decide
  rw [counterInput, ← Block.value_bytes, Block.bytes_ofBytes_of_length full, Bytes.value_append,
    Nonce.value_bytes, Bytes.value_bigEndian, Bytes.length_bigEndian, sameBase, Nat.mod_mod]

theorem counterInput_eq_iff {nonce other : Nonce} {word count : Nat} :
    counterInput nonce word = counterInput other count ↔
      nonce = other ∧ word % 2 ^ 32 = count % 2 ^ 32 := by
  rw [← BitVec.toNat_inj, ← BitVec.toNat_inj, toNat_counterInput, toNat_counterInput]
  omega

theorem counterInput_eq_zero_iff {nonce : Nonce} {word : Nat} :
    counterInput nonce word = 0 ↔ nonce = 0 ∧ word % 2 ^ 32 = 0 := by
  have zero : counterInput 0 0 = 0 := by decide
  rw [← zero]
  exact counterInput_eq_iff

/-- However far a counter block is moved on, it is the one of its own nonce. -/
theorem toBlock_advance (start : CounterBlock) (place : Nat) :
    (start.advance place).toBlock = counterInput start.nonce (start.counter.toNat + place) := by
  have word : (start.counter + BitVec.ofNat 32 place).toNat =
      (start.counter.toNat + place) % 2 ^ 32 := by
    rw [BitVec.toNat_add, BitVec.toNat_ofNat, Nat.add_mod_mod]
  apply BitVec.eq_of_toNat_eq
  rw [toNat_counterInput, ← word]
  exact toNat_append_eq_add start.nonce _

/-- The blocks of a purpose start at its code. -/
theorem toBlock_advance_start (nonce : Nonce) (purpose : Purpose) (place : Nat) :
    ((CounterBlock.start nonce purpose).advance place).toBlock =
      counterInput nonce (purpose.code + place) := by
  have word : (CounterBlock.start nonce purpose).counter.toNat = purpose.code := by
    cases purpose <;> rfl
  rw [toBlock_advance, word]
  rfl

end SealedEnvelope
