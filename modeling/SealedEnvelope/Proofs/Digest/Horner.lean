import SealedEnvelope.Digest
import SealedEnvelope.Proofs.Blocks
import SealedEnvelope.Proofs.Field.Laws

/-!
Absorbing blocks one after the other, and what a change of one block does to the digest.
-/

namespace SealedEnvelope

variable {subkey : Block}

theorem absorb_append (subkey accumulator : Block) (front back : List Block) :
    absorb subkey accumulator (front ++ back) =
      absorb subkey (absorb subkey accumulator front) back :=
  List.foldl_append

theorem absorb_cons (subkey accumulator block : Block) (rest : List Block) :
    absorb subkey accumulator (block :: rest) =
      absorb subkey (Field.multiply (accumulator ^^^ block) subkey) rest := rfl

/-- A subkey other than zero loses nothing of what was absorbed before. -/
theorem absorb_injective (nonzero : subkey ≠ 0) {blocks : List Block} {left right : Block}
    (same : absorb subkey left blocks = absorb subkey right blocks) : left = right := by
  induction blocks generalizing left right with
  | nil => exact same
  | cons block rest ih =>
    have product := ih same
    exact (BitVec.xor_left_inj block).mp (Field.multiply_right_cancel nonzero product)

/-- Changing one block changes the outcome, unless the subkey is zero. -/
theorem absorb_change_eq_iff (subkey accumulator : Block) (before after : List Block)
    {one other : Block} (different : one ≠ other) :
    absorb subkey accumulator (before ++ one :: after) =
      absorb subkey accumulator (before ++ other :: after) ↔ subkey = 0 := by
  rw [absorb_append, absorb_append, absorb_cons, absorb_cons]
  constructor
  · intro same
    by_contra nonzero
    have product := Field.multiply_right_cancel nonzero (absorb_injective nonzero same)
    exact different ((BitVec.xor_right_inj _).mp product)
  · rintro rfl
    rw [Field.multiply_zero, Field.multiply_zero]

/-- Empty texts have the digest zero, since the one block is that of two lengths zero. -/
theorem digest_nil_nil (subkey : Block) : digest subkey [] [] = 0 := by
  have noBlocks : Block.sequence [] = [] := by rw [Block.sequence]
  have noLengths : lengthBlock 0 0 = 0 := by decide
  have blocks : digestBlocks [] [] = [0] := by
    rw [digestBlocks, noBlocks, List.length_nil, noLengths, List.nil_append, List.nil_append]
  rw [digest, blocks, absorb_cons, BitVec.xor_self]
  exact Field.zero_multiply subkey

/-- A change inside one aligned block of the data shows in the digest, unless the subkey is
zero. -/
theorem digest_eq_iff_of_data {data other : Bytes} {place : Nat} (associated : Bytes)
    (apart : DifferWithin (Block.size * place) (Block.size * (place + 1)) data other) :
    digest subkey associated data = digest subkey associated other ↔ subkey = 0 := by
  obtain ⟨before, one, changed, after, left, right, different⟩ :=
    (Block.sequence_differWithin apart).split
  have change := absorb_change_eq_iff subkey 0
    (Block.sequence associated ++ before)
    (after ++ [lengthBlock associated.length data.length]) different
  simpa only [digest, digestBlocks, left, right, apart.sameLength, List.append_assoc,
    List.cons_append] using change

theorem digest_eq_iff_of_associated {associated other : Bytes} {place : Nat} (data : Bytes)
    (apart : DifferWithin (Block.size * place) (Block.size * (place + 1)) associated other) :
    digest subkey associated data = digest subkey other data ↔ subkey = 0 := by
  obtain ⟨before, one, changed, after, left, right, different⟩ :=
    (Block.sequence_differWithin apart).split
  have change := absorb_change_eq_iff subkey 0 before
    (after ++ Block.sequence data ++ [lengthBlock associated.length data.length]) different
  simpa only [digest, digestBlocks, left, right, apart.sameLength, List.append_assoc,
    List.cons_append] using change

end SealedEnvelope
