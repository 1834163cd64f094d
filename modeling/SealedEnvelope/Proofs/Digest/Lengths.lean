import SealedEnvelope.Proofs.Digest.Blocks
import SealedEnvelope.Proofs.Digest.Horner

/-!
How far a digest binds the lengths of its two texts and the place where one gives way to the
other.

Zero blocks ahead of all others leave the accumulator zero, and where the second text begins is
not to be seen from the blocks. Only the block of the lengths tells, and it keeps them modulo 2²⁹.
-/

namespace SealedEnvelope

variable {subkey : Block} {associated data otherAssociated otherData : Bytes}

/-- The blocks of two texts, from the first one on that is not zero. -/
def significantBlocks (associated data : Bytes) : List Block :=
  (Block.sequence associated ++ Block.sequence data).dropWhile (· == 0)

/-- Zero blocks leave no trace in an accumulator that is still zero. -/
theorem absorb_dropWhile (subkey : Block) (blocks : List Block) :
    absorb subkey 0 (blocks.dropWhile (· == 0)) = absorb subkey 0 blocks := by
  induction blocks with
  | nil => rfl
  | cons block rest ih =>
    by_cases zero : block = 0
    · -- The sum with zero is zero and so is the product: the accumulator stays what it was.
      have inert : absorb subkey 0 (block :: rest) = absorb subkey 0 rest := by
        rw [absorb_cons, zero, BitVec.xor_self]
        exact congrArg (absorb subkey · rest) (Field.zero_multiply subkey)
      rw [List.dropWhile_cons, if_pos (beq_iff_eq.mpr zero), ih, inert]
    · rw [List.dropWhile_cons, if_neg (mt beq_iff_eq.mp zero)]

theorem digest_eq_multiply (subkey : Block) (associated data : Bytes) :
    digest subkey associated data =
      Field.multiply (absorb subkey 0 (significantBlocks associated data) ^^^
        lengthBlock associated.length data.length) subkey := by
  rw [significantBlocks, absorb_dropWhile, digest, digestBlocks, absorb_append, absorb_cons]
  rfl

/-- Texts with the same significant blocks have one digest under every subkey if their lengths
agree modulo 2²⁹. -/
theorem digest_congr (subkey : Block)
    (sameBlocks : significantBlocks associated data =
      significantBlocks otherAssociated otherData)
    (sameAssociated : associated.length % 2 ^ 29 = otherAssociated.length % 2 ^ 29)
    (sameData : data.length % 2 ^ 29 = otherData.length % 2 ^ 29) :
    digest subkey associated data = digest subkey otherAssociated otherData := by
  rw [digest_eq_multiply, digest_eq_multiply, sameBlocks,
    lengthBlock_eq_iff.mpr ⟨sameAssociated, sameData⟩]

/-- Only a zero subkey gives texts with the same significant blocks one digest otherwise. -/
theorem digest_eq_iff_of_significantBlocks (nonzero : subkey ≠ 0)
    (sameBlocks : significantBlocks associated data =
      significantBlocks otherAssociated otherData) :
    digest subkey associated data = digest subkey otherAssociated otherData ↔
      associated.length % 2 ^ 29 = otherAssociated.length % 2 ^ 29 ∧
        data.length % 2 ^ 29 = otherData.length % 2 ^ 29 := by
  constructor
  · intro same
    rw [digest_eq_multiply, digest_eq_multiply, sameBlocks] at same
    have product := Field.multiply_right_cancel nonzero same
    exact lengthBlock_eq_iff.mp ((BitVec.xor_right_inj _).mp product)
  · rintro ⟨sameAssociated, sameData⟩
    exact digest_congr subkey sameBlocks sameAssociated sameData

/-- Zeros that fill up a last block do not change it. -/
theorem significantBlocks_append_zeros {behindAssociated behindData : Nat}
    (fitsAssociated : (associated.length + behindAssociated + 15) / 16 =
      (associated.length + 15) / 16)
    (fitsData : (data.length + behindData + 15) / 16 = (data.length + 15) / 16) :
    significantBlocks (associated ++ List.replicate behindAssociated 0)
        (data ++ List.replicate behindData 0) = significantBlocks associated data := by
  rw [significantBlocks, Block.sequence_append_zeros fitsAssociated,
    Block.sequence_append_zeros fitsData, significantBlocks]

theorem dropWhile_sequence_zeros_append (zeros : Nat) (blocks : List Block) :
    (Block.sequence (List.replicate zeros 0) ++ blocks).dropWhile (· == 0) =
      blocks.dropWhile (· == 0) :=
  List.dropWhile_append_of_pos fun _ member =>
    beq_iff_eq.mpr (Block.eq_zero_of_mem_sequence_zeros member)

/-- Zero blocks in front are not significant. -/
theorem significantBlocks_zeros_append {zeros : Nat} (whole : Block.size ∣ zeros)
    (associated data : Bytes) :
    significantBlocks (List.replicate zeros 0 ++ associated) data =
      significantBlocks associated data := by
  rw [significantBlocks, Block.sequence_zeros_append whole, List.append_assoc,
    dropWhile_sequence_zeros_append, significantBlocks]

/-- Nor are they behind associated data that is zero all through. -/
theorem significantBlocks_zeros_zeros_append {zeros : Nat} (whole : Block.size ∣ zeros)
    (ahead : Nat) (data : Bytes) :
    significantBlocks (List.replicate ahead 0) (List.replicate zeros 0 ++ data) =
      significantBlocks (List.replicate ahead 0) data := by
  rw [significantBlocks, Block.sequence_zeros_append whole, dropWhile_sequence_zeros_append,
    dropWhile_sequence_zeros_append, significantBlocks, dropWhile_sequence_zeros_append]

/-- Where whole blocks pass from one text to the other makes no difference. -/
theorem significantBlocks_append {moved : Bytes}
    (wholeAssociated : Block.size ∣ associated.length) (wholeMoved : Block.size ∣ moved.length) :
    significantBlocks (associated ++ moved) data = significantBlocks associated (moved ++ data) := by
  rw [significantBlocks, Block.sequence_append wholeAssociated, List.append_assoc,
    ← Block.sequence_append wholeMoved, significantBlocks]

/-- Zeros that fill up a last block show in the digest, there being fewer than sixteen. -/
theorem digest_append_zeros_eq_iff (nonzero : subkey ≠ 0) {behindAssociated behindData : Nat}
    (fitsAssociated : (associated.length + behindAssociated + 15) / 16 =
      (associated.length + 15) / 16)
    (fitsData : (data.length + behindData + 15) / 16 = (data.length + 15) / 16) :
    digest subkey (associated ++ List.replicate behindAssociated 0)
        (data ++ List.replicate behindData 0) = digest subkey associated data ↔
      behindAssociated = 0 ∧ behindData = 0 := by
  have sameBlocks := significantBlocks_append_zeros fitsAssociated fitsData
  rw [digest_eq_iff_of_significantBlocks nonzero sameBlocks, List.length_append,
    List.length_append, List.length_replicate, List.length_replicate]
  omega

/-- Zero blocks in front show in the digest unless their bytes are a multiple of 2²⁹. -/
theorem digest_zeros_append_eq_iff (nonzero : subkey ≠ 0) {zeros : Nat}
    (whole : Block.size ∣ zeros) :
    digest subkey (List.replicate zeros 0 ++ associated) data = digest subkey associated data ↔
      2 ^ 29 ∣ zeros := by
  have sameBlocks := significantBlocks_zeros_append whole associated data
  rw [digest_eq_iff_of_significantBlocks nonzero sameBlocks, List.length_append,
    List.length_replicate]
  omega

theorem digest_zeros_zeros_append_eq_iff (nonzero : subkey ≠ 0) {zeros : Nat}
    (whole : Block.size ∣ zeros) (ahead : Nat) :
    digest subkey (List.replicate ahead 0) (List.replicate zeros 0 ++ data) =
        digest subkey (List.replicate ahead 0) data ↔ 2 ^ 29 ∣ zeros := by
  have sameBlocks := significantBlocks_zeros_zeros_append whole ahead data
  rw [digest_eq_iff_of_significantBlocks nonzero sameBlocks, List.length_append,
    List.length_replicate, List.length_replicate]
  omega

/-- Whole blocks that pass from one text to the other show likewise. -/
theorem digest_append_eq_iff (nonzero : subkey ≠ 0) {moved : Bytes}
    (wholeAssociated : Block.size ∣ associated.length) (wholeMoved : Block.size ∣ moved.length) :
    digest subkey (associated ++ moved) data = digest subkey associated (moved ++ data) ↔
      2 ^ 29 ∣ moved.length := by
  have sameBlocks : significantBlocks (associated ++ moved) data =
      significantBlocks associated (moved ++ data) :=
    significantBlocks_append wholeAssociated wholeMoved
  rw [digest_eq_iff_of_significantBlocks nonzero sameBlocks, List.length_append,
    List.length_append]
  omega

end SealedEnvelope
