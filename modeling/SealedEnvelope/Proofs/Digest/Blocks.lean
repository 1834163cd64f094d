import SealedEnvelope.Digest
import SealedEnvelope.Proofs.Blocks

/-!
What the blocks of a digest tell about its two texts: the last one tells their lengths, as long
as these fit, and with the lengths known the blocks tell the texts.
-/

namespace SealedEnvelope

/-- Cutting before or behind the product makes no difference. -/
theorem toNat_bitCount (length : Nat) : (bitCount length).toNat = 8 * length % 2 ^ 32 := by
  rw [bitCount, BitVec.toNat_mul, BitVec.toNat_ofNat, BitVec.toNat_ofNat]
  omega

theorem toNat_lengthBlock (associatedLength dataLength : Nat) :
    (lengthBlock associatedLength dataLength).toNat =
      8 * associatedLength % 2 ^ 32 * 2 ^ 64 + 8 * dataLength % 2 ^ 32 := by
  rw [lengthBlock, toNat_append_eq_add, toNat_append_eq_add, toNat_append_eq_add,
    toNat_bitCount, toNat_bitCount, BitVec.toNat_ofNat]
  omega

/-- The lengths in bits are kept modulo 2³², and so the lengths in bytes modulo 2²⁹. -/
theorem lengthBlock_eq_iff {associatedLength dataLength otherAssociated otherData : Nat} :
    lengthBlock associatedLength dataLength = lengthBlock otherAssociated otherData ↔
      associatedLength % 2 ^ 29 = otherAssociated % 2 ^ 29 ∧
        dataLength % 2 ^ 29 = otherData % 2 ^ 29 := by
  rw [← BitVec.toNat_inj, toNat_lengthBlock, toNat_lengthBlock]
  omega

theorem lengthBlock_injective {associatedLength dataLength otherAssociated otherData : Nat}
    (shortAssociated : associatedLength < 2 ^ 29) (shortData : dataLength < 2 ^ 29)
    (shortOtherAssociated : otherAssociated < 2 ^ 29) (shortOtherData : otherData < 2 ^ 29)
    (same : lengthBlock associatedLength dataLength = lengthBlock otherAssociated otherData) :
    associatedLength = otherAssociated ∧ dataLength = otherData := by
  have remainders := lengthBlock_eq_iff.mp same
  omega

/-- The number of blocks that two texts are cut into. -/
def blockCount (associated data : Bytes) : Nat :=
  (associated.length + 15) / 16 + (data.length + 15) / 16

theorem length_digestBlocks (associated data : Bytes) :
    (digestBlocks associated data).length = blockCount associated data + 1 := by
  rw [digestBlocks, List.length_append, List.length_append, Block.length_sequence,
    Block.length_sequence]
  rfl

theorem digestBlocks_injective {associated data otherAssociated otherData : Bytes}
    (sameAssociated : associated.length = otherAssociated.length)
    (sameData : data.length = otherData.length)
    (same : digestBlocks associated data = digestBlocks otherAssociated otherData) :
    associated = otherAssociated ∧ data = otherData := by
  have sameCount : (Block.sequence associated).length = (Block.sequence otherAssociated).length := by
    rw [Block.length_sequence, Block.length_sequence, sameAssociated]
  rw [digestBlocks, digestBlocks, sameAssociated, sameData] at same
  have texts := List.append_cancel_right same
  obtain ⟨front, back⟩ := List.append_inj texts sameCount
  exact ⟨Block.sequence_injective sameAssociated front, Block.sequence_injective sameData back⟩

end SealedEnvelope
