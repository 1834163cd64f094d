import SealedEnvelope.Proofs.Field.Residue
import SealedEnvelope.Proofs.Words

/-!
The product of two blocks as the remainder of a product of polynomials.

The bits of a block are read from the most significant one of its first byte on. Among all blocks,
the product is the only one whose polynomial is congruent to the product of the two polynomials,
which is formed without carries and not reduced.
-/

namespace SealedEnvelope.Field

open Polynomial

/-- The polynomial of a block, told from its bytes. -/
theorem coeff_polynomial_bytes (block : Block) (place : Nat) :
    (polynomial block).coeff place =
      coefficient ((block.bytes.getD (place / 8) 0).toNat.testBit (7 - place % 8)) := by
  rw [coeff_polynomial, Block.getMsbD_eq_testBit]

theorem natDegree_polynomial_le (block : Block) : (polynomial block).natDegree ≤ 127 := by
  refine natDegree_le_iff_coeff_eq_zero.mpr fun place beyond => ?_
  rw [coeff_polynomial, BitVec.getMsbD_of_ge block place beyond]
  rfl

/-- Before it is reduced, a product has degree 254 at most. -/
theorem natDegree_product_le (left right : Block) :
    (polynomial left * polynomial right).natDegree ≤ 254 :=
  natDegree_mul_le_of_le (natDegree_polynomial_le left) (natDegree_polynomial_le right)

theorem coefficient_and (left right : Bool) :
    coefficient (left && right) = coefficient left * coefficient right := by
  revert left right
  decide

/-- A coefficient of the product before it is reduced counts, without carry, the pairs of bits that
are both set and whose places add up to its own. -/
theorem coeff_product (left right : Block) (place : Nat) :
    (polynomial left * polynomial right).coeff place =
      ∑ places ∈ Finset.HasAntidiagonal.antidiagonal place,
        coefficient (left.getMsbD places.1 && right.getMsbD places.2) := by
  rw [coeff_mul]
  refine Finset.sum_congr rfl fun places _ => ?_
  rw [coeff_polynomial, coeff_polynomial, coefficient_and]

theorem residue_eq_mk_iff {block : Block} {full : (ZMod 2)[X]} :
    residue block = AdjoinRoot.mk modulus full ↔ modulus ∣ polynomial block - full := by
  rw [residue, AdjoinRoot.mk_eq_mk]

/-- The product of two blocks is the product of their polynomials modulo x¹²⁸ + x⁷ + x² + x + 1.
A block is read from the top bit of its first byte, the coefficient of x⁰, to the lowest bit of
its last, that of x¹²⁷. The product of the polynomials is the full one, without carries and of
degree 254 at most, and the product of the blocks is the only block congruent to it. -/
theorem multiply_eq_iff_congruent :
    modulus = X ^ 128 + X ^ 7 + X ^ 2 + X + 1 ∧
    (∀ block place, (polynomial block).coeff place =
      coefficient ((block.bytes.getD (place / 8) 0).toNat.testBit (7 - place % 8))) ∧
    ∀ left right,
      (∀ place, (polynomial left * polynomial right).coeff place =
        ∑ places ∈ Finset.HasAntidiagonal.antidiagonal place,
          coefficient (left.getMsbD places.1 && right.getMsbD places.2)) ∧
      (polynomial left * polynomial right).natDegree ≤ 254 ∧
      ∀ product, product = multiply left right ↔
        modulus ∣ polynomial product - polynomial left * polynomial right := by
  refine ⟨?_, coeff_polynomial_bytes, fun left right =>
    ⟨coeff_product left right, natDegree_product_le left right, fun product => ?_⟩⟩
  · rw [modulus_eq, remainder]
    ring
  · have same : AdjoinRoot.mk modulus (polynomial left * polynomial right) =
        residue (multiply left right) := by
      rw [residue_multiply, map_mul, residue, residue]
    rw [← residue_eq_mk_iff, same, residue_injective.eq_iff]

end SealedEnvelope.Field
