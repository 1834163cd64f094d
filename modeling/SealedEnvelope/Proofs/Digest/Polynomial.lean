import SealedEnvelope.Proofs.Digest.Blocks
import SealedEnvelope.Proofs.Field.Irreducible

/-!
The digest as a polynomial in the subkey over the field of residues.

The last block absorbed is the coefficient of X, the one before it that of X², and so on. There
is no constant coefficient.
-/

namespace SealedEnvelope

open Polynomial SealedEnvelope.Field

/-- Absorbing blocks, with an unknown in place of the subkey. -/
noncomputable def blockPolynomial (blocks : List Block) : (AdjoinRoot modulus)[X] :=
  blocks.foldl (fun sum block => (sum + C (residue block)) * X) 0

theorem blockPolynomial_append_singleton (front : List Block) (last : Block) :
    blockPolynomial (front ++ [last]) = (blockPolynomial front + C (residue last)) * X :=
  List.foldl_append

theorem eval_blockPolynomial (subkey : Block) (blocks : List Block) :
    (blockPolynomial blocks).eval (residue subkey) = residue (absorb subkey 0 blocks) := by
  induction blocks using List.reverseRecOn with
  | nil =>
    rw [blockPolynomial, absorb, List.foldl_nil, List.foldl_nil, eval_zero]
    exact residue_zero.symm
  | append_singleton front last ih =>
    have absorbed : absorb subkey 0 (front ++ [last]) =
        multiply (absorb subkey 0 front ^^^ last) subkey := List.foldl_append
    rw [blockPolynomial_append_singleton, absorbed, residue_multiply, residue_xor, ← ih, eval_mul,
      eval_add, eval_C, eval_X]

theorem natDegree_blockPolynomial_le (blocks : List Block) :
    (blockPolynomial blocks).natDegree ≤ blocks.length := by
  induction blocks using List.reverseRecOn with
  | nil => exact natDegree_zero.le
  | append_singleton front last ih =>
    rw [blockPolynomial_append_singleton, List.length_append, List.length_singleton]
    refine natDegree_mul_le.trans (Nat.add_le_add ?_ natDegree_X_le)
    exact (natDegree_add_C).le.trans ih

theorem coeff_zero_blockPolynomial (blocks : List Block) : (blockPolynomial blocks).coeff 0 = 0 := by
  induction blocks using List.reverseRecOn with
  | nil => rfl
  | append_singleton front last ih =>
    rw [blockPolynomial_append_singleton, coeff_mul_X_zero]

/-- The coefficient of X is the block absorbed last. -/
theorem coeff_one_blockPolynomial (front : List Block) (last : Block) :
    (blockPolynomial (front ++ [last])).coeff 1 = residue last := by
  rw [blockPolynomial_append_singleton, coeff_mul_X, coeff_add, coeff_zero_blockPolynomial,
    coeff_C_zero, zero_add]

theorem blockPolynomial_injective {left right : List Block} (sameLength : left.length = right.length)
    (same : blockPolynomial left = blockPolynomial right) : left = right := by
  induction left using List.reverseRecOn generalizing right with
  | nil => exact (List.length_eq_zero_iff.mp sameLength.symm).symm
  | append_singleton front last ih =>
    induction right using List.reverseRecOn with
    | nil => simp at sameLength
    | append_singleton others other _ =>
      have lasts : residue last = residue other := by
        rw [← coeff_one_blockPolynomial front last, same, coeff_one_blockPolynomial]
      rw [blockPolynomial_append_singleton, blockPolynomial_append_singleton, lasts] at same
      have fronts := add_right_cancel (mul_right_cancel₀ X_ne_zero same)
      rw [residue_injective lasts, ih (by simpa using sameLength) fronts]

/-- Texts of representable lengths are told apart by the polynomials of their digests, wherever
the boundary between the two lies. -/
theorem blockPolynomial_digestBlocks_injective {associated data otherAssociated otherData : Bytes}
    (shortAssociated : associated.length < 2 ^ 29) (shortData : data.length < 2 ^ 29)
    (shortOtherAssociated : otherAssociated.length < 2 ^ 29)
    (shortOtherData : otherData.length < 2 ^ 29)
    (same : blockPolynomial (digestBlocks associated data) =
      blockPolynomial (digestBlocks otherAssociated otherData)) :
    associated = otherAssociated ∧ data = otherData := by
  have lasts : residue (lengthBlock associated.length data.length) =
      residue (lengthBlock otherAssociated.length otherData.length) := by
    rw [← coeff_one_blockPolynomial _ (lengthBlock associated.length data.length),
      ← coeff_one_blockPolynomial _ (lengthBlock otherAssociated.length otherData.length)]
    exact congrArg (fun polynomial => polynomial.coeff 1) same
  obtain ⟨sameAssociated, sameData⟩ := lengthBlock_injective shortAssociated shortData
    shortOtherAssociated shortOtherData (residue_injective lasts)
  have sameCount : (digestBlocks associated data).length =
      (digestBlocks otherAssociated otherData).length := by
    rw [length_digestBlocks, length_digestBlocks, blockCount, sameAssociated, sameData]
    rfl
  exact digestBlocks_injective sameAssociated sameData (blockPolynomial_injective sameCount same)

end SealedEnvelope
