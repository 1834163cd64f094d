import Mathlib.Algebra.Polynomial.Roots
import Mathlib.Data.FinEnum
import SealedEnvelope.Proofs.Digest.Horner
import SealedEnvelope.Proofs.Digest.Polynomial

/-!
How many subkeys give two digests a chosen difference.

Such a subkey is a root of a polynomial that is not zero, and there are no more of these than
its degree.
-/

namespace SealedEnvelope

open Polynomial SealedEnvelope.Field

/-- A polynomial has no more roots among the subkeys than its degree. -/
theorem card_roots_le {difference : (AdjoinRoot modulus)[X]} (nonzero : difference ≠ 0) :
    (Finset.univ.filter fun subkey : Block => difference.eval (residue subkey) = 0).card ≤
      difference.natDegree := by
  classical
  have isRoot : ∀ subkey ∈ Finset.univ.filter fun subkey : Block =>
      difference.eval (residue subkey) = 0, residue subkey ∈ difference.roots.toFinset := by
    intro subkey member
    rw [Finset.mem_filter] at member
    rw [Multiset.mem_toFinset, mem_roots nonzero]
    exact member.2
  calc (Finset.univ.filter fun subkey : Block => difference.eval (residue subkey) = 0).card
      ≤ difference.roots.toFinset.card :=
        Finset.card_le_card_of_injOn residue isRoot residue_injective.injOn
    _ ≤ difference.roots.card := Multiset.toFinset_card_le _
    _ ≤ difference.natDegree := card_roots' difference

variable {associated data otherAssociated otherData : Bytes}

/-- What a subkey must be a root of to give two digests a difference. -/
noncomputable def differencePolynomial (associated data otherAssociated otherData : Bytes)
    (difference : Block) : (AdjoinRoot modulus)[X] :=
  blockPolynomial (digestBlocks associated data) -
    (C (residue difference) + blockPolynomial (digestBlocks otherAssociated otherData))

theorem eval_differencePolynomial_eq_zero_iff {subkey difference : Block} :
    (differencePolynomial associated data otherAssociated otherData difference).eval
        (residue subkey) = 0 ↔
      digest subkey associated data ^^^ digest subkey otherAssociated otherData = difference := by
  have moved : difference ^^^ digest subkey otherAssociated otherData ^^^
      digest subkey otherAssociated otherData = difference := by
    rw [BitVec.xor_assoc, BitVec.xor_self, BitVec.xor_zero]
  rw [differencePolynomial, eval_sub, eval_add, eval_C, eval_blockPolynomial, eval_blockPolynomial,
    ← digest, ← digest, ← residue_xor, sub_eq_zero, residue_injective.eq_iff]
  constructor
  · intro same
    rw [same, moved]
  · intro same
    rw [← moved] at same
    exact (BitVec.xor_left_inj _).mp same

theorem natDegree_differencePolynomial_le (difference : Block) :
    (differencePolynomial associated data otherAssociated otherData difference).natDegree ≤
      max (blockCount associated data) (blockCount otherAssociated otherData) + 1 := by
  have degree (associated data : Bytes) :
      (blockPolynomial (digestBlocks associated data)).natDegree ≤ blockCount associated data + 1 :=
    (natDegree_blockPolynomial_le _).trans (length_digestBlocks associated data).le
  calc (differencePolynomial associated data otherAssociated otherData difference).natDegree
      ≤ max (blockPolynomial (digestBlocks associated data)).natDegree
          (C (residue difference) +
            blockPolynomial (digestBlocks otherAssociated otherData)).natDegree :=
        natDegree_sub_le _ _
    _ = max (blockPolynomial (digestBlocks associated data)).natDegree
          (blockPolynomial (digestBlocks otherAssociated otherData)).natDegree := by
        rw [natDegree_C_add]
    _ ≤ max (blockCount associated data + 1) (blockCount otherAssociated otherData + 1) :=
        max_le_max (degree associated data) (degree otherAssociated otherData)
    _ = max (blockCount associated data) (blockCount otherAssociated otherData) + 1 :=
        max_add_add_right _ _ 1

/-- No difference is constant, since no digest has a constant coefficient. -/
theorem differencePolynomial_ne_zero (shortAssociated : associated.length < 2 ^ 29)
    (shortData : data.length < 2 ^ 29) (shortOtherAssociated : otherAssociated.length < 2 ^ 29)
    (shortOtherData : otherData.length < 2 ^ 29)
    (different : (associated, data) ≠ (otherAssociated, otherData)) (difference : Block) :
    differencePolynomial associated data otherAssociated otherData difference ≠ 0 := by
  intro vanishes
  have same : blockPolynomial (digestBlocks associated data) =
      C (residue difference) + blockPolynomial (digestBlocks otherAssociated otherData) :=
    sub_eq_zero.mp vanishes
  have constant := congrArg (fun polynomial => polynomial.coeff 0) same
  simp only [coeff_add, coeff_C_zero, coeff_zero_blockPolynomial, add_zero] at constant
  rw [← constant, C_0, zero_add] at same
  obtain ⟨sameAssociated, sameData⟩ := blockPolynomial_digestBlocks_injective shortAssociated
    shortData shortOtherAssociated shortOtherData same
  exact different (Prod.ext sameAssociated sameData)

theorem card_xor_eq_le (shortAssociated : associated.length < 2 ^ 29)
    (shortData : data.length < 2 ^ 29) (shortOtherAssociated : otherAssociated.length < 2 ^ 29)
    (shortOtherData : otherData.length < 2 ^ 29)
    (different : (associated, data) ≠ (otherAssociated, otherData)) (difference : Block) :
    (Finset.univ.filter fun subkey => digest subkey associated data ^^^
        digest subkey otherAssociated otherData = difference).card ≤
      max (blockCount associated data) (blockCount otherAssociated otherData) + 1 := by
  classical
  have nonzero := differencePolynomial_ne_zero shortAssociated shortData shortOtherAssociated
    shortOtherData different difference
  have roots := (card_roots_le nonzero).trans (natDegree_differencePolynomial_le difference)
  simpa only [eval_differencePolynomial_eq_zero_iff] using roots

/-- Few subkeys give texts that are not both empty a chosen digest, since empty texts have the
digest zero. -/
theorem card_digest_eq_le (shortAssociated : associated.length < 2 ^ 29)
    (shortData : data.length < 2 ^ 29) (nonempty : (associated, data) ≠ ([], [])) (value : Block) :
    (Finset.univ.filter fun subkey => digest subkey associated data = value).card ≤
      blockCount associated data + 1 := by
  have shortEmpty : ([] : Bytes).length < 2 ^ 29 := by decide
  have noBlocks : blockCount [] [] = 0 := rfl
  have unchanged (subkey : Block) :
      digest subkey associated data ^^^ digest subkey [] [] = digest subkey associated data := by
    rw [digest_nil_nil]
    exact BitVec.xor_zero
  have bound := card_xor_eq_le shortAssociated shortData shortEmpty shortEmpty nonempty value
  rw [noBlocks, Nat.max_zero] at bound
  simpa only [unchanged] using bound

end SealedEnvelope
