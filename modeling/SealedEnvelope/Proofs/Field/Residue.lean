import Mathlib.RingTheory.AdjoinRoot
import Mathlib.Algebra.CharP.Two
import Mathlib.Algebra.Field.ZMod
import SealedEnvelope.Field

/-!
Blocks as polynomials over two elements modulo x¹²⁸ + x⁷ + x² + x + 1.

Every block stands for one polynomial below degree 128, hence for one residue. Exclusive or
is addition of residues, and the product of blocks is the product of residues.
-/

namespace SealedEnvelope.Field

open Polynomial

/-- What x¹²⁸ leaves, as a polynomial. -/
noncomputable def remainder : (ZMod 2)[X] := X ^ 7 + X ^ 2 + X + 1

/-- x¹²⁸ + x⁷ + x² + x + 1. -/
noncomputable def modulus : (ZMod 2)[X] := monomial 128 1 + remainder

theorem modulus_eq : modulus = X ^ 128 + remainder := by
  unfold modulus
  rw [monomial_one_right_eq_X_pow]

theorem degree_remainder_lt : remainder.degree < (128 : Nat) := by
  refine (degree_lt_iff_coeff_zero _ 128).mpr fun place beyond => ?_
  have notSeven : place ≠ 7 := by omega
  have notTwo : place ≠ 2 := by omega
  have notOne : 1 ≠ place := by omega
  have notZero : place ≠ 0 := by omega
  simp [remainder, coeff_X_pow, coeff_X, coeff_one, notSeven, notTwo, notOne, notZero]

theorem monic_modulus : modulus.Monic := by
  rw [modulus_eq]
  exact monic_X_pow_add degree_remainder_lt

theorem natDegree_modulus : modulus.natDegree = 128 := by
  rw [modulus_eq, natDegree_add_eq_left_of_degree_lt]
  · exact natDegree_X_pow 128
  · rw [degree_X_pow]
    exact degree_remainder_lt

/-- The element that a bit stands for. -/
def coefficient (bit : Bool) : ZMod 2 := if bit then 1 else 0

theorem coefficient_injective {left right : Bool} (same : coefficient left = coefficient right) :
    left = right := by
  revert left right
  decide

theorem coefficient_xor (left right : Bool) :
    coefficient (left ^^ right) = coefficient left + coefficient right := by
  revert left right
  decide

/-- The polynomial whose coefficients are the bits of a block, x⁰ first. -/
noncomputable def polynomial (block : Block) : (ZMod 2)[X] :=
  ∑ place ∈ Finset.range 128, monomial place (coefficient (block.getMsbD place))

theorem coeff_polynomial (block : Block) (place : Nat) :
    (polynomial block).coeff place = coefficient (block.getMsbD place) := by
  simp only [polynomial, finsetSum_coeff, coeff_monomial, Finset.sum_ite_eq', Finset.mem_range]
  by_cases inside : place < 128
  · rw [if_pos inside]
  · rw [if_neg inside, BitVec.getMsbD_of_ge block place (by omega)]
    rfl

theorem polynomial_injective {left right : Block} (same : polynomial left = polynomial right) :
    left = right := by
  apply BitVec.eq_of_getMsbD_eq
  intro place _
  apply coefficient_injective
  rw [← coeff_polynomial, same, coeff_polynomial]

theorem degree_polynomial_lt (block : Block) : (polynomial block).degree < (128 : Nat) := by
  refine (degree_lt_iff_coeff_zero _ 128).mpr fun place beyond => ?_
  rw [coeff_polynomial, BitVec.getMsbD_of_ge block place beyond]
  rfl

@[simp] theorem polynomial_zero : polynomial 0 = 0 := by
  ext place
  rw [coeff_polynomial]
  simp [coefficient]

theorem polynomial_xor (left right : Block) :
    polynomial (left ^^^ right) = polynomial left + polynomial right := by
  ext place
  rw [coeff_add, coeff_polynomial, coeff_polynomial, coeff_polynomial, BitVec.getMsbD_xor,
    coefficient_xor]

/-- A block of one bit is a power of x. -/
theorem polynomial_one_shift {place : Nat} (inside : place < 128) :
    polynomial (one >>> place) = X ^ place := by
  ext index
  have top : one = BitVec.twoPow 128 127 := rfl
  have single : (one >>> place).getMsbD index = decide (index = place) := by
    rw [top, BitVec.getMsbD_ushiftRight, BitVec.getMsbD_twoPow, Bool.eq_iff_iff]
    simp only [Bool.and_eq_true, Bool.not_eq_true', decide_eq_true_eq, decide_eq_false_iff_not]
    omega
  rw [coeff_polynomial, coeff_X_pow, single]
  by_cases same : index = place <;> simp [coefficient, same]

theorem polynomial_one : polynomial one = 1 :=
  (polynomial_one_shift (by decide : 0 < 128)).trans (pow_zero X)

theorem polynomial_reduction : polynomial reduction = remainder := by
  have bits : reduction = one >>> 7 ^^^ one >>> 2 ^^^ one >>> 1 ^^^ one := by decide
  rw [bits, polynomial_xor, polynomial_xor, polynomial_xor, polynomial_one,
    polynomial_one_shift (by decide), polynomial_one_shift (by decide),
    polynomial_one_shift (by decide), pow_one, remainder]

/-- Moving a block one place to the right multiplies by x and drops x¹²⁸. -/
theorem X_mul_polynomial (block : Block) :
    X * polynomial block =
      polynomial (block >>> 1) + monomial 128 (coefficient (block.getLsbD 0)) := by
  have lowest : block.getLsbD 0 = block.getMsbD 127 := by simp [BitVec.getMsbD]
  ext place
  rw [coeff_add, coeff_polynomial, coeff_monomial, BitVec.getMsbD_ushiftRight, lowest]
  cases place with
  | zero => simp [coefficient]
  | succ place =>
    rw [coeff_X_mul, coeff_polynomial]
    by_cases inside : place + 1 < 128
    · have notTop : 128 ≠ place + 1 := by omega
      simp [inside, notTop]
    · by_cases top : 128 = place + 1
      · have lastPlace : place = 127 := by omega
        simp [lastPlace, coefficient]
      · rw [BitVec.getMsbD_of_ge block place (by omega)]
        simp [inside, top, coefficient]

/-- The residue that a block stands for. -/
noncomputable def residue (block : Block) : AdjoinRoot modulus :=
  AdjoinRoot.mk modulus (polynomial block)

@[simp] theorem residue_zero : residue 0 = 0 := by
  rw [residue, polynomial_zero, map_zero]

@[simp] theorem residue_one : residue one = 1 := by
  rw [residue, polynomial_one, map_one]

theorem residue_xor (left right : Block) :
    residue (left ^^^ right) = residue left + residue right := by
  rw [residue, polynomial_xor, map_add, residue, residue]

/-- No block but zero reaches the degree that the modulus could take away. -/
theorem eq_zero_of_residue_eq_zero {block : Block} (vanishes : residue block = 0) : block = 0 := by
  rw [residue, AdjoinRoot.mk_eq_zero] at vanishes
  have small : (polynomial block).degree < modulus.degree := by
    rw [degree_eq_natDegree monic_modulus.ne_zero, natDegree_modulus]
    exact degree_polynomial_lt block
  apply polynomial_injective
  rw [eq_zero_of_dvd_of_degree_lt vanishes small, polynomial_zero]

theorem residue_injective : Function.Injective residue := by
  intro left right same
  have vanishes : residue (left ^^^ right) = 0 := by
    rw [residue_xor, same, ← residue_xor, BitVec.xor_self]
    exact residue_zero
  exact BitVec.xor_eq_zero_iff.mp (eq_zero_of_residue_eq_zero vanishes)

theorem residue_timesX (block : Block) :
    residue (timesX block) = AdjoinRoot.root modulus * residue block := by
  have topPower : AdjoinRoot.mk modulus (monomial 128 1) = AdjoinRoot.mk modulus remainder := by
    rw [AdjoinRoot.mk_eq_mk, CharTwo.sub_eq_add]
    exact dvd_of_eq rfl
  have moved : AdjoinRoot.root modulus * residue block = residue (block >>> 1) +
      AdjoinRoot.mk modulus (monomial 128 (coefficient (block.getLsbD 0))) := by
    rw [residue, ← AdjoinRoot.mk_X, ← map_mul, X_mul_polynomial, map_add, residue]
  rw [moved, timesX]
  cases falls : block.getLsbD 0 with
  | true =>
    rw [if_pos rfl, residue_xor, coefficient, if_pos rfl, topPower, ← polynomial_reduction]
    rfl
  | false => simp [coefficient]

/-- What the first `count` bits of a product have done: the running sum is the multiple of the
right factor by that much of the left one, and the multiple has moved on by `count` places. -/
theorem residue_multiplySteps (left right : Block) (count : Nat) :
    let state := (List.range count).foldl (multiplyStep left) (0, right)
    residue state.1 = AdjoinRoot.mk modulus
        (∑ place ∈ Finset.range count, monomial place (coefficient (left.getMsbD place))) *
          residue right ∧
      residue state.2 = AdjoinRoot.root modulus ^ count * residue right := by
  induction count with
  | zero => exact ⟨by simpa using residue_zero, by simp⟩
  | succ count ih =>
    obtain ⟨sum, multiple⟩ := ih
    simp only [List.range_succ, List.foldl_append, List.foldl_cons, List.foldl_nil, multiplyStep]
    refine ⟨?_, ?_⟩
    · rw [Finset.sum_range_succ, map_add, add_mul, ← sum]
      cases left.getMsbD count with
      | true =>
        rw [if_pos rfl, residue_xor, multiple, coefficient, if_pos rfl,
          monomial_one_right_eq_X_pow, map_pow, AdjoinRoot.mk_X]
      | false => simp [coefficient]
    · rw [residue_timesX, multiple, pow_succ']
      ring

/-- The product of blocks is the product of what they stand for. -/
theorem residue_multiply (left right : Block) :
    residue (multiply left right) = residue left * residue right :=
  (residue_multiplySteps left right 128).1

end SealedEnvelope.Field
