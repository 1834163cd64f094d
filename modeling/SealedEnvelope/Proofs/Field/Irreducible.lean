import Mathlib.FieldTheory.Finite.Extension
import SealedEnvelope.Proofs.Field.Residue

/-!
The modulus is irreducible, so the residues form a field.

An irreducible factor of the modulus has a degree that divides 128, since 128 squarings
bring x back to itself. It has no degree that divides 64, since 64 squarings take x to a
place whose distance from x is invertible. That leaves a factor of full degree.
-/

namespace SealedEnvelope.Field

open Polynomial

/-- The square of a block. -/
def square (block : Block) : Block := multiply block block

/-- The polynomial x. -/
def x : Block := one >>> 1

theorem residue_x : residue x = AdjoinRoot.mk modulus X := by
  rw [residue, x, polynomial_one_shift (by decide), pow_one]

theorem residue_squares (block : Block) (count : Nat) :
    residue (square^[count] block) = residue block ^ 2 ^ count := by
  induction count with
  | zero => simp
  | succ count ih =>
    rw [Function.iterate_succ_apply', square, residue_multiply, ih, ← pow_add, ← two_mul,
      ← pow_succ']

private theorem residue_squares_x (count : Nat) :
    residue (square^[count] x) = AdjoinRoot.mk modulus (X ^ Nat.card (ZMod 2) ^ count) := by
  rw [residue_squares, residue_x, Nat.card_zmod, map_pow]

/-- A number of squarings that fixes x bounds the degrees of the irreducible factors. -/
theorem natDegree_dvd_of_squares_x {factor : (ZMod 2)[X]} {count : Nat}
    (irreducible : Irreducible factor) (divides : factor ∣ modulus)
    (fixed : square^[count] x = x) : factor.natDegree ∣ count := by
  apply irreducible.natDegree_dvd_of_dvd_X_pow_card_pow_sub_X
  apply divides.trans
  rw [← AdjoinRoot.mk_eq_mk, ← residue_squares_x, fixed, residue_x]

/-- A number of squarings that moves x by an invertible distance excludes degrees. -/
theorem not_natDegree_dvd_of_squares_x {factor : (ZMod 2)[X]} {count : Nat} {inverse : Block}
    (irreducible : Irreducible factor) (divides : factor ∣ modulus)
    (moved : multiply (square^[count] x ^^^ x) inverse = one) : ¬ factor.natDegree ∣ count := by
  intro degree
  have fixes : factor ∣ X ^ Nat.card (ZMod 2) ^ count - X :=
    irreducible.natDegree_dvd_iff_dvd_X_pow_card_pow_sub_X.mp degree
  have product : AdjoinRoot.mk modulus
      ((X ^ Nat.card (ZMod 2) ^ count - X) * polynomial inverse) = AdjoinRoot.mk modulus 1 := by
    rw [CharTwo.sub_eq_add, map_mul, map_add, ← residue_squares_x, ← residue_x, ← residue_xor,
      ← residue, ← residue_multiply, moved, residue_one, map_one]
  have unitary : factor ∣ (X ^ Nat.card (ZMod 2) ^ count - X) * polynomial inverse - 1 :=
    divides.trans (AdjoinRoot.mk_eq_mk.mp product)
  have one : factor ∣ 1 := (dvd_sub_right (fixes.mul_right _)).mp unitary
  exact irreducible.not_isUnit (isUnit_of_dvd_one one)

/-- The place that 64 squarings take x to. -/
def midway : Block := 0x6F9945A9E519A7229D4C1AD657F8A686#128

theorem squares_x_midway : square^[64] x = midway := by
  decide +kernel

theorem squares_midway : square^[64] midway = x := by
  decide +kernel

theorem squares_x : square^[128] x = x := by
  rw [Function.iterate_add_apply square 64 64 x, squares_x_midway, squares_midway]

/-- The distance from x to the place midway is invertible. -/
theorem multiply_midway :
    multiply (square^[64] x ^^^ x) 0x180DA934BF53158251C13DBB149F5279#128 = one := by
  rw [squares_x_midway]
  decide +kernel

theorem irreducible_modulus : Irreducible modulus := by
  have notUnit : ¬ IsUnit modulus := by
    intro unitary
    have degree := natDegree_eq_zero_of_isUnit unitary
    rw [natDegree_modulus] at degree
    cases degree
  obtain ⟨factor, irreducible, divides⟩ :=
    WfDvdMonoid.exists_irreducible_factor notUnit monic_modulus.ne_zero
  have degree : factor.natDegree ∣ 2 ^ 7 := natDegree_dvd_of_squares_x irreducible divides squares_x
  have excluded := not_natDegree_dvd_of_squares_x irreducible divides multiply_midway
  obtain ⟨exponent, bound, natDegree⟩ := (Nat.dvd_prime_pow Nat.prime_two).mp degree
  have full : exponent = 7 := by
    by_contra lower
    refine excluded ?_
    rw [natDegree]
    exact pow_dvd_pow 2 (by omega : exponent ≤ 6)
  have associated : Associated factor modulus := by
    apply associated_of_dvd_of_natDegree_le divides monic_modulus.ne_zero
    rw [natDegree_modulus, natDegree, full]
    decide
  exact associated.irreducible irreducible

instance : Fact (Irreducible modulus) := ⟨irreducible_modulus⟩

end SealedEnvelope.Field
