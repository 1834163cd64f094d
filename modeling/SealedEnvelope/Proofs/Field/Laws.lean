import Mathlib.Data.FinEnum
import SealedEnvelope.Proofs.Field.Irreducible

/-!
Laws of the product of blocks, read off the field of residues.

The bits of one factor choose among multiples of the other, so no law is to be seen from the
product itself. There are finitely many blocks: a factor that cancels reaches every one of them.
-/

namespace SealedEnvelope.Field

theorem multiply_zero (left : Block) : multiply left 0 = 0 := by
  apply residue_injective
  rw [residue_multiply, residue_zero, mul_zero]

theorem zero_multiply (right : Block) : multiply 0 right = 0 := by
  apply residue_injective
  rw [residue_multiply, residue_zero, zero_mul]

theorem multiply_comm (left right : Block) : multiply left right = multiply right left := by
  apply residue_injective
  rw [residue_multiply, residue_multiply, mul_comm]

theorem multiply_assoc (left middle right : Block) :
    multiply (multiply left middle) right = multiply left (multiply middle right) := by
  apply residue_injective
  rw [residue_multiply, residue_multiply, residue_multiply, residue_multiply, mul_assoc]

theorem xor_multiply (left other right : Block) :
    multiply (left ^^^ other) right = multiply left right ^^^ multiply other right := by
  apply residue_injective
  rw [residue_multiply, residue_xor, residue_xor, residue_multiply, residue_multiply, add_mul]

theorem one_multiply (right : Block) : multiply one right = right := by
  apply residue_injective
  rw [residue_multiply, residue_one, one_mul]

theorem multiply_one (left : Block) : multiply left one = left := by
  rw [multiply_comm, one_multiply]

theorem one_ne_zero : one ≠ 0 := by decide

theorem residue_eq_zero_iff {block : Block} : residue block = 0 ↔ block = 0 := by
  rw [← residue_zero, residue_injective.eq_iff]

/-- There are no divisors of zero. -/
theorem multiply_eq_zero_iff {left right : Block} :
    multiply left right = 0 ↔ left = 0 ∨ right = 0 := by
  rw [← residue_eq_zero_iff, residue_multiply, mul_eq_zero, residue_eq_zero_iff,
    residue_eq_zero_iff]

/-- A factor other than zero cancels. -/
theorem multiply_right_cancel {left other right : Block} (nonzero : right ≠ 0)
    (same : multiply left right = multiply other right) : left = other := by
  have difference : multiply (left ^^^ other) right = 0 := by
    rw [xor_multiply, same]
    exact BitVec.xor_self
  have vanishes := (multiply_eq_zero_iff.mp difference).resolve_right nonzero
  exact BitVec.xor_eq_zero_iff.mp vanishes

/-- Multiplying by a block permutes the blocks, unless it is zero. -/
theorem bijective_multiply_iff {right : Block} :
    Function.Bijective (fun left => multiply left right) ↔ right ≠ 0 := by
  constructor
  · rintro ⟨injective, _⟩ rfl
    have same : multiply one 0 = multiply 0 0 := by rw [multiply_zero, multiply_zero]
    exact one_ne_zero (injective same)
  · intro nonzero
    exact Finite.injective_iff_bijective.mp fun _ _ => multiply_right_cancel nonzero

theorem exists_multiply_eq_one_iff {left : Block} :
    (∃ inverse, multiply left inverse = one) ↔ left ≠ 0 := by
  constructor
  · rintro ⟨inverse, product⟩ rfl
    rw [zero_multiply] at product
    exact one_ne_zero product.symm
  · intro nonzero
    obtain ⟨inverse, product⟩ := (bijective_multiply_iff.mpr nonzero).2 one
    exact ⟨inverse, (multiply_comm left inverse).trans product⟩

/-- The product of so many factors that are all the same block. -/
def power (block : Block) : Nat → Block
  | 0 => one
  | count + 1 => multiply (power block count) block

theorem multiply_power (block : Block) (count : Nat) :
    multiply block (power block count) = power block (count + 1) :=
  multiply_comm block (power block count)

/-- Blocks are a field, with exclusive or for the sum: the product is commutative and associative,
it distributes, the block of the byte 80 and zeros is its identity, there are no divisors of zero,
and just the blocks other than zero have an inverse. So multiplying by a subkey permutes the
accumulators, unless the subkey is zero. -/
theorem blocks_form_field :
    (∀ left right, multiply left right = multiply right left) ∧
    (∀ left middle right,
      multiply (multiply left middle) right = multiply left (multiply middle right)) ∧
    (∀ left other right,
      multiply (left ^^^ other) right = multiply left right ^^^ multiply other right) ∧
    (one.bytes = 0x80 :: List.replicate 15 0 ∧
      ∀ block, multiply one block = block ∧ multiply block one = block) ∧
    (∀ left right, multiply left right = 0 ↔ left = 0 ∨ right = 0) ∧
    (∀ block, (∃ inverse, multiply block inverse = one) ↔ block ≠ 0) ∧
    ∀ subkey, Function.Bijective (fun accumulator => multiply accumulator subkey) ↔ subkey ≠ 0 := by
  have identity : one.bytes = 0x80 :: List.replicate 15 0 := by decide
  exact ⟨multiply_comm, multiply_assoc, xor_multiply,
    ⟨identity, fun block => ⟨one_multiply block, multiply_one block⟩⟩,
    fun _ _ => multiply_eq_zero_iff, fun _ => exists_multiply_eq_one_iff,
    fun _ => bijective_multiply_iff⟩

end SealedEnvelope.Field
