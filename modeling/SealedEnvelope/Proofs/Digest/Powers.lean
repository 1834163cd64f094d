import SealedEnvelope.Proofs.Digest.Blocks
import SealedEnvelope.Proofs.Digest.Horner

/-!
The digest as a sum of blocks, each multiplied by a power of the subkey.

Both texts are cut and filled up on their own, and a block of their lengths comes last. That one is
multiplied by the subkey itself, and every block ahead by one power more than the next.
-/

namespace SealedEnvelope

open SealedEnvelope.Field

/-! ### Sums -/

/-- The sum of some blocks. -/
def total (blocks : List Block) : Block := blocks.foldr (· ^^^ ·) 0

/-- Blocks times powers of a subkey, the last block times the subkey itself. -/
def weighted (subkey : Block) (blocks : List Block) : List Block :=
  blocks.mapIdx fun place block => multiply block (power subkey (blocks.length - place))

theorem weighted_cons (subkey block : Block) (rest : List Block) :
    weighted subkey (block :: rest) =
      multiply block (power subkey (rest.length + 1)) :: weighted subkey rest := by
  simp only [weighted, List.mapIdx_cons, List.length_cons, Nat.sub_zero, Nat.add_sub_add_right]

/-- What the accumulator holds is multiplied once for each block that is still to be absorbed. -/
theorem absorb_eq_total (subkey accumulator : Block) (blocks : List Block) :
    absorb subkey accumulator blocks =
      multiply accumulator (power subkey blocks.length) ^^^ total (weighted subkey blocks) := by
  induction blocks generalizing accumulator with
  | nil =>
    rw [List.length_nil, power, multiply_one]
    exact BitVec.xor_zero.symm
  | cons block rest ih =>
    calc absorb subkey accumulator (block :: rest)
        = multiply (multiply (accumulator ^^^ block) subkey) (power subkey rest.length) ^^^
            total (weighted subkey rest) := by rw [absorb_cons, ih]
      _ = multiply (accumulator ^^^ block) (power subkey (rest.length + 1)) ^^^
            total (weighted subkey rest) := by rw [multiply_assoc, multiply_power]
      _ = multiply accumulator (power subkey (rest.length + 1)) ^^^
            (multiply block (power subkey (rest.length + 1)) ^^^
              total (weighted subkey rest)) := by rw [xor_multiply, BitVec.xor_assoc]
      _ = multiply accumulator (power subkey (block :: rest).length) ^^^
            total (weighted subkey (block :: rest)) := by
          rw [weighted_cons, List.length_cons]
          rfl

/-! ### Blocks in bytes -/

/-- A text in parts of sixteen bytes, the last one filled up with zeros. -/
def paddedParts (text : Bytes) : List Bytes :=
  (List.range ((text.length + 15) / 16)).map fun place =>
    let part := (text.drop (16 * place)).take 16
    part ++ List.replicate (16 - part.length) 0

/-- Two lengths in bits, each modulo 2³² in four bytes behind four zeros. -/
def lengthBytes (associatedLength dataLength : Nat) : Bytes :=
  List.replicate 4 0 ++ Bytes.bigEndian 4 (8 * associatedLength % 2 ^ 32) ++
    List.replicate 4 0 ++ Bytes.bigEndian 4 (8 * dataLength % 2 ^ 32)

/-- The bytes of the blocks of a digest. -/
def digestParts (associated data : Bytes) : List Bytes :=
  paddedParts associated ++ paddedParts data ++ [lengthBytes associated.length data.length]

theorem length_of_mem_paddedParts {text part : Bytes} (member : part ∈ paddedParts text) :
    part.length = 16 := by
  obtain ⟨place, _, rfl⟩ := List.mem_map.mp member
  simp only [List.length_append, List.length_take, List.length_replicate]
  omega

theorem length_lengthBytes (associatedLength dataLength : Nat) :
    (lengthBytes associatedLength dataLength).length = 16 := by
  simp [lengthBytes]

theorem ofBytes_paddedParts (text : Bytes) :
    (paddedParts text).map Block.ofBytes = Block.sequence text := by
  rw [paddedParts, List.map_map, Block.sequence_eq_map]
  refine List.map_congr_left fun place _ => ?_
  calc Block.ofBytes ((text.drop (16 * place)).take 16 ++
        List.replicate (16 - ((text.drop (16 * place)).take 16).length) 0)
      = Block.ofBytes ((text.drop (16 * place)).take 16) := Block.ofBytes_append_zeros _ _
    _ = Block.ofBytes (text.drop (16 * place)) := Block.ofBytes_take _

theorem ofBytes_lengthBytes (associatedLength dataLength : Nat) :
    Block.ofBytes (lengthBytes associatedLength dataLength) =
      lengthBlock associatedLength dataLength := by
  have full : (lengthBytes associatedLength dataLength).length = Block.size :=
    length_lengthBytes associatedLength dataLength
  apply Block.bytes_injective
  rw [Block.bytes_ofBytes_of_length full]
  apply Bytes.eq_of_value_eq (by rw [full, Block.length_bytes])
  rw [Block.value_bytes, toNat_lengthBlock, lengthBytes]
  simp only [Bytes.value_append, Bytes.value_zeros, Bytes.value_bigEndian, Bytes.length_bigEndian,
    List.length_replicate]
  omega

theorem ofBytes_digestParts (associated data : Bytes) :
    (digestParts associated data).map Block.ofBytes = digestBlocks associated data := by
  rw [digestParts, List.map_append, List.map_append, List.map_singleton, ofBytes_paddedParts,
    ofBytes_paddedParts, ofBytes_lengthBytes, digestBlocks]

/-- The digest is a polynomial in the subkey. The blocks of the associated data, those of the data
and the block of both lengths, all of sixteen bytes, are its coefficients: with `m` blocks ahead of
the last one, block `i`, counted from one, is multiplied by the power `m + 2 - i` of the subkey, and
the digest is the sum. -/
theorem digest_eq_sum_of_powers (subkey : Block) (associated data : Bytes) :
    let parts := digestParts associated data
    let m := (associated.length + 15) / 16 + (data.length + 15) / 16
    parts.map List.length = List.replicate (m + 1) 16 ∧
      digest subkey associated data = total ((parts.map Block.ofBytes).mapIdx fun place block =>
        multiply block (power subkey (m + 2 - (place + 1)))) := by
  intro parts m
  have count : parts.length = m + 1 := by
    have sameCount := congrArg List.length (ofBytes_digestParts associated data)
    rwa [List.length_map, length_digestBlocks] at sameCount
  refine ⟨List.eq_replicate_iff.mpr ⟨by rw [List.length_map, count], ?_⟩, ?_⟩
  · intro size member
    obtain ⟨part, isPart, rfl⟩ := List.mem_map.mp member
    simp only [parts, digestParts, List.mem_append, List.mem_singleton] at isPart
    rcases isPart with (ofAssociated | ofData) | rfl
    · exact length_of_mem_paddedParts ofAssociated
    · exact length_of_mem_paddedParts ofData
    · exact length_lengthBytes _ _
  · have blocks : parts.map Block.ofBytes = digestBlocks associated data :=
      ofBytes_digestParts associated data
    have sameCount : (digestBlocks associated data).length = m + 1 := length_digestBlocks _ _
    have vanishes : multiply 0 (power subkey (digestBlocks associated data).length) = 0 :=
      zero_multiply _
    have sameWeights : weighted subkey (digestBlocks associated data) =
        (digestBlocks associated data).mapIdx fun place block =>
          multiply block (power subkey (m + 2 - (place + 1))) := by
      have exponent (place : Nat) : m + 1 - place = m + 2 - (place + 1) := by omega
      simp only [weighted, sameCount, exponent]
    rw [digest, absorb_eq_total, vanishes, blocks, sameWeights]
    exact BitVec.zero_xor

end SealedEnvelope
