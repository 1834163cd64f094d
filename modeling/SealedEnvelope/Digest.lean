import SealedEnvelope.Field

/-!
The field digest: a polynomial in the subkey whose coefficients are the blocks of the
associated data, the blocks of the data and a block of their lengths.
-/

namespace SealedEnvelope

/-- A length in bits, of which 32 bits are kept: the length in bytes is cut to them before it is
taken eight times. -/
def bitCount (length : Nat) : BitVec 32 := BitVec.ofNat 32 length * 8#32

/-- The block that binds both lengths, each in the low half of its eight bytes. -/
def lengthBlock (associatedLength dataLength : Nat) : Block :=
  0#32 ++ bitCount associatedLength ++ 0#32 ++ bitCount dataLength

/-- Horner's rule: add the next block to the accumulator, then multiply by the subkey. -/
def absorb (subkey accumulator : Block) (blocks : List Block) : Block :=
  blocks.foldl (fun acc block => Field.multiply (acc ^^^ block) subkey) accumulator

/-- The coefficients of a digest, leading one first. -/
def digestBlocks (associated data : Bytes) : List Block :=
  Block.sequence associated ++ Block.sequence data ++
    [lengthBlock associated.length data.length]

/-- The field digest of `associated` and `data`, each filled up to whole blocks. -/
def digest (subkey : Block) (associated data : Bytes) : Block :=
  absorb subkey 0 (digestBlocks associated data)

end SealedEnvelope
