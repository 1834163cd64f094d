import SealedEnvelope.Proofs.Digest.Blocks
import SealedEnvelope.Proofs.Digest.Horner
import SealedEnvelope.Proofs.GaloisCounter.Mode
import SealedEnvelope.Proofs.Keystream

/-!
The codec computes Galois/counter mode.

The keystream is the counter mode from the counter block that the purpose selects. The digest
is the hash of the padded text, with length fields of which only the low 32 bits are kept, so
the two modes are one for texts whose lengths in bits fit in those.
-/

namespace SealedEnvelope.GaloisCounter

theorem foldl_multiplyStep (left right : Block) (count : Nat) :
    (List.range count).foldl (Field.multiplyStep left) (0, right) =
      (partialProduct left right count, multiple right count) := by
  induction count with
  | zero => rfl
  | succ count ih =>
    have sameReduction : Field.reduction = reduction := by decide
    rw [List.range_succ, List.foldl_append, ih]
    simp only [List.foldl_cons, List.foldl_nil, Field.multiplyStep, Field.timesX, partialProduct,
      multiple, sameReduction]

theorem product_eq_multiply (left right : Block) : product left right = Field.multiply left right := by
  rw [Field.multiply, foldl_multiplyStep, product]

theorem partialHash_eq_absorb (subkey : Block) (text : Bytes) (count : Nat) :
    partialHash subkey text count = absorb subkey 0 ((List.range count).map (blockAt text)) := by
  induction count with
  | zero => rfl
  | succ count ih =>
    rw [partialHash, ih, product_eq_multiply, List.range_succ, List.map_append, absorb_append]
    rfl

/-- The hash of whole blocks absorbs the blocks of the text. -/
theorem hash_eq_absorb (subkey : Block) {text : Bytes} (whole : 16 ∣ text.length) :
    hash subkey text = absorb subkey 0 (Block.sequence text) := by
  have count : text.length / 16 = (text.length + 15) / 16 := by omega
  have sameBlocks : blockAt text = fun place => Block.ofBytes (text.drop (Block.size * place)) :=
    funext fun place => Block.ofBytes_take _
  rw [hash, partialHash_eq_absorb, Block.sequence_eq_map, count, sameBlocks]

theorem length_pad (text : Bytes) : (pad text).length = 16 * ((text.length + 15) / 16) := by
  rw [pad, List.length_append, List.length_replicate]
  omega

theorem sequence_pad (text : Bytes) : Block.sequence (pad text) = Block.sequence text :=
  Block.sequence_append_zeros (by omega)

/-- A length field of which only the low 32 bits are kept. -/
def keptLength (length : Nat) : BitVec 64 := BitVec.ofNat 64 ((bitLength length).toNat % 2 ^ 32)

theorem toNat_keptLength (length : Nat) : (keptLength length).toNat = 8 * length % 2 ^ 32 := by
  rw [keptLength, bitLength, BitVec.toNat_ofNat, BitVec.toNat_ofNat]
  omega

theorem keptLength_eq_bitLength {length : Nat} (short : length < 2 ^ 29) :
    keptLength length = bitLength length := by
  apply BitVec.eq_of_toNat_eq
  rw [toNat_keptLength, bitLength, BitVec.toNat_ofNat]
  omega

/-- Two words of 64 bits, one behind the other, are a block. -/
theorem sequence_words (high low : BitVec 64) :
    Block.sequence (Bytes.bigEndian 8 high.toNat ++ Bytes.bigEndian 8 low.toNat) =
      [high ++ low] := by
  have full : (Bytes.bigEndian 8 high.toNat ++ Bytes.bigEndian 8 low.toNat).length = Block.size := by
    simp [Block.size]
  have block : Block.ofBytes (Bytes.bigEndian 8 high.toNat ++ Bytes.bigEndian 8 low.toNat) =
      high ++ low := by
    apply Block.bytes_injective
    rw [Block.bytes_ofBytes_of_length full]
    apply Bytes.eq_of_value_eq (by rw [full, Block.length_bytes])
    have sameBase : (256 : Nat) ^ 8 = 2 ^ 64 := by decide
    rw [Block.value_bytes, toNat_append_eq_add, Bytes.value_append, Bytes.value_bigEndian,
      Bytes.value_bigEndian, Bytes.length_bigEndian, sameBase, Nat.mod_eq_of_lt high.isLt,
      Nat.mod_eq_of_lt low.isLt]
  rw [Block.sequence_eq_map, full]
  exact congrArg (fun block => [block]) block

theorem append_keptLength (associatedLength dataLength : Nat) :
    keptLength associatedLength ++ keptLength dataLength =
      lengthBlock associatedLength dataLength := by
  apply BitVec.eq_of_toNat_eq
  rw [toNat_append_eq_add, toNat_keptLength, toNat_keptLength, toNat_lengthBlock]

/-- The hashed text has the blocks of the digest. -/
theorem sequence_hashed (associated ciphertext : Bytes) :
    Block.sequence (hashed keptLength associated ciphertext) =
      digestBlocks associated ciphertext := by
  have paddedWhole (text : Bytes) : Block.size ∣ (pad text).length := ⟨_, length_pad text⟩
  have bothWhole : Block.size ∣ (pad associated ++ pad ciphertext).length := by
    rw [List.length_append]
    exact Nat.dvd_add (paddedWhole associated) (paddedWhole ciphertext)
  rw [hashed, List.append_assoc, Block.sequence_append bothWhole,
    Block.sequence_append (paddedWhole associated), sequence_pad, sequence_pad, sequence_words,
    append_keptLength, digestBlocks]

theorem hash_hashed (subkey : Block) (associated ciphertext : Bytes) :
    hash subkey (hashed keptLength associated ciphertext) = digest subkey associated ciphertext := by
  have whole : 16 ∣ (hashed keptLength associated ciphertext).length := by
    simp only [hashed, List.length_append, length_pad, Bytes.length_bigEndian]
    omega
  rw [hash_eq_absorb subkey whole, sequence_hashed, digest]

theorem increment_toBlock (counter : CounterBlock) :
    increment counter.toBlock = counter.increment.toBlock := by
  conv => rhs; rw [← CounterBlock.ofBlock_toBlock counter]
  rfl

theorem counterAt_toBlock (start : CounterBlock) (place : Nat) :
    counterAt start.toBlock place = (start.advance place).toBlock := by
  induction place with
  | zero => rw [counterAt, CounterBlock.advance_zero]
  | succ place ih => rw [counterAt, ih, increment_toBlock, CounterBlock.increment_advance]

variable {C : Type} [BlockCipher C]

/-- Counter mode from some block on: the first block of the text, then the rest of it from the
next block on. -/
private theorem flatMap_succ (cipher : C) (start : CounterBlock) (text : Bytes)
    (blocks skipped : Nat) :
    ((List.range (blocks + 1)).flatMap fun place =>
        Bytes.xor ((text.drop (16 * place)).take 16)
          (Keystream.blockAt cipher start (skipped + place)).bytes) =
      Bytes.xor (text.take 16) (Keystream.blockAt cipher start skipped).bytes ++
        (List.range blocks).flatMap fun place =>
          Bytes.xor (((text.drop 16).drop (16 * place)).take 16)
            (Keystream.blockAt cipher start (skipped + 1 + place)).bytes := by
  have later (place : Nat) : Bytes.xor ((text.drop (16 * (place + 1))).take 16)
        (Keystream.blockAt cipher start (skipped + (place + 1))).bytes =
      Bytes.xor (((text.drop 16).drop (16 * place)).take 16)
        (Keystream.blockAt cipher start (skipped + 1 + place)).bytes := by
    rw [List.drop_drop, Nat.mul_succ, Nat.add_comm (16 * place), Nat.add_assoc skipped,
      Nat.add_comm 1]
  rw [List.range_succ_eq_map, List.flatMap_cons, List.flatMap_map]
  simp only [later, Nat.mul_zero, List.drop_zero, Nat.add_zero]

/-- From any block on, counter mode is the rest of the text under the keystream. -/
private theorem flatMap_eq_maskedFrom (cipher : C) (start : CounterBlock) (text : Bytes)
    {blocks : Nat} (count : (text.length + 15) / 16 = blocks) (skipped : Nat) :
    ((List.range blocks).flatMap fun place =>
        Bytes.xor ((text.drop (16 * place)).take 16)
          (Keystream.blockAt cipher start (skipped + place)).bytes) =
      Keystream.maskedFrom cipher start (16 * skipped) text := by
  induction blocks generalizing skipped text with
  | zero =>
    have empty : text = [] := List.length_eq_zero_iff.mp (by omega)
    subst text
    rfl
  | succ blocks ih =>
    have fewer : ((text.drop 16).length + 15) / 16 = blocks := by
      rw [List.length_drop]
      omega
    have front : Bytes.xor (text.take 16) (Keystream.blockAt cipher start skipped).bytes =
        Keystream.maskedFrom cipher start (16 * skipped) (text.take 16) :=
      (Keystream.maskedFrom_of_block cipher start skipped (List.length_take_le 16 text)).symm
    have back : Keystream.maskedFrom cipher start (16 * (skipped + 1)) (text.drop 16) =
        Keystream.maskedFrom cipher start (16 * skipped + (text.take 16).length)
          (text.drop 16) := by
      -- A text that ends with this block leaves nothing, wherever that would start.
      by_cases single : text.length ≤ 16
      · rw [List.drop_eq_nil_of_le single, Keystream.maskedFrom_nil, Keystream.maskedFrom_nil]
      · rw [List.length_take, Nat.min_eq_left (by omega), Nat.mul_succ]
    rw [flatMap_succ, ih (text.drop 16) fewer, front, back, ← Keystream.maskedFrom_append,
      List.take_append_drop]

theorem counterMode_eq_apply (cipher : C) (start : CounterBlock) (text : Bytes) :
    counterMode (BlockCipher.encrypt cipher) start.toBlock text =
      ((Keystream.ofCounter cipher start).apply text).1 := by
  have keystream := flatMap_eq_maskedFrom cipher start text rfl 0
  simp only [Nat.zero_add, Nat.mul_zero] at keystream
  rw [← Keystream.after_zero, Keystream.apply_after, ← keystream]
  simp only [counterMode, counterAt_toBlock, Keystream.blockAt]

end SealedEnvelope.GaloisCounter
