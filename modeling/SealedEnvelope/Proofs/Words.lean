import Mathlib.Algebra.Group.Nat.Defs
import SealedEnvelope.Block

/-!
Words and the bytes they are written in determine each other: a byte string of a word's
length is the writing of exactly one word, and a shorter one is filled up with zeros.
-/

namespace SealedEnvelope

/-- One word behind another, read as a number. -/
theorem toNat_append_eq_add {high low : Nat} (front : BitVec high) (back : BitVec low) :
    (front ++ back).toNat = front.toNat * 2 ^ low + back.toNat := by
  rw [BitVec.toNat_append, ← Nat.shiftLeft_add_eq_or_of_lt back.isLt, Nat.shiftLeft_eq]

namespace Bytes

theorem toUInt8_eq {number : Nat} {byte : UInt8} (same : number % 256 = byte.toNat) :
    number.toUInt8 = byte := by
  rw [← UInt8.toNat_inj]
  exact same

@[simp] theorem value_nil : value [] = 0 := rfl

private theorem foldl_value (bytes : Bytes) (word : Nat) :
    bytes.foldl (fun word byte => word * 256 + byte.toNat) word =
      word * 256 ^ bytes.length + value bytes := by
  induction bytes generalizing word with
  | nil => simp
  | cons byte rest ih =>
    have first : value (byte :: rest) = (0 * 256 + byte.toNat) * 256 ^ rest.length + value rest :=
      ih (0 * 256 + byte.toNat)
    rw [List.foldl_cons, ih, first, List.length_cons, Nat.pow_succ]
    simp only [Nat.add_mul, Nat.zero_mul, Nat.zero_add]
    rw [Nat.mul_assoc, Nat.mul_comm 256, Nat.add_assoc]

theorem value_cons (byte : UInt8) (rest : Bytes) :
    value (byte :: rest) = byte.toNat * 256 ^ rest.length + value rest := by
  rw [value, List.foldl_cons, foldl_value]
  simp

theorem value_append (left right : Bytes) :
    value (left ++ right) = value left * 256 ^ right.length + value right := by
  rw [value, List.foldl_append, foldl_value]
  rfl

@[simp] theorem value_zeros (count : Nat) : value (List.replicate count 0) = 0 := by
  induction count with
  | zero => rfl
  | succ count ih => simp [List.replicate_succ, value_cons, ih]

theorem value_lt (bytes : Bytes) : value bytes < 256 ^ bytes.length := by
  induction bytes with
  | nil => simp
  | cons byte rest ih =>
    have small : byte.toNat + 1 ≤ 256 := byte.toNat_lt
    calc value (byte :: rest)
        = byte.toNat * 256 ^ rest.length + value rest := value_cons byte rest
      _ < (byte.toNat + 1) * 256 ^ rest.length := by rw [Nat.succ_mul]; omega
      _ ≤ 256 * 256 ^ rest.length := Nat.mul_le_mul_right _ small
      _ = 256 ^ (byte :: rest).length := by rw [List.length_cons, Nat.pow_succ, Nat.mul_comm]

/-- Byte strings of one length are told apart by their values. -/
theorem eq_of_value_eq {left right : Bytes} (sameLength : left.length = right.length)
    (sameValue : value left = value right) : left = right := by
  induction left generalizing right with
  | nil => exact (List.length_eq_zero_iff.mp sameLength.symm).symm
  | cons byte rest ih =>
    cases right with
    | nil => simp at sameLength
    | cons other others =>
      have restLength : rest.length = others.length := Nat.succ.inj sameLength
      rw [value_cons, value_cons, restLength] at sameValue
      have restBound := value_lt rest
      have othersBound := value_lt others
      rw [restLength] at restBound
      have positive : 0 < 256 ^ others.length := Nat.pow_pos (by decide)
      have high := congrArg (· / 256 ^ others.length) sameValue
      have low := congrArg (· % 256 ^ others.length) sameValue
      simp only [Nat.mul_comm _ (256 ^ others.length), Nat.mul_add_div positive,
        Nat.div_eq_of_lt restBound, Nat.div_eq_of_lt othersBound, Nat.add_zero] at high
      simp only [Nat.mul_add_mod_self_right, Nat.mod_eq_of_lt restBound,
        Nat.mod_eq_of_lt othersBound] at low
      rw [UInt8.toNat_inj.mp high, ih restLength low]

/-- The bytes written for a word hold the word modulo the power of 256 they have room for. -/
theorem value_bigEndian (count word : Nat) : value (bigEndian count word) = word % 256 ^ count := by
  induction count with
  | zero => simp [bigEndian, Nat.mod_one]
  | succ count ih =>
    have digit : (word >>> (8 * count)).toUInt8.toNat = word / 256 ^ count % 256 := by
      rw [Nat.shiftRight_eq_div_pow, Nat.pow_mul]
      rfl
    rw [bigEndian, value_cons, ih, length_bigEndian, digit, Nat.mod_pow_succ,
      Nat.mul_comm, Nat.add_comm]

theorem getElem?_bigEndian (count word place : Nat) :
    (bigEndian count word)[place]? =
      if place < count then some (word >>> (8 * (count - 1 - place))).toUInt8 else none := by
  induction count generalizing place with
  | zero => rfl
  | succ count ih =>
    cases place with
    | zero => rfl
    | succ place =>
      have same : count + 1 - 1 - (place + 1) = count - 1 - place := by omega
      simp only [bigEndian, List.getElem?_cons_succ, ih, same, Nat.add_lt_add_iff_right]

/-- A mask taken twice is no mask. -/
theorem xor_xor_cancel {data mask : Bytes} (covered : data.length ≤ mask.length) :
    (data.xor mask).xor mask = data := by
  induction data generalizing mask with
  | nil => rfl
  | cons byte rest ih =>
    cases mask with
    | nil => simp at covered
    | cons key keys =>
      have tail : (Bytes.xor rest keys).xor keys = rest := ih (Nat.le_of_succ_le_succ covered)
      simp only [xor, List.zipWith_cons_cons] at tail ⊢
      rw [tail, UInt8.xor_assoc, UInt8.xor_self, UInt8.xor_zero]

theorem xor_comm (left right : Bytes) : left.xor right = right.xor left :=
  List.zipWith_comm_of_comm UInt8.xor_comm

/-- Two masks that hide a text alike are the same. -/
theorem xor_left_cancel {data mask other : Bytes} (maskLength : mask.length = data.length)
    (otherLength : other.length = data.length) (same : data.xor mask = data.xor other) :
    mask = other := by
  rw [xor_comm data mask, xor_comm data other] at same
  rw [← xor_xor_cancel (Nat.le_of_eq maskLength), same, xor_xor_cancel (Nat.le_of_eq otherLength)]

end Bytes

namespace Block

theorem value_bytes (block : Block) : Bytes.value block.bytes = block.toNat := by
  rw [bytes, Bytes.value_bigEndian]
  exact Nat.mod_eq_of_lt block.isLt

theorem bytes_injective {left right : Block} (same : left.bytes = right.bytes) : left = right := by
  apply BitVec.eq_of_toNat_eq
  rw [← value_bytes, ← value_bytes, same]

/-- A bit of a block by its place: which byte holds it, and where from the top. -/
theorem getMsbD_eq_testBit (block : Block) (place : Nat) :
    block.getMsbD place = (block.bytes.getD (place / 8) 0).toNat.testBit (7 - place % 8) := by
  rw [bytes, List.getD_eq_getElem?_getD, Bytes.getElem?_bigEndian, size]
  by_cases inside : place < 128
  · have byte : place / 8 < 16 := by omega
    have index : 8 * (16 - 1 - place / 8) + (7 - place % 8) = 128 - 1 - place := by omega
    have low : (block.toNat >>> (8 * (16 - 1 - place / 8))).toUInt8.toNat =
        block.toNat >>> (8 * (16 - 1 - place / 8)) % 2 ^ 8 := rfl
    rw [if_pos byte, Option.getD_some, low, Nat.testBit_mod_two_pow, Nat.testBit_shiftRight, index,
      BitVec.getMsbD, BitVec.getLsbD]
    simp only [inside, decide_true, Bool.true_and, Bool.eq_and_self, decide_eq_true_eq]
    omega
  · have beyond : ¬ place / 8 < 16 := by omega
    rw [if_neg beyond, BitVec.getMsbD_of_ge block place (by omega), Option.getD_none]
    exact (Nat.zero_testBit _).symm

/-- A block made of bytes holds the first sixteen of them, and zeros where there are fewer. -/
theorem bytes_ofBytes (data : Bytes) :
    (ofBytes data).bytes = data.take size ++ List.replicate (size - data.length) 0 := by
  have filled : (data.take size ++ List.replicate (size - data.length) 0).length = size := by
    simp only [List.length_append, List.length_take, List.length_replicate]
    omega
  have missing : size - (data.take size).length = size - data.length := by
    rw [List.length_take]
    omega
  apply Bytes.eq_of_value_eq (by rw [length_bytes, filled])
  have bound := Bytes.value_lt (data.take size ++ List.replicate (size - data.length) 0)
  rw [filled] at bound
  rw [Bytes.value_append, Bytes.value_zeros, List.length_replicate, Nat.add_zero] at bound ⊢
  rw [value_bytes, ofBytes, missing, Nat.shiftLeft_eq, Nat.pow_mul, BitVec.toNat_ofNat]
  exact Nat.mod_eq_of_lt bound

theorem bytes_ofBytes_of_length {data : Bytes} (full : data.length = size) :
    (ofBytes data).bytes = data := by
  simp [bytes_ofBytes, ← full]

@[simp] theorem ofBytes_bytes (block : Block) : ofBytes block.bytes = block :=
  bytes_injective (bytes_ofBytes_of_length (length_bytes block))

theorem ofBytes_append_zeros (data : Bytes) (count : Nat) :
    ofBytes (data ++ List.replicate count 0) = ofBytes data := by
  apply bytes_injective
  rw [bytes_ofBytes, bytes_ofBytes, List.take_append, List.take_replicate, List.append_assoc,
    List.replicate_append_replicate, List.length_append, List.length_replicate]
  congr 2
  omega

theorem ofBytes_take (data : Bytes) : ofBytes (data.take size) = ofBytes data := by
  simp [ofBytes, List.take_take]

end Block

namespace Nonce

theorem value_bytes (nonce : Nonce) : Bytes.value nonce.bytes = nonce.toNat := by
  rw [bytes, Bytes.value_bigEndian]
  exact Nat.mod_eq_of_lt nonce.isLt

theorem bytes_injective {left right : Nonce} (same : left.bytes = right.bytes) : left = right := by
  apply BitVec.eq_of_toNat_eq
  rw [← value_bytes, ← value_bytes, same]

theorem bytes_ofBytes {data : Bytes} (enough : size ≤ data.length) :
    (ofBytes data).bytes = data.take size := by
  have taken : (data.take size).length = size := List.length_take_of_le enough
  have bound := Bytes.value_lt (data.take size)
  rw [taken] at bound
  apply Bytes.eq_of_value_eq (by rw [length_bytes, taken])
  rw [value_bytes, ofBytes, BitVec.toNat_ofNat]
  exact Nat.mod_eq_of_lt bound

@[simp] theorem ofBytes_bytes_append (nonce : Nonce) (rest : Bytes) :
    ofBytes (nonce.bytes ++ rest) = nonce := by
  apply bytes_injective
  rw [bytes_ofBytes (by simp)]
  exact List.take_left' (length_bytes nonce)

end Nonce

end SealedEnvelope
