import Mathlib.Data.List.Nodup
import Mathlib.Data.List.Perm.Subperm
import Mathlib.Logic.Function.Basic
import SealedEnvelope.Aes.Key
import SealedEnvelope.Proofs.Words

/-!
No map of an AES round brings two states together, so under one key no two blocks have the same
encryption.

The substitution box meets every byte. Mixing a column four times gives the column back, since the
factor that it multiplies by has order four.
-/

namespace SealedEnvelope.Aes

/-! ### Bytes -/

/-- The values of some bytes, as the bits of a number. -/
def marks (bytes : Bytes) : Nat :=
  bytes.foldr (fun byte marked => 2 ^ byte.toNat ||| marked) 0

theorem testBit_marks {bytes : Bytes} {value : Nat} :
    (marks bytes).testBit value ↔ value ∈ bytes.map UInt8.toNat := by
  induction bytes with
  | nil => simp [marks]
  | cons byte rest ih =>
    have head : marks (byte :: rest) = 2 ^ byte.toNat ||| marks rest := rfl
    rw [head, Nat.testBit_or, Nat.testBit_two_pow, Bool.or_eq_true, ih, decide_eq_true_eq,
      List.map_cons, List.mem_cons, eq_comm]

private theorem marks_substitutionTable : marks substitutionTable.toList = 2 ^ 256 - 1 := by
  decide +kernel

/-- The table has 256 places and meets 256 bytes, so it meets none of them twice. -/
theorem nodup_substitutionTable : substitutionTable.toList.Nodup := by
  have covers : List.range 256 ⊆ substitutionTable.toList.map UInt8.toNat := by
    intro value inRange
    rw [← testBit_marks, marks_substitutionTable, Nat.testBit_two_pow_sub_one]
    exact decide_eq_true (List.mem_range.mp inRange)
  have images : (List.range 256).Perm (substitutionTable.toList.map UInt8.toNat) :=
    (List.subperm_of_subset List.nodup_range covers).perm_of_length_le (by simp)
  exact List.Nodup.of_map _ (images.nodup List.nodup_range)

theorem substitute_injective : Function.Injective substitute := by
  intro left right same
  have leftInside : left.toNat < substitutionTable.toList.length := by
    rw [Vector.length_toList]
    exact left.toNat_lt
  have rightInside : right.toNat < substitutionTable.toList.length := by
    rw [Vector.length_toList]
    exact right.toNat_lt
  have images : substitutionTable.toList[left.toNat] = substitutionTable.toList[right.toNat] := by
    rw [Vector.getElem_toList, Vector.getElem_toList]
    exact same
  exact UInt8.toNat_inj.mp ((List.Nodup.getElem_inj_iff nodup_substitutionTable).mp images)

private theorem xor_xor_cancel_left (one other : UInt8) : one ^^^ (one ^^^ other) = other := by
  rw [← UInt8.xor_assoc, UInt8.xor_self, UInt8.zero_xor]

private theorem xor_left_comm (one other last : UInt8) :
    one ^^^ (other ^^^ last) = other ^^^ (one ^^^ last) := by
  rw [← UInt8.xor_assoc, UInt8.xor_comm one, UInt8.xor_assoc]

private theorem double_eq (byte : UInt8) :
    double byte = byte <<< 1 ^^^ if byte.toBitVec.msb then 0x1B else 0 := by
  have low : byte < 0x80 ↔ byte.toBitVec.msb = false := by
    rw [BitVec.msb_eq_false_iff_two_mul_lt, UInt8.lt_iff_toNat_lt, UInt8.toNat_toBitVec]
    exact (Nat.mul_lt_mul_left (by decide : 0 < 2)).symm
  by_cases top : byte.toBitVec.msb
  · simp [double, low, top]
  · simp [double, low, top]

/-- The product with x keeps sums. -/
theorem double_xor (left right : UInt8) :
    double (left ^^^ right) = double left ^^^ double right := by
  have carry (one other : Bool) : (if one ^^ other then (0x1B : UInt8) else 0) =
      (if one then 0x1B else 0) ^^^ if other then 0x1B else 0 := by
    cases one <;> cases other <;> rfl
  rw [double_eq, double_eq, double_eq, UInt8.shiftLeft_xor, UInt8.toBitVec_xor, BitVec.msb_xor,
    carry]
  simp only [UInt8.xor_assoc, xor_left_comm]

/-! ### Columns -/

namespace Column

theorem substitute_injective : Function.Injective Column.substitute := by
  rintro ⟨⟩ ⟨⟩ same
  simpa only [substitute, mk.injEq, Aes.substitute_injective.eq_iff] using same

/-- Mixing twice: each byte gets a multiple of its sum with the one two places on. -/
theorem mix_mix (column : Column) : column.mix.mix =
    { b0 := column.b0 ^^^ double (double (column.b0 ^^^ column.b2))
      b1 := column.b1 ^^^ double (double (column.b1 ^^^ column.b3))
      b2 := column.b2 ^^^ double (double (column.b2 ^^^ column.b0))
      b3 := column.b3 ^^^ double (double (column.b3 ^^^ column.b1)) } := by
  simp only [mix, double_xor]
  simp only [UInt8.xor_assoc, xor_left_comm, UInt8.xor_self, UInt8.xor_zero, xor_xor_cancel_left]

theorem mix_mix_mix_mix (column : Column) : column.mix.mix.mix.mix = column := by
  rw [mix_mix column.mix.mix, mix_mix column]
  simp only [double_xor, UInt8.xor_assoc, xor_left_comm, UInt8.xor_self, UInt8.xor_zero,
    xor_xor_cancel_left]

theorem mix_injective : Function.Injective mix := by
  intro left right same
  rw [← mix_mix_mix_mix left, same, mix_mix_mix_mix]

theorem add_right_injective (key : Column) :
    Function.Injective (fun column : Column => column.add key) := by
  rintro ⟨⟩ ⟨⟩ same
  simpa only [add, mk.injEq, UInt8.xor_left_inj] using same

end Column

/-! ### States -/

namespace State

theorem map_injective {f : Column → Column} (injective : Function.Injective f) :
    Function.Injective (State.map f) := by
  rintro ⟨⟩ ⟨⟩ same
  simpa only [map, mk.injEq, injective.eq_iff] using same

theorem shiftRows_injective : Function.Injective shiftRows := by
  rintro ⟨⟨⟩, ⟨⟩, ⟨⟩, ⟨⟩⟩ ⟨⟨⟩, ⟨⟩, ⟨⟩, ⟨⟩⟩ same
  simp only [shiftRows, mk.injEq, Column.mk.injEq] at same ⊢
  grind

theorem add_right_injective (key : State) :
    Function.Injective (fun state : State => state.add key) := by
  rintro ⟨⟩ ⟨⟩ same
  simpa only [add, mk.injEq, (Column.add_right_injective _).eq_iff] using same

theorem round_injective (key : State) :
    Function.Injective (fun state : State => state.round key) :=
  (add_right_injective key).comp ((map_injective Column.mix_injective).comp
    (shiftRows_injective.comp (map_injective Column.substitute_injective)))

theorem lastRound_injective (key : State) :
    Function.Injective (fun state : State => state.lastRound key) :=
  (add_right_injective key).comp
    (shiftRows_injective.comp (map_injective Column.substitute_injective))

theorem foldl_round_injective (keys : List State) :
    Function.Injective (fun state : State => keys.foldl round state) := by
  induction keys with
  | nil => exact Function.injective_id
  | cons key rest ih => exact ih.comp (round_injective key)

theorem bytes_ofBlock (block : Block) : (ofBlock block).bytes = block.bytes := rfl

theorem bytes_injective : Function.Injective State.bytes := by
  rintro ⟨⟨⟩, ⟨⟩, ⟨⟩, ⟨⟩⟩ ⟨⟨⟩, ⟨⟩, ⟨⟩, ⟨⟩⟩ same
  simpa [bytes, Column.bytes, and_assoc] using same

theorem ofBlock_injective : Function.Injective ofBlock := by
  intro left right same
  apply Block.bytes_injective
  rw [← bytes_ofBlock, same, bytes_ofBlock]

theorem toBlock_injective : Function.Injective toBlock := by
  intro left right same
  have held (state : State) : state.toBlock.bytes = state.bytes := Block.bytes_ofBytes_of_length rfl
  apply bytes_injective
  rw [← held, same, held]

end State

/-- Under one key no two blocks have the same encryption. -/
theorem Key.encrypt_injective (key : Key) : Function.Injective key.encrypt :=
  State.toBlock_injective.comp ((State.lastRound_injective key.last).comp
    ((State.foldl_round_injective key.middle).comp
      ((State.add_right_injective key.first).comp State.ofBlock_injective)))

end SealedEnvelope.Aes
