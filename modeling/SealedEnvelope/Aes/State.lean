import SealedEnvelope.Block
import SealedEnvelope.Aes.Substitution

/-!
The state of AES and the four maps that make up its rounds.
-/

namespace SealedEnvelope.Aes

/-- Four bytes, top to bottom: a column of the state or a word of the key schedule. -/
structure Column where
  b0 : UInt8
  b1 : UInt8
  b2 : UInt8
  b3 : UInt8
deriving DecidableEq, Repr, Inhabited

/-- The state, column by column. -/
structure State where
  c0 : Column
  c1 : Column
  c2 : Column
  c3 : Column
deriving DecidableEq, Repr, Inhabited

/-- The product with x in the byte field, modulo x⁸ + x⁴ + x³ + x + 1. -/
def double (byte : UInt8) : UInt8 :=
  if byte < 0x80 then byte <<< 1 else (byte <<< 1) ^^^ 0x1B

namespace Column

/-- Bytewise exclusive or. -/
def add (left right : Column) : Column where
  b0 := left.b0 ^^^ right.b0
  b1 := left.b1 ^^^ right.b1
  b2 := left.b2 ^^^ right.b2
  b3 := left.b3 ^^^ right.b3

/-- The substitution box on every byte. -/
def substitute (column : Column) : Column where
  b0 := Aes.substitute column.b0
  b1 := Aes.substitute column.b1
  b2 := Aes.substitute column.b2
  b3 := Aes.substitute column.b3

/-- Every byte one place up, the top one to the bottom. -/
def rotate (column : Column) : Column :=
  ⟨column.b1, column.b2, column.b3, column.b0⟩

/-- The product with the circulant matrix whose first row is 2, 3, 1, 1. -/
def mix (column : Column) : Column :=
  let all := column.b0 ^^^ column.b1 ^^^ column.b2 ^^^ column.b3
  { b0 := column.b0 ^^^ all ^^^ double (column.b0 ^^^ column.b1)
    b1 := column.b1 ^^^ all ^^^ double (column.b1 ^^^ column.b2)
    b2 := column.b2 ^^^ all ^^^ double (column.b2 ^^^ column.b3)
    b3 := column.b3 ^^^ all ^^^ double (column.b3 ^^^ column.b0) }

/-- The four bytes, top to bottom. -/
def bytes (column : Column) : Bytes :=
  [column.b0, column.b1, column.b2, column.b3]

/-- The columns a byte string holds; bytes beyond the last whole column are left out. -/
def sequence : Bytes → List Column
  | b0 :: b1 :: b2 :: b3 :: rest => ⟨b0, b1, b2, b3⟩ :: sequence rest
  | _ => []

end Column

namespace State

/-- A map on columns, applied to each. -/
def map (f : Column → Column) (state : State) : State :=
  ⟨f state.c0, f state.c1, f state.c2, f state.c3⟩

/-- Bytewise exclusive or, as for a round key. -/
def add (left right : State) : State where
  c0 := left.c0.add right.c0
  c1 := left.c1.add right.c1
  c2 := left.c2.add right.c2
  c3 := left.c3.add right.c3

/-- Row `r` moved `r` places to the left. -/
def shiftRows (state : State) : State where
  c0 := ⟨state.c0.b0, state.c1.b1, state.c2.b2, state.c3.b3⟩
  c1 := ⟨state.c1.b0, state.c2.b1, state.c3.b2, state.c0.b3⟩
  c2 := ⟨state.c2.b0, state.c3.b1, state.c0.b2, state.c1.b3⟩
  c3 := ⟨state.c3.b0, state.c0.b1, state.c1.b2, state.c2.b3⟩

/-- A full round: substitute, shift the rows, mix the columns, add the round key. -/
def round (state key : State) : State :=
  (((state.map Column.substitute).shiftRows).map Column.mix).add key

/-- The last round, which does not mix the columns. -/
def lastRound (state key : State) : State :=
  ((state.map Column.substitute).shiftRows).add key

/-- The state written column by column. -/
def bytes (state : State) : Bytes :=
  state.c0.bytes ++ state.c1.bytes ++ state.c2.bytes ++ state.c3.bytes

/-- The states held by a list of columns; columns beyond the last whole state are left out. -/
def sequence : List Column → List State
  | c0 :: c1 :: c2 :: c3 :: rest => ⟨c0, c1, c2, c3⟩ :: sequence rest
  | _ => []

/-- Byte `index` of a block, counted from its most significant end. -/
def blockByte (block : Block) (index : Nat) : UInt8 :=
  (block.toNat >>> (8 * (Block.size - 1 - index))).toUInt8

/-- Column `index` of the state that a block is read as. -/
def blockColumn (block : Block) (index : Nat) : Column where
  b0 := blockByte block (4 * index)
  b1 := blockByte block (4 * index + 1)
  b2 := blockByte block (4 * index + 2)
  b3 := blockByte block (4 * index + 3)

/-- The state that holds the bytes of a block column by column. -/
def ofBlock (block : Block) : State :=
  ⟨blockColumn block 0, blockColumn block 1, blockColumn block 2, blockColumn block 3⟩

/-- The block that holds the bytes of the state. -/
def toBlock (state : State) : Block :=
  Block.ofBytes state.bytes

end State

end SealedEnvelope.Aes
