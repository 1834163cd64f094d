import SealedEnvelope.Bytes

/-!
Bytes written as two hexadecimal digits each.
-/

namespace SealedEnvelope.Hex

/-- The lower-case digit of a value below 16. -/
def digit (value : Nat) : Char :=
  if value < 10 then Char.ofNat ('0'.toNat + value) else Char.ofNat ('a'.toNat + (value - 10))

/-- The value of a digit of either case. -/
def digit? (char : Char) : Option Nat :=
  if '0' ≤ char ∧ char ≤ '9' then some (char.toNat - '0'.toNat)
  else if 'a' ≤ char ∧ char ≤ 'f' then some (char.toNat - 'a'.toNat + 10)
  else if 'A' ≤ char ∧ char ≤ 'F' then some (char.toNat - 'A'.toNat + 10)
  else none

/-- The two digits of a byte, high half first. -/
def pair (byte : UInt8) : List Char :=
  [digit (byte.toNat / 16), digit (byte.toNat % 16)]

/-- The digits of a byte string. -/
def encodeChars (bytes : Bytes) : List Char := bytes.flatMap pair

/-- The bytes of a list of digits, put behind the bytes already read, latest first. -/
def decodeOnto (read : Bytes) : List Char → Option Bytes
  | [] => some read.reverse
  | high :: low :: rest =>
    match digit? high, digit? low with
    | some h, some l => decodeOnto ((16 * h + l).toUInt8 :: read) rest
    | _, _ => none
  | [_] => none

/-- The bytes that a list of digits writes; refused at an odd length or another character. -/
def decodeChars (chars : List Char) : Option Bytes := decodeOnto [] chars

/-- Lower-case hexadecimal text of a byte string. -/
def encode (bytes : Bytes) : String := String.ofList (encodeChars bytes)

/-- The byte string of a hexadecimal text. -/
def decode (text : String) : Option Bytes := decodeChars text.toList

end SealedEnvelope.Hex
