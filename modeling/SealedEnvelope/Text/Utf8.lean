import SealedEnvelope.Bytes

/-!
UTF-8: the bytes of a text, and the text of a byte string or the place where it goes wrong.
-/

namespace SealedEnvelope.Utf8

/-- Why a byte string is not UTF-8. The index is the length of its longest valid beginning. -/
inductive Error where
  /-- The `length` bytes at `index` begin a character that the next byte cannot go on with,
  or cannot begin one at all. -/
  | invalid (length index : Nat)
  /-- The bytes end inside a character. -/
  | incomplete (index : Nat)
deriving DecidableEq, Repr

/-- The wording of an error. -/
def Error.message : Error → String
  | .invalid length index => s!"invalid utf-8 sequence of {length} bytes from index {index}"
  | .incomplete index => s!"incomplete utf-8 byte sequence from index {index}"

/-- A character of several bytes that was begun. -/
structure Begun where
  /-- Bytes read. -/
  read : Nat
  /-- Bytes still to come. -/
  missing : Nat
  /-- Bounds of the next byte. -/
  low : UInt8
  high : UInt8
  /-- The bits of the code point read so far. -/
  bits : Nat

/-- The character that a first byte above 0x7F begins. The bounds of the second byte leave out
overlong forms, surrogates and what lies beyond the last code point. -/
def begin? (byte : UInt8) : Option Begun :=
  if 0xC2 ≤ byte ∧ byte ≤ 0xDF then some ⟨1, 1, 0x80, 0xBF, byte.toNat % 32⟩
  else if byte = 0xE0 then some ⟨1, 2, 0xA0, 0xBF, 0⟩
  else if byte = 0xED then some ⟨1, 2, 0x80, 0x9F, 13⟩
  else if 0xE1 ≤ byte ∧ byte ≤ 0xEF then some ⟨1, 2, 0x80, 0xBF, byte.toNat % 16⟩
  else if byte = 0xF0 then some ⟨1, 3, 0x90, 0xBF, 0⟩
  else if 0xF1 ≤ byte ∧ byte ≤ 0xF3 then some ⟨1, 3, 0x80, 0xBF, byte.toNat % 8⟩
  else if byte = 0xF4 then some ⟨1, 3, 0x80, 0x8F, 4⟩
  else none

/-- The characters of a byte string that starts at `index`, put behind the characters already
read, latest first. -/
def decodeFrom (read : List Char) (index : Nat) :
    Option Begun → Bytes → Except Error (List Char)
  | none, [] => .ok read.reverse
  | some _, [] => .error (.incomplete index)
  | none, byte :: rest =>
    if byte < 0x80 then decodeFrom (Char.ofNat byte.toNat :: read) (index + 1) none rest
    else
      match begin? byte with
      | some begun => decodeFrom read index (some begun) rest
      | none => .error (.invalid 1 index)
  | some begun, byte :: rest =>
    if begun.low ≤ byte ∧ byte ≤ begun.high then
      let bits := begun.bits * 64 + byte.toNat % 64
      if begun.missing ≤ 1 then
        decodeFrom (Char.ofNat bits :: read) (index + begun.read + 1) none rest
      else
        decodeFrom read index (some ⟨begun.read + 1, begun.missing - 1, 0x80, 0xBF, bits⟩) rest
    else .error (.invalid begun.read index)

/-- The characters of a byte string. -/
def decodeChars (bytes : Bytes) : Except Error (List Char) := decodeFrom [] 0 none bytes

/-- The text of a byte string. -/
def decode (bytes : Bytes) : Except Error String := String.ofList <$> decodeChars bytes

/-- The bytes of a list of characters. -/
def encodeChars (chars : List Char) : Bytes := chars.flatMap String.utf8EncodeChar

/-- The bytes of a text. -/
def encode (text : String) : Bytes := encodeChars text.toList

end SealedEnvelope.Utf8
