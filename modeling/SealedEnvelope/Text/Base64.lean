import SealedEnvelope.Bytes

/-!
Base64 in the standard alphabet, in its canonical form: padded to whole groups of four, with
the bits that no byte uses all zero.
-/

namespace SealedEnvelope.Base64

/-- The symbol of a value below 64. -/
def symbol (value : Nat) : Char :=
  if value < 26 then Char.ofNat ('A'.toNat + value)
  else if value < 52 then Char.ofNat ('a'.toNat + (value - 26))
  else if value < 62 then Char.ofNat ('0'.toNat + (value - 52))
  else if value = 62 then '+'
  else '/'

/-- The value of a symbol. -/
def symbol? (char : Char) : Option Nat :=
  if 'A' ≤ char ∧ char ≤ 'Z' then some (char.toNat - 'A'.toNat)
  else if 'a' ≤ char ∧ char ≤ 'z' then some (char.toNat - 'a'.toNat + 26)
  else if '0' ≤ char ∧ char ≤ '9' then some (char.toNat - '0'.toNat + 52)
  else if char = '+' then some 62
  else if char = '/' then some 63
  else none

/-- Fills the last group. -/
def pad : Char := '='

/-- The symbols of three bytes. -/
def group (x y z : UInt8) : List Char :=
  let word := x.toNat * 65536 + y.toNat * 256 + z.toNat
  [symbol (word / 262144), symbol (word / 4096 % 64), symbol (word / 64 % 64),
    symbol (word % 64)]

/-- The symbols of a byte string, put behind the symbols already written, latest first. -/
def encodeOnto (written : List Char) : Bytes → List Char
  | [] => written.reverse
  | [x] => written.reverse ++ ((group x 0 0).take 2 ++ [pad, pad])
  | [x, y] => written.reverse ++ ((group x y 0).take 3 ++ [pad])
  | x :: y :: z :: rest => encodeOnto ((group x y z).reverse ++ written) rest

/-- The symbols of a byte string. -/
def encodeChars (bytes : Bytes) : List Char := encodeOnto [] bytes

/-- The three bytes of a full group. -/
def ungroup (a b c d : Char) : Option Bytes := do
  let word := (← symbol? a) * 262144 + (← symbol? b) * 4096 + (← symbol? c) * 64 + (← symbol? d)
  pure [(word / 65536).toUInt8, (word / 256).toUInt8, word.toUInt8]

/-- The one or two bytes of a group whose last symbol is padding. -/
def ungroupLast (a b c : Char) : Option Bytes := do
  let word := (← symbol? a) * 64 + (← symbol? b)
  if c = pad then
    if word % 16 = 0 then pure [(word / 16).toUInt8] else none
  else
    let word := word * 64 + (← symbol? c)
    if word % 4 = 0 then pure [(word / 1024).toUInt8, (word / 4).toUInt8] else none

/-- The bytes of a list of symbols, put behind the bytes already read, latest first. -/
def decodeOnto (read : Bytes) : List Char → Option Bytes
  | [] => some read.reverse
  | a :: b :: c :: d :: rest =>
    if d = pad ∧ rest = [] then (ungroupLast a b c).map (read.reverse ++ ·)
    else
      match ungroup a b c d with
      | some bytes => decodeOnto (bytes.reverse ++ read) rest
      | none => none
  | _ => none

/-- The bytes that a list of symbols writes canonically. -/
def decodeChars (chars : List Char) : Option Bytes := decodeOnto [] chars

/-- The base64 text of a byte string. -/
def encode (bytes : Bytes) : String := String.ofList (encodeChars bytes)

/-- The byte string of a canonical base64 text. -/
def decode (text : String) : Option Bytes := decodeChars text.toList

end SealedEnvelope.Base64
