import SealedEnvelope.Pattern.Flags
import SealedEnvelope.Text.Hex

/-!
The smallest parts of a pattern: characters and escapes.

Patterns know of no properties of characters beyond ASCII. So what would need them is not
supported unless bytes are matched: classes named by a letter, the edges of words, and matching
without regard to case. And where bytes are matched, only those of texts may be.
-/

namespace SealedEnvelope.Pattern

/-- A smallest part. -/
inductive Primitive where
  /-- A character, which may be written as a byte. -/
  | literal (char : Char) (asByte : Bool)
  /-- The digits, the white space or the characters of words, or all others. -/
  | shorthand (negated : Bool)
  /-- The start or the end of the searched text. -/
  | edge
  /-- A place with regard to words. -/
  | wordEdge
deriving DecidableEq, Repr

/-- Whether a part is supported, outside of classes. -/
def Flags.supports (flags : Flags) : Primitive → Bool
  | .literal char asByte =>
    if flags.unicode then !flags.ignoreCase else !asByte || char.toNat < 0x80
  | .shorthand negated => !flags.unicode && !negated
  | .edge => true
  | .wordEdge => !flags.unicode

/-- So many hexadecimal digits, behind those with the given value. -/
def readDigits (flags : Flags) : (count value : Nat) → List Char → Option (Nat × List Char)
  | 0, value, chars => some (value, chars)
  | count + 1, value, chars =>
    match flags.skipSpace chars with
    | [] => none
    | char :: rest => do
      let digit ← Hex.digit? char
      readDigits flags count (16 * value + digit) rest

/-- The character whose code point so many digits write. -/
def readCodePoint (flags : Flags) (count : Nat) (chars : List Char) :
    Option (Primitive × List Char) := do
  let (code, rest) ← readDigits flags count 0 chars
  if code.isValidChar then some (.literal (Char.ofNat code) (count = 2), rest) else none

/-- The control characters that a letter stands for. -/
def controls : List (Char × Char) :=
  [('a', '\x07'), ('f', '\x0c'), ('t', '\t'), ('n', '\n'), ('r', '\r'), ('v', '\x0b')]

/-- Whether a character stands for itself behind a backslash: every sign of ASCII does, the
angle brackets excepted. -/
def isPlainEscape (char : Char) : Bool :=
  char.toNat < 0x80 && !char.isAlphanum && char != '<' && char != '>'

/-- An escape, from behind its backslash on. -/
def readEscape (flags : Flags) : List Char → Option (Primitive × List Char)
  | [] => none
  | char :: rest =>
    match controls.lookup char with
    | some control => some (.literal control false, rest)
    | none =>
      if char = 'x' then readCodePoint flags 2 rest
      else if char = 'u' then readCodePoint flags 4 rest
      else if char = 'U' then readCodePoint flags 8 rest
      else if ['d', 's', 'w'].contains char then some (.shorthand false, rest)
      else if ['D', 'S', 'W'].contains char then some (.shorthand true, rest)
      else if ['A', 'z'].contains char then some (.edge, rest)
      else if ['b', 'B', '<', '>'].contains char then some (.wordEdge, rest)
      else if isPlainEscape char then some (.literal char false, rest)
      else none

end SealedEnvelope.Pattern
