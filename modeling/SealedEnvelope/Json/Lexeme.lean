import SealedEnvelope.Json.Fault
import SealedEnvelope.Text.Hex

/-!
The words, strings and numbers of a JSON text.

Each of these readers is given the characters after the first one of a lexeme and says what
the lexeme means and how many of these characters belong to it.
-/

namespace SealedEnvelope.Json

/-- The meaning of a lexeme, and the number of characters it takes after the first. -/
structure Lexeme (α : Type) where
  value : α
  length : Nat

/-- The same characters with another meaning. -/
def Lexeme.map {α β : Type} (f : α → β) (lexeme : Lexeme α) : Lexeme β :=
  ⟨f lexeme.value, lexeme.length⟩

/-- JSON white space. -/
def isSpace (char : Char) : Bool :=
  char == ' ' || char == '\n' || char == '\t' || char == '\r'

/-- The text without the white space before it. -/
def skipSpace (chars : List Char) : List Char := chars.dropWhile isSpace

/-! ### Words -/

/-- The remaining letters of a word, each one as expected. -/
def readWord {α : Type} (value : α) (letters : List Char) (chars : List Char) :
    Except Fault (Lexeme α) :=
  go letters chars
where
  go : List Char → List Char → Except Fault (Lexeme α)
    | [], _ => .ok ⟨value, letters.length⟩
    | _ :: _, [] => .error { cause := .endInValue, rest := [] }
    | letter :: more, char :: rest =>
      if char = letter then go more rest
      else .error { cause := .wordExpected, rest := char :: rest, past := 1 }

/-! ### Strings -/

/-- The four digits of a hexadecimal escape. -/
def readHex4 (chars : List Char) : Except Fault Nat :=
  match (chars.take 4).mapM Hex.digit? with
  | some [a, b, c, d] => .ok (((a * 16 + b) * 16 + c) * 16 + d)
  | _ =>
    if byteLength chars < 4 then .error { cause := .endInString, rest := [] }
    else .error { cause := .invalidEscape, rest := chars, past := 4 }

/-- The character that stands behind a backslash for another one. -/
def shortEscape? : Char → Option Char
  | '"' => some '"'
  | '\\' => some '\\'
  | '/' => some '/'
  | 'b' => some '\x08'
  | 'f' => some '\x0c'
  | 'n' => some '\n'
  | 'r' => some '\r'
  | 't' => some '\t'
  | _ => none

/-- The escape for the second half of a surrogate pair whose first half is given. -/
def readSecondHalf (first : Nat) : List Char → Except Fault (Lexeme Char)
  | [] => .error { cause := .endInString, rest := [] }
  | '\\' :: 'u' :: digits => do
    let second ← readHex4 digits
    if second < 0xDC00 ∨ 0xDFFF < second then
      throw { cause := .loneSurrogate, rest := digits.drop 4 }
    pure ⟨Char.ofNat (0x10000 + (first - 0xD800) * 0x400 + (second - 0xDC00)), 6⟩
  | ['\\'] => .error { cause := .endInString, rest := [] }
  | '\\' :: rest => .error { cause := .endOfHexEscape, rest, past := 1 }
  | rest => .error { cause := .endOfHexEscape, rest, past := 1 }

/-- The character of a hexadecimal escape, from its digits on. A code point beyond four digits
takes two escapes, and halves of such a pair do not stand alone. -/
def readUnicode (digits : List Char) : Except Fault (Lexeme Char) := do
  let code ← readHex4 digits
  let rest := digits.drop 4
  if 0xDC00 ≤ code ∧ code ≤ 0xDFFF then throw { cause := .loneSurrogate, rest }
  if 0xD800 ≤ code ∧ code ≤ 0xDBFF then
    let pair ← readSecondHalf code rest
    pure { pair with length := 4 + pair.length }
  else pure ⟨Char.ofNat code, 4⟩

/-- The character of an escape, from behind the backslash on. -/
def readEscape : List Char → Except Fault (Lexeme Char)
  | [] => .error { cause := .endInString, rest := [] }
  | 'u' :: digits => do
    let unicode ← readUnicode digits
    pure { unicode with length := 1 + unicode.length }
  | char :: rest =>
    match shortEscape? char with
    | some meant => .ok ⟨meant, 1⟩
    | none => .error { cause := .invalidEscape, rest := char :: rest, past := 1 }

/-- A string up to its closing quote, put behind the characters already read, latest first. -/
def readStringOnto (read : List Char) (length : Nat) :
    List Char → Except Fault (Lexeme String)
  | [] => .error { cause := .endInString, rest := [] }
  | char :: rest =>
    if char = '"' then .ok ⟨String.ofList read.reverse, length + 1⟩
    else if char = '\\' then
      match readEscape rest with
      | .ok escape =>
        readStringOnto (escape.value :: read) (length + 1 + escape.length) (rest.drop escape.length)
      | .error fault => .error fault
    else if char < ' ' then .error { cause := .controlCharacter, rest := char :: rest, past := 1 }
    else readStringOnto (char :: read) (length + 1) rest
termination_by chars => chars.length
decreasing_by all_goals simp; try omega

/-- A string, from behind its opening quote on. -/
def readString (chars : List Char) : Except Fault (Lexeme String) := readStringOnto [] 0 chars

/-- How many characters an escape takes after the backslash when its meaning does not matter. -/
def skipEscape : List Char → Except Fault Nat
  | [] => .error { cause := .endInString, rest := [] }
  | 'u' :: digits => (fun _ => 5) <$> readHex4 digits
  | char :: rest =>
    if (shortEscape? char).isSome then .ok 1
    else .error { cause := .invalidEscape, rest := char :: rest, past := 1 }

/-- A string whose meaning does not matter, after `length` characters of it. -/
def skipStringFrom (length : Nat) : List Char → Except Fault (Lexeme Unit)
  | [] => .error { cause := .endInString, rest := [] }
  | char :: rest =>
    if char = '"' then .ok ⟨(), length + 1⟩
    else if char = '\\' then
      match skipEscape rest with
      | .ok size => skipStringFrom (length + 1 + size) (rest.drop size)
      | .error fault => .error fault
    else if char < ' ' then .error { cause := .controlCharacter, rest := char :: rest }
    else skipStringFrom (length + 1) rest
termination_by chars => chars.length
decreasing_by all_goals simp; try omega

/-- A string whose meaning does not matter, from behind its opening quote on. -/
def skipString (chars : List Char) : Except Fault (Lexeme Unit) := skipStringFrom 0 chars

/-! ### Numbers -/

/-- Whether a character is a decimal digit. -/
def isDigit (char : Char) : Bool := '0' ≤ char && char ≤ '9'

/-- The parts of a number literal. -/
structure NumberParts where
  negative : Bool
  whole : List Char
  /-- The digits behind the point, if there is one. -/
  fraction : Option (List Char)
  /-- The sign of the exponent as it is written, and its digits, if there is one. -/
  exponent : Option (Option Char × List Char)
  /-- What follows the literal. -/
  rest : List Char

/-- The whole part of a number: a zero, or digits that do not start with one. `atEnd` is the
cause when the text ends too early. -/
def splitWhole (atEnd : Cause) : List Char → Except Fault (List Char × List Char)
  | [] => .error { cause := atEnd, rest := [] }
  | '0' :: rest =>
    if (rest.head?.map isDigit).getD false then
      .error { cause := .invalidNumber, rest, past := 1 }
    else .ok (['0'], rest)
  | char :: rest =>
    if isDigit char then .ok (char :: rest.takeWhile isDigit, rest.dropWhile isDigit)
    else .error { cause := .invalidNumber, rest := char :: rest, past := 1 }

/-- The fraction of a number, if a point comes next. -/
def splitFraction (atEnd : Cause) : List Char → Except Fault (Option (List Char) × List Char)
  | '.' :: rest =>
    match rest with
    | [] => .error { cause := atEnd, rest := [] }
    | char :: _ =>
      if isDigit char then .ok (some (rest.takeWhile isDigit), rest.dropWhile isDigit)
      else .error { cause := .invalidNumber, rest, past := 1 }
  | rest => .ok (none, rest)

/-- The digits of an exponent whose sign is given. -/
def splitExponentDigits (atEnd : Cause) (sign : Option Char) :
    List Char → Except Fault (Option (Option Char × List Char) × List Char)
  | [] => .error { cause := atEnd, rest := [] }
  | char :: rest =>
    if isDigit char then
      .ok (some (sign, char :: rest.takeWhile isDigit), rest.dropWhile isDigit)
    else .error { cause := .invalidNumber, rest := char :: rest, past := 1 }

/-- The exponent of a number, if its letter comes next. -/
def splitExponent (atEnd : Cause) :
    List Char → Except Fault (Option (Option Char × List Char) × List Char)
  | [] => .ok (none, [])
  | char :: rest =>
    if char = 'e' ∨ char = 'E' then
      match rest with
      | '+' :: digits => splitExponentDigits atEnd (some '+') digits
      | '-' :: digits => splitExponentDigits atEnd (some '-') digits
      | digits => splitExponentDigits atEnd none digits
    else .ok (none, char :: rest)

/-- A number literal taken apart. -/
def splitNumber (atEnd : Cause) (negative : Bool) (chars : List Char) :
    Except Fault NumberParts := do
  let (whole, rest) ← splitWhole atEnd chars
  let (fraction, rest) ← splitFraction atEnd rest
  let (exponent, rest) ← splitExponent atEnd rest
  pure { negative, whole, fraction, exponent, rest }

/-- The values of decimal digits. -/
def digitValues (digits : List Char) : List Nat := digits.map fun char => char.toNat - '0'.toNat

/-- The value of the digits of an exponent, or what follows the digit that makes it too large. -/
def exponentValue (value : Nat) : List Char → Except (List Char) Nat
  | [] => .ok value
  | digit :: rest =>
    let longer := value * 10 + (digit.toNat - '0'.toNat)
    if longer ≤ Number.maxExponent then exponentValue longer rest else .error rest

/-- The number that a literal writes. Digits that no longer fit the significand only raise the
exponent before the point, and are left out after it. -/
def NumberParts.value (parts : NumberParts) : Except Fault Number := do
  let (whole, dropped) := Number.extend 0 (digitValues parts.whole)
  let fraction := parts.fraction.getD []
  let (significand, unread) := Number.extend whole (digitValues fraction)
  let shift : Int := dropped - (fraction.length - unread : Nat)
  let scaled (exponent : Int) : Except Fault Number :=
    match Number.scale? significand exponent with
    | some value => .ok (Number.withSign parts.negative value)
    | none => .error { cause := .numberOutOfRange, rest := parts.rest }
  match parts.exponent with
  | none =>
    if parts.fraction.isNone ∧ dropped = 0 then pure (Number.ofWhole parts.negative whole)
    else scaled shift
  | some (sign, digits) =>
    let negative := sign == some '-'
    match exponentValue 0 digits with
    | .ok exponent => scaled (if negative then shift - exponent else shift + exponent)
    | .error rest =>
      if significand = 0 ∨ negative then pure (Number.withSign parts.negative 0)
      else throw { cause := .numberOutOfRange, rest := rest ++ parts.rest }

/-- The number of characters behind the sign. -/
def NumberParts.length (parts : NumberParts) : Nat :=
  parts.whole.length +
    (match parts.fraction with
      | some digits => 1 + digits.length
      | none => 0) +
    (match parts.exponent with
      | some (sign, digits) => 1 + sign.toList.length + digits.length
      | none => 0)

/-- A number literal that starts with `first`, a digit or a minus sign, with the number of
characters that it takes after that one. -/
def splitNumberAt (atEnd : Cause) (first : Char) (chars : List Char) :
    Except Fault (Lexeme NumberParts) :=
  if first = '-' then
    (fun parts => ⟨parts, parts.length⟩) <$> splitNumber atEnd true chars
  else
    (fun parts => ⟨parts, parts.length - 1⟩) <$> splitNumber atEnd false (first :: chars)

/-- The number that starts with `first`, a digit or a minus sign. -/
def readNumber (first : Char) (chars : List Char) : Except Fault (Lexeme Number) := do
  let lexeme ← splitNumberAt .endInValue first chars
  let value ← lexeme.value.value
  pure (lexeme.map fun _ => value)

/-- A number of which only the form matters, which starts with `first`. -/
def skipNumber (first : Char) (chars : List Char) : Except Fault (Lexeme Unit) :=
  Lexeme.map (fun _ => ()) <$> splitNumberAt .invalidNumber first chars

end SealedEnvelope.Json
