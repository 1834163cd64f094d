import SealedEnvelope.Bytes
import SealedEnvelope.Json.Value
import SealedEnvelope.Text.Quoted

/-!
What is wrong with a text that is not read as JSON, and where.

A reader holds the characters that are left, so it names a place by them: `Fault` says what
is left there, and how many bytes further on the place is. `Error` is the same with the
place as line and column of the whole text.
-/

namespace SealedEnvelope.Json

/-- What was found in place of a value of the wanted kind. -/
inductive Found where
  | scalar (value : Value)
  | list
  | object

/-- A value as an error names it. -/
def Found.description : Found → String
  | scalar .null => "null"
  | scalar (.boolean value) => s!"boolean `{value}`"
  | scalar (.number (.integer value)) => s!"integer `{value}`"
  | scalar (.number (.float value)) => s!"floating point `{Number.floatText value}`"
  | scalar (.string value) => "string " ++ Text.quote value
  | list | scalar (.list _) => "sequence"
  | object | scalar (.object _) => "map"

/-- Why a text is not read. -/
inductive Cause where
  | endInValue
  | endInString
  | endInList
  | endInObject
  | valueExpected
  | wordExpected
  | colonExpected
  | commaOrBracketExpected
  | commaOrBraceExpected
  | keyExpected
  | trailingComma
  | trailingCharacters
  | controlCharacter
  | invalidEscape
  | endOfHexEscape
  | loneSurrogate
  | invalidNumber
  | numberOutOfRange
  | tooDeep
  | duplicateMember (key : String)
  | wrongLength (length : Nat) (wanted : String)
  | wrongKind (found : Found) (wanted : String)

/-- The wording of a cause. -/
def Cause.message : Cause → String
  | endInValue => "EOF while parsing a value"
  | endInString => "EOF while parsing a string"
  | endInList => "EOF while parsing a list"
  | endInObject => "EOF while parsing an object"
  | valueExpected => "expected value"
  | wordExpected => "expected ident"
  | colonExpected => "expected `:`"
  | commaOrBracketExpected => "expected `,` or `]`"
  | commaOrBraceExpected => "expected `,` or `\x7d`"
  | keyExpected => "key must be a string"
  | trailingComma => "trailing comma"
  | trailingCharacters => "trailing characters"
  | controlCharacter =>
    "control character (\\u0000-\\u001F) found while parsing a string"
  | invalidEscape => "invalid escape"
  | endOfHexEscape => "unexpected end of hex escape"
  | loneSurrogate => "lone leading surrogate in hex escape"
  | invalidNumber => "invalid number"
  | numberOutOfRange => "number out of range"
  | tooDeep => "recursion limit exceeded"
  | duplicateMember key => s!"duplicate field `{key}`"
  | wrongLength length wanted => s!"invalid length {length}, expected {wanted}"
  | wrongKind found wanted => s!"invalid type: {found.description}, expected {wanted}"

/-- A cause and its place: `past` bytes after the start of `rest`, but not after the end of
the text. -/
structure Fault where
  cause : Cause
  rest : List Char
  past : Nat := 0

/-- A cause with the line and column of its place, which count from the bytes before it. -/
structure Error where
  cause : Cause
  line : Nat
  column : Nat

/-- The wording of an error. -/
def Error.message (error : Error) : String :=
  s!"{error.cause.message} at line {error.line} column {error.column}"

/-- The number of bytes that a list of characters takes. -/
def byteLength (chars : List Char) : Nat :=
  chars.foldl (fun total char => total + char.utf8Size) 0

/-- The place of a fault, as the number of bytes of the text before it. -/
def Fault.offset (fault : Fault) (text : List Char) : Nat :=
  min (byteLength text) (byteLength text - byteLength fault.rest + fault.past)

/-- The line and column behind the first `offset` bytes of a text: one more than the line
breaks there are, and the bytes after the last of them. -/
def place : (text : List Char) → (offset line column : Nat) → Nat × Nat
  | [], _, line, column => (line, column)
  | char :: rest, offset, line, column =>
    if offset = 0 then (line, column)
    else if char = '\n' then place rest (offset - 1) (line + 1) 0
    else place rest (offset - char.utf8Size) line (column + min offset char.utf8Size)

/-- A fault placed in the text that it was found in. -/
def Fault.toError (fault : Fault) (text : List Char) : Error :=
  let (line, column) := place text (fault.offset text) 1 0
  { cause := fault.cause, line, column }

end SealedEnvelope.Json
