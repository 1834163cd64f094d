import SealedEnvelope.Json.Printer
import SealedEnvelope.Json.Reader

/-!
The body that carries an envelope: a JSON object whose member `data` is the envelope's text.

Other members are passed over. The body may also be written as a list of one item, which
then is the data.
-/

namespace SealedEnvelope

open Json

/-- A body with or without data. -/
structure Body where
  data : Option String
deriving DecidableEq, Repr

namespace Body

/-- The key of the member that counts. -/
def dataKey : String := "data"

/-- The fault of a value that starts with a character and is not of the wanted kind. A scalar
is read to its end first; a container is refused where it starts. -/
def wrongKind (wanted : String) (first : Char) (rest : List Char) : Fault :=
  if first = '[' then { cause := .wrongKind .list wanted, rest := first :: rest }
  else if first = '\x7b' then { cause := .wrongKind .object wanted, rest := first :: rest }
  else
    match readScalar? first rest with
    | none => { cause := .valueExpected, rest := first :: rest, past := 1 }
    | some (.error fault) => fault
    | some (.ok lexeme) =>
      { cause := .wrongKind (.scalar lexeme.value) wanted, rest := rest.drop lexeme.length }

/-- The value of `data`: null or a string, with the white space before it. -/
def readData (chars : List Char) : Except Fault (Lexeme (Option String)) :=
  let spaces := (chars.takeWhile isSpace).length
  let behind (lexeme : Lexeme (Option String)) : Lexeme (Option String) :=
    ⟨lexeme.value, spaces + 1 + lexeme.length⟩
  match skipSpace chars with
  | [] => .error { cause := .endInValue, rest := [] }
  | 'n' :: rest => behind <$> readWord none ['u', 'l', 'l'] rest
  | '"' :: rest => (fun lexeme => behind (lexeme.map some)) <$> readString rest
  | first :: rest => .error (wrongKind "a string" first rest)

/-- The number of characters up to the colon behind a key, the colon included. -/
def readColon (chars : List Char) : Except Fault Nat :=
  match skipSpace chars with
  | [] => .error { cause := .endInObject, rest := [] }
  | char :: rest =>
    if char = ':' then .ok ((chars.takeWhile isSpace).length + 1)
    else .error { cause := .colonExpected, rest := char :: rest, past := 1 }

/-- The place of the fault when `data` comes twice: behind the second key and the white space
after it, and behind the end of the object if that is next. -/
def afterRepeatedKey (chars : List Char) : List Char :=
  match skipSpace chars with
  | '\x7d' :: rest => rest
  | rest => rest

/-- A member, from behind the opening quote of its key on, and the data known after it. -/
def readMember (data : Option (Option String)) (chars : List Char) :
    Except Fault (Lexeme (Option (Option String))) := do
  let key ← readString chars
  let behindKey := chars.drop key.length
  if key.value = dataKey ∧ data.isSome then
    throw { cause := .duplicateMember dataKey, rest := afterRepeatedKey behindKey }
  let colon ← readColon behindKey
  let behindColon := behindKey.drop colon
  if key.value = dataKey then
    let text ← readData behindColon
    pure ⟨some text.value, key.length + colon + text.length⟩
  else
    let passed ← skipStyle.read behindColon
    pure ⟨data, key.length + colon + passed.length⟩

/-- Where a reader of members stands. -/
inductive Place where
  | first
  | behindComma
  | behindMember

/-- What is wrong when the text ends at a place. -/
def Place.atEnd : Place → Cause
  | first | behindMember => .endInObject
  | behindComma => .endInValue

/-- The members up to the end of the object, the data they hold, and what follows. -/
def readMembers (data : Option (Option String)) (place : Place) :
    List Char → Except Fault (Option String × List Char)
  | [] => .error { cause := place.atEnd, rest := [] }
  | char :: rest =>
    if isSpace char then readMembers data place rest
    else
      let unfit (cause : Cause) : Fault := { cause, rest := char :: rest, past := 1 }
      match place, char with
      | .first, '\x7d' | .behindMember, '\x7d' => .ok (data.join, rest)
      | .behindComma, '\x7d' => .error (unfit .trailingComma)
      | .behindMember, ',' => readMembers data .behindComma rest
      | .behindMember, _ => .error (unfit .commaOrBraceExpected)
      | _, '"' =>
        match readMember data rest with
        | .ok member => readMembers member.value .behindMember (rest.drop member.length)
        | .error fault => .error fault
      | _, _ => .error (unfit .keyExpected)
termination_by chars => chars.length
decreasing_by all_goals simp; try omega

/-- The end of a list of one item, and what follows. -/
def readListEnd (chars : List Char) : Except Fault (List Char) :=
  match skipSpace chars with
  | [] => .error { cause := .endInList, rest := [] }
  | ']' :: rest => .ok rest
  | ',' :: rest =>
    match skipSpace rest with
    | ']' :: rest => .error { cause := .trailingComma, rest := ']' :: rest, past := 1 }
    | rest => .error { cause := .trailingCharacters, rest, past := 1 }
  | rest => .error { cause := .trailingCharacters, rest, past := 1 }

/-- A list of one item, from behind its bracket on, and what follows. -/
def readList (chars : List Char) : Except Fault (Option String × List Char) :=
  match skipSpace chars with
  | [] => .error { cause := .endInList, rest := [] }
  | ']' :: rest =>
    .error { cause := .wrongLength 0 "struct EncryptedData with 1 element", rest }
  | item => do
    let data ← readData item
    let rest ← readListEnd (item.drop data.length)
    pure (data.value, rest)

/-- A body, and what follows. -/
def readBody (chars : List Char) : Except Fault (Option String × List Char) :=
  match skipSpace chars with
  | [] => .error { cause := .endInValue, rest := [] }
  | '\x7b' :: rest => readMembers none .first rest
  | '[' :: rest => readList rest
  | first :: rest => .error (wrongKind "struct EncryptedData" first rest)

/-- The body that a text writes. -/
def parse (text : String) : Except Json.Error Body :=
  let chars := text.toList
  let read : Except Fault Body := do
    let (data, rest) ← readBody chars
    expectEnd rest
    pure ⟨data⟩
  read.mapError (·.toError chars)

/-- The text of a body, without white space. -/
def write (body : Body) : String :=
  let value : List Char :=
    match body.data with
    | some text => stringChars text
    | none => "null".toList
  String.ofList ('\x7b' :: stringChars dataKey ++ ':' :: value ++ ['\x7d'])

end Body

end SealedEnvelope
