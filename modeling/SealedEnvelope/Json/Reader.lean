import SealedEnvelope.Json.Lexeme

/-!
Reading one JSON value of any nesting.

The reader keeps a stack of the containers that wait for a value and knows what may come
next in the innermost one. Each step takes one character, and the rest of a lexeme with it,
so reading ends with the text. What a value is read as, and how far, is left to a `Style`.
-/

namespace SealedEnvelope.Json

/-- What is made of a value that is read. -/
structure Style (α : Type) where
  /-- The value that is not a container and starts with a character, if one does. -/
  scalar? : Char → List Char → Option (Except Fault (Lexeme α))
  /-- The key of a member, from behind its opening quote on. -/
  key : List Char → Except Fault (Lexeme String)
  /-- The list of some items, last one first. -/
  list : List α → α
  /-- The object of some members, last one first. -/
  object : List (String × α) → α
  /-- How many containers may be open at a time, if there is a limit. -/
  depthLimit : Option Nat
  /-- What is wrong with a bracket behind a comma. -/
  bracketAfterComma : Cause
  /-- What is wrong with a brace behind a comma. -/
  braceAfterComma : Cause
  /-- What is wrong when the text ends behind the comma of a member. -/
  endAfterMember : Cause

/-- A container that waits for a value, with what it holds so far, last one first. -/
inductive Frame (α : Type) where
  | list (items : List α)
  | object (members : List (String × α)) (key : String)

/-- What may come next. -/
inductive Awaiting (α : Type) where
  /-- A value, behind a colon or at the start of the text. -/
  | value
  /-- A first item or the end of the list. -/
  | firstItem
  /-- An item, behind a comma. -/
  | nextItem (items : List α)
  /-- A comma or the end of the list. -/
  | itemEnd (items : List α)
  /-- A first member or the end of the object. -/
  | firstKey
  /-- A member, behind a comma. -/
  | nextKey (members : List (String × α))
  /-- The colon behind a key. -/
  | colon (members : List (String × α)) (key : String)
  /-- A comma or the end of the object. -/
  | memberEnd (members : List (String × α))

/-- What a step leads to; the step takes `length` characters after its first. -/
inductive Progress (α : Type) where
  | more (awaiting : Awaiting α) (stack : List (Frame α)) (length : Nat)
  | done (value : α) (length : Nat)

namespace Style

variable {α : Type}

/-- What is wrong when the text ends. -/
def atEnd (style : Style α) : Awaiting α → Cause
  | .value | .nextItem _ => .endInValue
  | .firstItem | .itemEnd _ => .endInList
  | .firstKey | .colon _ _ | .memberEnd _ => .endInObject
  | .nextKey _ => style.endAfterMember

/-- Hand a value to the innermost container that waits for one. -/
def accept (value : α) (length : Nat) : List (Frame α) → Progress α
  | [] => .done value length
  | .list items :: stack => .more (.itemEnd (value :: items)) stack length
  | .object members key :: stack => .more (.memberEnd ((key, value) :: members)) stack length

/-- The fault of an unfitting character. -/
def unfit (cause : Cause) (char : Char) (rest : List Char) : Fault :=
  { cause, rest := char :: rest, past := 1 }

/-- Whether one more container may be opened. -/
def mayOpen (style : Style α) (stack : List (Frame α)) : Bool :=
  match style.depthLimit with
  | some limit => stack.length < limit
  | none => true

/-- The start of a value. -/
def startValue (style : Style α) (stack : List (Frame α)) (char : Char) (rest : List Char) :
    Except Fault (Progress α) :=
  if char = '[' ∨ char = '\x7b' then
    if style.mayOpen stack then
      .ok (.more (if char = '[' then .firstItem else .firstKey) stack 0)
    else .error (unfit .tooDeep char rest)
  else
    match style.scalar? char rest with
    | some (.ok lexeme) => .ok (accept lexeme.value lexeme.length stack)
    | some (.error fault) => .error fault
    | none => .error (unfit .valueExpected char rest)

/-- The start of a key. -/
def startKey (style : Style α) (members : List (String × α)) (stack : List (Frame α))
    (char : Char) (rest : List Char) : Except Fault (Progress α) :=
  if char = '"' then
    match style.key rest with
    | .ok lexeme => .ok (.more (.colon members lexeme.value) stack lexeme.length)
    | .error fault => .error fault
  else .error (unfit .keyExpected char rest)

/-- One step, at a character that is not white space. -/
def step (style : Style α) (awaiting : Awaiting α) (stack : List (Frame α)) (char : Char)
    (rest : List Char) : Except Fault (Progress α) :=
  match awaiting with
  | .value => style.startValue stack char rest
  | .firstItem =>
    if char = ']' then .ok (accept (style.list []) 0 stack)
    else style.startValue (.list [] :: stack) char rest
  | .nextItem items =>
    if char = ']' then .error (unfit style.bracketAfterComma char rest)
    else style.startValue (.list items :: stack) char rest
  | .itemEnd items =>
    if char = ',' then .ok (.more (.nextItem items) stack 0)
    else if char = ']' then .ok (accept (style.list items) 0 stack)
    else .error (unfit .commaOrBracketExpected char rest)
  | .firstKey =>
    if char = '\x7d' then .ok (accept (style.object []) 0 stack)
    else style.startKey [] stack char rest
  | .nextKey members =>
    if char = '\x7d' then .error (unfit style.braceAfterComma char rest)
    else style.startKey members stack char rest
  | .colon members key =>
    if char = ':' then .ok (.more .value (.object members key :: stack) 0)
    else .error (unfit .colonExpected char rest)
  | .memberEnd members =>
    if char = ',' then .ok (.more (.nextKey members) stack 0)
    else if char = '\x7d' then .ok (accept (style.object members) 0 stack)
    else .error (unfit .commaOrBraceExpected char rest)

/-- Read on until the outermost value is complete, after `length` characters of it. -/
def readFrom (style : Style α) (awaiting : Awaiting α) (stack : List (Frame α)) (length : Nat) :
    List Char → Except Fault (Lexeme α)
  | [] => .error { cause := style.atEnd awaiting, rest := [] }
  | char :: rest =>
    if isSpace char then style.readFrom awaiting stack (length + 1) rest
    else
      match style.step awaiting stack char rest with
      | .error fault => .error fault
      | .ok (.done value size) => .ok ⟨value, length + 1 + size⟩
      | .ok (.more awaiting stack size) =>
        style.readFrom awaiting stack (length + 1 + size) (rest.drop size)
termination_by chars => chars.length
decreasing_by all_goals simp; try omega

/-- One value, with the white space before it. -/
def read (style : Style α) (chars : List Char) : Except Fault (Lexeme α) :=
  style.readFrom .value [] 0 chars

end Style

/-- Refuses anything but white space. -/
def expectEnd (chars : List Char) : Except Fault Unit :=
  match skipSpace chars with
  | [] => .ok ()
  | char :: rest => .error { cause := .trailingCharacters, rest := char :: rest, past := 1 }

/-! ### Values -/

/-- The scalar value that starts with a character, if one does. -/
def readScalar? (first : Char) (rest : List Char) : Option (Except Fault (Lexeme Value)) :=
  if first = 'n' then some (readWord .null ['u', 'l', 'l'] rest)
  else if first = 't' then some (readWord (.boolean true) ['r', 'u', 'e'] rest)
  else if first = 'f' then some (readWord (.boolean false) ['a', 'l', 's', 'e'] rest)
  else if first = '"' then some (Lexeme.map .string <$> readString rest)
  else if first = '-' ∨ isDigit first then some (Lexeme.map .number <$> readNumber first rest)
  else none

/-- Reading for the value, with at most 127 containers open at a time. -/
def valueStyle : Style Value where
  scalar? := readScalar?
  key := readString
  list := fun items => .list items.reverse
  object := fun members => .object (ofLastFirst members)
  depthLimit := some 127
  bracketAfterComma := .trailingComma
  braceAfterComma := .trailingComma
  endAfterMember := .endInValue

/-- The value that a text writes. -/
def parse (text : String) : Except Error Value :=
  let chars := text.toList
  let read : Except Fault Value := do
    let lexeme ← valueStyle.read chars
    expectEnd (chars.drop lexeme.length)
    pure lexeme.value
  read.mapError (·.toError chars)

/-! ### Values that are passed over -/

/-- The scalar value that starts with a character, if one does, by its form alone. -/
def skipScalar? (first : Char) (rest : List Char) : Option (Except Fault (Lexeme Unit)) :=
  if first = 'n' then some (readWord () ['u', 'l', 'l'] rest)
  else if first = 't' then some (readWord () ['r', 'u', 'e'] rest)
  else if first = 'f' then some (readWord () ['a', 'l', 's', 'e'] rest)
  else if first = '"' then some (skipString rest)
  else if first = '-' ∨ isDigit first then some (skipNumber first rest)
  else none

/-- Reading for the form alone, at any depth. -/
def skipStyle : Style Unit where
  scalar? := skipScalar?
  key := fun chars => Lexeme.map (fun _ => "") <$> skipString chars
  list := fun _ => ()
  object := fun _ => ()
  depthLimit := none
  bracketAfterComma := .valueExpected
  braceAfterComma := .keyExpected
  endAfterMember := .endInObject

end SealedEnvelope.Json
