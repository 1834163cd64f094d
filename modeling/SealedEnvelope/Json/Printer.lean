import SealedEnvelope.Json.Value
import SealedEnvelope.Text.Hex

/-!
JSON text of strings and values.
-/

namespace SealedEnvelope.Json

/-- A character as it stands in a string: quotes, backslashes and control characters are
escaped, by a letter where there is one. -/
def escapeChar (char : Char) : List Char :=
  match char with
  | '"' => ['\\', '"']
  | '\\' => ['\\', '\\']
  | '\x08' => ['\\', 'b']
  | '\x0c' => ['\\', 'f']
  | '\n' => ['\\', 'n']
  | '\r' => ['\\', 'r']
  | '\t' => ['\\', 't']
  | char =>
    if char < ' ' then
      ['\\', 'u', '0', '0', Hex.digit (char.toNat / 16), Hex.digit (char.toNat % 16)]
    else [char]

/-- A string in quotes. -/
def stringChars (text : String) : List Char :=
  '"' :: text.toList.flatMap escapeChar ++ ['"']

/-- A line break and the indentation behind it, two spaces a level. -/
def lineBreak (level : Nat) : List Char := '\n' :: List.replicate (2 * level) ' '

/-- Items one to a line, between an opening and a closing character. -/
def block (opening closing : Char) (level : Nat) : List (List Char) → List Char
  | [] => [opening, closing]
  | first :: rest =>
    opening :: (lineBreak (level + 1) ++ first) ++
      rest.flatMap (fun item => ',' :: (lineBreak (level + 1) ++ item)) ++
      lineBreak level ++ [closing]

mutual

/-- The indented text of a value whose first line stands at a nesting level. -/
def prettyChars (level : Nat) : Value → List Char
  | .null => "null".toList
  | .boolean value => (if value then "true" else "false").toList
  | .number number => number.text.toList
  | .string text => stringChars text
  | .list items => block '[' ']' level (prettyItems (level + 1) items)
  | .object members => block '\x7b' '\x7d' level (prettyMembers (level + 1) members)

/-- The texts of the items of a list. -/
def prettyItems (level : Nat) : List Value → List (List Char)
  | [] => []
  | item :: rest => prettyChars level item :: prettyItems level rest

/-- The texts of the members of an object. -/
def prettyMembers (level : Nat) : List (String × Value) → List (List Char)
  | [] => []
  | (key, value) :: rest =>
    (stringChars key ++ ':' :: ' ' :: prettyChars level value) :: prettyMembers level rest

end

/-- The indented text of a value. -/
def pretty (value : Value) : String := String.ofList (prettyChars 0 value)

end SealedEnvelope.Json
