import SealedEnvelope.Event
import SealedEnvelope.Pattern
import SealedEnvelope.Text.Alphanumeric
import SealedEnvelope.Text.Blank

/-!
The directives that a filter for reports is made of.

A directive is a level, or it is a source, a scope in brackets behind it or alone, and a level
behind an equals sign. A scope names a span of time, a field in braces, or both.
-/

namespace SealedEnvelope

namespace Level

/-- The words for a level, and for none. -/
def words : List (String × Option Level) :=
  [("off", none), ("error", some .error), ("warn", some .warn), ("info", some .info),
    ("debug", some .debug), ("trace", some .trace)]

/-- The numbers for a level, and for none. -/
def numbers : List (Nat × Option Level) :=
  [(0, none), (1, some .error), (2, some .warn), (3, some .info), (4, some .debug),
    (5, some .trace)]

/-- The number that decimal digits write, which a plus sign may lead. -/
def number? (text : String) : Option Nat :=
  let digits := match text.toList with
    | '+' :: rest => rest
    | chars => chars
  if digits ≠ [] ∧ digits.all Char.isDigit then
    some (digits.foldl (fun number digit => 10 * number + (digit.toNat - '0'.toNat)) 0)
  else none

/-- The level that a word or a number stands for; the case of a word does not matter. -/
def ofText? (text : String) : Option (Option Level) :=
  match words.lookup text.toLower with
  | some level => some level
  | none => (number? text).bind fun number => numbers.lookup number

end Level

/-- A field that a directive asks for, by name or also by value. -/
structure FieldQuery where
  name : String
  value? : Option String
deriving DecidableEq, Repr

namespace FieldQuery

/-- Whether characters are the exponent of a number, or none. -/
def isExponent : List Char → Bool
  | [] => true
  | mark :: rest =>
    let digits := match rest with
      | '+' :: digits | '-' :: digits => digits
      | digits => digits
    (mark == 'e' || mark == 'E') && digits != [] && digits.all Char.isDigit

/-- Whether characters are a number without a sign. -/
def isUnsigned (chars : List Char) : Bool :=
  let behindWhole := chars.dropWhile Char.isDigit
  let (pointed, behindPoint) := match behindWhole with
    | '.' :: rest => (rest.takeWhile Char.isDigit, rest.dropWhile Char.isDigit)
    | rest => ([], rest)
  ["inf", "infinity", "nan"].contains (String.ofList chars).toLower ||
    ((chars.takeWhile Char.isDigit != [] || pointed != []) && isExponent behindPoint)

/-- Whether a field may be asked for by a value: by a number or by a pattern. Numbers are
patterns too unless a plus sign leads them. -/
def isValue (text : String) : Bool :=
  match text.toList with
  | '+' :: rest => isUnsigned rest
  | _ => Pattern.isPattern text

/-- The field that a text asks for. What follows a second equals sign does not count. -/
def ofText? (text : String) : Option FieldQuery :=
  match text.splitOn "=" with
  | name :: value :: _ => if isValue value then some ⟨name, some value⟩ else none
  | _ => some ⟨text, none⟩

end FieldQuery

/-- Show reports of a source and scope up to a level; nothing at all without a level. -/
structure Directive where
  source? : Option String := none
  span? : Option String := none
  field? : Option FieldQuery := none
  level? : Option Level
deriving DecidableEq, Repr

namespace Directive

/-- Whether a directive applies to a report. Reports are made outside of any span, and values of
fields are looked for in spans only. -/
def covers (directive : Directive) (event : Event) : Bool :=
  directive.span?.isNone &&
    directive.source?.all (fun source =>
      source.toList.isPrefixOf event.sourceName.toList) &&
    directive.field?.all fun field =>
      field.value?.isNone && event.fieldNames.contains field.name

/-! ### Reading -/

/-- Why a text is not read as directives. -/
inductive Fault where
  /-- A directive is written in no way that is known. -/
  | unreadable
  /-- A part would have to be cut out from inside a character: the program ends on the spot. -/
  | crash
deriving DecidableEq, Repr

/-- A directive that is being read.

Marks are looked for in the text without the blanks at its ends, and the parts between them are
cut from the text as it was given, at the same places. So blanks in front move the cuts, and
blanks behind belong to the last part. -/
structure Reading where
  /-- The text as it was given. -/
  given : Bytes
  /-- How much was read of the text without the blanks at its ends. -/
  place : Nat
  /-- What is left of that. -/
  rest : Bytes

namespace Reading

/-- The directive before anything was read of it. -/
def start (text : String) : Reading :=
  ⟨Utf8.encode text, 0, Utf8.encode (Text.trim text)⟩

/-- Read on behind so many bytes. -/
def skip (reading : Reading) (count : Nat) : Reading :=
  { reading with place := reading.place + count, rest := reading.rest.drop count }

/-- Whether the given text can be cut at a place: where a character starts, or at its end. -/
def cutsAt (reading : Reading) (place : Nat) : Bool :=
  reading.given[place]?.all fun byte => byte.toNat / 64 ≠ 2

/-- The next part of the given text, of so many bytes. Also a part without a byte has its place. -/
def cut (reading : Reading) (length : Nat) : Except Fault String :=
  if reading.cutsAt reading.place && reading.cutsAt (reading.place + length) then
    (Utf8.decode ((reading.given.drop reading.place).take length)).mapError fun _ => .crash
  else throw .crash

/-- How many bytes are ahead of the next of some marks, and the mark. -/
def next? (reading : Reading) (marks : List Char) : Option (Nat × Char) :=
  let isMark (byte : UInt8) : Bool := marks.any fun mark => byte.toNat = mark.toNat
  let length := (reading.rest.takeWhile (!isMark ·)).length
  reading.rest[length]?.map fun byte => (length, Char.ofNat byte.toNat)

/-- The part up to the next of some marks, the mark, and the reading behind it. -/
def upTo (reading : Reading) (marks : List Char) : Except Fault (String × Char × Reading) :=
  match reading.next? marks with
  | none => throw .unreadable
  | some (length, mark) => do pure (← reading.cut length, mark, reading.skip (length + 1))

/-- The level behind an equals sign. Details of any kind are shown when it is left out. -/
def level (reading : Reading) : Except Fault (Option Level) := do
  let word ← reading.cut (reading.given.length - reading.place)
  if word = "" then pure (some .trace) else (Level.ofText? word).getDM (throw .unreadable)

/-- The reading behind a mark, which must come next. -/
def behind (reading : Reading) (mark : Char) : Except Fault Reading :=
  match reading.rest with
  | byte :: _ => if byte.toNat = mark.toNat then pure (reading.skip 1) else throw .unreadable
  | [] => throw .unreadable

/-- The level behind a scope, with an equals sign before it or left out with the sign. -/
def levelBehind (reading : Reading) : Except Fault (Option Level) := do
  if reading.rest = [] then pure (some .trace) else (← reading.behind '=').level

/-- The field from behind its brace on, and the reading behind the bracket that follows. -/
def field (reading : Reading) : Except Fault (FieldQuery × Reading) := do
  let (text, _, rest) ← reading.upTo ['\x7d']
  if text = "" then throw .unreadable
  pure (← (FieldQuery.ofText? text).getDM (throw .unreadable), ← rest.behind ']')

/-- The scope from behind its bracket on, and the level. A span without a field may have an empty
name; one with a field then has none. -/
def scope (reading : Reading) (source? : Option String) : Except Fault Directive := do
  let (name, mark, rest) ← reading.upTo [']', '\x7b']
  if mark = ']' then
    pure { source?, span? := some name, level? := ← rest.levelBehind }
  else
    let (field, rest) ← rest.field
    let span? := if name = "" then none else some name
    pure { source?, span?, field? := some field, level? := ← rest.levelBehind }

end Reading

/-- Whether a directive may start with a character, unless it starts with a scope. -/
def mayStart (char : Char) : Bool :=
  Text.isAlphanumeric char || ['-', ':', '_'].contains char

/-- The directive of a text without marks: a level, or a source that all reports are shown of. -/
def unmarked (text : String) : Directive :=
  match Level.ofText? text with
  | some level? => { level? }
  | none => { source? := some text, level? := some .trace }

/-- The directive that a text writes. -/
def parse (text : String) : Except Fault Directive :=
  let reading := Reading.start text
  match (Text.trim text).toList with
  | [] => throw .unreadable
  | '[' :: _ => (reading.skip 1).scope none
  | first :: _ =>
    if mayStart first then
      match reading.next? ['=', '['] with
      | none => pure (unmarked text)
      | some _ => do
        let (source, mark, rest) ← reading.upTo ['=', '[']
        if mark = '=' then pure { source? := some source, level? := ← rest.level }
        else rest.scope (some source)
    else throw .unreadable

/-! ### Order -/

/-- Whether a directive is less specific than another: by the length of its source, by having a
field, then by the field's name. -/
def lessSpecific (left right : Directive) : Bool :=
  let length (directive : Directive) : Nat := (directive.source?.getD "").utf8ByteSize
  let name (directive : Directive) : String := (directive.field?.map FieldQuery.name).getD ""
  length left < length right ||
    (length left = length right &&
      ((left.field?.isNone && right.field?.isSome) ||
        (left.field?.isSome && right.field?.isSome && name left < name right)))

/-- The more specific of two directives, the later one when they are equally so. -/
def moreSpecific (earlier later : Directive) : Directive :=
  if lessSpecific later earlier then earlier else later

end Directive

end SealedEnvelope
