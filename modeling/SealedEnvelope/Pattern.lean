import SealedEnvelope.Pattern.Class
import SealedEnvelope.Text.Alphanumeric

/-!
Search patterns: which texts are patterns.

A pattern is a sequence of characters, escapes, classes and groups, with bars between
alternatives and the signs of repetition behind what they repeat. Nothing is searched for with
them here, so of a pattern only the depth to which its parts are nested is kept.
-/

namespace SealedEnvelope.Pattern

/-- A part of a sequence. -/
structure Part where
  depth : Nat
  /-- Whether a sign of repetition may follow. -/
  repeatable : Bool := true
deriving DecidableEq, Repr

/-- Alternatives whose end was not read yet. -/
structure Level where
  /-- The depths of the finished alternatives. -/
  finished : List Nat := []
  /-- The parts of the last alternative, latest first. -/
  parts : List Part := []
deriving DecidableEq, Repr

namespace Level

/-- The level with one more part. -/
def add (level : Level) (part : Part) : Level := { level with parts := part :: level.parts }

/-- The level behind a bar. -/
def divide (level : Level) : Level :=
  { finished := nesting (level.parts.map Part.depth) :: level.finished }

/-- How deep the alternatives go. -/
def depth (level : Level) : Nat := nesting level.divide.finished

/-- The level with its latest part repeated. -/
def repeat? (level : Level) : Option Level :=
  match level.parts with
  | ⟨depth, true⟩ :: parts => some { level with parts := ⟨1 + depth, true⟩ :: parts }
  | _ => none

end Level

/-- A pattern that is being read. -/
structure State where
  flags : Flags := {}
  inner : Level := {}
  /-- The groups around the inner level, innermost first, with the flags that hold behind them. -/
  outer : List (Level × Flags) := []
  /-- The names of groups. -/
  names : List String := []
deriving DecidableEq, Repr

namespace State

/-- The state with one more part. -/
def add (state : State) (part : Part) : State := { state with inner := state.inner.add part }

/-- The state inside a new group with its flags. -/
def openGroup (state : State) (flags : Flags) : State :=
  { state with flags, inner := {}, outer := (state.inner, state.flags) :: state.outer }

/-- The state behind the end of the innermost group. -/
def closeGroup? (state : State) : Option State :=
  match state.outer with
  | [] => none
  | (level, flags) :: outer =>
    some { state with flags, inner := level.add ⟨1 + state.inner.depth, true⟩, outer }

/-- A smallest part, if it is supported. -/
def addPrimitive? (state : State) (primitive : Primitive) : Option State :=
  if state.flags.supports primitive then some (state.add ⟨0, true⟩) else none

end State

/-- Whether characters may name a group. -/
def isName : List Char → Bool
  | [] => false
  | first :: rest =>
    (first == '_' || Text.isAlphabetic first) &&
      rest.all fun char => Text.isAlphanumeric char || ['_', '.', '[', ']'].contains char

/-- A named group, from behind the angle bracket of its name on. Names are different. -/
def readNamedGroup (state : State) (chars : List Char) : Option (State × List Char) :=
  let name := chars.takeWhile (· ≠ '>')
  match chars.dropWhile (· ≠ '>') with
  | [] => none
  | _ :: rest =>
    let text := String.ofList name
    if isName name ∧ text ∉ state.names then
      some ({ state with names := text :: state.names }.openGroup state.flags, rest)
    else none

/-- A group with flags, from behind its question mark on, or flags for what follows. -/
def readFlagGroup (state : State) (chars : List Char) : Option (State × List Char) := do
  let isEnd (char : Char) : Bool := char == ':' || char == ')'
  let given := chars.takeWhile (!isEnd ·)
  let flags ← state.flags.set? given
  match chars.dropWhile (!isEnd ·) with
  | ':' :: rest => some (state.openGroup flags, rest)
  | ')' :: rest =>
    if given = [] then none else some ({ state with flags }.add ⟨0, false⟩, rest)
  | _ => none

/-- The head of a group, from behind its parenthesis on. -/
def readGroup (state : State) (chars : List Char) : Option (State × List Char) :=
  match state.flags.skipSpace chars with
  | '?' :: 'P' :: '<' :: rest => readNamedGroup state rest
  | '?' :: '<' :: rest => readNamedGroup state rest
  | '?' :: rest => readFlagGroup state rest
  | rest => some (state.openGroup state.flags, rest)

/-- One part, sign or end of a group. A brace would begin a counted repetition, of which there
are none. -/
def step (state : State) (char : Char) (rest : List Char) : Option (State × List Char) :=
  match char with
  | '(' => readGroup state rest
  | ')' => state.closeGroup?.map (·, rest)
  | '|' => some ({ state with inner := state.inner.divide }, rest)
  | '[' => do
    let (depth, rest) ← readClass state.flags rest
    some (state.add ⟨depth, true⟩, rest)
  | '*' | '+' | '?' => do
    let inner ← state.inner.repeat?
    some ({ state with inner }, if rest.head? = some '?' then rest.drop 1 else rest)
  | '\x7b' => none
  | '\\' => do
    let (primitive, rest) ← readEscape state.flags rest
    some (← state.addPrimitive? primitive, rest)
  | '.' => if state.flags.unicode then some (state.add ⟨0, true⟩, rest) else none
  | '^' | '$' => (state.addPrimitive? .edge).map (·, rest)
  | char => (state.addPrimitive? (.literal char false)).map (·, rest)

/-- The state at the end of a text. Every step takes a character or more; the lengths are compared
only to show that the reading ends. -/
def readFrom (state : State) (chars : List Char) : Option State :=
  match state.flags.skipSpace chars with
  | [] => some state
  | char :: rest =>
    match step state char rest with
    | none => none
    | some (state, rest) =>
      if rest.length < chars.length then readFrom state rest else none
termination_by chars.length

/-- How deep the parts of a pattern may be nested. -/
def depthLimit : Nat := 250

/-- Whether a text is a pattern. -/
def isPattern (text : String) : Bool :=
  match readFrom {} text.toList with
  | some state => state.outer.isEmpty && state.inner.depth ≤ depthLimit
  | none => false

end SealedEnvelope.Pattern
