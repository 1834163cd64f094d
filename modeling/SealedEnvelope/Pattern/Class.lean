import SealedEnvelope.Pattern.Escape

/-!
Classes of characters in brackets.

A class is made of characters, ranges, named classes and further classes, and of operators
between such unions. How deep a class goes is all that is kept of it.
-/

namespace SealedEnvelope.Pattern

/-- A class whose closing bracket was not read yet. -/
structure OpenClass where
  negated : Bool
  /-- Whether nothing but dashes was read of it. -/
  fresh : Bool := true
  /-- The depths of the items behind the last operator. -/
  items : List Nat := []
  /-- The depth of all that stands before the last operator, if there is one. -/
  left? : Option Nat := none
deriving DecidableEq, Repr

namespace OpenClass

/-- How deep the class goes inside its brackets. -/
def depth (self : OpenClass) : Nat :=
  match self.left? with
  | some left => nesting [left, nesting self.items]
  | none => nesting self.items

/-- The class with one more item. -/
def add (self : OpenClass) (item : Nat) : OpenClass :=
  { self with items := item :: self.items, fresh := false }

/-- The class behind an operator. -/
def divide (self : OpenClass) : OpenClass :=
  { self with items := [], fresh := false, left? := some self.depth }

end OpenClass

/-- Whether a part is supported as an item of a class. -/
def Flags.supportsItem (flags : Flags) : Primitive → Bool
  | .literal char _ => if flags.unicode then !flags.ignoreCase else char.toNat < 0x80
  | .shorthand negated => !flags.unicode && !negated
  | .edge | .wordEdge => false

/-- Whether a named class is supported. -/
def Flags.supportsNamed (flags : Flags) (negated : Bool) : Bool :=
  if flags.unicode then !flags.ignoreCase else !negated

/-- The names of classes. -/
def classNames : List String :=
  ["alnum", "alpha", "ascii", "blank", "cntrl", "digit", "graph", "lower", "print", "punct",
    "space", "upper", "word", "xdigit"]

/-- Whether a named class is negated, from behind its bracket on, and what follows it. -/
def readNamed? : List Char → Option (Bool × List Char)
  | ':' :: rest =>
    let negated := rest.head? = some '^'
    let chars := if negated then rest.drop 1 else rest
    let name := String.ofList (chars.takeWhile (· ≠ ':'))
    match chars.dropWhile (· ≠ ':') with
    | ':' :: ']' :: rest => if classNames.contains name then some (negated, rest) else none
    | _ => none
  | _ => none

/-- A smallest part inside a class; all but the backslash stands for itself. -/
def readItem (flags : Flags) (char : Char) (rest : List Char) :
    Option (Primitive × List Char) :=
  if char = '\\' then readEscape flags rest else some (.literal char false, rest)

/-- What follows a smallest part that is an item by itself. -/
def readSingle (flags : Flags) (item : Primitive) (rest : List Char) : Option (List Char) :=
  if flags.supportsItem item then some rest else none

/-- What follows a range, from its last character on. -/
def readLast (flags : Flags) (first : Primitive) : List Char → Option (List Char)
  | [] => none
  | char :: rest => do
    let (last, rest) ← readItem flags char rest
    match first, last with
    | .literal low _, .literal high _ =>
      if low ≤ high ∧ flags.supportsItem first ∧ flags.supportsItem last then some rest else none
    | _, _ => none

/-- What follows a range or a single item. A dash before a bracket or another dash is no sign of
a range. -/
def readRange (flags : Flags) (char : Char) (rest : List Char) : Option (List Char) := do
  let (first, rest) ← readItem flags char rest
  match flags.skipSpace rest with
  | [] => none
  | '-' :: behind =>
    let next := flags.lookAhead behind
    if next = some ']' ∨ next = some '-' then readSingle flags first ('-' :: behind)
    else readLast flags first (flags.skipSpace behind)
  | rest => readSingle flags first rest

/-- The class that a bracket opens, from behind the bracket on. -/
def openClass (flags : Flags) (chars : List Char) : OpenClass × List Char :=
  match flags.skipSpace chars with
  | '^' :: rest => ({ negated := true }, rest)
  | rest => ({ negated := false }, rest)

/-- Whether two characters are an operator. -/
def isOperator (char next : Char) : Bool := char == next && ['&', '-', '~'].contains char

/-- The classes that are open, innermost first; none when the outermost is complete, whose depth
is then known. -/
inductive ClassProgress where
  | more (inner : OpenClass) (outer : List OpenClass)
  | done (depth : Nat)

/-- The end of the innermost class. -/
def closeClass (flags : Flags) (inner : OpenClass) (outer : List OpenClass) :
    Option ClassProgress :=
  if inner.negated ∧ ¬ flags.unicode then none
  else
    let depth := 1 + inner.depth
    match outer with
    | [] => some (.done depth)
    | next :: outer => some (.more (next.add depth) outer)

/-- One item, operator or bracket. -/
def stepClass (flags : Flags) (inner : OpenClass) (outer : List OpenClass) (char : Char)
    (rest : List Char) : Option (ClassProgress × List Char) := do
  if inner.fresh ∧ (char = '-' ∨ (char = ']' ∧ inner.items = [])) then
    let rest ← readSingle flags (.literal char false) rest
    some (.more { inner.add 0 with fresh := char = '-' } outer, rest)
  else if char = ']' then some (← closeClass flags inner outer, rest)
  else if char = '[' then
    match readNamed? rest with
    | some (negated, rest) =>
      if flags.supportsNamed negated then some (.more (inner.add 0) outer, rest) else none
    | none =>
      let (nested, rest) := openClass flags rest
      some (.more nested (inner :: outer), rest)
  else if rest.head?.any (isOperator char) then some (.more inner.divide outer, rest.drop 1)
  else some (.more (inner.add 0) outer, ← readRange flags char rest)

/-- The depth of the outermost open class, and what follows it. Every step takes a character or
more; the lengths are compared only to show that the reading ends. -/
def readClassFrom (flags : Flags) (inner : OpenClass) (outer : List OpenClass)
    (chars : List Char) : Option (Nat × List Char) :=
  match flags.skipSpace chars with
  | [] => none
  | char :: rest =>
    match stepClass flags inner outer char rest with
    | none => none
    | some (.done depth, rest) => some (depth, rest)
    | some (.more inner outer, rest) =>
      if rest.length < chars.length then readClassFrom flags inner outer rest else none
termination_by chars.length

/-- The depth of a class, from behind its bracket on, and what follows it. -/
def readClass (flags : Flags) (chars : List Char) : Option (Nat × List Char) :=
  let (inner, rest) := openClass flags chars
  readClassFrom flags inner [] rest

end SealedEnvelope.Pattern
