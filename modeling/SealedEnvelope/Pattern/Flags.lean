import SealedEnvelope.Text.Blank

/-!
The flags under which a part of a pattern is read, and what is passed over between its parts.
-/

namespace SealedEnvelope.Pattern

/-- What holds for a part of a pattern. -/
structure Flags where
  /-- Letters stand for both cases. -/
  ignoreCase : Bool := false
  /-- Characters are matched, and not bytes. -/
  unicode : Bool := true
  /-- White space and comments between parts are passed over. -/
  spaced : Bool := false
deriving DecidableEq, Repr

namespace Flags

/-- The text behind white space and comments, from inside a comment or not. A comment reaches
from a number sign to the end of the line. -/
def skipBlanks (inComment : Bool) : List Char → List Char
  | [] => []
  | char :: rest =>
    if inComment then skipBlanks (char ≠ '\n') rest
    else if Text.isBlank char then skipBlanks false rest
    else if char = '#' then skipBlanks true rest
    else char :: rest

/-- The text behind what is passed over. -/
def skipSpace (flags : Flags) (chars : List Char) : List Char :=
  if flags.spaced then skipBlanks false chars else chars

/-- The character that seems to come next. Of white space and comments only white space and one
number sign are passed over here, so a character of a comment may be taken for the next one. -/
def lookAhead (flags : Flags) (chars : List Char) : Option Char :=
  if flags.spaced then
    match chars.dropWhile Text.isBlank with
    | '#' :: rest => (rest.dropWhile Text.isBlank).head?
    | rest => rest.head?
  else chars.head?

/-- The letters of flags, each of which may be given once, and the sign before those that are
taken back. -/
def letters : List Char := ['i', 'm', 's', 'U', 'u', 'R', 'x', '-']

/-- The flags after one letter. -/
def setLetter (value : Bool) (flags : Flags) (letter : Char) : Flags :=
  if letter = 'i' then { flags with ignoreCase := value }
  else if letter = 'u' then { flags with unicode := value }
  else if letter = 'x' then { flags with spaced := value }
  else flags

/-- The flags after letters, if they may stand together. -/
def set? (flags : Flags) (given : List Char) : Option Flags :=
  if given.all letters.contains ∧ given.Nodup ∧ given.getLast? ≠ some '-' then
    let on := given.takeWhile (· ≠ '-')
    let off := given.dropWhile (· ≠ '-')
    some (off.foldl (setLetter false) (on.foldl (setLetter true) flags))
  else none

end Flags

/-- How deep a part goes that consists of parts of given depths: one deeper than they, unless it
is just one part or nothing. -/
def nesting : (depths : List Nat) → Nat
  | [] => 0
  | [depth] => depth
  | depths => 1 + depths.foldl max 0

end SealedEnvelope.Pattern
