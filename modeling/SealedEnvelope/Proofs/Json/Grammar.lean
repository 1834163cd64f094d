import SealedEnvelope.Proofs.Json.Strings
import SealedEnvelope.Proofs.Json.Words

/-!
The grammar of JSON texts.

A value is a word, a number, a string, a list or an object; white space may stand around the items
and members of the last two and around the colon of a member. Nothing is said here about meaning:
a string may escape half of a surrogate pair, and an object may use a key twice.
-/

namespace SealedEnvelope.Json

/-! ### Numbers -/

/-- One decimal digit or more. -/
def Digits (chars : List Char) : Prop := chars ≠ [] ∧ ∀ char ∈ chars, isDigit char

/-- A whole number without superfluous zeros. -/
inductive WholeText : List Char → Prop where
  | zero : WholeText ['0']
  | digits {first : Char} {rest : List Char} (areDigits : Digits (first :: rest))
      (noZero : first ≠ '0') : WholeText (first :: rest)

/-- A point with digits behind it, or nothing. -/
inductive FractionText : List Char → Prop where
  | none : FractionText []
  | point {digits : List Char} (areDigits : Digits digits) : FractionText ('.' :: digits)

/-- A letter with digits behind it, maybe with a sign between them, or nothing. -/
inductive ExponentText : List Char → Prop where
  | none : ExponentText []
  | exponent {letter : Char} {sign digits : List Char} (isLetter : letter = 'e' ∨ letter = 'E')
      (isSign : sign = [] ∨ sign = ['+'] ∨ sign = ['-']) (areDigits : Digits digits) :
      ExponentText (letter :: (sign ++ digits))

/-- A number, maybe with a minus sign in front. -/
inductive NumberText : List Char → Prop where
  | number {sign whole fraction exponent : List Char} (isSign : sign = [] ∨ sign = ['-'])
      (isWhole : WholeText whole) (isFraction : FractionText fraction)
      (isExponent : ExponentText exponent) :
      NumberText (sign ++ (whole ++ (fraction ++ exponent)))

/-! ### Strings -/

/-- A character of a string or an escape in its place. -/
inductive Piece : List Char → Prop where
  | plain {char : Char} (noQuote : char ≠ '"') (noBackslash : char ≠ '\\')
      (noControl : ' ' ≤ char) : Piece [char]
  | short {letter char : Char} (listed : (letter, char) ∈ shortEscapes) : Piece ['\\', letter]
  | unit {unit : Nat} {digits : List Char} (spelled : CodeUnit unit digits) :
      Piece ('\\' :: 'u' :: digits)

/-- What stands between the quotes of a string. -/
inductive Pieces : List Char → Prop where
  | nil : Pieces []
  | cons {piece rest : List Char} (first : Piece piece) (others : Pieces rest) :
      Pieces (piece ++ rest)

/-- A string. -/
inductive StringText : List Char → Prop where
  | quoted {pieces : List Char} (arePieces : Pieces pieces) : StringText ('"' :: (pieces ++ ['"']))

theorem StringText.exists_tail {chars : List Char} (isString : StringText chars) :
    ∃ tail, chars = '"' :: tail := by
  cases isString
  exact ⟨_, rfl⟩

theorem Pieces.append {front rest : List Char} (first : Pieces front) (others : Pieces rest) :
    Pieces (front ++ rest) := by
  induction first with
  | nil => exact others
  | cons piece _ ih =>
    rw [List.append_assoc]
    exact .cons piece ih

theorem Spelling.pieces {char : Char} {spelling : List Char} (spelled : Spelling char spelling) :
    Pieces spelling := by
  have one {piece : List Char} (whole : Piece piece) : Pieces piece := by
    have single := Pieces.cons whole .nil
    rwa [List.append_nil] at single
  cases spelled with
  | plain noQuote noBackslash noControl => exact one (.plain noQuote noBackslash noControl)
  | short listed => exact one (.short listed)
  | unit unit => exact one (.unit unit)
  | pair _ first second => exact Pieces.append (one (.unit first)) (one (.unit second))

theorem Spelled.pieces {chars spelling : List Char} (spelled : Spelled chars spelling) :
    Pieces spelling := by
  induction spelled with
  | nil => exact .nil
  | cons first _ ih => exact first.pieces.append ih

/-- What denotes a text is a string. -/
theorem Literal.stringText {text : String} {chars : List Char} (denotes : Literal text chars) :
    StringText chars := by
  obtain ⟨spelled⟩ := denotes
  exact .quoted spelled.pieces

/-! ### Values -/

mutual

/-- A value. -/
inductive ValueText : List Char → Prop where
  | null : ValueText "null".toList
  | true : ValueText "true".toList
  | false : ValueText "false".toList
  | number {chars : List Char} (isNumber : NumberText chars) : ValueText chars
  | string {chars : List Char} (isString : StringText chars) : ValueText chars
  | emptyList {spaces : List Char} (blank : Spaces spaces) :
      ValueText ('[' :: (spaces ++ [']']))
  | list {items : List Char} (areItems : ItemsText items) : ValueText ('[' :: (items ++ [']']))
  | object {members : List (List Char × List Char)} {chars : List Char}
      (isObject : ObjectText members chars) : ValueText chars

/-- Values between commas. -/
inductive ItemsText : List Char → Prop where
  | last {before value after : List Char} (blankBefore : Spaces before) (isValue : ValueText value)
      (blankAfter : Spaces after) : ItemsText (before ++ (value ++ after))
  | next {before value after rest : List Char} (blankBefore : Spaces before)
      (isValue : ValueText value) (blankAfter : Spaces after) (others : ItemsText rest) :
      ItemsText (before ++ (value ++ (after ++ ',' :: rest)))

/-- Members between commas: the text of each key and of each value in turn. -/
inductive MembersText : List (List Char × List Char) → List Char → Prop where
  | last {before key beforeColon behindColon value after : List Char}
      (blankBefore : Spaces before) (isKey : StringText key) (blankKey : Spaces beforeColon)
      (blankColon : Spaces behindColon) (isValue : ValueText value) (blankAfter : Spaces after) :
      MembersText [(key, value)]
        (before ++ (key ++ (beforeColon ++ ':' :: (behindColon ++ (value ++ after)))))
  | next {before key beforeColon behindColon value after rest : List Char}
      {members : List (List Char × List Char)}
      (blankBefore : Spaces before) (isKey : StringText key) (blankKey : Spaces beforeColon)
      (blankColon : Spaces behindColon) (isValue : ValueText value) (blankAfter : Spaces after)
      (others : MembersText members rest) :
      MembersText ((key, value) :: members)
        (before ++ (key ++ (beforeColon ++ ':' :: (behindColon ++ (value ++
          (after ++ ',' :: rest))))))

/-- An object with its members. -/
inductive ObjectText : List (List Char × List Char) → List Char → Prop where
  | empty {spaces : List Char} (blank : Spaces spaces) :
      ObjectText [] ('\x7b' :: (spaces ++ ['\x7d']))
  | members {members : List (List Char × List Char)} {chars : List Char}
      (areMembers : MembersText members chars) :
      ObjectText members ('\x7b' :: (chars ++ ['\x7d']))

end

end SealedEnvelope.Json
