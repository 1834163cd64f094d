/-!
Classes of characters, given by the ranges of their code points.
-/

namespace SealedEnvelope.Text

/-- Ranges of code points in ascending order, both ends included. -/
abbrev Ranges := List (Nat × Nat)

/-- Whether one of the ranges holds a character: it can only be the first that does not end
before the character. -/
def Ranges.hold (ranges : Ranges) (char : Char) : Bool :=
  match ranges.find? fun range => char.toNat ≤ range.2 with
  | some range => range.1 ≤ char.toNat
  | none => false

end SealedEnvelope.Text
