/-!
A sequence that is taken from at both ends.
-/

namespace SealedEnvelope

/-- The items that neither end has given out yet. -/
structure Span (α : Type) where
  remaining : List α

namespace Span

variable {α : Type}

/-- Take the first remaining item. -/
def next (span : Span α) : Option α × Span α :=
  (span.remaining.head?, ⟨span.remaining.tail⟩)

/-- Take the last remaining item. -/
def nextBack (span : Span α) : Option α × Span α :=
  (span.remaining.getLast?, ⟨span.remaining.dropLast⟩)

/-- Skip `count` items at the front and take the one that follows. -/
def nth (span : Span α) (count : Nat) : Option α × Span α :=
  next ⟨span.remaining.drop count⟩

/-- How many items are left. -/
def size (span : Span α) : Nat := span.remaining.length

end Span

end SealedEnvelope
