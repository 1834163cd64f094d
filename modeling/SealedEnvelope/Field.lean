import SealedEnvelope.Block

/-!
Arithmetic of blocks as polynomials over two elements, modulo x¹²⁸ + x⁷ + x² + x + 1.

The coefficient of xⁱ is bit `i`, counted from the most significant end, so multiplying
by x moves every bit one place to the right. Addition is exclusive or.
-/

namespace SealedEnvelope.Field

/-- What x¹²⁸ reduces to: x⁷ + x² + x + 1. -/
def reduction : Block := 0xE1000000000000000000000000000000#128

/-- The polynomial 1. -/
def one : Block := 0x80000000000000000000000000000000#128

/-- The product with x: one place to the right, reduced when a bit falls off. -/
def timesX (block : Block) : Block :=
  if block.getLsbD 0 then (block >>> 1) ^^^ reduction else block >>> 1

/-- One bit of a product: the running sum takes the multiple of the right factor when the
left factor has the bit, and the multiple moves on by x. -/
def multiplyStep (left : Block) (state : Block × Block) (bit : Nat) : Block × Block :=
  (if left.getMsbD bit then state.1 ^^^ state.2 else state.1, timesX state.2)

/-- The product of two blocks, by the bits of the left factor from x⁰ upward. -/
def multiply (left right : Block) : Block :=
  ((List.range 128).foldl (multiplyStep left) (0, right)).1

end SealedEnvelope.Field
