/-!
Byte strings and the big-endian words written in them.
-/

namespace SealedEnvelope

/-- A byte string, first byte first. -/
abbrev Bytes := List UInt8

namespace Bytes

/-- The `count` low-order bytes of `word`, most significant first. -/
def bigEndian : (count word : Nat) → Bytes
  | 0, _ => []
  | count + 1, word => (word >>> (8 * count)).toUInt8 :: bigEndian count word

/-- The number whose base-256 digits are the bytes, most significant first. -/
def value (bytes : Bytes) : Nat :=
  bytes.foldl (fun word byte => word * 256 + byte.toNat) 0

/-- Bytewise exclusive or, cut to the shorter of the two. -/
def xor (left right : Bytes) : Bytes :=
  List.zipWith (· ^^^ ·) left right

@[simp] theorem length_bigEndian (count word : Nat) :
    (bigEndian count word).length = count := by
  induction count with
  | zero => rfl
  | succ count ih => simp [bigEndian, ih]

@[simp] theorem length_xor (left right : Bytes) :
    (xor left right).length = min left.length right.length := by
  simp [xor]

end Bytes

end SealedEnvelope
