import SealedEnvelope.Bytes

/-!
The fixed-size words of an envelope, and the blocks a byte string is cut into.

A word is a bit vector; its bytes are written most significant first, so bit 0 of the
domain's numbering is the most significant bit of the first byte.
-/

namespace SealedEnvelope

/-- Unit of the cipher, of the counter and of the digest: sixteen bytes. -/
abbrev Block := BitVec 128

/-- Twelve bytes that lead every envelope. -/
abbrev Nonce := BitVec 96

/-- Sixteen bytes that end every envelope. -/
abbrev Tag := Block

namespace Block

/-- Bytes in a block. -/
def size : Nat := 16

/-- The sixteen bytes of a block. -/
def bytes (block : Block) : Bytes :=
  Bytes.bigEndian size block.toNat

/-- The block that starts with the given bytes, filled up with zeros on the right. -/
def ofBytes (bytes : Bytes) : Block :=
  let head := bytes.take size
  BitVec.ofNat 128 (Bytes.value head <<< (8 * (size - head.length)))

@[simp] theorem length_bytes (block : Block) : block.bytes.length = size := by
  simp [bytes]

/-- A byte string cut into blocks, the last one filled up with zeros. -/
def sequence (data : Bytes) : List Block :=
  match data with
  | [] => []
  | first :: rest => ofBytes (first :: rest) :: sequence (rest.drop (size - 1))
termination_by data.length
decreasing_by simp only [List.length_cons, List.length_drop]; omega

end Block

namespace Nonce

/-- Bytes in a nonce. -/
def size : Nat := 12

/-- The twelve bytes of a nonce. -/
def bytes (nonce : Nonce) : Bytes :=
  Bytes.bigEndian size nonce.toNat

/-- The nonce made of the first twelve bytes given. -/
def ofBytes (bytes : Bytes) : Nonce :=
  BitVec.ofNat 96 (Bytes.value (bytes.take size))

@[simp] theorem length_bytes (nonce : Nonce) : nonce.bytes.length = size := by
  simp [bytes]

end Nonce

end SealedEnvelope
