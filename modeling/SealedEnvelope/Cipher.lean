import SealedEnvelope.Block

/-!
Block ciphers. The envelope only ever encrypts single blocks, so the forward direction is
all that is asked of a cipher.
-/

namespace SealedEnvelope

/-- The forward direction of a cipher on blocks. -/
class BlockCipher (C : Type) where
  encrypt : C → Block → Block

/-- Any function on blocks serves as a cipher. -/
instance : BlockCipher (Block → Block) := ⟨id⟩

end SealedEnvelope
