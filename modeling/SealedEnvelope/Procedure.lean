import SealedEnvelope.Traced

/-!
What is done with a cipher, said without the cipher.

A procedure asks for the encryption of a block and goes on with the answer. It holds no cipher, so
asking is its only way to have a block encrypted, and what a run gives to the cipher is what the
procedure asks for, in that order.
-/

namespace SealedEnvelope

/-- What to do, step by step. -/
inductive Procedure (α : Type) where
  /-- End with a result. -/
  | done (result : α)
  /-- Have the cipher encrypt a block. -/
  | ask (block : Block) (next : Block → Procedure α)
  /-- Report an event. -/
  | tell (event : Event) (next : Procedure α)

namespace Procedure

variable {α β : Type}

/-- One procedure after another. -/
protected def bind : Procedure α → (α → Procedure β) → Procedure β
  | done result, next => next result
  | ask block rest, next => ask block fun answer => (rest answer).bind next
  | tell event rest, next => tell event (rest.bind next)

instance : Monad Procedure where
  pure := done
  bind := Procedure.bind

/-- Have a block encrypted. -/
def encrypt (block : Block) : Procedure Block := ask block done

/-- Report an event. -/
def report (event : Event) : Procedure Unit := tell event (done ())

/-- Carry out a procedure with a cipher. -/
def run (cipher : Block → Block) : Procedure α → Traced α
  | done result => pure result
  | ask block next => do
    let answer ← Traced.encrypt cipher block
    run cipher (next answer)
  | tell event next => do
    Traced.report event
    run cipher next

end Procedure

end SealedEnvelope
