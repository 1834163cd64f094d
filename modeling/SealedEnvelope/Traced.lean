import SealedEnvelope.Event

/-!
Results together with what can be observed on the way to them: the blocks that were given
to the cipher, the reports and what was printed, each in order.
-/

namespace SealedEnvelope

/-- A result and the trace that it leaves. -/
structure Traced (α : Type) where
  result : α
  /-- The blocks given to the cipher. -/
  inputs : List Block
  /-- The reports. -/
  events : List Event
  /-- The texts that were printed. -/
  printed : List String

namespace Traced

variable {α β : Type}

/-- A result that leaves no trace. -/
protected def pure (result : α) : Traced α := ⟨result, [], [], []⟩

/-- One operation after another; their traces follow each other. -/
protected def bind (first : Traced α) (next : α → Traced β) : Traced β :=
  let second := next first.result
  ⟨second.result, first.inputs ++ second.inputs, first.events ++ second.events,
    first.printed ++ second.printed⟩

instance : Monad Traced where
  pure := Traced.pure
  bind := Traced.bind

/-- Record blocks that were given to the cipher. -/
def asked (inputs : List Block) : Traced Unit := ⟨(), inputs, [], []⟩

/-- Have a cipher encrypt a block. The call leaves the block in the trace. -/
def encrypt (cipher : Block → Block) (block : Block) : Traced Block := do
  asked [block]
  pure (cipher block)

/-- Report an event. -/
def report (event : Event) : Traced Unit := ⟨(), [], [event], []⟩

/-- Print a text. -/
def print (text : String) : Traced Unit := ⟨(), [], [], [text]⟩

@[simp] theorem result_pure (result : α) : (pure result : Traced α).result = result := rfl

@[simp] theorem inputs_pure (result : α) : (pure result : Traced α).inputs = [] := rfl

@[simp] theorem events_pure (result : α) : (pure result : Traced α).events = [] := rfl

@[simp] theorem result_bind (first : Traced α) (next : α → Traced β) :
    (first >>= next).result = (next first.result).result := rfl

@[simp] theorem inputs_bind (first : Traced α) (next : α → Traced β) :
    (first >>= next).inputs = first.inputs ++ (next first.result).inputs := rfl

@[simp] theorem events_bind (first : Traced α) (next : α → Traced β) :
    (first >>= next).events = first.events ++ (next first.result).events := rfl

@[simp] theorem printed_bind (first : Traced α) (next : α → Traced β) :
    (first >>= next).printed = first.printed ++ (next first.result).printed := rfl

end Traced

/-- An operation that may fail and leaves a trace either way. -/
abbrev Attempt := ExceptT Error Traced

end SealedEnvelope
