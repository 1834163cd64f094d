import SealedEnvelope.Proofs.Envelope

/-!
What arrives in a buffer when the parts of an envelope are written into it one after the other.

Parts that are put one after the other arrive as they would in one piece, and so does the error. So
the limit of a buffer may fall anywhere in an envelope, inside its parts or between them.
-/

namespace SealedEnvelope

namespace Buffer

/-- The number of bytes that still fit. -/
def room (buffer : Buffer) : Nat := buffer.capacity - buffer.contents.length

/-- The buffer with more bytes, as far as they fit. -/
def fillUp (buffer : Buffer) (bytes : Bytes) : Buffer :=
  { buffer with contents := buffer.contents ++ bytes.take buffer.room }

/-- What putting some bytes into some room ends in. -/
def outcome (room length : Nat) : Except Error Unit :=
  if room < length then .error (.transfer "failed to write whole buffer") else .ok ()

theorem outcome_eq_error_iff {room length : Nat} :
    outcome room length = .error (.transfer "failed to write whole buffer") ↔ room < length := by
  rw [outcome]
  split
  · rename_i short
    exact ⟨fun _ => short, fun _ => rfl⟩
  · rename_i enough
    exact ⟨nofun, fun short => absurd short enough⟩

theorem outcome_eq_ok_iff {room length : Nat} : outcome room length = .ok () ↔ ¬ room < length := by
  rw [outcome]
  split
  · rename_i short
    exact ⟨nofun, fun enough => absurd short enough⟩
  · rename_i enough
    exact ⟨fun _ => enough, fun _ => rfl⟩

theorem run_put (bytes : Bytes) (buffer : Buffer) :
    (put bytes).run buffer = (outcome buffer.room bytes.length, buffer.fillUp bytes) := by
  have filled : (put bytes).run buffer =
      (if buffer.room < bytes.length then
        throw (.transfer "failed to write whole buffer")
      else pure () : ExceptT Error (StateM Buffer) Unit).run (buffer.fillUp bytes) := rfl
  rw [filled, outcome]
  by_cases short : buffer.room < bytes.length
  · rw [if_pos short, if_pos short]
    rfl
  · rw [if_neg short, if_neg short]
    rfl

theorem room_fillUp (buffer : Buffer) (bytes : Bytes) :
    (buffer.fillUp bytes).room = buffer.room - bytes.length := by
  simp only [room, fillUp, List.length_append, List.length_take]
  omega

theorem fillUp_append (buffer : Buffer) (front back : Bytes) :
    buffer.fillUp (front ++ back) = (buffer.fillUp front).fillUp back := by
  rw [fillUp, List.take_append, ← room_fillUp, ← List.append_assoc]
  rfl

theorem fillUp_of_short {buffer : Buffer} {front : Bytes} (short : buffer.room < front.length)
    (back : Bytes) : buffer.fillUp (front ++ back) = buffer.fillUp front := by
  rw [fillUp, List.take_append_of_le_length (Nat.le_of_lt short)]
  rfl

section Steps

variable {first : ExceptT Error (StateM Buffer) Unit} {buffer filled : Buffer}

private theorem run_bind_of_ok (succeeds : first.run buffer = (.ok (), filled))
    (next : Unit → ExceptT Error (StateM Buffer) Unit) :
    (first >>= next).run buffer = (next ()).run filled := by
  rw [ExceptT.run_bind]
  simp only [bind, StateT.bind, succeeds]

private theorem run_bind_of_error {error : Error}
    (fails : first.run buffer = (.error error, filled))
    (next : Unit → ExceptT Error (StateM Buffer) Unit) :
    (first >>= next).run buffer = (.error error, filled) := by
  rw [ExceptT.run_bind]
  simp only [bind, StateT.bind, fails]
  rfl

end Steps

/-- What does not fit in two pieces does not fit in one, and the same of it arrives. -/
theorem put_bind_put (front back : Bytes) :
    (do put front; put back) = put (front ++ back) := by
  apply ExceptT.ext
  funext buffer
  have first := run_put front buffer
  rw [run_put, List.length_append]
  by_cases short : buffer.room < front.length
  · have shortOfBoth : buffer.room < front.length + back.length := by omega
    rw [outcome, if_pos short] at first
    rw [run_bind_of_error first, outcome, if_pos shortOfBoth, fillUp_of_short short]
  · have same : (buffer.fillUp front).room < back.length ↔
        buffer.room < front.length + back.length := by
      rw [room_fillUp]
      omega
    rw [outcome, if_neg short] at first
    rw [run_bind_of_ok first, run_put, fillUp_append]
    simp only [outcome, same]

end Buffer

namespace Envelope

/-- Writing the parts of an envelope is putting its bytes. -/
theorem write_eq_put (envelope : Envelope) : envelope.write = Buffer.put envelope.bytes := by
  rw [bytes, ← Buffer.put_bind_put, ← Buffer.put_bind_put]
  rfl

theorem parse_eq_error_iff {data : Bytes} :
    parse data = .error (.invalidEnvelope data.length) ↔ data.length < 28 := by
  constructor
  · intro refused
    apply Nat.lt_of_not_le
    intro enough
    rw [parse_eq_held enough] at refused
    cases refused
  · exact parse_of_short

theorem exists_parse_iff {data : Bytes} :
    (∃ held, parse data = .ok held ∧ held.bytes = data ∧ held.size = data.length) ↔
      ¬ data.length < 28 := by
  constructor
  · rintro ⟨_, parsed, _⟩ short
    rw [parse_of_short short] at parsed
    cases parsed
  · intro enough
    have whole := bytes_held (Nat.le_of_not_lt enough)
    refine ⟨held data, parse_eq_held (Nat.le_of_not_lt enough), whole, ?_⟩
    rw [← length_bytes, whole]

/-- Bytes are refused for their number just when they are fewer than 28. Otherwise they are split
into an envelope that has these bytes and this size. The bytes of an envelope are split into its
parts again. Of an envelope that is written into an empty buffer, as many of the first bytes arrive
as the buffer takes, and the error of the transfer is raised just when some do not. -/
theorem parse_and_write (data : Bytes) (nonce : Nonce) (ciphertext : Bytes) (tag : Tag)
    (capacity : Nat) :
    let envelope : Envelope := ⟨nonce, ciphertext, tag⟩
    let written := envelope.write.run { capacity, contents := [] }
    (parse data = .error (.invalidEnvelope data.length) ↔ data.length < 28) ∧
      ((∃ held, parse data = .ok held ∧ held.bytes = data ∧ held.size = data.length) ↔
        ¬ data.length < 28) ∧
      parse envelope.bytes = .ok envelope ∧
      written.2.contents = envelope.bytes.take (min capacity envelope.size) ∧
      (written.1 = .error (.transfer "failed to write whole buffer") ↔
        capacity < envelope.size) ∧
      (written.1 = .ok () ↔ ¬ capacity < envelope.size) := by
  intro envelope written
  have arrived : written =
      (Buffer.outcome capacity envelope.size,
        ⟨capacity, envelope.bytes.take (min capacity envelope.size)⟩) := by
    have puts := Buffer.run_put envelope.bytes { capacity, contents := [] }
    rw [← write_eq_put, length_bytes] at puts
    rw [← length_bytes, ← List.take_eq_take_min, length_bytes]
    exact puts
  rw [arrived]
  exact ⟨parse_eq_error_iff, exists_parse_iff, parse_bytes envelope, rfl,
    Buffer.outcome_eq_error_iff, Buffer.outcome_eq_ok_iff⟩

end Envelope

end SealedEnvelope
