import SealedEnvelope.Traced

/-!
The trace of a composed operation does not depend on how the composition is bracketed, and what
it asks of the cipher, reports and prints can be read off its parts.
-/

namespace SealedEnvelope.Traced

variable {α β : Type}

attribute [ext] Traced

instance : LawfulMonad Traced := LawfulMonad.mk' Traced
  (fun traced => Traced.ext rfl (List.append_nil traced.inputs) (List.append_nil traced.events)
    (List.append_nil traced.printed))
  (fun _ _ => rfl)
  (fun first second third => Traced.ext rfl
    (List.append_assoc first.inputs (second first.result).inputs _)
    (List.append_assoc first.events (second first.result).events _)
    (List.append_assoc first.printed (second first.result).printed _))

@[simp] theorem result_map (change : α → β) (traced : Traced α) :
    (change <$> traced).result = change traced.result := rfl

@[simp] theorem inputs_map (change : α → β) (traced : Traced α) :
    (change <$> traced).inputs = traced.inputs :=
  List.append_nil traced.inputs

@[simp] theorem inputs_report (event : Event) : (report event).inputs = [] := rfl

@[simp] theorem events_map (change : α → β) (traced : Traced α) :
    (change <$> traced).events = traced.events :=
  List.append_nil traced.events

@[simp] theorem printed_map (change : α → β) (traced : Traced α) :
    (change <$> traced).printed = traced.printed :=
  List.append_nil traced.printed

@[simp] theorem events_report (event : Event) : (report event).events = [event] := rfl

/-- An operation that cannot fail, followed by one that may. -/
@[simp] theorem run_liftM_bind (first : Traced α) (next : α → Attempt β) :
    (liftM first >>= next : Attempt β).run = first >>= fun value => (next value).run :=
  ExceptT.run_bind_lift first next

theorem result_run_map (change : α → β) (first : Attempt α) :
    (change <$> first : Attempt β).run.result = first.run.result.map change := by
  rw [ExceptT.run_map, result_map]

theorem events_run_map (change : α → β) (first : Attempt α) :
    (change <$> first : Attempt β).run.events = first.run.events := by
  rw [ExceptT.run_map, events_map]

theorem printed_run_map (change : α → β) (first : Attempt α) :
    (change <$> first : Attempt β).run.printed = first.run.printed := by
  rw [ExceptT.run_map, printed_map]

/-- A failure is handed to the handler, and a result is left alone. -/
theorem result_run_tryCatch (first : Attempt α) (handle : Error → Attempt α) :
    (tryCatch first handle).run.result =
      match first.run.result with
      | .ok value => .ok value
      | .error error => (handle error).run.result := by
  rw [ExceptT.run_tryCatch, result_bind]
  cases first.run.result with
  | ok => rfl
  | error => rfl

theorem events_run_tryCatch (first : Attempt α) (handle : Error → Attempt α) :
    (tryCatch first handle).run.events =
      match first.run.result with
      | .ok _ => first.run.events
      | .error error => first.run.events ++ (handle error).run.events := by
  rw [ExceptT.run_tryCatch, events_bind]
  cases first.run.result with
  | ok => exact List.append_nil _
  | error => rfl

theorem printed_run_tryCatch (first : Attempt α) (handle : Error → Attempt α) :
    (tryCatch first handle).run.printed =
      match first.run.result with
      | .ok _ => first.run.printed
      | .error error => first.run.printed ++ (handle error).run.printed := by
  rw [ExceptT.run_tryCatch, printed_bind]
  cases first.run.result with
  | ok => exact List.append_nil _
  | error => rfl

end SealedEnvelope.Traced
