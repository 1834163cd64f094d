import SealedEnvelope.Procedure
import SealedEnvelope.Proofs.Traced

/-!
What a procedure comes to with a cipher can be read off its parts. Whatever the procedure is,
nothing is printed.
-/

namespace SealedEnvelope.Procedure

variable {α β : Type}

theorem bind_done (procedure : Procedure α) : procedure.bind done = procedure := by
  induction procedure with
  | done result => rfl
  | ask block next ih => exact congrArg (ask block) (funext ih)
  | tell event next ih => exact congrArg (tell event) ih

theorem bind_assoc {γ : Type} (first : Procedure α) (second : α → Procedure β)
    (third : β → Procedure γ) :
    (first.bind second).bind third = first.bind fun value => (second value).bind third := by
  induction first with
  | done result => rfl
  | ask block next ih => exact congrArg (ask block) (funext ih)
  | tell event next ih => exact congrArg (tell event) ih

instance : LawfulMonad Procedure :=
  LawfulMonad.mk' Procedure bind_done (fun _ _ => rfl) bind_assoc

variable (cipher : Block → Block)

@[simp] theorem run_pure (result : α) : (pure result : Procedure α).run cipher = pure result := rfl

@[simp] theorem run_bind (first : Procedure α) (next : α → Procedure β) :
    (first >>= next).run cipher = first.run cipher >>= fun value => (next value).run cipher := by
  induction first with
  | done result => rfl
  | ask block rest ih =>
    calc (ask block rest >>= next).run cipher
        = Traced.encrypt cipher block >>= fun answer => (rest answer >>= next).run cipher := rfl
      _ = (ask block rest).run cipher >>= fun value => (next value).run cipher := by
        simp only [ih, run, LawfulMonad.bind_assoc]
  | tell event rest ih =>
    calc (tell event rest >>= next).run cipher
        = Traced.report event >>= fun _ => (rest >>= next).run cipher := rfl
      _ = (tell event rest).run cipher >>= fun value => (next value).run cipher := by
        rw [ih, run, LawfulMonad.bind_assoc]

@[simp] theorem run_map (change : α → β) (procedure : Procedure α) :
    (change <$> procedure).run cipher = change <$> procedure.run cipher := by
  rw [← bind_pure_comp, run_bind, ← bind_pure_comp]
  rfl

@[simp] theorem run_encrypt (block : Block) :
    (encrypt block).run cipher =
      { result := cipher block, inputs := [block], events := [], printed := [] } := rfl

@[simp] theorem run_report (event : Event) : (report event).run cipher = Traced.report event := rfl

/-- A procedure prints nothing. -/
@[simp] theorem printed_run (procedure : Procedure α) : (procedure.run cipher).printed = [] := by
  induction procedure with
  | done result => rfl
  | ask block next ih => exact ih (cipher block)
  | tell event next ih => exact ih

/-- A step that cannot fail, before one that may. -/
@[simp] theorem run_liftM_bind (first : Procedure α) (next : α → ExceptT Error Procedure β) :
    (liftM first >>= next : ExceptT Error Procedure β).run =
      first >>= fun value => (next value).run :=
  ExceptT.run_bind_lift first next

end SealedEnvelope.Procedure
