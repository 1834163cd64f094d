import SealedEnvelope.CommandLine.Arguments
import SealedEnvelope.Proofs.Json.Words

/-!
Arguments are read one after the other.

What one argument does is its effect: it leads on to the next one, or it is the command. Everything
that is known of readings follows from what one effect does, by induction on the arguments.
-/

namespace SealedEnvelope.CommandLine

open Json

/-! ### The effect of one argument -/

/-- What reading an argument leads to: the state to go on in, or the command. -/
inductive Effect where
  | onward (side : Side) (pending : Option Switch) (optionsEnded : Bool)
  | found (command : Command)

/-- The effect of an argument before others. -/
def effect (command : Option Command) (side : Side) (pending : Option Switch)
    (optionsEnded : Bool) (argument : String) (rest : List String) : Except Stop Effect :=
  match pending with
  | some option =>
    if isOption argument then .error (.usage (.missingValue option))
    else (Effect.onward · none optionsEnded) <$> side.give command option argument
  | none =>
    if optionsEnded then (Effect.onward · none true) <$> side.takeInput command argument
    else if argument = "--" then .ok (.onward side none true)
    else if isOption argument then
      (fun taken => Effect.onward taken.1 taken.2 false) <$> takeOption command side argument
    else
      match commandAt? command argument with
      | some found => .ok (.found found)
      | none =>
        match helpAt? command argument rest with
        | some topic => .error (.showHelp topic)
        | none => (Effect.onward · none false) <$> side.takeInput command argument

/-- Reading goes on from an effect. -/
def Effect.read (command : Option Command) (side : Side) (rest : List String) :
    Effect → Except Stop (Side × Option (Command × List String))
  | onward side pending optionsEnded => readSide command side pending optionsEnded rest
  | found command => .ok (side, some (command, rest))

theorem readSide_cons (command : Option Command) (side : Side) (pending : Option Switch)
    (optionsEnded : Bool) (argument : String) (rest : List String) :
    readSide command side pending optionsEnded (argument :: rest) =
      effect command side pending optionsEnded argument rest >>=
        Effect.read command side rest := by
  cases pending with
  | some option =>
    rw [readSide, effect]
    cases isOption argument with
    | true => rfl
    | false => cases side.give command option argument <;> rfl
  | none =>
    rw [readSide, effect]
    cases optionsEnded with
    | true => cases side.takeInput command argument <;> rfl
    | false =>
      by_cases dashes : argument = "--"
      · simp only [dashes, if_pos]
        rfl
      simp only [if_neg dashes]
      cases isOption argument with
      | true => cases takeOption command side argument <;> rfl
      | false =>
        cases commandAt? command argument with
        | some found => rfl
        | none =>
          cases helpAt? command argument rest with
          | some topic => rfl
          | none => cases side.takeInput command argument <;> rfl

/-- The effect of an argument depends on those behind it only in that it may ask for help. -/
theorem effect_rest {command : Option Command} {side : Side} {pending : Option Switch}
    {optionsEnded : Bool} {argument : String} {rest other : List String} {one second : Effect}
    (leads : effect command side pending optionsEnded argument rest = .ok one)
    (leadsOther : effect command side pending optionsEnded argument other = .ok second) :
    one = second := by
  suffices same : effect command side pending optionsEnded argument rest =
      effect command side pending optionsEnded argument other from
    Except.ok.inj (leads.symm.trans (same.trans leadsOther))
  unfold effect at leads leadsOther ⊢
  cases pending with
  | some option => rfl
  | none =>
    simp only at leads leadsOther ⊢
    split
    · rfl
    rename_i ended
    rw [if_neg ended] at leads leadsOther
    split
    · rfl
    rename_i dashes
    rw [if_neg dashes] at leads leadsOther
    split
    · rfl
    rename_i option
    rw [if_neg option] at leads leadsOther
    cases named : commandAt? command argument with
    | some found => rfl
    | none =>
      rw [named] at leads leadsOther
      cases asks : helpAt? command argument rest with
      | some topic =>
        rw [asks] at leads
        cases leads
      | none =>
        cases asksOther : helpAt? command argument other with
        | some topic =>
          rw [asksOther] at leadsOther
          cases leadsOther
        | none => rfl

/-- An argument does one of six things to every side: it ends the reading, gives an option, is an
input, ends the options, is read as options, or is the command, which no second one can be. -/
theorem effect_cases (command : Option Command) (pending : Option Switch) (optionsEnded : Bool)
    (argument : String) (rest : List String) :
    (∃ stop, ∀ side, effect command side pending optionsEnded argument rest = .error stop) ∨
      (∃ option value, ∀ side, effect command side pending optionsEnded argument rest =
        (Effect.onward · none optionsEnded) <$> side.give command option value) ∨
      (∀ side, effect command side pending optionsEnded argument rest =
        (Effect.onward · none optionsEnded) <$> side.takeInput command argument) ∨
      (∀ side, effect command side pending optionsEnded argument rest =
        .ok (.onward side none true)) ∨
      (∀ side, effect command side pending optionsEnded argument rest =
        (fun taken => .onward taken.1 taken.2 false) <$> takeOption command side argument) ∨
      ∃ found, command = none ∧ ∀ side,
        effect command side pending optionsEnded argument rest = .ok (.found found) := by
  simp only [effect]
  cases pending with
  | some option =>
    cases isOption argument with
    | true => exact .inl ⟨_, fun _ => rfl⟩
    | false => exact .inr (.inl ⟨option, argument, fun _ => rfl⟩)
  | none =>
    cases optionsEnded with
    | true => exact .inr (.inr (.inl fun _ => rfl))
    | false =>
      by_cases dashes : argument = "--"
      · simp only [dashes, if_true]
        exact .inr (.inr (.inr (.inl fun _ => rfl)))
      simp only [if_neg dashes]
      cases isOption argument with
      | true => exact .inr (.inr (.inr (.inr (.inl fun _ => rfl))))
      | false =>
        cases named : commandAt? command argument with
        | some found =>
          have first : command = none := by
            cases command with
            | none => rfl
            | some command => cases named
          exact .inr (.inr (.inr (.inr (.inr ⟨found, first, fun _ => rfl⟩))))
        | none =>
          cases helpAt? command argument rest with
          | some topic => exact .inl ⟨_, fun _ => rfl⟩
          | none => exact .inr (.inr (.inl fun _ => rfl))

/-- No command stands behind another. -/
theorem eq_none_of_effect_found {command : Option Command} {side : Side}
    {pending : Option Switch} {optionsEnded : Bool} {argument : String} {rest : List String}
    {found : Command}
    (leads : effect command side pending optionsEnded argument rest = .ok (.found found)) :
    command = none := by
  rcases effect_cases command pending optionsEnded argument rest with
    ⟨stop, all⟩ | ⟨option, value, all⟩ | all | all | all | ⟨_, first, _⟩
  · rw [all] at leads
    cases leads
  · rw [all] at leads
    obtain ⟨_, _, ⟨⟩⟩ := map_eq_ok_iff.mp leads
  · rw [all] at leads
    obtain ⟨_, _, ⟨⟩⟩ := map_eq_ok_iff.mp leads
  · rw [all] at leads
    cases leads
  · rw [all] at leads
    obtain ⟨_, _, ⟨⟩⟩ := map_eq_ok_iff.mp leads
  · exact first

/-- An argument of two dashes does one of three things to every side. -/
theorem takeLong_cases (command : Option Command) (argument : String) :
    (∃ stop, ∀ side, takeLong command side argument = .error stop) ∨
      (∃ option, ∀ side, takeLong command side argument = .ok (side, some option)) ∨
      ∃ option value, ∀ side,
        takeLong command side argument = (·, none) <$> side.give command option value := by
  unfold takeLong
  simp only
  generalize (Switch.available command).find? _ = found?
  generalize (argument.toList.drop 2).dropWhile _ = behind
  cases found? with
  | none => exact .inl ⟨_, fun _ => rfl⟩
  | some option =>
    cases behind with
    | nil =>
      cases takes : option.takesValue with
      | true => exact .inr (.inl ⟨option, fun _ => by simp [takes]⟩)
      | false => exact .inr (.inr ⟨option, "", fun _ => by simp [takes]⟩)
    | cons char value =>
      cases takes : option.takesValue with
      | true => exact .inr (.inr ⟨option, String.ofList value, fun _ => by simp [takes]⟩)
      | false => exact .inl ⟨.usage (.unwantedValue option), fun _ => by simp [takes]⟩

/-- A letter does one of four things to every side. -/
theorem takeLetters_cons_cases (command : Option Command) (argument : String) (letter : Char)
    (rest : List Char) :
    (∃ stop, ∀ side, takeLetters command side argument (letter :: rest) = .error stop) ∨
      (∃ option, ∀ side,
        takeLetters command side argument (letter :: rest) = .ok (side, some option)) ∨
      (∃ option value, ∀ side, takeLetters command side argument (letter :: rest) =
        (·, none) <$> side.give command option value) ∨
      ∃ option, ∀ side, takeLetters command side argument (letter :: rest) =
        side.give command option "" >>= fun side => takeLetters command side argument rest := by
  simp only [takeLetters]
  cases (Switch.available command).find? fun option => option.letter? == some letter with
  | none => exact .inl ⟨_, fun _ => rfl⟩
  | some option =>
    cases takes : option.takesValue with
    | true =>
      cases rest with
      | nil => exact .inr (.inl ⟨option, fun _ => by simp [takes]⟩)
      | cons char value =>
        by_cases equals : char = '='
        · exact .inr (.inr (.inl ⟨option, String.ofList value, fun _ => by simp [takes, equals]⟩))
        · exact .inr (.inr (.inl ⟨option, String.ofList (char :: value),
            fun _ => by simp [takes, equals]⟩))
    | false =>
      refine .inr (.inr (.inr ⟨option, fun side => ?_⟩))
      simp only [takes, Bool.false_eq_true, if_false]
      cases side.give command option "" <;> rfl

/-! ### Options stay given -/

theorem Side.has_of_suffix {before after : Side} (grown : before.options <:+ after.options)
    {option : Switch} (given : before.has option = true) : after.has option = true := by
  rw [Side.has, List.any_eq_true] at given ⊢
  obtain ⟨entry, member, same⟩ := given
  exact ⟨entry, grown.subset member, same⟩

section Growth

variable {command : Option Command} {side : Side} {argument : String}

theorem give_eq_ok {option : Switch} {value : String} {after : Side}
    (gives : side.give command option value = .ok after) :
    side.has option = false ∧ after = { side with options := (option, value) :: side.options } := by
  rw [Side.give] at gives
  split at gives
  · cases gives
  split at gives
  · cases gives
  split at gives
  · cases gives
  rename_i fresh
  exact ⟨Bool.eq_false_iff.mpr fresh, (Except.ok.inj gives).symm⟩

theorem suffix_of_give {option : Switch} {value : String} {after : Side}
    (gives : side.give command option value = .ok after) : side.options <:+ after.options := by
  rw [(give_eq_ok gives).2]
  exact List.suffix_cons _ _

theorem suffix_of_takeInput {after : Side} (takes : side.takeInput command argument = .ok after) :
    side.options <:+ after.options := by
  rw [Side.takeInput] at takes
  split at takes
  · cases takes
    exact List.suffix_refl _
  · cases takes

theorem suffix_of_takeLong {taken : Side × Option Switch}
    (takes : takeLong command side argument = .ok taken) : side.options <:+ taken.1.options := by
  rcases takeLong_cases command argument with ⟨stop, all⟩ | ⟨option, all⟩ | ⟨option, value, all⟩
  · rw [all] at takes
    cases takes
  · rw [all] at takes
    cases takes
    exact List.suffix_refl _
  · rw [all] at takes
    obtain ⟨after, gives, rfl⟩ := map_eq_ok_iff.mp takes
    exact suffix_of_give gives

theorem suffix_of_takeLetters {letters : List Char} {taken : Side × Option Switch}
    (takes : takeLetters command side argument letters = .ok taken) :
    side.options <:+ taken.1.options := by
  induction letters generalizing side with
  | nil =>
    cases takes
    exact List.suffix_refl _
  | cons letter rest ih =>
    rcases takeLetters_cons_cases command argument letter rest with
      ⟨stop, all⟩ | ⟨option, all⟩ | ⟨option, value, all⟩ | ⟨option, all⟩
    · rw [all] at takes
      cases takes
    · rw [all] at takes
      cases takes
      exact List.suffix_refl _
    · rw [all] at takes
      obtain ⟨after, gives, rfl⟩ := map_eq_ok_iff.mp takes
      exact suffix_of_give gives
    · rw [all] at takes
      obtain ⟨after, gives, takes⟩ := bind_eq_ok_iff.mp takes
      exact (suffix_of_give gives).trans (ih takes)

theorem suffix_of_takeOption {taken : Side × Option Switch}
    (takes : takeOption command side argument = .ok taken) :
    side.options <:+ taken.1.options := by
  rw [takeOption] at takes
  split at takes
  · exact suffix_of_takeLong takes
  · exact suffix_of_takeLetters takes

end Growth

/-- The side that an effect leads to, if it leads on. -/
def Effect.side? : Effect → Option Side
  | onward side .. => some side
  | found _ => none

theorem suffix_of_effect {command : Option Command} {side after : Side} {pending : Option Switch}
    {optionsEnded : Bool} {argument : String} {rest : List String} {result : Effect}
    (leads : effect command side pending optionsEnded argument rest = .ok result)
    (onward : result.side? = some after) : side.options <:+ after.options := by
  rcases effect_cases command pending optionsEnded argument rest with
    ⟨stop, all⟩ | ⟨option, value, all⟩ | all | all | all | ⟨found, first, all⟩
  · rw [all] at leads
    cases leads
  · rw [all] at leads
    obtain ⟨_, gives, rfl⟩ := map_eq_ok_iff.mp leads
    cases onward
    exact suffix_of_give gives
  · rw [all] at leads
    obtain ⟨_, takes, rfl⟩ := map_eq_ok_iff.mp leads
    cases onward
    exact suffix_of_takeInput takes
  · rw [all] at leads
    cases leads
    cases onward
    exact List.suffix_refl _
  · rw [all] at leads
    obtain ⟨_, takes, rfl⟩ := map_eq_ok_iff.mp leads
    cases onward
    exact suffix_of_takeOption takes
  · rw [all] at leads
    cases leads
    cases onward

/-- Reading only adds options. -/
theorem suffix_of_readSide {command : Option Command} {arguments : List String}
    {side after : Side} {pending : Option Switch} {optionsEnded : Bool}
    {found? : Option (Command × List String)}
    (reads : readSide command side pending optionsEnded arguments = .ok (after, found?)) :
    side.options <:+ after.options := by
  induction arguments generalizing side pending optionsEnded with
  | nil =>
    cases pending with
    | some option => cases reads
    | none =>
      cases reads
      exact List.suffix_refl _
  | cons argument rest ih =>
    rw [readSide_cons] at reads
    obtain ⟨result, leads, reads⟩ := bind_eq_ok_iff.mp reads
    cases result with
    | onward next pending optionsEnded => exact (suffix_of_effect leads rfl).trans (ih reads)
    | found command =>
      cases reads
      exact List.suffix_refl _

end SealedEnvelope.CommandLine
