import SealedEnvelope.CommandLine.Arguments
import Mathlib.Data.List.TakeWhile

/-!
Every request can be made on the command line.

A request is written behind its command, with every option in its long form and the input behind
two dashes, so that values and inputs may be any texts. Reading the arguments gives the request
back.
-/

namespace SealedEnvelope.CommandLine

/-! ### One option -/

/-- The argument that gives an option in its long form, with the value if it takes one. -/
def Switch.argument (option : Switch) (value : String) : String :=
  "--" ++ option.word ++ if option.takesValue then "=" ++ value else ""

/-- What follows the word of an option in its argument. -/
private def valueChars (option : Switch) (value : String) : List Char :=
  if option.takesValue then '=' :: value.toList else []

private theorem toList_argument (option : Switch) (value : String) :
    (option.argument value).toList =
      '-' :: '-' :: (option.word.toList ++ valueChars option value) := by
  rw [Switch.argument, String.toList_append, String.toList_append, valueChars]
  cases option.takesValue with
  | false => rfl
  | true =>
    rw [if_pos rfl, if_pos rfl, String.toList_append]
    rfl

private theorem word_plain (option : Switch) : option.word.toList.all (· ≠ '=') = true := by
  cases option <;> decide

private theorem word_nonempty (option : Switch) : option.word.toList ≠ [] := by
  cases option <;> decide

/-- The options at one place differ in their words. -/
theorem find?_available {command : Option Command} {option : Switch}
    (available : option ∈ Switch.available command) :
    (Switch.available command).find? (·.word == option.word) = some option := by
  revert option
  cases command with
  | none => decide
  | some command => cases command <;> decide

theorem takeLong_argument {command : Option Command} {option : Switch} {value : String}
    (available : option ∈ Switch.available command)
    (plain : option.takesValue = false → value = "") (side : Side) :
    takeLong command side (option.argument value) =
      (·, none) <$> side.give command option value := by
  have stop (char : Char) (member : char ∈ option.word.toList) : decide (char ≠ '=') = true :=
    List.all_eq_true.mp (word_plain option) char member
  have word : (option.word.toList ++ valueChars option value).takeWhile (· ≠ '=') =
      option.word.toList := by
    rw [List.takeWhile_append_of_pos stop, valueChars]
    cases option.takesValue <;> simp
  have behind : (option.word.toList ++ valueChars option value).dropWhile (· ≠ '=') =
      valueChars option value := by
    rw [List.dropWhile_append_of_pos stop, valueChars]
    cases option.takesValue <;> simp
  rw [takeLong, toList_argument]
  simp only [List.drop_succ_cons, List.drop_zero, word, behind, String.ofList_toList,
    find?_available available]
  cases takes : option.takesValue with
  | false => simp [valueChars, takes, plain takes]
  | true => simp [valueChars, takes]

theorem readSide_argument {command : Option Command} {option : Switch} {value : String}
    (available : option ∈ Switch.available command)
    (plain : option.takesValue = false → value = "") (side : Side) (rest : List String) :
    readSide command side none false (option.argument value :: rest) =
      match side.give command option value with
      | .ok side => readSide command side none false rest
      | .error stop => .error stop := by
  have chars := toList_argument option value
  have longer : option.argument value ≠ "--" := by
    intro same
    rw [same] at chars
    have none : option.word.toList ++ valueChars option value = [] :=
      (List.cons.inj (List.cons.inj chars).2).2.symm
    exact word_nonempty option (List.append_eq_nil_iff.mp none).1
  have dashed : isOption (option.argument value) = true := by
    rw [isOption, chars]
    rfl
  have long : takeOption command side (option.argument value) =
      takeLong command side (option.argument value) := by
    rw [takeOption, chars]
    rfl
  rw [readSide, if_neg Bool.false_ne_true, if_neg longer, if_pos dashed, long,
    takeLong_argument available plain]
  cases side.give command option value with
  | error stop => rfl
  | ok side => rfl

/-! ### Many options -/

/-- Whether options can be given together at a place: all are available there and ask for no text,
values stand with those that take one, and none is given twice. -/
structure Givable (command : Option Command) (options : List (Switch × String)) : Prop where
  available : ∀ given ∈ options, given.1 ∈ Switch.available command
  silent : ∀ given ∈ options, given.1 ≠ .version ∧ given.1 ≠ .help
  plain : ∀ given ∈ options, given.1.takesValue = false → given.2 = ""
  distinct : (options.map Prod.fst).Nodup

theorem Side.give_fresh {command : Option Command} {side : Side} {option : Switch}
    (silent : option ≠ .version ∧ option ≠ .help) (fresh : side.has option = false)
    (value : String) :
    side.give command option value =
      .ok { side with options := (option, value) :: side.options } := by
  rw [Side.give, if_neg silent.1, if_neg silent.2, fresh, if_neg Bool.false_ne_true]

theorem readSide_arguments {command : Option Command} {options : List (Switch × String)}
    (givable : Givable command options) {side : Side}
    (fresh : ∀ given ∈ options, side.has given.1 = false) (rest : List String) :
    readSide command side none false
        (options.map (fun given => given.1.argument given.2) ++ rest) =
      readSide command { side with options := options.reverse ++ side.options } none false
        rest := by
  induction options generalizing side with
  | nil => rfl
  | cons first others ih =>
    obtain ⟨available, silent, plain, distinct⟩ := givable
    rw [List.forall_mem_cons] at available silent plain fresh
    rw [List.map_cons, List.nodup_cons] at distinct
    have freshBehind (given : Switch × String) (member : given ∈ others) :
        Side.has { side with options := first :: side.options } given.1 = false := by
      have apart : first.1 ≠ given.1 := fun same =>
        distinct.1 (same ▸ List.mem_map_of_mem member)
      have earlier := fresh.2 given member
      rw [Side.has] at earlier
      rw [Side.has, List.any_cons, earlier, Bool.or_false]
      exact beq_eq_false_iff_ne.mpr apart
    rw [List.map_cons, List.cons_append, readSide_argument available.1 plain.1,
      Side.give_fresh silent.1 fresh.1]
    simp only [ih ⟨available.2, silent.2, plain.2, distinct.2⟩ freshBehind]
    simp

/-! ### Requests -/

/-- An option that takes no value, if it is wanted. -/
def flag (option : Switch) (wanted : Bool) : List (Switch × String) :=
  if wanted then [(option, "")] else []

/-- An option with its value, if there is one. -/
def valued (option : Switch) (value? : Option String) : List (Switch × String) :=
  value?.toList.map (option, ·)

theorem map_flag_sublist (option : Switch) (wanted : Bool) :
    ((flag option wanted).map Prod.fst).Sublist [option] := by
  cases wanted with
  | false => exact List.nil_sublist _
  | true => exact List.Sublist.refl _

theorem map_valued_sublist (option : Switch) (value? : Option String) :
    ((valued option value?).map Prod.fst).Sublist [option] := by
  cases value? with
  | none => exact List.nil_sublist _
  | some value => exact List.Sublist.refl _

theorem eq_of_mem_flag {option : Switch} {wanted : Bool} {given : Switch × String}
    (member : given ∈ flag option wanted) : given = (option, "") := by
  cases wanted with
  | false => cases member
  | true => exact List.mem_singleton.mp member

theorem fst_eq_of_mem_valued {option : Switch} {value? : Option String}
    {given : Switch × String} (member : given ∈ valued option value?) : given.1 = option := by
  obtain ⟨value, _, rfl⟩ := List.mem_map.mp member
  rfl

/-- The options that a request can have for a command, in the order in which they are written. -/
def Command.switches : Command → List Switch
  | openCommand => [.key, .derivedSubkey, .verbose, .jsonBody, .pretty]
  | sealCommand => [.key, .derivedSubkey, .verbose, .nonce, .jsonBody]
  | digestCommand => [.key, .derivedSubkey, .verbose]

namespace Action

/-- The command of an action. -/
def command : Action → Command
  | openInput .. => .openCommand
  | sealInput .. => .sealCommand
  | digestInput .. => .digestCommand

/-- The input of an action. -/
def input : Action → String
  | openInput input .. | sealInput input .. | digestInput input => input

/-- The options of an action. -/
def options : Action → List (Switch × String)
  | openInput _ jsonBody pretty => flag .jsonBody jsonBody ++ flag .pretty pretty
  | sealInput _ nonce? jsonBody => valued .nonce nonce? ++ flag .jsonBody jsonBody
  | digestInput _ => []

end Action

namespace Request

/-- The options of a request. -/
def options (request : Request) : List (Switch × String) :=
  valued .key request.key? ++ (flag .derivedSubkey request.derivedSubkey ++
    (flag .verbose request.verbose ++ request.action.options))

/-- Arguments that make a request. -/
def arguments (request : Request) : List String :=
  request.action.command.word ::
    (request.options.map (fun given => given.1.argument given.2) ++ ["--", request.action.input])

theorem map_options_sublist (request : Request) :
    (request.options.map Prod.fst).Sublist request.action.command.switches := by
  have shared {others switches : List Switch} (behind : others.Sublist switches) :
      ((valued .key request.key?).map Prod.fst ++
        ((flag .derivedSubkey request.derivedSubkey).map Prod.fst ++
          ((flag .verbose request.verbose).map Prod.fst ++ others))).Sublist
        (.key :: .derivedSubkey :: .verbose :: switches) :=
    (map_valued_sublist _ _).append ((map_flag_sublist _ _).append
      ((map_flag_sublist _ _).append behind))
  simp only [options, List.map_append]
  cases request.action with
  | openInput _ jsonBody pretty =>
    rw [Action.options, List.map_append]
    exact shared ((map_flag_sublist _ _).append (map_flag_sublist _ _))
  | sealInput _ nonce? jsonBody =>
    rw [Action.options, List.map_append]
    exact shared ((map_valued_sublist _ _).append (map_flag_sublist _ _))
  | digestInput _ => exact shared (List.Sublist.refl [])

theorem plain_options (request : Request) :
    ∀ given ∈ request.options, given.1.takesValue = false → given.2 = "" := by
  have plainFlag {option : Switch} {wanted : Bool} (given : Switch × String)
      (member : given ∈ flag option wanted) (_ : given.1.takesValue = false) : given.2 = "" := by
    rw [eq_of_mem_flag member]
  have plainValued {option : Switch} {value? : Option String} (takes : option.takesValue = true)
      (given : Switch × String) (member : given ∈ valued option value?)
      (plain : given.1.takesValue = false) : given.2 = "" := by
    rw [fst_eq_of_mem_valued member, takes] at plain
    cases plain
  have plainAction : ∀ given ∈ request.action.options,
      given.1.takesValue = false → given.2 = "" := by
    cases request.action with
    | openInput => exact List.forall_mem_append.mpr ⟨plainFlag, plainFlag⟩
    | sealInput => exact List.forall_mem_append.mpr ⟨plainValued rfl, plainFlag⟩
    | digestInput => exact fun _ member => nomatch member
  exact List.forall_mem_append.mpr ⟨plainValued rfl, List.forall_mem_append.mpr ⟨plainFlag,
    List.forall_mem_append.mpr ⟨plainFlag, plainAction⟩⟩⟩

theorem givable_options (request : Request) :
    Givable (some request.action.command) request.options := by
  have written := request.map_options_sublist
  have listed (given : Switch × String) (member : given ∈ request.options) :
      given.1 ∈ request.action.command.switches :=
    written.subset (List.mem_map_of_mem member)
  refine ⟨fun given member => ?_, fun given member => ?_, request.plain_options,
    written.nodup ?_⟩
  · have available (command : Command) :
        ∀ option ∈ command.switches, option ∈ Switch.available (some command) := by
      cases command <;> decide
    exact available _ _ (listed given member)
  · have silent (command : Command) :
        ∀ option ∈ command.switches, option ≠ .version ∧ option ≠ .help := by
      cases command <;> decide
    exact silent _ _ (listed given member)
  · cases request.action.command <;> decide

theorem readSide_word (command : Command) (rest : List String) :
    readSide none {} none false (command.word :: rest) = .ok ({}, some (command, rest)) := by
  cases command <;> rfl

/-- What is known behind the command when all arguments of a request are read. -/
def written (request : Request) : Side :=
  { options := request.options.reverse, inputs := [request.action.input] }

theorem readSide_behind (request : Request) :
    readSide (some request.action.command) {} none false
        (request.options.map (fun given => given.1.argument given.2) ++
          ["--", request.action.input]) = .ok (request.written, none) := by
  rw [readSide_arguments request.givable_options (fun _ _ => rfl), List.append_nil]
  rfl

/-- Arguments can be found for every request. -/
theorem parse_arguments (request : Request) : parse request.arguments = .ok request := by
  rw [parse, arguments, readSide_word]
  simp only [bind, Except.bind, readSide_behind]
  obtain ⟨key?, derivedSubkey, verbose, action⟩ := request
  cases action with
  | openInput input jsonBody pretty =>
    cases key? <;> cases derivedSubkey <;> cases verbose <;> cases jsonBody <;> cases pretty <;>
      rfl
  | sealInput input nonce? jsonBody =>
    cases key? <;> cases derivedSubkey <;> cases verbose <;> cases nonce? <;> cases jsonBody <;>
      rfl
  | digestInput input => cases key? <;> cases derivedSubkey <;> cases verbose <;> rfl

end Request

end SealedEnvelope.CommandLine
