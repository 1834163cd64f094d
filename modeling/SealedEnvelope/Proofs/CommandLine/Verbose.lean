import SealedEnvelope.Proofs.CommandLine.Arguments
import SealedEnvelope.Proofs.CommandLine.Reading

/-!
Asking for details changes no other part of a request.

The arguments with the option `verbose` and those without it are read side by side. One argument
does the same to both, apart from the option itself, which cannot be given a second time; so the
readings end alike.
-/

namespace SealedEnvelope.CommandLine

open Json

/-! ### Two readings side by side -/

/-- Whether a side is like another, and asks for details as well. -/
structure Side.Louder (quiet loud : Side) : Prop where
  asks : loud.has .verbose = true
  has (option : Switch) (other : option ≠ .verbose) : loud.has option = quiet.has option
  value? (option : Switch) (other : option ≠ .verbose) : loud.value? option = quiet.value? option
  inputs : loud.inputs = quiet.inputs

/-- How the reading with the option ends, next to the one without it: it refuses a second one,
which is then in the other reading, or both stop in the same way, or both have a result. -/
inductive Heard {α : Type} (louder : α → α → Prop) (asked : α → Prop) :
    Except Stop α → Except Stop α → Prop where
  | repeated {quiet : Except Stop α} (given : ∀ result, quiet = .ok result → asked result) :
      Heard louder asked quiet (.error (.usage (.repeatedOption .verbose)))
  | stopped (stop : Stop) : Heard louder asked (.error stop) (.error stop)
  | kept {quiet loud : α} (more : louder quiet loud) : Heard louder asked (.ok quiet) (.ok loud)

section Heard

variable {α β : Type} {louder : α → α → Prop} {asked : α → Prop} {louder' : β → β → Prop}
  {asked' : β → Prop} {quiet loud : Except Stop α}

theorem Heard.bind {next next' : α → Except Stop β} (heard : Heard louder asked quiet loud)
    (onward : ∀ one other, louder one other → Heard louder' asked' (next one) (next' other))
    (keeps : ∀ one result, asked one → next one = .ok result → asked' result) :
    Heard louder' asked' (quiet >>= next) (loud >>= next') := by
  cases heard with
  | repeated given =>
    refine .repeated fun result reads => ?_
    obtain ⟨one, found, reads⟩ := bind_eq_ok_iff.mp reads
    exact keeps one result (given one found) reads
  | stopped stop => exact .stopped stop
  | kept more => exact onward _ _ more

theorem Heard.map {f f' : α → β} (heard : Heard louder asked quiet loud)
    (onward : ∀ one other, louder one other → louder' (f one) (f' other))
    (keeps : ∀ one, asked one → asked' (f one)) :
    Heard louder' asked' (f <$> quiet) (f' <$> loud) := by
  cases heard with
  | repeated given =>
    refine .repeated fun result reads => ?_
    obtain ⟨one, found, rfl⟩ := map_eq_ok_iff.mp reads
    exact keeps one (given one found)
  | stopped stop => exact .stopped stop
  | kept more => exact .kept (onward _ _ more)

end Heard

/-- Whether a side asks for details. -/
def Side.Asks (side : Side) : Prop := side.has .verbose = true

theorem Side.has_cons (side : Side) (option given : Switch) (value : String) :
    Side.has { side with options := (given, value) :: side.options } option =
      (given == option || side.has option) := List.any_cons

theorem Side.value?_cons (side : Side) (option given : Switch) (value : String) :
    Side.value? { side with options := (given, value) :: side.options } option =
      if option == given then some value else side.value? option := by
  rw [Side.value?, List.lookup_cons, Side.value?]
  cases option == given <;> rfl

/-- Both sides grow by the same option. -/
theorem Side.Louder.cons {quiet loud : Side} (louder : quiet.Louder loud) (given : Switch)
    (value : String) :
    Side.Louder { quiet with options := (given, value) :: quiet.options }
      { loud with options := (given, value) :: loud.options } where
  asks := by rw [Side.has_cons, louder.asks, Bool.or_true]
  has option other := by rw [Side.has_cons, Side.has_cons, louder.has option other]
  value? option other := by rw [Side.value?_cons, Side.value?_cons, louder.value? option other]
  inputs := louder.inputs

/-- The option itself makes the difference. -/
theorem Side.louder_cons_verbose (side : Side) :
    side.Louder { side with options := (.verbose, "") :: side.options } where
  asks := by
    rw [Side.has_cons]
    rfl
  has option other := by
    rw [Side.has_cons, beq_eq_false_iff_ne.mpr other.symm, Bool.false_or]
  value? option other := by
    rw [Side.value?_cons, beq_eq_false_iff_ne.mpr other, if_neg Bool.false_ne_true]
  inputs := rfl

section Readings

variable {command : Option Command} {quiet loud : Side}

theorem heard_give (louder : quiet.Louder loud) (option : Switch) (value : String) :
    Heard Side.Louder Side.Asks (quiet.give command option value)
      (loud.give command option value) := by
  by_cases itself : option = .verbose
  · subst itself
    have refuses : loud.give command .verbose value =
        .error (.usage (.repeatedOption .verbose)) := by
      rw [Side.give, if_neg (by decide), if_neg (by decide), louder.asks, if_pos rfl]
    rw [refuses]
    refine .repeated fun result gives => ?_
    rw [(give_eq_ok gives).2, Side.Asks, Side.has_cons]
    rfl
  · rw [Side.give, Side.give, louder.has option itself]
    split
    · exact .stopped _
    split
    · exact .stopped _
    split
    · exact .stopped _
    · exact .kept (louder.cons option value)

theorem heard_takeInput (louder : quiet.Louder loud) (argument : String) :
    Heard Side.Louder Side.Asks (quiet.takeInput command argument)
      (loud.takeInput command argument) := by
  rw [Side.takeInput, Side.takeInput, louder.inputs]
  split
  · exact .kept ⟨louder.asks, louder.has, louder.value?, rfl⟩
  · exact .stopped _

/-- The same for a side and what comes with it. -/
def LouderBeside {α : Type} (quiet loud : Side × α) : Prop :=
  quiet.1.Louder loud.1 ∧ loud.2 = quiet.2

/-- The same for a side and what comes with it. -/
def AsksBeside {α : Type} (quiet : Side × α) : Prop := quiet.1.Asks

theorem Heard.beside {α : Type} {quiet loud : Except Stop Side}
    (heard : Heard Side.Louder Side.Asks quiet loud) (beside : α) :
    Heard LouderBeside AsksBeside ((·, beside) <$> quiet) ((·, beside) <$> loud) :=
  heard.map (fun _ _ louder => ⟨louder, rfl⟩) fun _ asks => asks

theorem heard_takeLong (louder : quiet.Louder loud) (argument : String) :
    Heard LouderBeside AsksBeside (takeLong command quiet argument)
      (takeLong command loud argument) := by
  rcases takeLong_cases command argument with ⟨stop, all⟩ | ⟨option, all⟩ | ⟨option, value, all⟩
  · rw [all, all]
    exact .stopped stop
  · rw [all, all]
    exact .kept ⟨louder, rfl⟩
  · rw [all, all]
    exact (heard_give louder option value).beside none

theorem heard_takeLetters (louder : quiet.Louder loud) (argument : String) (letters : List Char) :
    Heard LouderBeside AsksBeside (takeLetters command quiet argument letters)
      (takeLetters command loud argument letters) := by
  induction letters generalizing quiet loud with
  | nil => exact .kept ⟨louder, rfl⟩
  | cons letter rest ih =>
    rcases takeLetters_cons_cases command argument letter rest with
      ⟨stop, all⟩ | ⟨option, all⟩ | ⟨option, value, all⟩ | ⟨option, all⟩
    · rw [all, all]
      exact .stopped stop
    · rw [all, all]
      exact .kept ⟨louder, rfl⟩
    · rw [all, all]
      exact (heard_give louder option value).beside none
    · rw [all, all]
      refine (heard_give louder option "").bind (fun _ _ louder => ih louder) ?_
      intro side taken asks takes
      exact Side.has_of_suffix (suffix_of_takeLetters takes) asks

theorem heard_takeOption (louder : quiet.Louder loud) (argument : String) :
    Heard LouderBeside AsksBeside (takeOption command quiet argument)
      (takeOption command loud argument) := by
  rw [takeOption, takeOption]
  split
  · exact heard_takeLong louder argument
  · exact heard_takeLetters louder argument _

/-- Whether effects are the same but for the option. -/
inductive Effect.Louder : Effect → Effect → Prop where
  | onward {quiet loud : Side} (louder : quiet.Louder loud) (pending : Option Switch)
      (optionsEnded : Bool) :
      Louder (.onward quiet pending optionsEnded) (.onward loud pending optionsEnded)
  | found (command : Command) : Louder (.found command) (.found command)

/-- Whether an effect leads on to a side that asks for details. -/
def Effect.Asks (effect : Effect) : Prop := ∃ side, effect.side? = some side ∧ side.Asks

theorem heard_effect (louder : quiet.Louder loud) (pending : Option Switch) (optionsEnded : Bool)
    (argument : String) (rest : List String) :
    Heard Effect.Louder Effect.Asks (effect command quiet pending optionsEnded argument rest)
      (effect command loud pending optionsEnded argument rest) := by
  have onward {one other : Except Stop Side} (ended : Bool)
      (heard : Heard Side.Louder Side.Asks one other) :
      Heard Effect.Louder Effect.Asks ((Effect.onward · none ended) <$> one)
        ((Effect.onward · none ended) <$> other) :=
    heard.map (fun _ _ louder => .onward louder none ended) fun side asks => ⟨side, rfl, asks⟩
  rcases effect_cases command pending optionsEnded argument rest with
    ⟨stop, all⟩ | ⟨option, value, all⟩ | all | all | all | ⟨found, first, all⟩
  · rw [all, all]
    exact .stopped stop
  · rw [all, all]
    exact onward _ (heard_give louder option value)
  · rw [all, all]
    exact onward _ (heard_takeInput louder argument)
  · rw [all, all]
    exact .kept (.onward louder none true)
  · rw [all, all]
    refine (heard_takeOption louder argument).map ?_ fun taken asks => ⟨taken.1, rfl, asks⟩
    rintro ⟨one, _⟩ ⟨other, pending⟩ ⟨louder, rfl⟩
    exact .onward louder pending false
  · rw [all, all]
    exact .kept (.found found)

/-- The reading with the option ends as the one without it, or refuses a second one. -/
theorem heard_readSide (louder : quiet.Louder loud) (pending : Option Switch)
    (optionsEnded : Bool) (arguments : List String) :
    Heard LouderBeside AsksBeside (readSide command quiet pending optionsEnded arguments)
      (readSide command loud pending optionsEnded arguments) := by
  induction arguments generalizing quiet loud pending optionsEnded with
  | nil =>
    cases pending with
    | some option => exact .stopped _
    | none => exact .kept ⟨louder, rfl⟩
  | cons argument rest ih =>
    rw [readSide_cons, readSide_cons]
    refine (heard_effect louder pending optionsEnded argument rest).bind ?_ ?_
    · intro one other more
      cases more with
      | onward louder pending optionsEnded => exact ih louder pending optionsEnded
      | found command => exact .kept ⟨louder, rfl⟩
    · rintro one ⟨after, found?⟩ ⟨side, onward, asks⟩ reads
      cases one with
      | onward =>
        cases onward
        exact Side.has_of_suffix (suffix_of_readSide reads) asks
      | found => cases onward

end Readings

/-! ### One more argument -/

/-- The arguments that ask for details. -/
def verboseArguments : List String := ["-v", "--verbose"]

section Insertion

variable {flag : String} (asksFor : flag ∈ verboseArguments)

include asksFor

theorem isOption_flag : isOption flag = true := by
  revert flag
  decide

theorem takeOption_flag (command : Option Command) (side : Side) :
    takeOption command side flag = (·, none) <$> side.give command .verbose "" := by
  have available : Switch.verbose ∈ Switch.available command := by
    cases command with
    | none => decide
    | some command => cases command <;> decide
  have letter : (Switch.available command).find? (·.letter? == some 'v') = some .verbose := by
    cases command with
    | none => rfl
    | some command => cases command <;> rfl
  rw [verboseArguments, List.mem_cons, List.mem_singleton] at asksFor
  rcases asksFor with rfl | rfl
  · have taken : takeOption command side "-v" = takeLetters command side "-v" ['v'] := rfl
    rw [taken, takeLetters, letter]
    simp only [Switch.takesValue, Bool.false_eq_true, if_false, takeLetters]
    cases side.give command .verbose "" <;> rfl
  · have taken : takeOption command side "--verbose" = takeLong command side "--verbose" := rfl
    rw [taken]
    exact takeLong_argument available (fun _ => rfl) side

theorem effect_flag (command : Option Command) (side : Side) (rest : List String) :
    effect command side none false flag rest =
      (Effect.onward · none false) <$> side.give command .verbose "" := by
  have longer : flag ≠ "--" := by
    revert flag
    decide
  rw [effect, if_neg Bool.false_ne_true, if_neg longer, if_pos (isOption_flag asksFor),
    takeOption_flag asksFor]
  cases side.give command .verbose "" <;> rfl

/-- How a reading differs when the argument is put before the arguments `after`: it is taken as the
option, or as an input for want of another, or it stands behind the command. -/
inductive Inserted (command : Option Command) (flag : String) (after : List String) :
    Side × Option (Command × List String) → Side × Option (Command × List String) → Prop where
  | option {quiet loud : Side} (louder : quiet.Louder loud)
      (found? : Option (Command × List String)) :
      Inserted command flag after (quiet, found?) (loud, found?)
  | input {quiet : Side} (some : command.isSome = true) (none : quiet.inputs = [])
      (loud : Side × Option (Command × List String)) :
      Inserted command flag after (quiet, Option.none) loud
  | behind (first : command = none) (side : Side) (found : Command) (before : List String) :
      Inserted command flag after (side, some (found, before ++ after))
        (side, some (found, before ++ flag :: after))

omit asksFor in
/-- Behind two dashes the argument is an input, and the only one. -/
theorem inserted_of_optionsEnded {command : Option Command} {side : Side} {after : List String}
    {quiet loud : Side × Option (Command × List String)}
    (reads : readSide command side none true after = .ok quiet)
    (readsFlag : readSide command side none true (flag :: after) = .ok loud) :
    Inserted command flag after quiet loud := by
  have effect_eq (side : Side) (argument : String) (rest : List String) :
      effect command side none true argument rest =
        (Effect.onward · none true) <$> side.takeInput command argument := rfl
  rw [readSide_cons, effect_eq] at readsFlag
  obtain ⟨_, leads, readsFlag⟩ := bind_eq_ok_iff.mp readsFlag
  obtain ⟨next, takes, rfl⟩ := map_eq_ok_iff.mp leads
  rw [Side.takeInput] at takes
  split at takes
  · rename_i free
    cases takes
    cases after with
    | nil =>
      cases reads
      exact .input free.1 free.2 loud
    | cons argument rest =>
      have full : Side.takeInput command { side with inputs := [flag] } argument =
          .error (.usage (.unknownArgument argument)) := by
        refine if_neg fun both => ?_
        cases both.2
      rw [Effect.read, readSide_cons, effect_eq, full] at readsFlag
      cases readsFlag
  · cases takes

theorem readSide_insert {command : Option Command} {before after : List String} {side : Side}
    {pending : Option Switch} {optionsEnded : Bool}
    {quiet loud : Side × Option (Command × List String)}
    (reads : readSide command side pending optionsEnded (before ++ after) = .ok quiet)
    (readsFlag : readSide command side pending optionsEnded (before ++ flag :: after) = .ok loud) :
    Inserted command flag after quiet loud := by
  induction before generalizing side pending optionsEnded with
  | nil =>
    cases pending with
    | some option =>
      rw [List.nil_append, readSide_cons, effect, if_pos (isOption_flag asksFor)] at readsFlag
      cases readsFlag
    | none =>
    cases optionsEnded with
    | true => exact inserted_of_optionsEnded reads readsFlag
    | false =>
      rw [List.nil_append, readSide_cons, effect_flag asksFor] at readsFlag
      obtain ⟨_, leads, readsFlag⟩ := bind_eq_ok_iff.mp readsFlag
      obtain ⟨next, gives, rfl⟩ := map_eq_ok_iff.mp leads
      have heard := @heard_readSide command _ _ side.louder_cons_verbose none false after
      rw [← (give_eq_ok gives).2] at heard
      rw [Effect.read] at readsFlag
      rw [List.nil_append] at reads
      rw [reads, readsFlag] at heard
      cases heard with
      | kept more =>
        obtain ⟨quiet, found?⟩ := quiet
        obtain ⟨loud, _⟩ := loud
        obtain ⟨louder, rfl⟩ := more
        exact .option louder _
  | cons argument rest ih =>
    rw [List.cons_append, readSide_cons] at reads readsFlag
    obtain ⟨result, leads, reads⟩ := bind_eq_ok_iff.mp reads
    obtain ⟨_, leadsFlag, readsFlag⟩ := bind_eq_ok_iff.mp readsFlag
    obtain rfl := effect_rest leads leadsFlag
    cases result with
    | onward next pending optionsEnded => exact ih reads readsFlag
    | found found =>
      cases reads
      cases readsFlag
      exact .behind (eq_none_of_effect_found leads) side found rest

end Insertion

/-! ### Requests -/

/-- The request of a command between two sides. -/
def Request.ofSides (command : Command) (front behind : Side) (input : String) : Request where
  key? := behind.value? .key <|> front.value? .key
  derivedSubkey := front.has .derivedSubkey || behind.has .derivedSubkey
  verbose := front.has .verbose || behind.has .verbose
  action := command.action input behind

/-- The request that is made when the reading before the command has ended. -/
def Request.behindFront :
    Side × Option (Command × List String) → Except Stop Request
  | (_, none) => .error (.usage .missingCommand)
  | (front, some (command, rest)) => do
    let (behind, _) ← readSide (some command) {} none false rest
    match behind.inputs with
    | [] => .error (.usage .missingInput)
    | input :: _ => .ok (ofSides command front behind input)

theorem Request.parse_eq (arguments : List String) :
    parse arguments = readSide none {} none false arguments >>= behindFront := by
  rw [parse]
  refine bind_congr fun reading => ?_
  obtain ⟨front, _ | ⟨command, rest⟩⟩ := reading
  · rfl
  · refine bind_congr fun second => ?_
    cases second.1.inputs <;> rfl

theorem Request.behindFront_eq_ok_iff {reading : Side × Option (Command × List String)}
    {request : Request} :
    behindFront reading = .ok request ↔
      ∃ command rest behind found? input others, reading.2 = some (command, rest) ∧
        readSide (some command) {} none false rest = .ok (behind, found?) ∧
        behind.inputs = input :: others ∧ ofSides command reading.1 behind input = request := by
  obtain ⟨front, found?⟩ := reading
  constructor
  · intro makes
    cases found? with
    | none => cases makes
    | some commanded =>
    obtain ⟨⟨behind, second?⟩, second, makes⟩ := bind_eq_ok_iff.mp makes
    cases inputs : behind.inputs with
    | nil =>
      simp only [inputs] at makes
      cases makes
    | cons input others =>
      simp only [inputs] at makes
      exact ⟨commanded.1, commanded.2, behind, second?, input, others, rfl, second, inputs,
        Except.ok.inj makes⟩
  · rintro ⟨command, rest, behind, second?, input, others, rfl, second, inputs, rfl⟩
    simp only [behindFront, second, bind, Except.bind, inputs]

theorem Request.ofSides_louder_front {front loud : Side} (louder : front.Louder loud)
    (command : Command) (behind : Side) (input : String) :
    ofSides command loud behind input =
      { ofSides command front behind input with verbose := true } := by
  rw [ofSides, ofSides, louder.asks, louder.has .derivedSubkey nofun, louder.value? .key nofun]
  rfl

theorem Request.ofSides_louder_behind {behind loud : Side} (louder : behind.Louder loud)
    (command : Command) (front : Side) (input : String) :
    ofSides command front loud input =
      { ofSides command front behind input with verbose := true } := by
  have action : command.action input loud = command.action input behind := by
    cases command with
    | openCommand =>
      rw [Command.action, Command.action, louder.has .jsonBody nofun, louder.has .pretty nofun]
    | sealCommand =>
      rw [Command.action, Command.action, louder.value? .nonce nofun, louder.has .jsonBody nofun]
    | digestCommand => rfl
  rw [ofSides, ofSides, louder.asks, louder.has .derivedSubkey nofun, louder.value? .key nofun,
    action, Bool.or_true]

section Requests

variable {flag : String} (asksFor : flag ∈ verboseArguments)

include asksFor

/-- Wherever the argument is put, a request that is still made is the same with details. -/
theorem Request.parse_insert {before after : List String} {request louder : Request}
    (parsed : parse (before ++ after) = .ok request)
    (parsedFlag : parse (before ++ flag :: after) = .ok louder) :
    louder = { request with verbose := true } := by
  rw [parse_eq] at parsed parsedFlag
  obtain ⟨⟨front, first?⟩, first, parsed⟩ := bind_eq_ok_iff.mp parsed
  obtain ⟨⟨front', first?'⟩, first', parsedFlag⟩ := bind_eq_ok_iff.mp parsedFlag
  obtain ⟨command, rest, behind, found?, input, others, named, second, inputs, rfl⟩ :=
    behindFront_eq_ok_iff.mp parsed
  obtain ⟨command', rest', behind', found?', input', others', named', second', inputs', rfl⟩ :=
    behindFront_eq_ok_iff.mp parsedFlag
  cases readSide_insert asksFor first first' with
  | option more =>
    cases named.symm.trans named'
    cases second.symm.trans second'
    cases inputs.symm.trans inputs'
    exact ofSides_louder_front more command behind input
  | input some => cases some
  | behind _ side found before =>
    cases named
    cases named'
    cases readSide_insert asksFor second second' with
    | option more =>
      cases inputs.symm.trans (more.inputs.symm.trans inputs')
      exact ofSides_louder_behind more command front input
    | input some none => cases inputs.symm.trans none
    | behind first => cases first

/-- The argument before all others leads to the same request with details, or to the same stop, or
it is refused because details are asked for already. -/
theorem heard_parse (arguments : List String) :
    Heard (fun request louder => louder = { request with verbose := true })
      (fun request => request.verbose = true) (Request.parse arguments)
      (Request.parse (flag :: arguments)) := by
  have starts : readSide none {} none false (flag :: arguments) =
      readSide none { options := [(.verbose, "")] } none false arguments := by
    rw [readSide_cons, effect_flag asksFor]
    rfl
  rw [Request.parse_eq, Request.parse_eq, starts]
  refine (heard_readSide (Side.louder_cons_verbose {}) none false arguments).bind ?_ ?_
  · rintro ⟨front, _⟩ ⟨loud, found?⟩ ⟨louder, rfl⟩
    cases found? with
    | none => exact .stopped _
    | some commanded =>
      rw [Request.behindFront, Request.behindFront]
      cases readSide (some commanded.1) {} none false commanded.2 with
      | error stop => exact .stopped stop
      | ok second =>
        simp only [bind, Except.bind]
        cases second.1.inputs with
        | nil => exact .stopped _
        | cons input others =>
          exact .kept (Request.ofSides_louder_front louder commanded.1 second.1 input)
  · intro reading request asks makes
    obtain ⟨command, rest, behind, found?, input, others, named, second, inputs, rfl⟩ :=
      Request.behindFront_eq_ok_iff.mp makes
    exact Bool.or_eq_true_iff.mpr (.inl asks)

/-- Before all others the argument can be put if details are not asked for yet. -/
theorem Request.parse_cons {arguments : List String} {request : Request}
    (parsed : parse arguments = .ok request) (quiet : request.verbose = false) :
    parse (flag :: arguments) = .ok { request with verbose := true } := by
  have heard := heard_parse asksFor arguments
  rw [parsed] at heard
  generalize louder : parse (flag :: arguments) = result at heard
  cases heard with
  | repeated given => exact absurd ((given request rfl).symm.trans quiet) (by decide)
  | kept more => rw [more]

end Requests

end SealedEnvelope.CommandLine
