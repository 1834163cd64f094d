/-!
The command line: its commands and options, and how arguments are read as a request.

Options of the whole program may stand before or behind the command. An option is given at
most once on each side; on both sides, the one behind the command counts.
-/

namespace SealedEnvelope.CommandLine

/-- The commands. -/
inductive Command where
  | openCommand
  | sealCommand
  | digestCommand
deriving DecidableEq, Repr

/-- The word for a command. -/
def Command.word : Command → String
  | openCommand => "open"
  | sealCommand => "seal"
  | digestCommand => "digest"

/-- All commands. -/
def Command.all : List Command := [openCommand, sealCommand, digestCommand]

/-- The command that a word stands for. -/
def Command.ofWord? (word : String) : Option Command := all.find? (·.word == word)

/-- The options. -/
inductive Switch where
  | key
  | derivedSubkey
  | verbose
  | version
  | help
  | jsonBody
  | pretty
  | nonce
deriving DecidableEq, Repr

namespace Switch

/-- The word behind two dashes. -/
def word : Switch → String
  | key => "key"
  | derivedSubkey => "derived-subkey"
  | verbose => "verbose"
  | version => "version"
  | help => "help"
  | jsonBody => "json-body"
  | pretty => "pretty"
  | nonce => "nonce"

/-- The letter behind one dash. -/
def letter? : Switch → Option Char
  | key => some 'k'
  | derivedSubkey => none
  | verbose => some 'v'
  | version => some 'V'
  | help => some 'h'
  | jsonBody => some 'j'
  | pretty => some 'p'
  | nonce => some 'n'

/-- Whether a value belongs to the option. -/
def takesValue : Switch → Bool
  | key | nonce => true
  | _ => false

/-- The options that may be given before the command, or behind it, in the order in which they
are listed. -/
def available : Option Command → List Switch
  | none => [key, derivedSubkey, verbose, help, version]
  | some .openCommand => [jsonBody, key, derivedSubkey, pretty, verbose, help]
  | some .sealCommand => [key, nonce, derivedSubkey, jsonBody, verbose, help]
  | some .digestCommand => [key, derivedSubkey, verbose, help]

end Switch

/-- Why arguments are refused. -/
inductive UsageError where
  | unknownArgument (argument : String)
  | repeatedOption (option : Switch)
  | missingValue (option : Switch)
  | unwantedValue (option : Switch)
  | missingCommand
  | missingInput
deriving DecidableEq, Repr

/-- The wording of a refusal. -/
def UsageError.message : UsageError → String
  | unknownArgument argument => s!"unexpected argument '{argument}' found"
  | repeatedOption option =>
    s!"the argument '--{option.word}' cannot be used multiple times"
  | missingValue option =>
    s!"a value is required for '--{option.word}' but none was supplied"
  | unwantedValue option => s!"unexpected value for '--{option.word}' found"
  | missingCommand => "a command is required but none was supplied"
  | missingInput => "the input is required but was not supplied"

/-- What is known of one side of the command line. -/
structure Side where
  /-- Options given, latest first, with their values. -/
  options : List (Switch × String) := []
  /-- Arguments that are not options, latest first. -/
  inputs : List String := []
deriving DecidableEq, Repr

namespace Side

/-- Whether an option is given. -/
def has (side : Side) (option : Switch) : Bool := side.options.any (·.1 == option)

/-- The value of an option. -/
def value? (side : Side) (option : Switch) : Option String := side.options.lookup option

end Side

/-- What help may be asked for about. -/
inductive Topic where
  | program
  | command (command : Command)
  /-- The command that asks for help. -/
  | help
deriving DecidableEq, Repr

/-- What the help option is about, before a command or behind one. -/
def Topic.of : Option Command → Topic
  | none => program
  | some found => command found

/-- Why reading arguments ends before the last one. -/
inductive Stop where
  | usage (error : UsageError)
  | showVersion
  | showHelp (topic : Topic)
deriving DecidableEq, Repr

/-- Give an option. The options that ask for a text end the reading. -/
def Side.give (command : Option Command) (side : Side) (option : Switch) (value : String) :
    Except Stop Side :=
  if option = .version then .error .showVersion
  else if option = .help then .error (.showHelp (Topic.of command))
  else if side.has option then .error (.usage (.repeatedOption option))
  else .ok { side with options := (option, value) :: side.options }

/-- The effect of one argument: what is known after it, and the option whose value comes next. -/
abbrev Taken := Except Stop (Side × Option Switch)

/-- An argument of two dashes and a word, which a value may follow behind an equals sign. -/
def takeLong (command : Option Command) (side : Side) (argument : String) : Taken :=
  let chars := argument.toList.drop 2
  let word := String.ofList (chars.takeWhile (· ≠ '='))
  match (Switch.available command).find? (·.word == word), chars.dropWhile (· ≠ '=') with
  | none, _ => .error (.usage (.unknownArgument argument))
  | some option, [] =>
    if option.takesValue then .ok (side, some option)
    else (·, none) <$> side.give command option ""
  | some option, _ :: value =>
    if option.takesValue then (·, none) <$> side.give command option (String.ofList value)
    else .error (.usage (.unwantedValue option))

/-- The letters of an argument of one dash. The first option with a value takes what is left of
the argument, without an equals sign before it, or else the next argument. -/
def takeLetters (command : Option Command) (side : Side) (argument : String) :
    List Char → Taken
  | [] => .ok (side, none)
  | letter :: rest =>
    match (Switch.available command).find? (·.letter? == some letter) with
    | none => .error (.usage (.unknownArgument argument))
    | some option =>
      if option.takesValue then
        match rest with
        | [] => .ok (side, some option)
        | '=' :: value => (·, none) <$> side.give command option (String.ofList value)
        | value => (·, none) <$> side.give command option (String.ofList value)
      else
        match side.give command option "" with
        | .ok side => takeLetters command side argument rest
        | .error stop => .error stop

/-- Whether an argument is read as options: it begins with a dash and is not only one. -/
def isOption (argument : String) : Bool :=
  match argument.toList with
  | '-' :: _ :: _ => true
  | _ => false

/-- An argument that begins with a dash and is not only one or two. -/
def takeOption (command : Option Command) (side : Side) (argument : String) : Taken :=
  match argument.toList with
  | '-' :: '-' :: _ => takeLong command side argument
  | letters => takeLetters command side argument (letters.drop 1)

/-- An argument that is not an option; only a command has one. -/
def Side.takeInput (command : Option Command) (side : Side) (argument : String) :
    Except Stop Side :=
  if command.isSome ∧ side.inputs = [] then .ok { side with inputs := [argument] }
  else .error (.usage (.unknownArgument argument))

/-- The command that stands at an argument before any command. -/
def commandAt? (command : Option Command) (argument : String) : Option Command :=
  if command.isSome then none else Command.ofWord? argument

/-- What arguments ask for help about by a word. -/
def helpAt? (command : Option Command) (argument : String) (rest : List String) :
    Option Topic :=
  if command.isSome ∨ argument ≠ "help" then none
  else
    match rest with
    | [] => some .program
    | [word] => if word = "help" then some .help else (Command.ofWord? word).map .command
    | _ => none

/-- One side of the command line, up to its end or to the command. `pending` is an option that
waits for its value; behind two dashes nothing is an option or a command any more. -/
def readSide (command : Option Command) (side : Side) (pending : Option Switch)
    (optionsEnded : Bool) : List String → Except Stop (Side × Option (Command × List String))
  | [] =>
    match pending with
    | some option => .error (.usage (.missingValue option))
    | none => .ok (side, none)
  | argument :: rest =>
    match pending with
    | some option =>
      if isOption argument then .error (.usage (.missingValue option))
      else
        match side.give command option argument with
        | .ok side => readSide command side none optionsEnded rest
        | .error stop => .error stop
    | none =>
      if optionsEnded then
        match side.takeInput command argument with
        | .ok side => readSide command side none optionsEnded rest
        | .error stop => .error stop
      else if argument = "--" then readSide command side none true rest
      else if isOption argument then
        match takeOption command side argument with
        | .ok (side, pending) => readSide command side pending optionsEnded rest
        | .error stop => .error stop
      else
        match commandAt? command argument with
        | some found => .ok (side, some (found, rest))
        | none =>
          match helpAt? command argument rest with
          | some topic => .error (.showHelp topic)
          | none =>
            match side.takeInput command argument with
            | .ok side => readSide command side none optionsEnded rest
            | .error stop => .error stop

/-- What to do with an input. -/
inductive Action where
  | openInput (input : String) (jsonBody pretty : Bool)
  | sealInput (input : String) (nonce? : Option String) (jsonBody : Bool)
  | digestInput (input : String)
deriving DecidableEq, Repr

/-- A request made on the command line. -/
structure Request where
  key? : Option String
  derivedSubkey : Bool
  verbose : Bool
  action : Action
deriving DecidableEq, Repr

/-- The action of a command on an input. -/
def Command.action (command : Command) (input : String) (side : Side) : Action :=
  match command with
  | openCommand => .openInput input (side.has .jsonBody) (side.has .pretty)
  | sealCommand => .sealInput input (side.value? .nonce) (side.has .jsonBody)
  | digestCommand => .digestInput input

/-- The request that arguments make. -/
def Request.parse (arguments : List String) : Except Stop Request := do
  let (before, found) ← readSide none {} none false arguments
  match found with
  | none => throw (.usage .missingCommand)
  | some (command, rest) =>
    let (behind, _) ← readSide (some command) {} none false rest
    match behind.inputs with
    | [] => throw (.usage .missingInput)
    | input :: _ =>
      pure {
        key? := behind.value? .key <|> before.value? .key
        derivedSubkey := before.has .derivedSubkey || behind.has .derivedSubkey
        verbose := before.has .verbose || behind.has .verbose
        action := command.action input behind }

end SealedEnvelope.CommandLine
