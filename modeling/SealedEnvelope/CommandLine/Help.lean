import SealedEnvelope.CommandLine.Arguments

/-!
The help texts: how a command is written, and what its parts mean.

A text has a line of usage and, under a heading each, tables of commands, inputs and options
whose second columns are aligned.
-/

namespace SealedEnvelope.CommandLine

/-- What a command does. -/
def Command.description : Command → String
  | openCommand => "Verify and decrypt an envelope"
  | sealCommand => "Encrypt and authenticate a payload"
  | digestCommand => "Print the field digest of some bytes"

/-- What the input of a command is. -/
def Command.inputDescription : Command → String
  | openCommand => "Base64 encoded envelope, or - to read it from stdin"
  | sealCommand => "Plaintext to seal, or - to read it from stdin"
  | digestCommand => "Hex encoded bytes to digest"

namespace Switch

/-- An option with all its forms and the name of its value. -/
def forms (option : Switch) : String :=
  let short := match option.letter? with
    | some letter => s!"-{letter}, "
    | none => "    "
  let value := if option.takesValue then s!" <{option.word.toUpper}>" else ""
  short ++ "--" ++ option.word ++ value

/-- What an option means for a command. The key in the settings is shown with its option. -/
def description (command : Option Command) (key? : Option String) : Switch → String
  | key =>
    "Hex or base64 encoded AES key. Defaults to the game's key [env: PARCEL_CODEC_KEY=" ++
      key?.getD "" ++ "]"
  | derivedSubkey =>
    "Derive the digest subkey from the key instead of using the game's constant"
  | verbose => "Verbose"
  | version => "Print version"
  | help => "Print help"
  | jsonBody =>
    if command = some .openCommand then
      "Input is a \x7b\"data\": ...\x7d request/response body instead of a bare envelope"
    else "Wrap the envelope in a \x7b\"data\": ...\x7d body"
  | pretty => "Re-indent the decrypted JSON"
  | nonce => "Hex encoded 12 byte nonce. Random if omitted"

end Switch

/-- A text with a line break behind it. -/
def line (text : String) : String := text ++ "\n"

/-- A heading and lines of two columns, the second one aligned. -/
def table (heading : String) (rows : List (String × String)) : String :=
  let width := (rows.map (·.1.length)).foldl max 0
  let row (left right : String) : String :=
    "  " ++ left ++ String.ofList (List.replicate (width - left.length) ' ') ++ "  " ++ right
  line (heading ++ ":") ++ String.join (rows.map fun (left, right) => line (row left right))

namespace Topic

/-- What the help command does. -/
def helpDescription : String := "Print this message or the help of the given subcommand(s)"

/-- How a command is written. -/
def usage : Topic → String
  | program => "Usage: parcel-codec [OPTIONS] <COMMAND>"
  | command found => s!"Usage: parcel-codec {found.word} [OPTIONS] <INPUT>"
  | help => "Usage: parcel-codec help [COMMAND]..."

/-- The table of the options of a command. -/
def optionTable (command : Option Command) (key? : Option String) : String :=
  table "Options" ((Switch.available command).map fun option =>
    (option.forms, option.description command key?))

/-- The table of all commands. -/
def commandTable : String :=
  table "Commands" (Command.all.map (fun found => (found.word, found.description)) ++
    [("help", helpDescription)])

/-- The parts of a help text, which empty lines separate. -/
def parts (key? : Option String) : Topic → List String
  | program => [line program.usage, commandTable, optionTable none key?]
  | command found =>
    [line found.description, line (command found).usage,
      table "Arguments" [("<INPUT>", found.inputDescription)], optionTable (some found) key?]
  | help =>
    [line helpDescription, line help.usage,
      table "Arguments" [("[COMMAND]...", "Print help for the subcommand(s)")]]

/-- The help about a topic. -/
def text (topic : Topic) (key? : Option String) : String := "\n".intercalate (topic.parts key?)

end Topic

end SealedEnvelope.CommandLine
