import SealedEnvelope.CommandLine.Help
import SealedEnvelope.Event.Filter
import SealedEnvelope.Message

/-!
Running the command line as a function: arguments, settings, standard input and a nonce go in,
a status and two texts come out.
-/

namespace SealedEnvelope.CommandLine

/-- Settings from outside the arguments. -/
structure Settings where
  /-- The key, when the arguments give none. -/
  key? : Option String := none
  /-- The filter for reports. -/
  filter? : Option String := none

/-- What standard input holds. -/
inductive StandardInput where
  | bytes (bytes : Bytes)
  /-- It cannot be read to its end, for a reason. -/
  | unreadable (reason : String)

instance : Coe Bytes StandardInput := ⟨.bytes⟩

/-- How a run ends. -/
structure Exit where
  status : Nat
  output : String
  errors : String
deriving DecidableEq, Repr

/-- The bytes of a key text: hexadecimal, or else base64. -/
def keyBytes (text : String) : Except Error Bytes :=
  let trimmed := Text.trim text
  match Hex.decode trimmed <|> Base64.decode trimmed with
  | some bytes => .ok bytes
  | none => .error (.other "expect AES key as hex or base64 string")

/-- A result without a trace. -/
def liftExcept {α : Type} (result : Except Error α) : Attempt α := ExceptT.mk (pure result)

/-- The codec for a key text, or for the key of the protocol without one. -/
def loadCodec (key? : Option String) (derivedSubkey : Bool) : Attempt (Codec Aes.Key) := do
  let bytes ← match key? with
    | some text => liftExcept (keyBytes text)
    | none => pure protocolKey
  Traced.report (.usingKey (8 * bytes.length) derivedSubkey)
  liftExcept (if derivedSubkey then Codec.ofKeyDerived bytes else Codec.ofKey bytes)

/-- The bytes of an input; a dash stands for standard input. -/
def inputBytes (input : String) (standardInput : StandardInput) : Except Error Bytes :=
  if input = "-" then
    match standardInput with
    | .bytes bytes => .ok bytes
    | .unreadable reason => .error (.transfer reason)
  else .ok (Utf8.encode input)

/-- Twelve bytes in hexadecimal. -/
def parseNonce (text : String) : Except Error Nonce :=
  match Hex.decode (Text.trim text) with
  | none => .error .hex
  | some bytes =>
    if bytes.length = Nonce.size then .ok (Nonce.ofBytes bytes)
    else .error (.invalidNonce bytes.length)

/-- Print the message of an input, as it is or indented as JSON. A body without data has none. -/
def runOpen (codec : Codec Aes.Key) (input : Bytes) (jsonBody pretty : Bool) : Attempt Unit := do
  let text ← match Utf8.decode input with
    | .ok text => pure text
    | .error error => throw (.utf8 error)
  let message? ← if jsonBody then codec.openBody text else some <$> codec.openText text
  match message? with
  | none => Traced.report .bodyWithoutData
  | some message =>
    if pretty then
      match Json.parse message with
      | .ok value => Traced.print (line (Json.pretty value))
      | .error error => throw (.json error)
    else Traced.print (line message)

/-- The text of the envelope of a message, as base64 or as a body. -/
def sealInto (codec : Codec Aes.Key) (jsonBody : Bool) (nonce : Nonce) (plaintext : Bytes) :
    Traced String :=
  if jsonBody then codec.sealBody nonce plaintext else codec.sealText nonce plaintext

/-- Print the envelope of an input; `drawn` is the nonce when none is given. -/
def runSeal (codec : Codec Aes.Key) (input : Bytes) (nonce? : Option String) (jsonBody : Bool)
    (drawn : Nonce) : Attempt Unit := do
  let nonce ← match nonce?.map parseNonce with
    | some (.ok nonce) => pure nonce
    | some (.error error) => throw error
    | none => pure drawn
  let text ← sealInto codec jsonBody nonce input
  Traced.print (line text)

/-- Print the digest of an input in hexadecimal, without associated data. -/
def runDigest (codec : Codec Aes.Key) (input : String) : Attempt Unit :=
  match Hex.decode (Text.trim input) with
  | some bytes => Traced.print (line (Hex.encode (digest codec.subkey [] bytes).bytes))
  | none => throw .hex

/-- Do what an action asks for. Its input is read before anything else of it is looked at. -/
def Action.run (action : Action) (codec : Codec Aes.Key) (standardInput : StandardInput)
    (drawn : Nonce) : Attempt Unit :=
  match action with
  | .openInput input jsonBody pretty => do
    let bytes ← liftExcept (inputBytes input standardInput)
    runOpen codec bytes jsonBody pretty
  | .sealInput input nonce? jsonBody => do
    let bytes ← liftExcept (inputBytes input standardInput)
    runSeal codec bytes nonce? jsonBody drawn
  | .digestInput input => runDigest codec input

/-- Whether an action reads standard input. -/
def Action.readsInput : Action → Bool
  | .openInput input .. | .sealInput input .. => input == "-"
  | .digestInput _ => false

/-- The key text that counts: the one in the arguments, or else the one in the settings. -/
def Request.keyText? (request : Request) (settings : Settings) : Option String :=
  request.key? <|> settings.key?

/-- Do what a request asks for. -/
def Request.run (request : Request) (settings : Settings) (standardInput : StandardInput)
    (drawn : Nonce) : Attempt Unit := do
  let codec ← loadCodec (request.keyText? settings) request.derivedSubkey
  request.action.run codec standardInput drawn

/-- The filter for the reports of a request: the one in the settings, if it can be read, and else
warnings, or details when they are asked for. There is none when reading it crashes. -/
def Request.filter? (request : Request) (settings : Settings) : Option Filter :=
  match settings.filter?.map Filter.parse with
  | some (.ok filter) => some filter
  | some (.error .crash) => none
  | some (.error .unreadable) | none =>
    some (Filter.upTo (if request.verbose then .debug else .warn))

/-- How an attempt ends a run: with what it printed, and with its reports and error on the side. -/
def finish (filter : Filter) (attempt : Traced (Except Error Unit)) : Exit :=
  let output := String.join attempt.printed
  let reports := filter.render attempt.events
  match attempt.result with
  | .ok () => { status := 0, output, errors := reports }
  | .error error => { status := 1, output, errors := reports ++ line s!"Error: {error.message}" }

/-- How a crash ends a run: nothing is printed. What the program then writes on the side tells a
place in its own text; a sentence stands for that here. -/
def Exit.crashed : Exit where
  status := 101
  output := ""
  errors := line "the filter for reports cannot be cut inside a character"

/-- The version line. -/
def versionText : String := line "parcel_codec_cli 0.1.0"

/-- How reading the arguments ends a run. -/
def Stop.exit (settings : Settings) : Stop → Exit
  | .showVersion => { status := 0, output := versionText, errors := "" }
  | .showHelp topic => { status := 0, output := topic.text settings.key?, errors := "" }
  | .usage error =>
    let parts := [s!"error: {error.message}", Topic.program.usage,
      "For more information, try '--help'."]
    { status := 2, output := "", errors := "\n".intercalate (parts.map line) }

/-- A run of the program: the arguments are looked at first, then the filter, then the key. -/
def run (arguments : List String) (settings : Settings) (standardInput : StandardInput)
    (drawn : Nonce) : Exit :=
  match Request.parse arguments with
  | .error stop => stop.exit settings
  | .ok request =>
    match request.filter? settings with
    | none => .crashed
    | some filter => finish filter (request.run settings standardInput drawn).run

/-- Whether a run gets to reading standard input. -/
def readsInput (arguments : List String) (settings : Settings) : Bool :=
  match Request.parse arguments with
  | .error _ => false
  | .ok request =>
    (request.filter? settings).isSome && request.action.readsInput &&
      (loadCodec (request.keyText? settings) request.derivedSubkey).run.result.isOk

end SealedEnvelope.CommandLine
