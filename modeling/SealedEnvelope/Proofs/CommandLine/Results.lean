import SealedEnvelope.Proofs.CommandLine.Keys
import SealedEnvelope.Proofs.CommandLine.Printing
import SealedEnvelope.Proofs.Event.Filter
import SealedEnvelope.Proofs.Message.Bodies

/-!
The parts of a run, and what each of them yields.

A run makes a codec and gives it to one of three actions. Opening finds a message in its input and
shows it; sealing chooses a nonce and seals under it.
-/

namespace SealedEnvelope.CommandLine

/-! ### Opening -/

/-- The message that a text holds, as it is or as a body. -/
def findMessage (codec : Codec Aes.Key) (jsonBody : Bool) (text : String) :
    Attempt (Option String) :=
  if jsonBody then codec.openBody text else some <$> codec.openText text

/-- Print the message that was found. -/
def showFound (pretty : Bool) : Option String → Attempt Unit
  | none => Traced.report .bodyWithoutData
  | some message =>
    if pretty then
      match Json.parse message with
      | .ok value => Traced.print (line (Json.pretty value))
      | .error error => throw (.json error)
    else Traced.print (line message)

/-- What is shown of a message: itself, or its JSON with indentation. -/
def shown (pretty : Bool) (message : String) : Except Error String :=
  if pretty then
    match Json.parse message with
    | .ok value => .ok (line (Json.pretty value))
    | .error error => .error (.json error)
  else .ok (line message)

theorem yields_showFound_some (pretty : Bool) (message : String) :
    Yields (showFound pretty (some message)) (shown pretty message) := by
  rw [showFound, shown]
  cases pretty with
  | false => exact yields_print _
  | true =>
    cases Json.parse message with
    | error error => exact yields_throw _
    | ok value => exact yields_print _

theorem events_showFound_some (pretty : Bool) (message : String) :
    (showFound pretty (some message)).run.events = [] := by
  rw [showFound]
  cases pretty with
  | false => rfl
  | true =>
    cases Json.parse message with
    | error error => rfl
    | ok value => rfl

section Opening

variable {codec : Codec Aes.Key} {input : Bytes} {jsonBody : Bool} (pretty : Bool)

theorem runOpen_of_no_text {error : Utf8.Error} (undecodable : Utf8.decode input = .error error) :
    runOpen codec input jsonBody pretty = throw (.utf8 error) := by
  rw [runOpen, undecodable]
  rfl

theorem runOpen_of_text {text : String} (decoded : Utf8.decode input = .ok text) :
    runOpen codec input jsonBody pretty =
      findMessage codec jsonBody text >>= showFound pretty := by
  rw [runOpen, decoded, findMessage]
  simp only [pure_bind]
  cases jsonBody with
  | false =>
    rw [if_neg Bool.false_ne_true, if_neg Bool.false_ne_true]
    exact bind_congr fun message? => by cases message? <;> rfl
  | true =>
    rw [if_pos rfl, if_pos rfl]
    exact bind_congr fun message? => by cases message? <;> rfl

theorem result_findMessage_text (codec : Codec Aes.Key) (text : String) :
    (findMessage codec false text).run.result = (codec.openedText text).map some := by
  rw [findMessage, if_neg Bool.false_ne_true, Traced.result_run_map, Codec.openedText]

theorem result_findMessage_body (codec : Codec Aes.Key) (text : String) :
    (findMessage codec true text).run.result = codec.openedBody text := by
  rw [findMessage, if_pos rfl, Codec.openedBody]

theorem printed_findMessage (codec : Codec Aes.Key) (jsonBody : Bool) (text : String) :
    (findMessage codec jsonBody text).run.printed = [] := by
  cases jsonBody with
  | false =>
    rw [findMessage, if_neg Bool.false_ne_true, Traced.printed_run_map, codec.printed_openText]
  | true => rw [findMessage, if_pos rfl, codec.printed_openBody]

theorem yields_runOpen_of_found {text : String} {message? : Option String}
    (decoded : Utf8.decode input = .ok text)
    (found : (findMessage codec jsonBody text).run.result = .ok message?) :
    Yields (runOpen codec input jsonBody pretty) (message?.elim (.ok "") (shown pretty)) := by
  have silent := printed_findMessage codec jsonBody text
  rw [runOpen_of_text pretty decoded, yields_bind_iff silent found]
  cases message? with
  | none => exact yields_report _
  | some message => exact yields_showFound_some pretty message

theorem yields_runOpen_of_not_found {text : String} {error : Error}
    (decoded : Utf8.decode input = .ok text)
    (failed : (findMessage codec jsonBody text).run.result = .error error) :
    Yields (runOpen codec input jsonBody pretty) (.error error) := by
  rw [runOpen_of_text pretty decoded]
  exact yields_bind_of_error (printed_findMessage codec jsonBody text) failed

end Opening

/-! ### Sealing -/

section Nonces

variable {text : String}

theorem parseNonce_of_no_hex (unspelled : ∀ bytes, ¬ Hex.Spelled bytes (Text.trim text).toList) :
    parseNonce text = .error .hex := by
  rw [parseNonce, Hex.decode_eq_none_iff.mpr unspelled]

theorem parseNonce_of_unfit {bytes : Bytes} (spelled : Hex.Spelled bytes (Text.trim text).toList)
    (unfit : bytes.length ≠ 12) : parseNonce text = .error (.invalidNonce bytes.length) := by
  rw [parseNonce, Hex.decode_eq_some_iff.mpr spelled]
  exact if_neg unfit

theorem parseNonce_of_hex {nonce : Nonce}
    (spelled : Hex.Spelled nonce.bytes (Text.trim text).toList) : parseNonce text = .ok nonce := by
  have read : Nonce.ofBytes nonce.bytes = nonce := by
    have leading := Nonce.ofBytes_bytes_append nonce []
    rwa [List.append_nil] at leading
  rw [parseNonce, Hex.decode_eq_some_iff.mpr spelled]
  simp only [Nonce.length_bytes, if_pos, read]

end Nonces

/-- The nonce that is given, or the one that was drawn. -/
def chosenNonce (drawn : Nonce) : Option String → Except Error Nonce
  | some text => parseNonce text
  | none => .ok drawn

theorem exists_chosenNonce {nonce? : Option String}
    (given : ∀ text, nonce? = some text →
      ∃ nonce : Nonce, Hex.Spelled nonce.bytes (Text.trim text).toList) (drawn : Nonce) :
    ∃ nonce, chosenNonce drawn nonce? = .ok nonce := by
  cases nonce? with
  | none => exact ⟨drawn, rfl⟩
  | some text =>
    obtain ⟨nonce, spelled⟩ := given text rfl
    refine ⟨nonce, ?_⟩
    rw [chosenNonce, parseNonce_of_hex spelled]

/-- The text of an envelope. -/
def envelopeText (codec : Codec Aes.Key) (jsonBody : Bool) (nonce : Nonce) (plaintext : Bytes) :
    String :=
  if jsonBody then codec.sealedBody nonce plaintext else codec.sealedText nonce plaintext

theorem result_sealInto (codec : Codec Aes.Key) (jsonBody : Bool) (nonce : Nonce)
    (plaintext : Bytes) :
    (sealInto codec jsonBody nonce plaintext).result =
      envelopeText codec jsonBody nonce plaintext := by
  cases jsonBody with
  | false => rfl
  | true => rfl

theorem runSeal_of_error {nonce? : Option String} {drawn : Nonce} {error : Error}
    (refused : chosenNonce drawn nonce? = .error error) (codec : Codec Aes.Key) (input : Bytes)
    (jsonBody : Bool) : runSeal codec input nonce? jsonBody drawn = throw error := by
  cases nonce? with
  | none => cases refused
  | some text =>
    rw [chosenNonce] at refused
    rw [runSeal, Option.map_some, refused]
    rfl

theorem runSeal_of_ok {nonce? : Option String} {drawn nonce : Nonce}
    (chosen : chosenNonce drawn nonce? = .ok nonce) (codec : Codec Aes.Key) (input : Bytes)
    (jsonBody : Bool) :
    runSeal codec input nonce? jsonBody drawn = (do
      let text ← sealInto codec jsonBody nonce input
      Traced.print (line text)) := by
  cases nonce? with
  | none =>
    cases chosen
    rfl
  | some text =>
    rw [chosenNonce] at chosen
    rw [runSeal, Option.map_some, chosen]
    rfl

theorem yields_runSeal (codec : Codec Aes.Key) (input : Bytes) (nonce? : Option String)
    (jsonBody : Bool) (drawn : Nonce) :
    Yields (runSeal codec input nonce? jsonBody drawn)
      ((chosenNonce drawn nonce?).map fun nonce =>
        line (envelopeText codec jsonBody nonce input)) := by
  cases chosen : chosenNonce drawn nonce? with
  | error error =>
    rw [runSeal_of_error chosen]
    exact yields_throw error
  | ok nonce =>
    have silent : (liftM (sealInto codec jsonBody nonce input) : Attempt String).run.printed = [] :=
      (Traced.printed_map _ _).trans (printed_sealInto codec jsonBody nonce input)
    have made : (liftM (sealInto codec jsonBody nonce input) : Attempt String).run.result =
        .ok (envelopeText codec jsonBody nonce input) :=
      congrArg Except.ok (result_sealInto codec jsonBody nonce input)
    rw [runSeal_of_ok chosen]
    exact (yields_bind_iff silent made).mpr (yields_print _)

/-! ### Digests -/

theorem yields_runDigest_of_hex {input : String} {bytes : Bytes}
    (spelled : Hex.Spelled bytes (Text.trim input).toList) (codec : Codec Aes.Key) :
    Yields (runDigest codec input)
      (.ok (line (Hex.encode (digest codec.subkey [] bytes).bytes))) := by
  rw [runDigest, Hex.decode_eq_some_iff.mpr spelled]
  exact yields_print _

theorem yields_runDigest_of_no_hex {input : String}
    (unspelled : ∀ bytes, ¬ Hex.Spelled bytes (Text.trim input).toList) (codec : Codec Aes.Key) :
    Yields (runDigest codec input) (.error .hex) := by
  rw [runDigest, Hex.decode_eq_none_iff.mpr unspelled]
  exact yields_throw _

/-! ### Runs -/

section Runs

variable {codec : Codec Aes.Key} {standardInput : StandardInput} {drawn : Nonce} {input : String}
  {bytes : Bytes}

theorem inputBytes_of_ne_dash (named : input ≠ "-") (standardInput : StandardInput) :
    inputBytes input standardInput = .ok (Utf8.encode input) :=
  if_neg named

theorem Action.run_open (read : inputBytes input standardInput = .ok bytes)
    (jsonBody pretty : Bool) :
    (openInput input jsonBody pretty).run codec standardInput drawn =
      runOpen codec bytes jsonBody pretty := by
  rw [Action.run, read]
  rfl

theorem Action.run_seal (read : inputBytes input standardInput = .ok bytes)
    (nonce? : Option String) (jsonBody : Bool) :
    (sealInput input nonce? jsonBody).run codec standardInput drawn =
      runSeal codec bytes nonce? jsonBody drawn := by
  rw [Action.run, read]
  rfl

/-- Standard input that cannot be read is the first thing to fail, ahead of the nonce. -/
theorem Action.run_of_unreadable {action : Action} (reads : action.readsInput = true)
    (reason : String) :
    action.run codec (.unreadable reason) drawn = throw (.transfer reason) := by
  cases action with
  | openInput input jsonBody pretty =>
    obtain rfl : input = "-" := eq_of_beq reads
    rfl
  | sealInput input nonce? jsonBody =>
    obtain rfl : input = "-" := eq_of_beq reads
    rfl
  | digestInput input => cases reads

/-- Standard input that is not read does not count. -/
theorem Action.run_congr {action : Action} (ignores : action.readsInput = false)
    (codec : Codec Aes.Key) (standardInput other : StandardInput) (drawn : Nonce) :
    action.run codec standardInput drawn = action.run codec other drawn := by
  have same {input : String} (named : (input == "-") = false) :
      inputBytes input standardInput = inputBytes input other := by
    have argument := ne_of_beq_false named
    rw [inputBytes_of_ne_dash argument, inputBytes_of_ne_dash argument]
  cases action with
  | openInput input jsonBody pretty => rw [Action.run, Action.run, same ignores]
  | sealInput input nonce? jsonBody => rw [Action.run, Action.run, same ignores]
  | digestInput input => rfl

variable {request : Request} {settings : Settings} {result : Except Error String}

/-- The codec of a key text, or why there is none. -/
def codecFor (key? : Option String) (derivedSubkey : Bool) : Except Error (Codec Aes.Key) :=
  chosenKey key? >>= codecOf derivedSubkey

theorem codecFor_of_chosen {key? : Option String} {key : Bytes}
    (chosen : chosenKey key? = .ok key) (derivedSubkey : Bool) :
    codecFor key? derivedSubkey = codecOf derivedSubkey key := by
  rw [codecFor, chosen]
  rfl

theorem result_loadCodec_eq (key? : Option String) (derivedSubkey : Bool) :
    (loadCodec key? derivedSubkey).run.result = codecFor key? derivedSubkey := by
  cases chosen : chosenKey key? with
  | error error =>
    rw [loadCodec_of_error chosen, codecFor, chosen]
    rfl
  | ok key =>
    rw [result_loadCodec chosen, codecFor_of_chosen chosen]

theorem Request.yields_run_of_error {error : Error}
    (refused : codecFor (request.keyText? settings) request.derivedSubkey = .error error)
    (standardInput : StandardInput) (drawn : Nonce) :
    Yields (request.run settings standardInput drawn) (.error error) :=
  yields_bind_of_error (printed_loadCodec _ _) ((result_loadCodec_eq _ _).trans refused)

theorem Request.yields_run_iff
    (made : codecFor (request.keyText? settings) request.derivedSubkey = .ok codec) :
    Yields (request.run settings standardInput drawn) result ↔
      Yields (request.action.run codec standardInput drawn) result :=
  yields_bind_iff (printed_loadCodec _ _) ((result_loadCodec_eq _ _).trans made)

/-- Standard input does not count either when there is no codec to use it with. -/
theorem Request.run_congr
    (ignores : request.action.readsInput = false ∨
      ∃ error, codecFor (request.keyText? settings) request.derivedSubkey = .error error)
    (standardInput other : StandardInput) (drawn : Nonce) :
    request.run settings standardInput drawn = request.run settings other drawn := by
  rcases ignores with ignores | ⟨error, refused⟩
  · exact bind_congr fun codec => Action.run_congr ignores codec standardInput other drawn
  · rw [← result_loadCodec_eq] at refused
    refine ExceptT.ext ?_
    rw [Request.run, Request.run, ExceptT.run_bind, ExceptT.run_bind]
    refine Traced.ext ?_ ?_ ?_ ?_
    · rw [Traced.result_bind, Traced.result_bind, refused]
    · rw [Traced.inputs_bind, Traced.inputs_bind, refused]
    · rw [Traced.events_bind, Traced.events_bind, refused]
    · rw [Traced.printed_bind, Traced.printed_bind, refused]

end Runs

/-! ### Filters that crash -/

/-- Whether the filter in the settings is one that cannot be read without a crash. -/
def Settings.Crashes (settings : Settings) : Prop :=
  ∃ text, settings.filter? = some text ∧ Filter.parse text = .error .crash

variable {settings : Settings}

theorem Settings.not_crashes_of_none (unset : settings.filter? = none) : ¬ settings.Crashes := by
  rintro ⟨text, set, _⟩
  cases unset.symm.trans set

theorem Settings.not_crashes_of_ascii {text : String} (set : settings.filter? = some text)
    (ascii : ∀ char ∈ text.toList, char.toNat < 128) : ¬ settings.Crashes := by
  rintro ⟨_, same, crash⟩
  cases set.symm.trans same
  exact Filter.parse_ne_crash ascii crash

theorem Request.filter?_eq_none_iff (request : Request) :
    request.filter? settings = none ↔ settings.Crashes := by
  rw [filter?, Settings.Crashes]
  cases settings.filter? with
  | none => simp
  | some text =>
    cases read : Filter.parse text with
    | ok filter => simp [read]
    | error fault => cases fault <;> simp [read]

theorem Request.exists_filter (request : Request) (calm : ¬ settings.Crashes) :
    ∃ filter, request.filter? settings = some filter :=
  Option.ne_none_iff_exists'.mp (mt request.filter?_eq_none_iff.mp calm)

section Runs

variable {arguments : List String} {request : Request}
  (parsed : Request.parse arguments = .ok request) (standardInput : StandardInput) (drawn : Nonce)

include parsed

theorem run_of_parse {filter : Filter} (read : request.filter? settings = some filter) :
    run arguments settings standardInput drawn =
      finish filter (request.run settings standardInput drawn).run := by
  simp only [run, parsed, read]

/-- A filter that crashes ends every run alike. -/
theorem run_of_crashes (crashes : settings.Crashes) :
    run arguments settings standardInput drawn = .crashed := by
  simp only [run, parsed, request.filter?_eq_none_iff.mpr crashes]

end Runs

end SealedEnvelope.CommandLine
