import SealedEnvelope.Proofs.CommandLine.Results

/-!
How a run ends.

A run goes through stages, and the first that fails decides the error: the key, the input, then for
opening the input as a text, the body, the base64 text, the length of the envelope, its tag, the
message as a text, and the message as JSON if it is to be indented. Output is printed behind the last
of them.
-/

namespace SealedEnvelope.CommandLine

/-! ### Opening -/

/-- Whether an input carries data: the text that it is, or what the body that it writes holds. -/
inductive Carries (input : Bytes) : Bool → Option String → Prop where
  | text {text : String} (decoded : Utf8.decode input = .ok text) : Carries input false (some text)
  | body {text : String} {data? : Option String} (decoded : Utf8.decode input = .ok text)
      (parsed : Body.parse (Text.trim text) = .ok ⟨data?⟩) : Carries input true data?

/-- Whether an input carries the base64 text of an envelope. -/
def CarriesEnvelope (input : Bytes) (jsonBody : Bool) (envelope : Envelope) : Prop :=
  ∃ data, Carries input jsonBody (some data) ∧ Text.trim data = Base64.encode envelope.bytes

/-- Whether an input carries a plaintext, in an envelope with the right tag. -/
def CarriesPlaintext (codec : Codec Aes.Key) (input : Bytes) (jsonBody : Bool)
    (plaintext : Bytes) : Prop :=
  ∃ envelope : Envelope, CarriesEnvelope input jsonBody envelope ∧
    codec.dueTag envelope.nonce [] envelope.ciphertext = envelope.tag ∧
    codec.masked envelope.nonce .payload envelope.ciphertext = plaintext

/-- Whether an input carries a plaintext that is a text. -/
def CarriesMessage (codec : Codec Aes.Key) (input : Bytes) (jsonBody : Bool)
    (message : String) : Prop :=
  ∃ plaintext, CarriesPlaintext codec input jsonBody plaintext ∧
    Utf8.decode plaintext = .ok message

/-- What opening an input ends in. Each outcome tells the stages that were passed before it. -/
inductive OpenOutcome (codec : Codec Aes.Key) (input : Bytes) (jsonBody pretty : Bool) :
    Except Error String → Prop where
  | noText {error : Utf8.Error} (undecodable : Utf8.decode input = .error error) :
      OpenOutcome codec input jsonBody pretty (.error (.utf8 error))
  | noBody {text : String} {error : Json.Error} (decoded : Utf8.decode input = .ok text)
      (wanted : jsonBody = true) (unread : Body.parse (Text.trim text) = .error error) :
      OpenOutcome codec input jsonBody pretty (.error (.json error))
  | noData (carried : Carries input jsonBody none) :
      OpenOutcome codec input jsonBody pretty (.ok "")
  | noBase64 {data : String} (carried : Carries input jsonBody (some data))
      (unspelled : ∀ bytes, Text.trim data ≠ Base64.encode bytes) :
      OpenOutcome codec input jsonBody pretty (.error .base64)
  | short {data : String} {bytes : Bytes} (carried : Carries input jsonBody (some data))
      (spelled : Text.trim data = Base64.encode bytes) (few : bytes.length < 28) :
      OpenOutcome codec input jsonBody pretty (.error (.invalidEnvelope bytes.length))
  | wrongTag {envelope : Envelope} (carried : CarriesEnvelope input jsonBody envelope)
      (wrong : codec.dueTag envelope.nonce [] envelope.ciphertext ≠ envelope.tag) :
      OpenOutcome codec input jsonBody pretty (.error .authenticationFailure)
  | noMessage {plaintext : Bytes} {error : Utf8.Error}
      (carried : CarriesPlaintext codec input jsonBody plaintext)
      (undecodable : Utf8.decode plaintext = .error error) :
      OpenOutcome codec input jsonBody pretty (.error (.utf8 error))
  | noJson {message : String} {error : Json.Error}
      (carried : CarriesMessage codec input jsonBody message) (wanted : pretty = true)
      (unread : Json.parse message = .error error) :
      OpenOutcome codec input jsonBody pretty (.error (.json error))
  | indented {message : String} {value : Json.Value}
      (carried : CarriesMessage codec input jsonBody message) (wanted : pretty = true)
      (read : Json.parse message = .ok value) :
      OpenOutcome codec input jsonBody pretty (.ok (line (Json.pretty value)))
  | plain {message : String} (carried : CarriesMessage codec input jsonBody message)
      (unwanted : pretty = false) :
      OpenOutcome codec input jsonBody pretty (.ok (line message))

section Opening

variable {codec : Codec Aes.Key} {input : Bytes} {jsonBody : Bool} (pretty : Bool)

theorem yields_runOpen_of_no_data (carried : Carries input jsonBody none) :
    Yields (runOpen codec input jsonBody pretty) (.ok "") := by
  cases carried with
  | @body text _ decoded parsed =>
    have opens := (result_findMessage_body codec text).trans
      (Codec.openedBody_of_none parsed)
    exact yields_runOpen_of_found pretty decoded opens

/-- An input opens to what its data open to. -/
theorem yields_runOpen_of_carries {data : String} (carried : Carries input jsonBody (some data)) :
    Yields (runOpen codec input jsonBody pretty) (codec.openedText data >>= shown pretty) := by
  obtain ⟨text, decoded, opens⟩ : ∃ text, Utf8.decode input = .ok text ∧
      (findMessage codec jsonBody text).run.result = (codec.openedText data).map some := by
    cases carried with
    | text decoded => exact ⟨data, decoded, result_findMessage_text codec data⟩
    | @body text _ decoded parsed =>
      exact ⟨text, decoded,
        (result_findMessage_body codec text).trans (Codec.openedBody_of_some parsed)⟩
  cases outcome : codec.openedText data with
  | error error =>
    rw [outcome] at opens
    exact yields_runOpen_of_not_found pretty decoded opens
  | ok message =>
    rw [outcome] at opens
    exact yields_runOpen_of_found pretty decoded opens

theorem yields_runOpen_of_envelope {envelope : Envelope}
    (carried : CarriesEnvelope input jsonBody envelope) :
    Yields (runOpen codec input jsonBody pretty)
      (codec.opened [] envelope.bytes >>= Codec.messageOf >>= shown pretty) := by
  obtain ⟨data, carried, spelled⟩ := carried
  rw [← Codec.openedText_of_base64 spelled]
  exact yields_runOpen_of_carries pretty carried

theorem yields_runOpen_of_plaintext {plaintext : Bytes}
    (carried : CarriesPlaintext codec input jsonBody plaintext) :
    Yields (runOpen codec input jsonBody pretty) (Codec.messageOf plaintext >>= shown pretty) := by
  obtain ⟨envelope, carried, right, rfl⟩ := carried
  have yields : Yields (runOpen codec input jsonBody pretty) _ :=
    yields_runOpen_of_envelope pretty carried
  rwa [Codec.opened_bytes, if_pos right] at yields

theorem yields_runOpen_of_message {message : String}
    (carried : CarriesMessage codec input jsonBody message) :
    Yields (runOpen codec input jsonBody pretty) (shown pretty message) := by
  obtain ⟨plaintext, carried, decoded⟩ := carried
  have yields := yields_runOpen_of_plaintext pretty carried
  rwa [Codec.messageOf, decoded] at yields

/-- The stages in turn: each is passed, or fails with its error. -/
theorem exists_openOutcome (codec : Codec Aes.Key) (input : Bytes) (jsonBody pretty : Bool) :
    ∃ result, OpenOutcome codec input jsonBody pretty result := by
  cases decoded : Utf8.decode input with
  | error error => exact ⟨_, .noText decoded⟩
  | ok text =>
  obtain ⟨error, unread, wanted⟩ | ⟨data?, carried⟩ :
      (∃ error, Body.parse (Text.trim text) = .error error ∧ jsonBody = true) ∨
        ∃ data?, Carries input jsonBody data? := by
    cases jsonBody with
    | false => exact .inr ⟨_, .text decoded⟩
    | true =>
      cases parsed : Body.parse (Text.trim text) with
      | error error => exact .inl ⟨error, rfl, rfl⟩
      | ok body => exact .inr ⟨_, .body decoded parsed⟩
  · exact ⟨_, .noBody decoded wanted unread⟩
  cases data? with
  | none => exact ⟨_, .noData carried⟩
  | some data =>
  cases encoded : Base64.decode (Text.trim data) with
  | none => exact ⟨_, .noBase64 carried (Base64.decode_eq_none_iff.mp encoded)⟩
  | some bytes =>
  have spelled := Base64.decode_eq_some_iff.mp encoded
  by_cases few : bytes.length < 28
  · exact ⟨_, .short carried spelled few⟩
  obtain ⟨envelope, rfl⟩ := Envelope.exists_of_length (Nat.le_of_not_lt few)
  have carriedEnvelope : CarriesEnvelope input jsonBody envelope := ⟨data, carried, spelled⟩
  by_cases right : codec.dueTag envelope.nonce [] envelope.ciphertext = envelope.tag
  · have carriedPlaintext : CarriesPlaintext codec input jsonBody _ :=
      ⟨envelope, carriedEnvelope, right, rfl⟩
    cases told : Utf8.decode (codec.masked envelope.nonce .payload envelope.ciphertext) with
    | error error => exact ⟨_, .noMessage carriedPlaintext told⟩
    | ok message =>
    have carriedMessage : CarriesMessage codec input jsonBody message :=
      ⟨_, carriedPlaintext, told⟩
    cases pretty with
    | false => exact ⟨_, .plain carriedMessage rfl⟩
    | true =>
      cases read : Json.parse message with
      | error error => exact ⟨_, .noJson carriedMessage rfl read⟩
      | ok value => exact ⟨_, .indented carriedMessage rfl read⟩
  · exact ⟨_, .wrongTag carriedEnvelope right⟩

theorem OpenOutcome.yields {codec : Codec Aes.Key} {input : Bytes} {jsonBody pretty : Bool}
    {result : Except Error String} (outcome : OpenOutcome codec input jsonBody pretty result) :
    Yields (runOpen codec input jsonBody pretty) result := by
  cases outcome with
  | noText undecodable =>
    rw [runOpen_of_no_text pretty undecodable]
    exact yields_throw _
  | noBody decoded wanted unread =>
    subst wanted
    have fails := (result_findMessage_body codec _).trans
      (Codec.openedBody_of_error unread)
    exact yields_runOpen_of_not_found pretty decoded fails
  | noData carried => exact yields_runOpen_of_no_data pretty carried
  | noBase64 carried unspelled =>
    have yields : Yields (runOpen codec input jsonBody pretty) _ :=
      yields_runOpen_of_carries pretty carried
    rwa [Codec.openedText_of_no_base64 unspelled] at yields
  | short carried spelled few =>
    have yields : Yields (runOpen codec input jsonBody pretty) _ :=
      yields_runOpen_of_carries pretty carried
    rwa [Codec.openedText_of_base64 spelled, Codec.opened_of_short few] at yields
  | wrongTag carried wrong =>
    have yields : Yields (runOpen codec input jsonBody pretty) _ :=
      yields_runOpen_of_envelope pretty carried
    rwa [Codec.opened_bytes_eq_error_iff.mpr wrong] at yields
  | noMessage carried undecodable =>
    have yields := yields_runOpen_of_plaintext pretty carried
    rwa [Codec.messageOf, undecodable] at yields
  | noJson carried wanted unread =>
    have yields := yields_runOpen_of_message pretty carried
    rwa [shown, if_pos wanted, unread] at yields
  | indented carried wanted read =>
    have yields := yields_runOpen_of_message pretty carried
    rwa [shown, if_pos wanted, read] at yields
  | plain carried unwanted =>
    have yields := yields_runOpen_of_message pretty carried
    rwa [shown, unwanted, if_neg Bool.false_ne_true, ← unwanted] at yields

end Opening

/-! ### Sealing and digests -/

/-- What sealing an input ends in: only a nonce that is given can be wrong. -/
inductive SealOutcome (codec : Codec Aes.Key) (input : Bytes) (jsonBody : Bool) (drawn : Nonce) :
    Option String → Except Error String → Prop where
  | noHex {text : String} (unspelled : ∀ bytes, ¬ Hex.Spelled bytes (Text.trim text).toList) :
      SealOutcome codec input jsonBody drawn (some text) (.error .hex)
  | unfit {text : String} {bytes : Bytes}
      (spelled : Hex.Spelled bytes (Text.trim text).toList) (unfit : bytes.length ≠ 12) :
      SealOutcome codec input jsonBody drawn (some text) (.error (.invalidNonce bytes.length))
  | given {text : String} {nonce : Nonce}
      (spelled : Hex.Spelled nonce.bytes (Text.trim text).toList) :
      SealOutcome codec input jsonBody drawn (some text)
        (.ok (line (envelopeText codec jsonBody nonce input)))
  | drawn : SealOutcome codec input jsonBody drawn none
      (.ok (line (envelopeText codec jsonBody drawn input)))

theorem exists_sealOutcome (codec : Codec Aes.Key) (input : Bytes) (jsonBody : Bool) (drawn : Nonce)
    (nonce? : Option String) : ∃ result, SealOutcome codec input jsonBody drawn nonce? result := by
  cases nonce? with
  | none => exact ⟨_, .drawn⟩
  | some text =>
  cases decoded : Hex.decode (Text.trim text) with
  | none => exact ⟨_, .noHex (Hex.decode_eq_none_iff.mp decoded)⟩
  | some bytes =>
  have spelled := Hex.decode_eq_some_iff.mp decoded
  by_cases fit : bytes.length = 12
  · have same : (Nonce.ofBytes bytes).bytes = bytes := by
      rw [Nonce.bytes_ofBytes (Nat.le_of_eq fit.symm)]
      exact List.take_of_length_le (Nat.le_of_eq fit)
    rw [← same] at spelled
    exact ⟨_, .given spelled⟩
  · exact ⟨_, .unfit spelled fit⟩

theorem SealOutcome.yields {codec : Codec Aes.Key} {input : Bytes} {jsonBody : Bool}
    {drawn : Nonce} {nonce? : Option String} {result : Except Error String}
    (outcome : SealOutcome codec input jsonBody drawn nonce? result) :
    Yields (runSeal codec input nonce? jsonBody drawn) result := by
  have yields := yields_runSeal codec input nonce? jsonBody drawn
  cases outcome with
  | noHex unspelled => rwa [chosenNonce, parseNonce_of_no_hex unspelled] at yields
  | unfit spelled unfit => rwa [chosenNonce, parseNonce_of_unfit spelled unfit] at yields
  | given spelled => rwa [chosenNonce, parseNonce_of_hex spelled] at yields
  | drawn => exact yields

/-- What the digest of an input ends in. -/
inductive DigestOutcome (codec : Codec Aes.Key) (input : String) : Except Error String → Prop where
  | noHex (unspelled : ∀ bytes, ¬ Hex.Spelled bytes (Text.trim input).toList) :
      DigestOutcome codec input (.error .hex)
  | digested {bytes : Bytes} (spelled : Hex.Spelled bytes (Text.trim input).toList) :
      DigestOutcome codec input (.ok (line (Hex.encode (digest codec.subkey [] bytes).bytes)))

theorem exists_digestOutcome (codec : Codec Aes.Key) (input : String) :
    ∃ result, DigestOutcome codec input result := by
  cases decoded : Hex.decode (Text.trim input) with
  | none => exact ⟨_, .noHex (Hex.decode_eq_none_iff.mp decoded)⟩
  | some bytes => exact ⟨_, .digested (Hex.decode_eq_some_iff.mp decoded)⟩

theorem DigestOutcome.yields {codec : Codec Aes.Key} {input : String}
    {result : Except Error String} (outcome : DigestOutcome codec input result) :
    Yields (runDigest codec input) result := by
  cases outcome with
  | noHex unspelled => exact yields_runDigest_of_no_hex unspelled codec
  | digested spelled => exact yields_runDigest_of_hex spelled codec

/-- What an action ends in. Its input is read first. -/
inductive ActionOutcome (codec : Codec Aes.Key) (standardInput : StandardInput) (drawn : Nonce) :
    Action → Except Error String → Prop where
  | unread {action : Action} {reason : String} (reads : action.readsInput = true)
      (unreadable : standardInput = .unreadable reason) :
      ActionOutcome codec standardInput drawn action (.error (.transfer reason))
  | opening {input : String} {bytes : Bytes} {jsonBody pretty : Bool} {result : Except Error String}
      (read : inputBytes input standardInput = .ok bytes)
      (outcome : OpenOutcome codec bytes jsonBody pretty result) :
      ActionOutcome codec standardInput drawn (.openInput input jsonBody pretty) result
  | sealing {input : String} {bytes : Bytes} {nonce? : Option String} {jsonBody : Bool}
      {result : Except Error String} (read : inputBytes input standardInput = .ok bytes)
      (outcome : SealOutcome codec bytes jsonBody drawn nonce? result) :
      ActionOutcome codec standardInput drawn (.sealInput input nonce? jsonBody) result
  | digesting {input : String} {result : Except Error String}
      (outcome : DigestOutcome codec input result) :
      ActionOutcome codec standardInput drawn (.digestInput input) result

/-- An input is read, or it is standard input that cannot be read. -/
theorem exists_inputBytes (input : String) (standardInput : StandardInput) :
    (∃ bytes, inputBytes input standardInput = .ok bytes) ∨
      input = "-" ∧ ∃ reason, standardInput = .unreadable reason := by
  by_cases named : input = "-"
  · subst named
    cases standardInput with
    | bytes bytes => exact .inl ⟨bytes, rfl⟩
    | unreadable reason => exact .inr ⟨rfl, reason, rfl⟩
  · exact .inl ⟨_, inputBytes_of_ne_dash named standardInput⟩

theorem exists_actionOutcome (codec : Codec Aes.Key) (standardInput : StandardInput) (drawn : Nonce)
    (action : Action) : ∃ result, ActionOutcome codec standardInput drawn action result := by
  cases action with
  | openInput input jsonBody pretty =>
    obtain ⟨bytes, read⟩ | ⟨named, reason, unreadable⟩ := exists_inputBytes input standardInput
    · obtain ⟨result, outcome⟩ := exists_openOutcome codec bytes jsonBody pretty
      exact ⟨result, .opening read outcome⟩
    · exact ⟨_, .unread (beq_iff_eq.mpr named) unreadable⟩
  | sealInput input nonce? jsonBody =>
    obtain ⟨bytes, read⟩ | ⟨named, reason, unreadable⟩ := exists_inputBytes input standardInput
    · obtain ⟨result, outcome⟩ := exists_sealOutcome codec bytes jsonBody drawn nonce?
      exact ⟨result, .sealing read outcome⟩
    · exact ⟨_, .unread (beq_iff_eq.mpr named) unreadable⟩
  | digestInput input =>
    obtain ⟨result, outcome⟩ := exists_digestOutcome codec input
    exact ⟨result, .digesting outcome⟩

theorem ActionOutcome.yields {codec : Codec Aes.Key} {standardInput : StandardInput}
    {drawn : Nonce} {action : Action} {result : Except Error String}
    (outcome : ActionOutcome codec standardInput drawn action result) :
    Yields (action.run codec standardInput drawn) result := by
  cases outcome with
  | unread reads unreadable =>
    rw [unreadable, Action.run_of_unreadable reads]
    exact yields_throw _
  | opening read outcome =>
    rw [Action.run_open read]
    exact outcome.yields
  | sealing read outcome =>
    rw [Action.run_seal read]
    exact outcome.yields
  | digesting outcome => exact outcome.yields

/-! ### Runs -/

/-- Why a key text is refused: it spells no bytes in either way, or bytes in a number that no key
has. -/
inductive KeyRefused : Option String → Error → Prop where
  | unspelled {text : String} (noHex : ∀ bytes, ¬ Hex.Spelled bytes (Text.trim text).toList)
      (noBase64 : ∀ bytes, Text.trim text ≠ Base64.encode bytes) :
      KeyRefused (some text) (.other "expect AES key as hex or base64 string")
  | unfit {text : String} {key : Bytes} (reads : keyBytes text = .ok key)
      (unfit : ¬ (key.length = 16 ∨ key.length = 24 ∨ key.length = 32)) :
      KeyRefused (some text) (.invalidKey key.length)

/-- What a request ends in. The key comes before everything else. -/
inductive Outcome (request : Request) (settings : Settings) (standardInput : StandardInput)
    (drawn : Nonce) : Except Error String → Prop where
  | badKey {error : Error} (refused : KeyRefused (request.keyText? settings) error) :
      Outcome request settings standardInput drawn (.error error)
  | acted {codec : Codec Aes.Key} {result : Except Error String}
      (made : codecFor (request.keyText? settings) request.derivedSubkey = .ok codec)
      (outcome : ActionOutcome codec standardInput drawn request.action result) :
      Outcome request settings standardInput drawn result

theorem KeyRefused.codecFor_eq {key? : Option String} {error : Error}
    (refused : KeyRefused key? error) (derivedSubkey : Bool) :
    codecFor key? derivedSubkey = .error error := by
  cases refused with
  | unspelled noHex noBase64 =>
    rw [codecFor, chosenKey, keyBytes_of_no_hex noHex, Base64.decode_eq_none_iff.mpr noBase64]
    rfl
  | @unfit text key reads unfit =>
    have chosen : chosenKey (some text) = .ok key := reads
    rw [codecFor_of_chosen chosen, codecOf_of_unfit unfit]

/-- A key text is refused, or it makes a codec with either subkey. -/
theorem exists_keyRefused_or_codecFor (key? : Option String) (derivedSubkey : Bool) :
    (∃ error, KeyRefused key? error) ∨ ∃ codec, codecFor key? derivedSubkey = .ok codec := by
  cases key? with
  | none =>
    have length : protocolKey.length = 16 ∨ protocolKey.length = 24 ∨ protocolKey.length = 32 :=
      .inr (.inr rfl)
    exact .inr (codecOf_of_fit length derivedSubkey)
  | some text =>
  cases reads : keyBytes text with
  | ok key =>
    have chosen : chosenKey (some text) = .ok key := reads
    by_cases fit : key.length = 16 ∨ key.length = 24 ∨ key.length = 32
    · obtain ⟨codec, made⟩ := codecOf_of_fit fit derivedSubkey
      exact .inr ⟨codec, (codecFor_of_chosen chosen derivedSubkey).trans made⟩
    · exact .inl ⟨_, .unfit reads fit⟩
  | error error =>
    cases noHex : Hex.decode (Text.trim text) with
    | some bytes =>
      rw [keyBytes, noHex] at reads
      cases reads
    | none =>
      cases noBase64 : Base64.decode (Text.trim text) with
      | some bytes =>
        rw [keyBytes, noHex, noBase64] at reads
        cases reads
      | none =>
        exact .inl ⟨_, .unspelled (Hex.decode_eq_none_iff.mp noHex)
          (Base64.decode_eq_none_iff.mp noBase64)⟩

section Runs

variable {request : Request} {settings : Settings} {standardInput : StandardInput} {drawn : Nonce}

theorem exists_outcome (request : Request) (settings : Settings) (standardInput : StandardInput)
    (drawn : Nonce) : ∃ result, Outcome request settings standardInput drawn result := by
  obtain ⟨error, refused⟩ | ⟨codec, made⟩ :=
    exists_keyRefused_or_codecFor (request.keyText? settings) request.derivedSubkey
  · exact ⟨_, .badKey refused⟩
  · obtain ⟨result, outcome⟩ := exists_actionOutcome codec standardInput drawn request.action
    exact ⟨result, .acted made outcome⟩

theorem Outcome.yields {result : Except Error String}
    (outcome : Outcome request settings standardInput drawn result) :
    Yields (request.run settings standardInput drawn) result := by
  cases outcome with
  | badKey refused => exact Request.yields_run_of_error (refused.codecFor_eq _) standardInput drawn
  | acted made outcome => exact (Request.yields_run_iff made).mpr outcome.yields

end Runs

/-- Whether a run ends with a result: with the output of it and no error, or without output and
with the error on the last line behind the reports. -/
def Exit.EndsWith (exit : Exit) : Except Error String → Prop
  | .ok output => exit.status = 0 ∧ exit.output = output
  | .error error =>
    exit.status = 1 ∧ exit.output = "" ∧
      ∃ reports, exit.errors = reports ++ line s!"Error: {error.message}"

theorem endsWith_finish {attempt : Attempt Unit} {result : Except Error String}
    (yields : Yields attempt result) (filter : Filter) :
    (finish filter attempt.run).EndsWith result := by
  cases yields with
  | output succeeds prints =>
    rw [finish, succeeds]
    exact ⟨rfl, prints⟩
  | error fails silent =>
    rw [finish, fails, silent]
    exact ⟨rfl, rfl, _, rfl⟩

/-- Where the filter is read, a run ends with what its request yields. -/
theorem endsWith_run {arguments : List String} {request : Request} {settings : Settings}
    {standardInput : StandardInput} {drawn : Nonce} {result : Except Error String}
    (parsed : Request.parse arguments = .ok request) (calm : ¬ settings.Crashes)
    (yields : Yields (request.run settings standardInput drawn) result) :
    (run arguments settings standardInput drawn).EndsWith result := by
  obtain ⟨filter, read⟩ := request.exists_filter calm
  rw [run_of_parse parsed standardInput drawn read]
  exact endsWith_finish yields filter

/-- A result that is not empty is followed by a newline, and only opening a body without data
yields an empty one. -/
theorem Outcome.complete {request : Request} {settings : Settings} {standardInput : StandardInput}
    {drawn : Nonce} {output : String}
    (outcome : Outcome request settings standardInput drawn (.ok output)) :
    (∃ text, output = line text) ∨
      output = "" ∧ ∃ input bytes pretty, request.action = .openInput input true pretty ∧
        inputBytes input standardInput = .ok bytes ∧ Carries bytes true none := by
  obtain _ | ⟨_, outcome⟩ := outcome
  generalize request.action = action at outcome
  cases outcome with
  | @opening input bytes jsonBody pretty _ read outcome =>
    cases outcome with
    | noData carried =>
      have wanted : jsonBody = true := by
        cases carried
        rfl
      subst wanted
      exact .inr ⟨rfl, input, bytes, pretty, rfl, read, carried⟩
    | indented => exact .inl ⟨_, rfl⟩
    | plain => exact .inl ⟨_, rfl⟩
  | sealing read outcome => cases outcome <;> exact .inl ⟨_, rfl⟩
  | digesting outcome =>
    cases outcome
    exact .inl ⟨_, rfl⟩

/-- Standard input counts only where a run gets to it. -/
theorem run_congr_of_not_readsInput {arguments : List String} {settings : Settings}
    (ignored : readsInput arguments settings = false) (standardInput other : StandardInput)
    (drawn : Nonce) :
    run arguments settings other drawn = run arguments settings standardInput drawn := by
  rw [readsInput] at ignored
  rw [run, run]
  cases parsed : Request.parse arguments with
  | error stop => rfl
  | ok request =>
    rw [parsed] at ignored
    cases read : request.filter? settings with
    | none => simp only [read]
    | some filter =>
      simp only [read, result_loadCodec_eq, Option.isSome_some, Bool.true_and] at ignored ⊢
      rw [Request.run_congr ?_ other standardInput drawn]
      cases made : codecFor (request.keyText? settings) request.derivedSubkey with
      | error error => exact .inr ⟨error, rfl⟩
      | ok codec =>
        rw [made] at ignored
        exact .inl ((Bool.and_true _).symm.trans ignored)

/-- Arguments that make a request lead to exactly one outcome, and the run ends with it: with
status 0 and the complete result, or with status 1, no output and the error on the last line. Only
where the filter for reports cannot be read without a crash, the crash takes its place. The result
ends in a newline or is empty, and empty only for a body without data. A key that is refused decides
alone, whatever the command, the input, the nonce and the standard input are. Behind it comes
standard input that cannot be read, ahead of a nonce. Behind that, opening ends in the outcome of its
stages. Where the run does not get to standard input, it ends alike with any. -/
theorem run_ends_with_outcome {arguments : List String} {request : Request}
    (parsed : Request.parse arguments = .ok request) (settings : Settings)
    (standardInput : StandardInput) (drawn : Nonce) :
    let exit := run arguments settings standardInput drawn
    let ends := Outcome request settings standardInput drawn
    (∃! result, ends result) ∧
      (settings.Crashes → exit = .crashed) ∧
      (¬ settings.Crashes →
        (∀ result, ends result → exit.EndsWith result) ∧ (exit.status = 0 ∨ exit.status = 1)) ∧
      (exit.status = 1 → exit.output = "" ∧ ∃ error reports, ends (.error error) ∧
        exit.errors = reports ++ line s!"Error: {error.message}") ∧
      (exit.status = 0 → ends (.ok exit.output) ∧
        ((∃ text, exit.output = line text) ∨
          exit.output = "" ∧ ∃ input bytes pretty, request.action = .openInput input true pretty ∧
            inputBytes input standardInput = .ok bytes ∧ Carries bytes true none)) ∧
      (¬ settings.Crashes → ∀ error, KeyRefused (request.keyText? settings) error →
        exit.EndsWith (.error error)) ∧
      (¬ settings.Crashes → ∀ codec,
        codecFor (request.keyText? settings) request.derivedSubkey = .ok codec →
        (∀ reason, request.action.readsInput = true → standardInput = .unreadable reason →
          exit.EndsWith (.error (.transfer reason))) ∧
        ∀ input bytes jsonBody pretty, request.action = .openInput input jsonBody pretty →
          inputBytes input standardInput = .ok bytes →
          ∀ result, OpenOutcome codec bytes jsonBody pretty result → exit.EndsWith result) ∧
      (readsInput arguments settings = false →
        ∀ other, run arguments settings other drawn = exit) := by
  intro exit ends
  obtain ⟨result, outcome⟩ := exists_outcome request settings standardInput drawn
  have only (other : Except Error String) (second : ends other) : other = result :=
    outcome.yields.unique second.yields
  have endsWith (calm : ¬ settings.Crashes) (other : Except Error String) (second : ends other) :
      exit.EndsWith other := endsWith_run parsed calm second.yields
  have crashed (crashes : settings.Crashes) : exit = .crashed :=
    run_of_crashes parsed standardInput drawn crashes
  -- A status other than that of a crash tells that there is none.
  have shown (ended : exit.status ≠ 101) : exit.EndsWith result :=
    endsWith (fun crashes => ended (congrArg Exit.status (crashed crashes))) result outcome
  refine ⟨⟨result, outcome, only⟩, crashed, fun calm => ⟨endsWith calm, ?_⟩, fun failed => ?_,
    fun succeeded => ?_, fun calm error refused => endsWith calm _ (.badKey refused),
    fun calm codec made => ⟨?_, ?_⟩, ?_⟩
  · have ending := endsWith calm result outcome
    cases result with
    | error error => exact .inr ending.1
    | ok output => exact .inl ending.1
  · have ending := shown (by rw [failed]; decide)
    cases result with
    | error error =>
      obtain ⟨_, silent, reports, errors⟩ := ending
      exact ⟨silent, error, reports, outcome, errors⟩
    | ok output => exact absurd (ending.1.symm.trans failed) (by decide)
  · have ending := shown (by rw [succeeded]; decide)
    cases result with
    | error error => exact absurd (ending.1.symm.trans succeeded) (by decide)
    | ok output =>
      obtain ⟨_, rfl⟩ := ending
      exact ⟨outcome, outcome.complete⟩
  · intro reason reads unreadable
    exact endsWith calm _ (.acted made (.unread reads unreadable))
  · intro input bytes jsonBody pretty action read other opens
    refine endsWith calm other (.acted made ?_)
    rw [action]
    exact .opening read opens
  · intro ignored other
    exact run_congr_of_not_readsInput ignored standardInput other drawn

/-- A key text that spells no bytes before a command with other faults, a body without data, an
empty standard input, and one that cannot be read before a nonce that is none. -/
theorem run_ends_with_outcome_each_kind :
    let body := "\x7b\"data\":null\x7d"
    let refused : Request := ⟨some "!!", false, false, .sealInput "-" (some "00") false⟩
    let empty : Request := ⟨none, false, false, .openInput body true true⟩
    let short : Request := ⟨none, true, false, .openInput "-" false false⟩
    let unread : Request := ⟨none, false, false, .sealInput "-" (some "00") false⟩
    let reason := "Is a directory (os error 21)"
    (Request.parse ["-k", "!!", "seal", "--nonce=00", "-"] = .ok refused ∧
      (run ["-k", "!!", "seal", "--nonce=00", "-"] {} (.bytes [0xFF]) 7).EndsWith
        (.error (.other "expect AES key as hex or base64 string"))) ∧
      (Request.parse ["open", "-jp", body] = .ok empty ∧
        (run ["open", "-jp", body] {} (.bytes []) 7).EndsWith (.ok "")) ∧
      (Request.parse ["open", "-", "--derived-subkey"] = .ok short ∧
        (run ["open", "-", "--derived-subkey"] {} (.bytes []) 7).EndsWith
          (.error (.invalidEnvelope 0))) ∧
      Request.parse ["seal", "--nonce=00", "-"] = .ok unread ∧
        (run ["seal", "--nonce=00", "-"] {} (.unreadable reason) 7).EndsWith
          (.error (.transfer reason)) := by
  intro body refused empty short unread reason
  have parsedRefused : Request.parse ["-k", "!!", "seal", "--nonce=00", "-"] = .ok refused := by
    decide
  have parsedEmpty : Request.parse ["open", "-jp", body] = .ok empty := by decide
  have parsedShort : Request.parse ["open", "-", "--derived-subkey"] = .ok short := by decide
  have parsedUnread : Request.parse ["seal", "--nonce=00", "-"] = .ok unread := by decide
  have calm : ¬ Settings.Crashes {} := Settings.not_crashes_of_none rfl
  have noHex : Hex.decode (Text.trim "!!") = none := by decide
  have noBase64 : Base64.decode (Text.trim "!!") = none := by decide
  have keyRefused : KeyRefused (some "!!") (.other "expect AES key as hex or base64 string") :=
    .unspelled (Hex.decode_eq_none_iff.mp noHex) (Base64.decode_eq_none_iff.mp noBase64)
  have length : protocolKey.length = 16 ∨ protocolKey.length = 24 ∨ protocolKey.length = 32 :=
    .inr (.inr rfl)
  obtain ⟨codec, made⟩ := codecOf_of_fit length false
  obtain ⟨derived, madeDerived⟩ := codecOf_of_fit length true
  have trimmed : Text.trim body = Body.write ⟨none⟩ := by decide
  have bodyRead : inputBytes body (.bytes []) = .ok (Utf8.encode body) :=
    inputBytes_of_ne_dash (by decide) _
  have carriedBody : Carries (Utf8.encode body) true none :=
    .body (Utf8.decode_eq_ok_iff.mpr rfl) (trimmed ▸ Body.parse_write ⟨none⟩)
  have decodedNothing : Utf8.decode [] = .ok "" := by decide
  have spelledNothing : Text.trim "" = Base64.encode [] := by decide
  obtain ⟨_, _, _, _, _, refuses, _⟩ := run_ends_with_outcome parsedRefused {} (.bytes [0xFF]) 7
  obtain ⟨_, _, _, _, _, _, opens, _⟩ := run_ends_with_outcome parsedEmpty {} (.bytes []) 7
  obtain ⟨_, _, _, _, _, _, opensShort, _⟩ := run_ends_with_outcome parsedShort {} (.bytes []) 7
  obtain ⟨_, _, _, _, _, _, fails, _⟩ :=
    run_ends_with_outcome parsedUnread {} (.unreadable reason) 7
  exact ⟨⟨parsedRefused, refuses calm _ keyRefused⟩,
    ⟨parsedEmpty,
      (opens calm codec made).2 body _ true true rfl bodyRead _ (.noData carriedBody)⟩,
    ⟨parsedShort, (opensShort calm derived madeDerived).2 "-" [] false false rfl rfl _
      (.short (.text decodedNothing) spelledNothing (by decide))⟩,
    parsedUnread, (fails calm codec made).1 reason rfl rfl⟩

end SealedEnvelope.CommandLine
