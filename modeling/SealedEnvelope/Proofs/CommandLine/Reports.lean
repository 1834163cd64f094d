import SealedEnvelope.Proofs.Codec.Reports
import SealedEnvelope.Proofs.CommandLine.RoundTrip
import SealedEnvelope.Proofs.CommandLine.Verbose

/-!
What a run reports, and what reports do to a run: nothing.

The status and the output of a run do not depend on which reports are shown, if only the filter for
them can be read without a crash. The reports themselves are determined by the length of the key,
the choice of the subkey, the length of the plaintext or of the envelope, and the way the run ends.
-/

namespace SealedEnvelope.CommandLine

open Json

/-! ### The reports of a run -/

/-- What is reported of a body behind its envelope. -/
def bodyReports (jsonBody : Bool) : Except Error String → List Event
  | .ok _ => []
  | .error error => if jsonBody then [.undecryptableBody error] else []

section Opening

variable {codec : Codec Aes.Key} {input : Bytes} {jsonBody : Bool} {envelope : Envelope}

theorem events_runOpen_of_found (pretty : Bool) {text message : String}
    (decoded : Utf8.decode input = .ok text)
    (found : (findMessage codec jsonBody text).run.result = .ok (some message)) :
    (runOpen codec input jsonBody pretty).run.events =
      (findMessage codec jsonBody text).run.events := by
  rw [runOpen_of_text pretty decoded, ExceptT.run_bind, Traced.events_bind, found]
  simp only [events_showFound_some, List.append_nil]

theorem events_runOpen_of_not_found (pretty : Bool) {text : String} {error : Error}
    (decoded : Utf8.decode input = .ok text)
    (failed : (findMessage codec jsonBody text).run.result = .error error) :
    (runOpen codec input jsonBody pretty).run.events =
      (findMessage codec jsonBody text).run.events := by
  rw [runOpen_of_text pretty decoded, ExceptT.run_bind, Traced.events_bind, failed]
  exact List.append_nil _

/-- What an envelope opens to as a text. -/
def openedMessage (codec : Codec Aes.Key) (envelope : Envelope) : Except Error String :=
  codec.opened [] envelope.bytes >>= Codec.messageOf

theorem findMessage_of_carries (codec : Codec Aes.Key)
    (carried : CarriesEnvelope input jsonBody envelope) :
    ∃ text, Utf8.decode input = .ok text ∧
      (findMessage codec jsonBody text).run.result = (openedMessage codec envelope).map some ∧
      (findMessage codec jsonBody text).run.events =
        codec.openReports [] envelope ++ bodyReports jsonBody (openedMessage codec envelope) := by
  obtain ⟨data, carried, spelled⟩ := carried
  have opens : codec.openedText data = openedMessage codec envelope :=
    Codec.openedText_of_base64 spelled
  cases carried with
  | text decoded =>
    refine ⟨data, decoded, ?_, ?_⟩
    · rw [result_findMessage_text, opens]
    · have silent : bodyReports false (openedMessage codec envelope) = [] := by
        cases openedMessage codec envelope <;> rfl
      rw [findMessage, if_neg Bool.false_ne_true, Traced.events_run_map,
        codec.events_openText spelled, silent, List.append_nil]
  | @body text _ decoded parsed =>
    refine ⟨text, decoded, ?_, ?_⟩
    · rw [result_findMessage_body, Codec.openedBody_of_some parsed, opens]
    · rw [findMessage, if_pos rfl, codec.events_openBody parsed spelled, opens]
      cases openedMessage codec envelope with
      | ok message => exact (List.append_nil _).symm
      | error error => rfl

theorem events_runOpen_of_envelope (pretty : Bool)
    (carried : CarriesEnvelope input jsonBody envelope) :
    (runOpen codec input jsonBody pretty).run.events =
      codec.openReports [] envelope ++ bodyReports jsonBody (openedMessage codec envelope) := by
  obtain ⟨text, decoded, result, events⟩ := findMessage_of_carries codec carried
  rw [← events]
  cases opens : openedMessage codec envelope with
  | error error =>
    rw [opens] at result
    exact events_runOpen_of_not_found pretty decoded result
  | ok message =>
    rw [opens] at result
    exact events_runOpen_of_found pretty decoded result

theorem events_runOpen_of_ok {pretty : Bool}
    (carried : CarriesEnvelope input jsonBody envelope)
    (opens : (runOpen codec input jsonBody pretty).run.result = .ok ()) :
    (runOpen codec input jsonBody pretty).run.events =
      let length := envelope.ciphertext.length
      [.openedEnvelope length ((length + 15) / 16)] := by
  obtain ⟨output, shows⟩ := (yields_runOpen_of_envelope pretty carried).exists_output opens
  obtain ⟨message, told, _⟩ := bind_eq_ok_iff.mp shows
  obtain ⟨plaintext, opened, _⟩ := bind_eq_ok_iff.mp told
  have right : codec.dueTag envelope.nonce [] envelope.ciphertext = envelope.tag :=
    Codec.isOk_opened_bytes_iff.mp (by rw [opened]; rfl)
  rw [events_runOpen_of_envelope pretty carried, openedMessage, told, Codec.openReports,
    if_pos right]
  rfl

theorem messageOf_bind_shown_ne (plaintext : Bytes) (pretty : Bool) :
    Codec.messageOf plaintext >>= shown pretty ≠ .error .authenticationFailure := by
  intro fails
  rw [Codec.messageOf] at fails
  generalize Utf8.decode plaintext = told at fails
  cases told with
  | error error => cases fails
  | ok message =>
    simp only [Except.mapError, bind, Except.bind, shown] at fails
    cases pretty with
    | false => cases fails
    | true =>
      generalize Json.parse message = read at fails
      cases read with
      | error error => cases fails
      | ok value => cases fails

/-- Only a wrong tag leads to this error. -/
theorem openedMessage_of_authenticationFailure {pretty : Bool}
    (carried : CarriesEnvelope input jsonBody envelope)
    (fails : (runOpen codec input jsonBody pretty).run.result = .error .authenticationFailure) :
    codec.dueTag envelope.nonce [] envelope.ciphertext ≠ envelope.tag ∧
      openedMessage codec envelope = .error .authenticationFailure := by
  by_cases right : codec.dueTag envelope.nonce [] envelope.ciphertext = envelope.tag
  · have yields := yields_runOpen_of_plaintext pretty ⟨envelope, carried, right, rfl⟩
    exact absurd (yields.eq_error fails) (messageOf_bind_shown_ne _ pretty)
  · refine ⟨right, ?_⟩
    rw [openedMessage, Codec.opened_bytes_eq_error_iff.mpr right]
    rfl

theorem events_runOpen_of_authenticationFailure {pretty : Bool}
    (carried : CarriesEnvelope input jsonBody envelope)
    (fails : (runOpen codec input jsonBody pretty).run.result = .error .authenticationFailure) :
    (runOpen codec input jsonBody pretty).run.events =
      .failedAuthentication envelope.ciphertext.length ::
        if jsonBody then [.undecryptableBody .authenticationFailure] else [] := by
  obtain ⟨wrong, told⟩ := openedMessage_of_authenticationFailure carried fails
  rw [events_runOpen_of_envelope pretty carried, told, Codec.openReports, if_neg wrong]
  rfl

end Opening

theorem events_runSeal {drawn nonce : Nonce} {nonce? : Option String}
    (chosen : chosenNonce drawn nonce? = .ok nonce) (codec : Codec Aes.Key) (input : Bytes)
    (jsonBody : Bool) :
    (runSeal codec input nonce? jsonBody drawn).run.events =
      [.sealedEnvelope input.length ((input.length + 15) / 16)] := by
  have written : (sealInto codec jsonBody nonce input).events =
      [.sealedEnvelope input.length ((input.length + 15) / 16)] := by
    cases jsonBody with
    | false => rw [sealInto, if_neg Bool.false_ne_true, Codec.events_sealText]
    | true => rw [sealInto, if_pos rfl, Codec.events_sealBody]
  rw [runSeal_of_ok chosen, Traced.run_liftM_bind, Traced.events_bind, written]
  rfl

section Runs

variable {request : Request} {settings : Settings} {key : Bytes} {standardInput : StandardInput}
  {drawn : Nonce} {result : Except Error String}

/-- The key is reported first, by its length. -/
theorem Request.events_run {codec : Codec Aes.Key}
    (chosen : chosenKey (request.keyText? settings) = .ok key)
    (made : codecOf request.derivedSubkey key = .ok codec) :
    (request.run settings standardInput drawn).run.events =
      .usingKey (8 * key.length) request.derivedSubkey ::
        (request.action.run codec standardInput drawn).run.events := by
  rw [Request.run, ExceptT.run_bind, Traced.events_bind, loadCodec_of_ok chosen, made]
  rfl

/-- A run that does not end with the length of the key has a codec. -/
theorem Request.exists_codec (chosen : chosenKey (request.keyText? settings) = .ok key)
    (passed : (request.run settings standardInput drawn).run.result ≠
      .error (.invalidKey key.length)) :
    ∃ codec, codecOf request.derivedSubkey key = .ok codec ∧
      (request.run settings standardInput drawn).run.result =
        (request.action.run codec standardInput drawn).run.result := by
  have made := codecFor_of_chosen chosen request.derivedSubkey
  by_cases fit : key.length = 16 ∨ key.length = 24 ∨ key.length = 32
  · obtain ⟨codec, ok⟩ := codecOf_of_fit fit request.derivedSubkey
    refine ⟨codec, ok, ?_⟩
    rw [Request.run, ExceptT.run_bind, Traced.result_bind, result_loadCodec_eq, made, ok]
  · have refused := made.trans (codecOf_of_unfit fit request.derivedSubkey)
    exact absurd (Request.yields_run_of_error refused standardInput drawn).result_eq passed

theorem Request.events_run_seal {input : String} {bytes : Bytes} {nonce? : Option String}
    {jsonBody : Bool} (chosen : chosenKey (request.keyText? settings) = .ok key)
    (action : request.action = .sealInput input nonce? jsonBody)
    (read : inputBytes input standardInput = .ok bytes)
    (succeeds : (request.run settings standardInput drawn).run.result = .ok ()) :
    (request.run settings standardInput drawn).run.events =
      [.usingKey (8 * key.length) request.derivedSubkey,
        .sealedEnvelope bytes.length ((bytes.length + 15) / 16)] := by
  obtain ⟨codec, made, result⟩ := Request.exists_codec chosen (by rw [succeeds]; nofun)
  have yields := yields_runSeal codec bytes nonce? jsonBody drawn
  rw [succeeds, action, Action.run_seal read, yields.result_eq] at result
  rw [Request.events_run chosen made, action, Action.run_seal read]
  cases nonceChosen : chosenNonce drawn nonce? with
  | error error =>
    rw [nonceChosen] at result
    cases result
  | ok nonce => rw [events_runSeal nonceChosen]

section Opening

variable {input : String} {bytes : Bytes} {jsonBody pretty : Bool} {envelope : Envelope}

theorem Request.events_run_open_of_ok
    (chosen : chosenKey (request.keyText? settings) = .ok key)
    (action : request.action = .openInput input jsonBody pretty)
    (read : inputBytes input standardInput = .ok bytes)
    (carried : CarriesEnvelope bytes jsonBody envelope)
    (succeeds : (request.run settings standardInput drawn).run.result = .ok ()) :
    (request.run settings standardInput drawn).run.events =
      let length := envelope.ciphertext.length
      [.usingKey (8 * key.length) request.derivedSubkey,
        .openedEnvelope length ((length + 15) / 16)] := by
  obtain ⟨codec, made, result⟩ := Request.exists_codec chosen (by rw [succeeds]; nofun)
  rw [succeeds, action, Action.run_open read] at result
  rw [Request.events_run chosen made, action, Action.run_open read,
    events_runOpen_of_ok carried result.symm]

theorem Request.events_run_open_of_authenticationFailure
    (chosen : chosenKey (request.keyText? settings) = .ok key)
    (action : request.action = .openInput input jsonBody pretty)
    (read : inputBytes input standardInput = .ok bytes)
    (carried : CarriesEnvelope bytes jsonBody envelope)
    (fails : (request.run settings standardInput drawn).run.result =
      .error .authenticationFailure) :
    (request.run settings standardInput drawn).run.events =
      .usingKey (8 * key.length) request.derivedSubkey ::
        .failedAuthentication envelope.ciphertext.length ::
          if jsonBody then [.undecryptableBody .authenticationFailure] else [] := by
  obtain ⟨codec, made, result⟩ := Request.exists_codec chosen (by rw [fails]; nofun)
  rw [fails, action, Action.run_open read] at result
  rw [Request.events_run chosen made, action, Action.run_open read,
    events_runOpen_of_authenticationFailure carried result.symm]

end Opening

end Runs

/-! ### Reports change nothing -/

/-- Whether runs end with the same status and the same output. -/
def Exit.SameResult (one other : Exit) : Prop :=
  one.status = other.status ∧ one.output = other.output

theorem sameResult_finish (filter other : Filter) (attempt : Traced (Except Error Unit)) :
    (finish filter attempt).SameResult (finish other attempt) := by
  rw [finish, finish]
  cases attempt.result with
  | error error => exact ⟨rfl, rfl⟩
  | ok => exact ⟨rfl, rfl⟩

theorem sameResult_run_filter {arguments : List String} {settings : Settings}
    {filter? : Option String}
    (calm : (∃ request, Request.parse arguments = .ok request) →
      ¬ settings.Crashes ∧ ¬ Settings.Crashes { settings with filter? })
    (standardInput : StandardInput) (drawn : Nonce) :
    (run arguments { settings with filter? } standardInput drawn).SameResult
      (run arguments settings standardInput drawn) := by
  cases parsed : Request.parse arguments with
  | ok request =>
    obtain ⟨calmBefore, calmBehind⟩ := calm ⟨request, parsed⟩
    obtain ⟨filter, read⟩ := request.exists_filter calmBefore
    obtain ⟨other, readOther⟩ := request.exists_filter calmBehind
    rw [run_of_parse parsed standardInput drawn read,
      run_of_parse parsed standardInput drawn readOther]
    exact sameResult_finish other filter _
  | error stop =>
    rw [run, run, parsed]
    cases stop <;> exact ⟨rfl, rfl⟩

theorem sameResult_run_verbose {arguments louder : List String} {request : Request}
    {verbose : Bool} (parsed : Request.parse arguments = .ok request)
    (parsedLouder : Request.parse louder = .ok { request with verbose }) (settings : Settings)
    (standardInput : StandardInput) (drawn : Nonce) :
    (run louder settings standardInput drawn).SameResult
      (run arguments settings standardInput drawn) := by
  by_cases crashes : settings.Crashes
  · rw [run_of_crashes parsed standardInput drawn crashes,
      run_of_crashes parsedLouder standardInput drawn crashes]
    exact ⟨rfl, rfl⟩
  · obtain ⟨filter, read⟩ := request.exists_filter crashes
    obtain ⟨other, readOther⟩ := Request.exists_filter { request with verbose } crashes
    rw [run_of_parse parsed standardInput drawn read,
      run_of_parse parsedLouder standardInput drawn readOther]
    exact sameResult_finish other filter _

/-- An option for details before all arguments changes no result, also of the arguments that make no
request, unless it is given a second time. -/
theorem sameResult_run_cons {flag : String} (asksFor : flag ∈ verboseArguments)
    {arguments : List String}
    (once : Request.parse (flag :: arguments) ≠ .error (.usage (.repeatedOption .verbose)))
    (settings : Settings) (standardInput : StandardInput) (drawn : Nonce) :
    (run (flag :: arguments) settings standardInput drawn).SameResult
      (run arguments settings standardInput drawn) := by
  have heard := heard_parse asksFor arguments
  generalize parsed : Request.parse arguments = quiet at heard
  generalize parsedFlag : Request.parse (flag :: arguments) = loud at heard once
  cases heard with
  | repeated => exact absurd rfl once
  | stopped stop =>
    rw [run, run, parsed, parsedFlag]
    exact ⟨rfl, rfl⟩
  | kept more =>
    subst more
    exact sameResult_run_verbose parsed parsedFlag settings standardInput drawn

/-! ### Reports tell lengths only -/

/-- Whether two requests have the same options and settings and keys of one length. Their keys,
nonces and inputs may be any. -/
structure Request.Alike (one other : Request) (settings surroundings : Settings) : Prop where
  keys : ∃ key key', chosenKey (one.keyText? settings) = .ok key ∧
    chosenKey (other.keyText? surroundings) = .ok key' ∧ key.length = key'.length
  derivedSubkey : one.derivedSubkey = other.derivedSubkey
  verbose : one.verbose = other.verbose
  filter? : settings.filter? = surroundings.filter?

section Alike

variable {arguments arguments' : List String} {one other : Request}
  {settings surroundings : Settings} {standardInput standardInput' : StandardInput}
  {drawn drawn' : Nonce}

theorem Request.Alike.filter?_eq (alike : Request.Alike one other settings surroundings) :
    one.filter? settings = other.filter? surroundings := by
  rw [Request.filter?, Request.filter?, alike.verbose, alike.filter?]

theorem succeeds_of_status {filter : Filter} {attempt : Traced (Except Error Unit)}
    (succeeds : (finish filter attempt).status = 0) : attempt.result = .ok () := by
  cases ends : attempt.result with
  | ok => rfl
  | error error =>
    rw [finish, ends] at succeeds
    cases succeeds

/-- Runs that succeed show what they report and nothing else. -/
theorem errors_finish_of_ok {filter : Filter} {attempt : Traced (Except Error Unit)}
    (succeeds : attempt.result = .ok ()) :
    (finish filter attempt).errors = filter.render attempt.events := by
  rw [finish, succeeds]

theorem errors_finish_of_error {filter : Filter} {attempt : Traced (Except Error Unit)}
    {error : Error} (fails : attempt.result = .error error) :
    (finish filter attempt).errors =
      filter.render attempt.events ++ line s!"Error: {error.message}" := by
  rw [finish, fails]

/-- Alike runs crash both, or both read the same filter. -/
theorem crashed_or_finished_of_alike (alike : Request.Alike one other settings surroundings)
    (parsed : Request.parse arguments = .ok one) (parsed' : Request.parse arguments' = .ok other)
    (standardInput standardInput' : StandardInput) (drawn drawn' : Nonce) :
    (run arguments settings standardInput drawn = .crashed ∧
      run arguments' surroundings standardInput' drawn' = .crashed) ∨
    ∃ filter,
      run arguments settings standardInput drawn =
        finish filter (one.run settings standardInput drawn).run ∧
      run arguments' surroundings standardInput' drawn' =
        finish filter (other.run surroundings standardInput' drawn').run := by
  have same := alike.filter?_eq
  cases read : one.filter? settings with
  | none =>
    have readOther := same.symm.trans read
    exact .inl ⟨run_of_crashes parsed _ _ (one.filter?_eq_none_iff.mp read),
      run_of_crashes parsed' _ _ (other.filter?_eq_none_iff.mp readOther)⟩
  | some filter =>
    exact .inr ⟨filter, run_of_parse parsed _ _ read,
      run_of_parse parsed' _ _ (same.symm.trans read)⟩

theorem errors_eq_of_seal {input input' : String} {bytes bytes' : Bytes}
    {nonce? nonce?' : Option String} {jsonBody : Bool}
    (parsed : Request.parse arguments = .ok one) (parsed' : Request.parse arguments' = .ok other)
    (alike : Request.Alike one other settings surroundings)
    (action : one.action = .sealInput input nonce? jsonBody)
    (action' : other.action = .sealInput input' nonce?' jsonBody)
    (read : inputBytes input standardInput = .ok bytes)
    (read' : inputBytes input' standardInput' = .ok bytes')
    (sameLength : bytes.length = bytes'.length)
    (succeeds : (run arguments settings standardInput drawn).status = 0)
    (succeeds' : (run arguments' surroundings standardInput' drawn').status = 0) :
    (run arguments settings standardInput drawn).errors =
      (run arguments' surroundings standardInput' drawn').errors := by
  obtain ⟨key, key', chosen, chosen', keyLength⟩ := alike.keys
  obtain ⟨crashed, crashed'⟩ | ⟨filter, ends, ends'⟩ :=
    crashed_or_finished_of_alike alike parsed parsed' standardInput standardInput' drawn drawn'
  · rw [crashed, crashed']
  · rw [ends] at succeeds ⊢
    rw [ends'] at succeeds' ⊢
    have result := succeeds_of_status succeeds
    have result' := succeeds_of_status succeeds'
    rw [errors_finish_of_ok result, errors_finish_of_ok result',
      Request.events_run_seal chosen action read result,
      Request.events_run_seal chosen' action' read' result', keyLength, sameLength,
      alike.derivedSubkey]

variable {input input' : String} {bytes bytes' : Bytes} {jsonBody pretty : Bool}
  {envelope envelope' : Envelope}

theorem errors_eq_of_open (parsed : Request.parse arguments = .ok one)
    (parsed' : Request.parse arguments' = .ok other)
    (alike : Request.Alike one other settings surroundings)
    (action : one.action = .openInput input jsonBody pretty)
    (action' : other.action = .openInput input' jsonBody pretty)
    (read : inputBytes input standardInput = .ok bytes)
    (read' : inputBytes input' standardInput' = .ok bytes')
    (carried : CarriesEnvelope bytes jsonBody envelope)
    (carried' : CarriesEnvelope bytes' jsonBody envelope')
    (sameLength : envelope.bytes.length = envelope'.bytes.length)
    (sameEnd : ((run arguments settings standardInput drawn).status = 0 ∧
        (run arguments' surroundings standardInput' drawn').status = 0) ∨
      (Outcome one settings standardInput drawn (.error .authenticationFailure) ∧
        Outcome other surroundings standardInput' drawn' (.error .authenticationFailure))) :
    (run arguments settings standardInput drawn).errors =
      (run arguments' surroundings standardInput' drawn').errors := by
  obtain ⟨key, key', chosen, chosen', keyLength⟩ := alike.keys
  have ciphertextLength : envelope.ciphertext.length = envelope'.ciphertext.length := by
    rw [Envelope.length_bytes, Envelope.length_bytes, Envelope.size, Envelope.size] at sameLength
    omega
  obtain ⟨crashed, crashed'⟩ | ⟨filter, ends, ends'⟩ :=
    crashed_or_finished_of_alike alike parsed parsed' standardInput standardInput' drawn drawn'
  · rw [crashed, crashed']
  rw [ends, ends'] at sameEnd ⊢
  rcases sameEnd with ⟨succeeds, succeeds'⟩ | ⟨fails, fails'⟩
  · have result := succeeds_of_status succeeds
    have result' := succeeds_of_status succeeds'
    rw [errors_finish_of_ok result, errors_finish_of_ok result',
      Request.events_run_open_of_ok chosen action read carried result,
      Request.events_run_open_of_ok chosen' action' read' carried' result', keyLength,
      ciphertextLength, alike.derivedSubkey]
  · have result := fails.yields.result_eq
    have result' := fails'.yields.result_eq
    rw [errors_finish_of_error result, errors_finish_of_error result',
      Request.events_run_open_of_authenticationFailure chosen action read carried result,
      Request.events_run_open_of_authenticationFailure chosen' action' read' carried' result',
      keyLength, ciphertextLength, alike.derivedSubkey]

end Alike

/-- Reports change no result and tell no secret. Whatever filter is set, and whether details are
asked for, the status and the output of a run are the same. The only filters that make a difference
are those that cannot be read without a crash, which ends every request alike, and no filter in ASCII
is one of them. To ask for details, an argument may be put before all others if it is not there yet,
and wherever else it is put, the request stays the same but for it. When two runs differ in nothing
but the bytes of the key, the nonce and the plaintext, and both seal, or both open with success, or
both find a wrong tag, what they report is the same with every filter. -/
theorem reports_change_nothing_and_tell_lengths :
    (∀ arguments settings filter?,
      ((∃ request, Request.parse arguments = .ok request) →
        ¬ settings.Crashes ∧ ¬ Settings.Crashes { settings with filter? }) →
      ∀ standardInput drawn,
        (run arguments { settings with filter? } standardInput drawn).SameResult
          (run arguments settings standardInput drawn)) ∧
    (∀ arguments request, Request.parse arguments = .ok request →
      ∀ settings : Settings, settings.Crashes → ∀ standardInput drawn,
        run arguments settings standardInput drawn = .crashed) ∧
    (∀ (settings : Settings) text, settings.filter? = some text →
      (∀ char ∈ text.toList, char.toNat < 128) → ¬ settings.Crashes) ∧
    (∀ arguments louder request verbose, Request.parse arguments = .ok request →
      Request.parse louder = .ok { request with verbose } → ∀ settings standardInput drawn,
        (run louder settings standardInput drawn).SameResult
          (run arguments settings standardInput drawn)) ∧
    (∀ flag ∈ verboseArguments,
      (∀ arguments request, Request.parse arguments = .ok request → request.verbose = false →
        Request.parse (flag :: arguments) = .ok { request with verbose := true }) ∧
      (∀ before after request louder, Request.parse (before ++ after) = .ok request →
        Request.parse (before ++ flag :: after) = .ok louder →
          louder = { request with verbose := true }) ∧
      ∀ arguments, Request.parse (flag :: arguments) ≠ .error (.usage (.repeatedOption .verbose)) →
        ∀ settings standardInput drawn,
          (run (flag :: arguments) settings standardInput drawn).SameResult
            (run arguments settings standardInput drawn)) ∧
    ∀ arguments arguments' one other settings surroundings standardInput standardInput' drawn
      drawn',
      Request.parse arguments = .ok one → Request.parse arguments' = .ok other →
      Request.Alike one other settings surroundings →
        let exit := run arguments settings standardInput drawn
        let exit' := run arguments' surroundings standardInput' drawn'
        (∀ input input' bytes bytes' nonce? nonce?' jsonBody,
          one.action = .sealInput input nonce? jsonBody →
          other.action = .sealInput input' nonce?' jsonBody →
          inputBytes input standardInput = .ok bytes →
          inputBytes input' standardInput' = .ok bytes' → bytes.length = bytes'.length →
          exit.status = 0 → exit'.status = 0 → exit.errors = exit'.errors) ∧
        ∀ input input' bytes bytes' jsonBody pretty envelope envelope',
          one.action = .openInput input jsonBody pretty →
          other.action = .openInput input' jsonBody pretty →
          inputBytes input standardInput = .ok bytes →
          inputBytes input' standardInput' = .ok bytes' →
          CarriesEnvelope bytes jsonBody envelope → CarriesEnvelope bytes' jsonBody envelope' →
          envelope.bytes.length = envelope'.bytes.length →
          (exit.status = 0 ∧ exit'.status = 0 ∨
            Outcome one settings standardInput drawn (.error .authenticationFailure) ∧
              Outcome other surroundings standardInput' drawn' (.error .authenticationFailure)) →
            exit.errors = exit'.errors := by
  refine ⟨fun _ _ _ => sameResult_run_filter, ?_, ?_, ?_, fun flag asksFor => ⟨?_, ?_, ?_⟩, ?_⟩
  · intro arguments request parsed settings crashes standardInput drawn
    exact run_of_crashes parsed standardInput drawn crashes
  · intro settings text set ascii
    exact Settings.not_crashes_of_ascii set ascii
  · intro arguments louder request verbose parsed parsedLouder
    exact sameResult_run_verbose parsed parsedLouder
  · intro arguments request parsed quiet
    exact Request.parse_cons asksFor parsed quiet
  · intro before after request louder parsed parsedFlag
    exact Request.parse_insert asksFor parsed parsedFlag
  · intro arguments once
    exact sameResult_run_cons asksFor once
  · intro arguments arguments' one other settings surroundings standardInput standardInput' drawn
      drawn' parsed parsed' alike exit exit'
    refine ⟨?_, ?_⟩
    · intro input input' bytes bytes' nonce? nonce?' jsonBody action action' read read' sameLength
        succeeds succeeds'
      exact errors_eq_of_seal parsed parsed' alike action action' read read' sameLength succeeds
        succeeds'
    · intro input input' bytes bytes' jsonBody pretty envelope envelope' action action' read read'
        carried carried' sameLength sameEnd
      exact errors_eq_of_open parsed parsed' alike action action' read read' carried carried'
        sameLength sameEnd

/-- Sealing and then opening with a key from the surroundings succeeds for a text. -/
theorem run_seal_then_open (settings : Settings) (calm : ¬ settings.Crashes)
    {key plaintext : Bytes} {message : String} (chosen : chosenKey settings.key? = .ok key)
    (length : key.length = 16) (decoded : Utf8.decode plaintext = .ok message) (drawn : Nonce) :
    let sealed := run ["seal", "-"] settings (.bytes plaintext) drawn
    sealed.status = 0 ∧
      (run ["open", "-"] settings (.bytes (Utf8.encode sealed.output)) drawn).status = 0 ∧
      ∃ envelope : Envelope, envelope.bytes.length = 28 + plaintext.length ∧
        CarriesEnvelope (Utf8.encode sealed.output) false envelope := by
  have parsed : Request.parse ["seal", "-"] =
      .ok ⟨none, false, false, .sealInput "-" none false⟩ := by decide
  have parsedOpen : Request.parse ["open", "-"] =
      .ok ⟨none, false, false, .openInput "-" false false⟩ := by decide
  obtain ⟨codec, codecMade⟩ := codecOf_of_fit (.inl length) false
  have made : codecFor settings.key? false = .ok codec :=
    (codecFor_of_chosen chosen false).trans codecMade
  have chosenDrawn : chosenNonce drawn none = .ok drawn := rfl
  obtain ⟨succeeds, output⟩ :=
    endsWith_run_seal parsed rfl calm made chosenDrawn plaintext
  have delivered : Delivered (line (envelopeText codec false drawn plaintext)) "-"
      (.bytes (Utf8.encode (line (envelopeText codec false drawn plaintext)))) := .standardInput
  have opens :=
    endsWith_run_open parsedOpen rfl calm made delivered drawn
  rw [Codec.messageOf, decoded] at opens
  obtain ⟨_, ⟨⟩, carried⟩ := delivered.exists_carriesEnvelope
  intro sealed
  refine ⟨succeeds, ?_, _, codec.length_sealed drawn [] plaintext, ?_⟩
  · simp only [sealed, output]
    exact opens.1
  · simp only [sealed, output]
    exact carried

/-- Two keys in two spellings, two nonces and two plaintexts, sealed and opened with all reports;
and details asked for behind a command. -/
theorem reports_change_nothing_and_tell_lengths_two_keys :
    let settings : Settings :=
      { key? := some "000102030405060708090a0b0c0d0e0f", filter? := some "trace" }
    let surroundings : Settings :=
      { key? := some "AAECAwQFBgcICQoLDA0ODQ==", filter? := some "trace" }
    let one := run ["seal", "-"] settings (.bytes [1, 2, 3]) 7
    let other := run ["seal", "-"] surroundings (.bytes [4, 5, 6]) 8
    let opened := run ["open", "-"] settings (.bytes (Utf8.encode one.output)) 7
    let openedOther := run ["open", "-"] surroundings (.bytes (Utf8.encode other.output)) 8
    (one.status = 0 ∧ other.status = 0 ∧ one.errors = other.errors) ∧
      (opened.status = 0 ∧ openedOther.status = 0 ∧ opened.errors = openedOther.errors) ∧
      (Request.parse ["open", "-v", "-"] = .ok ⟨none, false, true, .openInput "-" false false⟩ ∧
        (run ["open", "-v", "-"] {} (.bytes []) 7).SameResult (run ["open", "-"] {} (.bytes []) 7)) ∧
      ¬ settings.Crashes ∧ ¬ Settings.Crashes { key? := settings.key? } ∧
        (run ["seal", "-"] { key? := settings.key? } (.bytes [1, 2, 3]) 7).SameResult one := by
  intro settings surroundings
  let request : Request := ⟨none, false, false, .sealInput "-" none false⟩
  let opener : Request := ⟨none, false, false, .openInput "-" false false⟩
  have parsed : Request.parse ["seal", "-"] = .ok request := by decide
  have parsedOpen : Request.parse ["open", "-"] = .ok opener := by decide
  have parsedLoud : Request.parse ["open", "-v", "-"] = .ok { opener with verbose := true } := by
    decide
  have spelled : Hex.Spelled ((List.range 16).map (·.toUInt8))
      (Text.trim "000102030405060708090a0b0c0d0e0f").toList := by decide
  have noHex : Hex.decode (Text.trim "AAECAwQFBgcICQoLDA0ODQ==") = none := by decide
  have encoded : Text.trim "AAECAwQFBgcICQoLDA0ODQ==" =
      Base64.encode ((List.range 15).map (·.toUInt8) ++ [13]) := by decide
  have chosen : chosenKey settings.key? = .ok ((List.range 16).map (·.toUInt8)) := by
    rw [chosenKey, keyBytes_of_hex spelled]
  have chosenOther : chosenKey surroundings.key? =
      .ok ((List.range 15).map (·.toUInt8) ++ [13]) := by
    rw [chosenKey, keyBytes_of_base64 (Hex.decode_eq_none_iff.mp noHex) encoded]
  have text : Utf8.decode [1, 2, 3] = .ok (String.ofList ([1, 2, 3].map Char.ofNat)) := by decide
  have textOther : Utf8.decode [4, 5, 6] = .ok (String.ofList ([4, 5, 6].map Char.ofNat)) := by
    decide
  have ascii : ∀ char ∈ "trace".toList, char.toNat < 128 := by
    have all : ("trace".toList.all fun char => decide (char.toNat < 128)) = true := by decide
    exact fun char member => of_decide_eq_true (List.all_eq_true.mp all char member)
  obtain ⟨filtered, _, asciiReads, louder, _, lengthsOnly⟩ := reports_change_nothing_and_tell_lengths
  have calm : ¬ settings.Crashes := asciiReads settings "trace" rfl ascii
  have calmOther : ¬ surroundings.Crashes := asciiReads surroundings "trace" rfl ascii
  have calmUnset : ¬ Settings.Crashes { settings with filter? := none } :=
    Settings.not_crashes_of_none rfl
  obtain ⟨succeeds, opens, envelope, size, carried⟩ :=
    run_seal_then_open settings calm chosen rfl text 7
  obtain ⟨succeedsOther, opensOther, envelopeOther, sizeOther, carriedOther⟩ :=
    run_seal_then_open surroundings calmOther chosenOther rfl textOther 8
  obtain ⟨sealing, _⟩ := lengthsOnly _ _ _ _ settings surroundings (.bytes [1, 2, 3])
    (.bytes [4, 5, 6]) 7 8 parsed parsed ⟨⟨_, _, chosen, chosenOther, rfl⟩, rfl, rfl, rfl⟩
  obtain ⟨_, opening⟩ := lengthsOnly _ _ _ _ settings surroundings (.bytes _) (.bytes _) 7 8
    parsedOpen parsedOpen ⟨⟨_, _, chosen, chosenOther, rfl⟩, rfl, rfl, rfl⟩
  exact ⟨⟨succeeds, succeedsOther, sealing "-" "-" [1, 2, 3] [4, 5, 6] none none false rfl rfl rfl
      rfl rfl succeeds succeedsOther⟩,
    ⟨opens, opensOther, opening "-" "-" _ _ false false envelope envelopeOther rfl rfl rfl rfl
      carried carriedOther (size.trans sizeOther.symm) (.inl ⟨opens, opensOther⟩)⟩,
    ⟨parsedLoud, louder _ _ _ true parsedOpen parsedLoud {} (.bytes []) 7⟩, calm, calmUnset,
    filtered _ settings none (fun _ => ⟨calm, calmUnset⟩) (.bytes [1, 2, 3]) 7⟩

end SealedEnvelope.CommandLine
