import SealedEnvelope.Proofs.CommandLine.Arguments
import SealedEnvelope.Proofs.CommandLine.Outcomes

/-!
What one run seals, another opens.

The output of sealing may reach the other run as its standard input, or as its argument with or
without the newline. It opens to the plaintext and a newline if the plaintext is a text, and else to
the error that the plaintext has as a text.
-/

namespace SealedEnvelope.CommandLine

/-! ### The text of an envelope -/

section EnvelopeText

variable (codec : Codec Aes.Key) (jsonBody : Bool) (nonce : Nonce) (plaintext : Bytes)

theorem trim_envelopeText : Text.trim (envelopeText codec jsonBody nonce plaintext) =
    envelopeText codec jsonBody nonce plaintext := by
  cases jsonBody with
  | false => rw [envelopeText, if_neg Bool.false_ne_true, Codec.trim_sealedText]
  | true =>
    rw [envelopeText, if_pos rfl, Codec.sealedBody_eq, Body.write_eq_compact, Body.trim_compact]

theorem trim_line (text : String) : Text.trim (line text) = Text.trim text := by
  have blankBefore : Text.Blank "" := fun _ member => nomatch member
  have blankAfter : Text.Blank "\n" := by decide
  have trimmed := Text.trim_surrounded blankBefore blankAfter text
  rwa [String.empty_append] at trimmed

/-- An envelope is not a dash. -/
theorem envelopeText_ne_dash : envelopeText codec jsonBody nonce plaintext ≠ "-" := by
  intro same
  cases jsonBody with
  | false =>
    have none : Base64.decode "-" = none := by decide
    rw [envelopeText, if_neg Bool.false_ne_true, Codec.sealedText_eq] at same
    exact Base64.decode_eq_none_iff.mp none _ same.symm
  | true =>
    rw [envelopeText, if_pos rfl, Codec.sealedBody_eq, Body.write_eq_compact,
      ← String.toList_inj, Body.toList_compact] at same
    cases same

theorem line_ne_dash (text : String) : line text ≠ "-" := by
  intro same
  have last := congrArg (fun text => text.toList.getLast?) same
  rw [line, String.toList_append] at last
  have newline : (text.toList ++ "\n".toList).getLast? = some '\n' := List.getLast?_concat
  rw [newline] at last
  cases last

/-- What an input carries that is the text of an envelope between blank characters. -/
theorem carriesEnvelope_envelopeText {input : Bytes} {text : String}
    (decoded : Utf8.decode input = .ok text)
    (spelled : Text.trim text = envelopeText codec jsonBody nonce plaintext) :
    CarriesEnvelope input jsonBody (codec.sealEnvelope nonce [] plaintext).result := by
  cases jsonBody with
  | false =>
    rw [envelopeText, if_neg Bool.false_ne_true, Codec.sealedText_eq] at spelled
    exact ⟨text, .text decoded, spelled⟩
  | true =>
    rw [envelopeText, if_pos rfl, Codec.sealedBody_eq] at spelled
    have parsed : Body.parse (Text.trim text) = .ok ⟨some (codec.sealedText nonce plaintext)⟩ := by
      rw [spelled, Body.parse_write]
    exact ⟨_, .body decoded parsed, codec.trim_sealedText nonce plaintext⟩

end EnvelopeText

/-! ### Two runs -/

/-- Whether the output of a run is the input of another: as its standard input, or as its argument,
as it is or trimmed. -/
inductive Delivered (output : String) : String → StandardInput → Prop where
  | standardInput : Delivered output "-" (.bytes (Utf8.encode output))
  | argument (standardInput : StandardInput) : Delivered output output standardInput
  | trimmed (standardInput : StandardInput) : Delivered output (Text.trim output) standardInput

section Delivered

variable {codec : Codec Aes.Key} {jsonBody : Bool} {nonce : Nonce} {plaintext : Bytes}
  {input : String} {standardInput : StandardInput}

/-- In any way, what arrives carries the envelope. -/
theorem Delivered.exists_carriesEnvelope
    (delivered : Delivered (line (envelopeText codec jsonBody nonce plaintext)) input
      standardInput) :
    ∃ bytes, inputBytes input standardInput = .ok bytes ∧
      CarriesEnvelope bytes jsonBody (codec.sealEnvelope nonce [] plaintext).result := by
  have trimmed : Text.trim (line (envelopeText codec jsonBody nonce plaintext)) =
      envelopeText codec jsonBody nonce plaintext := by
    rw [trim_line, trim_envelopeText]
  obtain ⟨text, arrives, spelled⟩ : ∃ text,
      inputBytes input standardInput = .ok (Utf8.encode text) ∧
        Text.trim text = envelopeText codec jsonBody nonce plaintext := by
    cases delivered with
    | standardInput => exact ⟨_, rfl, trimmed⟩
    | argument => exact ⟨_, inputBytes_of_ne_dash (line_ne_dash _) _, trimmed⟩
    | trimmed =>
      rw [trimmed]
      exact ⟨_, inputBytes_of_ne_dash (envelopeText_ne_dash codec jsonBody nonce plaintext) _,
        trim_envelopeText codec jsonBody nonce plaintext⟩
  exact ⟨_, arrives, carriesEnvelope_envelopeText codec jsonBody nonce plaintext
    (Utf8.decode_eq_ok_iff.mpr rfl) spelled⟩

theorem Delivered.yields_run_open
    (delivered : Delivered (line (envelopeText codec jsonBody nonce plaintext)) input
      standardInput) (drawn : Nonce) :
    Yields ((Action.openInput input jsonBody false).run codec standardInput drawn)
      ((Codec.messageOf plaintext).map line) := by
  obtain ⟨bytes, read, carried⟩ := delivered.exists_carriesEnvelope
  have opens : codec.opened [] (codec.sealEnvelope nonce [] plaintext).result.bytes >>=
      Codec.messageOf = Codec.messageOf plaintext :=
    congrArg (· >>= Codec.messageOf) (codec.opened_sealed nonce [] plaintext)
  have shows : Codec.messageOf plaintext >>= shown false =
      (Codec.messageOf plaintext).map line := by
    cases Codec.messageOf plaintext with
    | error error => rfl
    | ok message => rfl
  have yields : Yields (runOpen codec bytes jsonBody false) _ :=
    yields_runOpen_of_envelope false carried
  rw [opens, shows] at yields
  rwa [Action.run_open read]

end Delivered

theorem encode_line (text : String) : Utf8.encode (line text) = Utf8.encode text ++ [0x0A] := by
  rw [line, Utf8.encode, String.toList_append, Utf8.encodeChars, List.flatMap_append]
  rfl

section Runs

variable {arguments : List String} {request : Request} {settings : Settings} {codec : Codec Aes.Key}

theorem endsWith_run_seal {nonce? : Option String} {jsonBody : Bool} {drawn nonce : Nonce}
    (parsed : Request.parse arguments = .ok request)
    (action : request.action = .sealInput "-" nonce? jsonBody)
    (calm : ¬ settings.Crashes)
    (made : codecFor (request.keyText? settings) request.derivedSubkey = .ok codec)
    (chosen : chosenNonce drawn nonce? = .ok nonce) (plaintext : Bytes) :
    (run arguments settings (.bytes plaintext) drawn).EndsWith
      (.ok (line (envelopeText codec jsonBody nonce plaintext))) := by
  refine endsWith_run parsed calm ((Request.yields_run_iff made).mpr ?_)
  have yields := yields_runSeal codec plaintext nonce? jsonBody drawn
  rw [chosen] at yields
  rwa [action, Action.run_seal rfl]

theorem endsWith_run_open {jsonBody : Bool} {nonce : Nonce} {plaintext : Bytes}
    {standardInput : StandardInput} {input : String}
    (parsed : Request.parse arguments = .ok request)
    (action : request.action = .openInput input jsonBody false)
    (calm : ¬ settings.Crashes)
    (made : codecFor (request.keyText? settings) request.derivedSubkey = .ok codec)
    (delivered : Delivered (line (envelopeText codec jsonBody nonce plaintext)) input
      standardInput) (drawn : Nonce) :
    (run arguments settings standardInput drawn).EndsWith
      ((Codec.messageOf plaintext).map line) := by
  refine endsWith_run parsed calm ((Request.yields_run_iff made).mpr ?_)
  rw [action]
  exact delivered.yields_run_open drawn

end Runs

/-- Sealing standard input succeeds with any key text that is accepted, any subkey and any nonce
that is drawn or given in hexadecimal. When the output reaches a run that opens it with the same
key, subkey and form, that run prints the plaintext and a newline if the plaintext is UTF-8, and
prints nothing and reports where it is not otherwise. Such a run can be asked for. Of the filters
for reports only those are left out that cannot be read without a crash. -/
theorem run_open_run_seal {arguments : List String} {request : Request} {nonce? : Option String}
    {jsonBody : Bool} {settings : Settings} {key : Bytes}
    (parsed : Request.parse arguments = .ok request)
    (action : request.action = .sealInput "-" nonce? jsonBody)
    (calm : ¬ settings.Crashes) (chosen : chosenKey (request.keyText? settings) = .ok key)
    (fit : key.length = 16 ∨ key.length = 24 ∨ key.length = 32)
    (given : ∀ text, nonce? = some text →
      ∃ nonce : Nonce, Hex.Spelled nonce.bytes (Text.trim text).toList)
    (plaintext : Bytes) (drawn : Nonce) :
    let sealed := run arguments settings (.bytes plaintext) drawn
    sealed.status = 0 ∧
      (∀ input, ∃ arguments, Request.parse arguments =
        .ok { request with action := .openInput input jsonBody false }) ∧
      ∀ arguments opener surroundings input standardInput other,
        Request.parse arguments = .ok opener →
        opener.action = .openInput input jsonBody false →
        opener.derivedSubkey = request.derivedSubkey →
        opener.keyText? surroundings = request.keyText? settings →
        ¬ surroundings.Crashes →
        Delivered sealed.output input standardInput →
          let opened := run arguments surroundings standardInput other
          ((∃ message, Utf8.decode plaintext = .ok message) →
            opened.status = 0 ∧ Utf8.encode opened.output = plaintext ++ [0x0A]) ∧
          ∀ error, Utf8.decode plaintext = .error error →
            opened.status = 1 ∧ opened.output = "" ∧
              ∃ reports,
                opened.errors = reports ++ line s!"Error: {(Error.utf8 error).message}" := by
  obtain ⟨codec, codecMade⟩ := codecOf_of_fit fit request.derivedSubkey
  have made : codecFor (request.keyText? settings) request.derivedSubkey = .ok codec :=
    (codecFor_of_chosen chosen _).trans codecMade
  obtain ⟨nonce, nonceChosen⟩ := exists_chosenNonce given drawn
  obtain ⟨succeeded, output⟩ := endsWith_run_seal parsed action calm made nonceChosen plaintext
  refine ⟨succeeded, fun input => ⟨_, Request.parse_arguments _⟩, ?_⟩
  intro arguments opener surroundings input standardInput other parsedOpener opens sameSubkey
    sameKey calmOpener delivered
  rw [output] at delivered
  rw [← sameKey, ← sameSubkey] at made
  have ends := endsWith_run_open parsedOpener opens calmOpener made delivered other
  refine ⟨?_, fun error undecodable => ?_⟩
  · rintro ⟨message, decoded⟩
    rw [Codec.messageOf, decoded] at ends
    refine ⟨ends.1, ?_⟩
    rw [ends.2, encode_line, ← Utf8.decode_eq_ok_iff.mp decoded]
  · rw [Codec.messageOf, undecodable] at ends
    exact ends

/-- A line that keeps its newline, with the key of the protocol; and a byte that is no text, in a
body, with a key from the arguments of one run and the surroundings of the other. -/
theorem run_open_run_seal_two_plaintexts :
    let key := "000102030405060708090A0b0c0d0e0f"
    let sealed := run ["seal", "-"] {} (.bytes [0x68, 0x69, 0x0A]) 7
    let opened := run ["open", "-"] {} (.bytes (Utf8.encode sealed.output)) 8
    let sealedBody := run ["-k", key, "--derived-subkey", "seal", "-jn0123456789abcDEF01234567", "-"]
      {} (.bytes [0xFF]) 7
    let openedBody := run ["open", "-", "--json-body", "--derived-subkey"] { key? := some key }
      (.bytes (Utf8.encode sealedBody.output)) 8
    (sealed.status = 0 ∧ opened.status = 0 ∧
      Utf8.encode opened.output = [0x68, 0x69, 0x0A, 0x0A]) ∧
      sealedBody.status = 0 ∧ openedBody.status = 1 ∧ openedBody.output = "" ∧
        ∃ reports, openedBody.errors = reports ++
          line s!"Error: {(Error.utf8 (.invalid 1 0)).message}" := by
  intro key
  have protocolChosen : chosenKey none = .ok protocolKey := rfl
  have keySpelled : Hex.Spelled ((List.range 16).map (·.toUInt8)) (Text.trim key).toList := by
    decide
  have keyChosen : chosenKey (some key) = .ok ((List.range 16).map (·.toUInt8)) := by
    rw [chosenKey, keyBytes_of_hex keySpelled]
  have nonceSpelled : Hex.Spelled (0x0123456789ABCDEF01234567 : Nonce).bytes
      (Text.trim "0123456789abcDEF01234567").toList := by decide
  have parsedSeal : Request.parse ["seal", "-"] =
      .ok ⟨none, false, false, .sealInput "-" none false⟩ := by decide
  have parsedOpen : Request.parse ["open", "-"] =
      .ok ⟨none, false, false, .openInput "-" false false⟩ := by decide
  have parsedSealBody : Request.parse
      ["-k", key, "--derived-subkey", "seal", "-jn0123456789abcDEF01234567", "-"] =
        .ok ⟨some key, true, false, .sealInput "-" (some "0123456789abcDEF01234567") true⟩ := by
    decide
  have parsedOpenBody : Request.parse ["open", "-", "--json-body", "--derived-subkey"] =
      .ok ⟨none, true, false, .openInput "-" true false⟩ := by decide
  have noneGiven (text : String) (same : none = some text) :
      ∃ nonce : Nonce, Hex.Spelled nonce.bytes (Text.trim text).toList := by
    cases same
  have text : Utf8.decode [0x68, 0x69, 0x0A] = .ok "hi\n" := by decide
  have noText : Utf8.decode [0xFF] = .error (.invalid 1 0) := by decide
  have calm (key? : Option String) : ¬ Settings.Crashes { key? } := Settings.not_crashes_of_none rfl
  obtain ⟨succeeded, _, opens⟩ := run_open_run_seal parsedSeal rfl (calm none)
    protocolChosen (.inr (.inr rfl)) noneGiven [0x68, 0x69, 0x0A] 7
  have given (text : String) (same : some "0123456789abcDEF01234567" = some text) :
      ∃ nonce : Nonce, Hex.Spelled nonce.bytes (Text.trim text).toList := by
    cases same
    exact ⟨_, nonceSpelled⟩
  obtain ⟨succeededBody, _, opensBody⟩ := run_open_run_seal parsedSealBody rfl
    (calm none) keyChosen (.inl rfl) given [0xFF] 7
  have opened := opens _ _ {} "-" _ 8 parsedOpen rfl rfl rfl (calm none) .standardInput
  have openedBody := opensBody _ _ { key? := some key } "-" _ 8 parsedOpenBody rfl rfl rfl
    (calm (some key)) .standardInput
  exact ⟨⟨succeeded, opened.1 ⟨_, text⟩⟩, succeededBody, openedBody.2 _ noText⟩

end SealedEnvelope.CommandLine
