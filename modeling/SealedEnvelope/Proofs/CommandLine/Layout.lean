import Mathlib
import SealedEnvelope.Proofs.CommandLine.RoundTrip
import SealedEnvelope.Proofs.Json.Descent
import SealedEnvelope.Proofs.Json.Indentation

/-!
Opening with indentation changes the layout of a message and nothing else.

A message that is read as JSON is printed as the indented text of its value. That text is read for
the same value, with or without the newline behind it, so indenting it once more changes nothing.
-/

namespace SealedEnvelope.CommandLine

section Runs

variable {arguments : List String} {request : Request} {settings : Settings} {codec : Codec Aes.Key}
  {input : String} {bytes : Bytes} {jsonBody pretty : Bool} {standardInput : StandardInput}
  {message : String}

/-- A run that opens an input ends with what is shown of the message in it. -/
theorem endsWith_run_message (parsed : Request.parse arguments = .ok request)
    (action : request.action = .openInput input jsonBody pretty) (calm : ¬ settings.Crashes)
    (made : codecFor (request.keyText? settings) request.derivedSubkey = .ok codec)
    (read : inputBytes input standardInput = .ok bytes)
    (carried : CarriesMessage codec bytes jsonBody message) (drawn : Nonce) :
    (run arguments settings standardInput drawn).EndsWith (shown pretty message) := by
  refine endsWith_run parsed calm ((Request.yields_run_iff made).mpr ?_)
  rw [action, Action.run_open read]
  exact yields_runOpen_of_message pretty carried

/-- A run that ends well has read its filter. -/
theorem not_crashes_of_accepted (parsed : Request.parse arguments = .ok request) {drawn : Nonce}
    (accepted : (run arguments settings standardInput drawn).status = 0) : ¬ settings.Crashes := by
  intro crashes
  rw [run_of_crashes parsed standardInput drawn crashes] at accepted
  cases accepted

theorem shown_of_parse {value : Json.Value} (reads : Json.parse message = .ok value) :
    shown true message = .ok (line (Json.pretty value)) := by
  rw [shown, if_pos rfl, reads]

/-- Only a message that is read as JSON is shown with indentation. -/
theorem exists_parse_of_accepted {exit : Exit} (ends : exit.EndsWith (shown true message))
    (accepted : exit.status = 0) : ∃ value, Json.parse message = .ok value := by
  cases reads : Json.parse message with
  | ok value => exact ⟨value, rfl⟩
  | error error =>
    rw [shown, if_pos rfl, reads] at ends
    rw [ends.1] at accepted
    cases accepted

/-- What a run seals of a text carries that text, in whichever way it is delivered. -/
theorem carriesMessage_run_seal {nonce? : Option String} {drawn nonce : Nonce} {plaintext : Bytes}
    (parsed : Request.parse arguments = .ok request)
    (action : request.action = .sealInput "-" nonce? jsonBody) (calm : ¬ settings.Crashes)
    (made : codecFor (request.keyText? settings) request.derivedSubkey = .ok codec)
    (chosen : chosenNonce drawn nonce? = .ok nonce) (decoded : Utf8.decode plaintext = .ok message)
    (delivered : Delivered (run arguments settings (.bytes plaintext) drawn).output input
      standardInput) :
    ∃ bytes, inputBytes input standardInput = .ok bytes ∧
      CarriesMessage codec bytes jsonBody message := by
  rw [(endsWith_run_seal parsed action calm made chosen plaintext).2] at delivered
  obtain ⟨bytes, read, carried⟩ := delivered.exists_carriesEnvelope
  refine ⟨bytes, read, plaintext, ⟨_, carried, ?_, ?_⟩, decoded⟩
  · rw [Codec.result_sealEnvelope]
  · rw [Codec.result_sealEnvelope, Codec.masked_masked]

end Runs

/-- Where a message is accepted for indentation and all its numbers are integers that are kept
exactly, the text that is printed and the message denote the same value, and are read for it. A run
that finds the printed text for its message, with or without the newline, prints it again, if only
it can read its filter for reports. -/
theorem run_open_indented {arguments : List String} {request : Request} {settings : Settings}
    {codec : Codec Aes.Key} {input : String} {bytes : Bytes} {jsonBody : Bool}
    {standardInput : StandardInput} {drawn : Nonce} {message : String}
    (parsed : Request.parse arguments = .ok request)
    (action : request.action = .openInput input jsonBody true)
    (made : codecFor (request.keyText? settings) request.derivedSubkey = .ok codec)
    (read : inputBytes input standardInput = .ok bytes)
    (carried : CarriesMessage codec bytes jsonBody message)
    (accepted : (run arguments settings standardInput drawn).status = 0)
    (integers : ∀ literal ∈ Json.numbers message, Json.IntegerLiteral literal) :
    let opened := run arguments settings standardInput drawn
    ∃ value, opened.output = line (Json.pretty value) ∧
      Json.parse message = .ok value ∧ Json.parse (Json.pretty value) = .ok value ∧
      Json.Document value message ∧ Json.Document value (Json.pretty value) ∧
      ∀ arguments reader surroundings other input bytes jsonBody standardInput drawn again,
        Request.parse arguments = .ok reader →
        reader.action = .openInput input jsonBody true → ¬ surroundings.Crashes →
        codecFor (reader.keyText? surroundings) reader.derivedSubkey = .ok other →
        inputBytes input standardInput = .ok bytes → CarriesMessage other bytes jsonBody again →
        again = Json.pretty value ∨ again = opened.output →
          let reopened := run arguments surroundings standardInput drawn
          reopened.status = 0 ∧ reopened.output = opened.output := by
  intro opened
  have ends : opened.EndsWith (shown true message) :=
    endsWith_run_message parsed action (not_crashes_of_accepted parsed accepted) made read carried
      drawn
  obtain ⟨value, reads⟩ := exists_parse_of_accepted ends accepted
  rw [shown_of_parse reads] at ends
  have output : opened.output = line (Json.pretty value) := ends.2
  have document : Json.Document value message :=
    (Json.parse_eq_ok_iff_document integers).mp reads
  have printed : Json.Document value (Json.pretty value) := document.pretty
  have printedLine : Json.Document value (line (Json.pretty value)) :=
    printed.append_spaces (Json.spaces_nil.cons rfl)
  refine ⟨value, output, reads, printed.parse, document, printed, ?_⟩
  intro arguments reader surroundings other input bytes jsonBody standardInput drawn again
    parsedReader opens calm madeOther readInput carriedAgain same
  have readsAgain : Json.parse again = .ok value := by
    rcases same with rfl | rfl
    · exact printed.parse
    · rw [output]
      exact printedLine.parse
  have endsAgain :=
    endsWith_run_message parsedReader opens calm madeOther readInput carriedAgain drawn
  rw [shown_of_parse readsAgain, ← output] at endsAgain
  exact endsAgain

/-- A key that is written twice, escapes that are not needed, and the integers at both ends. What is
printed is sealed and opened once more. -/
theorem run_open_indented_twice :
    let message := "\x7b\"b\":7,\"a\":\"\\ud83d\\ude00\\u0001\"," ++
      "\"b\": [-9223372036854775808,18446744073709551615,\x7b\x7d]\x7d"
    let sealed := run ["seal", "-"] {} (.bytes (Utf8.encode message)) 7
    let opened := run ["open", "-p", "-"] {} (.bytes (Utf8.encode sealed.output)) 8
    let resealed := run ["seal", "-"] {} (.bytes (Utf8.encode opened.output)) 9
    let reopened := run ["open", "-p", "-"] {} (.bytes (Utf8.encode resealed.output)) 10
    (∀ literal ∈ Json.numbers message, Json.IntegerLiteral literal) ∧ opened.status = 0 ∧
      opened.output = line ("\n".intercalate ["\x7b", "  \"a\": \"😀\\u0001\",", "  \"b\": [",
        "    -9223372036854775808,", "    18446744073709551615,", "    \x7b\x7d", "  ]", "\x7d"]) ∧
      reopened.status = 0 ∧ reopened.output = opened.output := by
  intro message sealed opened resealed reopened
  have sealedBy : sealed = run ["seal", "-"] {} (.bytes (Utf8.encode message)) 7 := rfl
  have openedBy : opened = run ["open", "-p", "-"] {} (.bytes (Utf8.encode sealed.output)) 8 := rfl
  have resealedBy : resealed = run ["seal", "-"] {} (.bytes (Utf8.encode opened.output)) 9 := rfl
  have reopenedBy : reopened =
      run ["open", "-p", "-"] {} (.bytes (Utf8.encode resealed.output)) 10 := rfl
  let value : Json.Value := .object [("a", .string "😀\x01"), ("b", .list
    [.number (.integer (-9223372036854775808)), .number (.integer 18446744073709551615),
      .object []])]
  have reads : Json.parse message = .ok value := by
    unfold message value
    cbv
  have integers : ∀ literal ∈ Json.numbers message, Json.IntegerLiteral literal := by
    have written : Json.numbers message =
        [7, -9223372036854775808, 18446744073709551615].map fun value : Int =>
          (toString value).toList := by decide
    have exact : ∀ value ∈ [7, -9223372036854775808, (18446744073709551615 : Int)],
        Json.Exact value := by
      unfold Json.Exact
      decide
    rw [written]
    exact List.forall_mem_map.mpr fun value isMember => ⟨value, exact value isMember, rfl⟩
  -- The runs are known from here on by what they were given, so that no step computes one.
  clear_value reopened resealed opened sealed message
  have parsedSeal : Request.parse ["seal", "-"] =
      .ok ⟨none, false, false, .sealInput "-" none false⟩ := by decide
  have parsedOpen : Request.parse ["open", "-p", "-"] =
      .ok ⟨none, false, false, .openInput "-" false true⟩ := by decide
  have fit : protocolKey.length = 16 ∨ protocolKey.length = 24 ∨ protocolKey.length = 32 :=
    .inr (.inr rfl)
  obtain ⟨codec, codecMade⟩ := codecOf_of_fit fit false
  have made : codecFor none false = .ok codec := (codecFor_of_chosen rfl false).trans codecMade
  have calm : ¬ Settings.Crashes {} := Settings.not_crashes_of_none rfl
  have carries {message : String} {drawn : Nonce} {exit : Exit}
      (sealedBy : exit = run ["seal", "-"] {} (.bytes (Utf8.encode message)) drawn) :
      CarriesMessage codec (Utf8.encode exit.output) false message := by
    have decoded : Utf8.decode (Utf8.encode message) = .ok message :=
      Utf8.decode_eq_ok_iff.mpr rfl
    rw [sealedBy]
    obtain ⟨_, ⟨⟩, carried⟩ :=
      carriesMessage_run_seal parsedSeal rfl calm made rfl decoded .standardInput
    exact carried
  have ends : opened.EndsWith (.ok (line (Json.pretty value))) := by
    rw [openedBy, ← shown_of_parse reads]
    exact endsWith_run_message parsedOpen rfl calm made rfl (carries sealedBy) 8
  have accepted : (run ["open", "-p", "-"] {} (.bytes (Utf8.encode sealed.output)) 8).status = 0 :=
    openedBy ▸ ends.1
  obtain ⟨_, _, _, _, _, _, again⟩ := @run_open_indented _ _ {} _ _ _ _ _ 8 _ parsedOpen rfl made
    rfl (carries sealedBy) accepted integers
  rw [← openedBy] at again
  have reopens := again _ _ {} codec "-" _ false (.bytes (Utf8.encode resealed.output)) 10
    opened.output parsedOpen rfl calm made rfl (carries resealedBy) (.inr rfl)
  rw [← reopenedBy] at reopens
  refine ⟨integers, ends.1, ends.2.trans ?_, reopens⟩
  decide

end SealedEnvelope.CommandLine
