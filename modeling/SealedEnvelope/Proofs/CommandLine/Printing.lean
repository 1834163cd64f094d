import SealedEnvelope.CommandLine.Run
import SealedEnvelope.Proofs.Procedure

/-!
What an attempt prints, and when.

Making a codec, opening and sealing print nothing. So behind them an attempt has printed as much as
its last step prints, and nothing if it does not get that far.
-/

namespace SealedEnvelope

/-! ### Silent steps -/

namespace Codec

variable {C : Type} [BlockCipher C] (codec : Codec C)

theorem printed_openBytes (associated data : Bytes) :
    (codec.openBytes associated data).run.printed = [] :=
  Procedure.printed_run _ _

theorem printed_openText (text : String) : (codec.openText text).run.printed = [] := by
  rw [openText]
  cases Base64.decode (Text.trim text) with
  | none => rfl
  | some bytes =>
    simp only [ExceptT.run_bind, Traced.printed_bind, printed_openBytes]
    cases (codec.openBytes [] bytes).run.result with
    | error error => rfl
    | ok plaintext =>
      simp only
      cases Utf8.decode plaintext with
      | error error => rfl
      | ok message => rfl

theorem printed_openBody (text : String) : (codec.openBody text).run.printed = [] := by
  rw [openBody]
  cases Body.parse (Text.trim text) with
  | error error => rfl
  | ok body =>
    obtain ⟨_ | data⟩ := body
    · rfl
    · simp only [Traced.printed_run_tryCatch, Traced.printed_run_map, printed_openText]
      cases (some <$> codec.openText data : Attempt (Option String)).run.result with
      | ok message => rfl
      | error error => rfl

theorem printed_sealText (nonce : Nonce) (plaintext : Bytes) :
    (codec.sealText nonce plaintext).printed = [] := by
  have silent : (codec.sealEnvelope nonce [] plaintext).printed = [] := Procedure.printed_run _ _
  rw [sealText, Traced.printed_bind, silent]
  rfl

theorem printed_sealBody (nonce : Nonce) (plaintext : Bytes) :
    (codec.sealBody nonce plaintext).printed = [] := by
  rw [sealBody, Traced.printed_bind, printed_sealText]
  rfl

end Codec

namespace CommandLine

theorem printed_loadCodec (key? : Option String) (derivedSubkey : Bool) :
    (loadCodec key? derivedSubkey).run.printed = [] := by
  cases key? with
  | none => rfl
  | some text =>
    rw [loadCodec]
    cases keyBytes text with
    | error error => rfl
    | ok bytes => rfl

theorem printed_sealInto (codec : Codec Aes.Key) (jsonBody : Bool) (nonce : Nonce)
    (plaintext : Bytes) : (sealInto codec jsonBody nonce plaintext).printed = [] := by
  cases jsonBody with
  | false => exact codec.printed_sealText nonce plaintext
  | true => exact codec.printed_sealBody nonce plaintext

/-! ### Outputs -/

/-- Whether an attempt comes to a result: it prints the output of it and no more, or it has the
error of it and has printed nothing. -/
inductive Yields (attempt : Attempt Unit) : Except Error String → Prop where
  | output {output : String} (succeeds : attempt.run.result = .ok ())
      (prints : String.join attempt.run.printed = output) : Yields attempt (.ok output)
  | error {error : Error} (fails : attempt.run.result = .error error)
      (silent : attempt.run.printed = []) : Yields attempt (.error error)

variable {α : Type} {attempt : Attempt Unit} {result other : Except Error String}

theorem Yields.result_eq (yields : Yields attempt result) :
    attempt.run.result = result.map fun _ => () := by
  cases yields with
  | output succeeds => exact succeeds
  | error fails => exact fails

theorem Yields.exists_output (yields : Yields attempt result)
    (succeeds : attempt.run.result = .ok ()) : ∃ output, result = .ok output := by
  cases yields with
  | output => exact ⟨_, rfl⟩
  | error fails => cases fails.symm.trans succeeds

theorem Yields.eq_error {error : Error} (yields : Yields attempt result)
    (fails : attempt.run.result = .error error) : result = .error error := by
  cases yields with
  | output succeeds => cases succeeds.symm.trans fails
  | error failsOther =>
    cases failsOther.symm.trans fails
    rfl

theorem Yields.unique (yields : Yields attempt result) (others : Yields attempt other) :
    other = result := by
  cases yields with
  | output succeeds prints =>
    cases others with
    | output _ printsOther => rw [← prints, printsOther]
    | error fails => cases fails.symm.trans succeeds
  | error fails => exact others.eq_error fails

theorem yields_print (text : String) : Yields (Traced.print text) (.ok text) :=
  .output rfl String.empty_append

theorem yields_report (event : Event) : Yields (Traced.report event) (.ok "") := .output rfl rfl

theorem yields_throw (error : Error) : Yields (throw error) (.error error) := .error rfl rfl

/-- An attempt with the result and the prints of another yields the same. -/
theorem Yields.congr {another : Attempt Unit} (yields : Yields attempt result)
    (sameResult : another.run.result = attempt.run.result)
    (samePrints : another.run.printed = attempt.run.printed) : Yields another result := by
  cases yields with
  | output succeeds prints => exact .output (sameResult.trans succeeds) (samePrints ▸ prints)
  | error fails silent => exact .error (sameResult.trans fails) (samePrints.trans silent)

/-- Behind a silent step, an attempt yields what the rest of it yields. -/
theorem yields_bind_iff {first : Attempt α} {next : α → Attempt Unit} {value : α}
    (silent : first.run.printed = []) (found : first.run.result = .ok value) :
    Yields (first >>= next) result ↔ Yields (next value) result := by
  have sameResult : (first >>= next).run.result = (next value).run.result := by
    rw [ExceptT.run_bind, Traced.result_bind, found]
  have samePrinted : (first >>= next).run.printed = (next value).run.printed := by
    rw [ExceptT.run_bind, Traced.printed_bind, found, silent]
    rfl
  exact ⟨fun yields => yields.congr sameResult.symm samePrinted.symm,
    fun yields => yields.congr sameResult samePrinted⟩

/-- A silent step that fails is the last one. -/
theorem yields_bind_of_error {first : Attempt α} {next : α → Attempt Unit} {error : Error}
    (silent : first.run.printed = []) (failed : first.run.result = .error error) :
    Yields (first >>= next) (.error error) := by
  refine .error ?_ ?_
  · rw [ExceptT.run_bind, Traced.result_bind, failed]
    rfl
  · rw [ExceptT.run_bind, Traced.printed_bind, failed, silent]
    rfl

end CommandLine

end SealedEnvelope
