import SealedEnvelope.Proofs.Body
import SealedEnvelope.Proofs.Message

/-!
A body opens to what its data open to as a text.

The data may be spelled in the body in any way that JSON has for them, and the body may stand
between blank characters: the message, or the error, is that of the data themselves.
-/

namespace SealedEnvelope.Codec

open Json

variable {C : Type} [BlockCipher C]

/-- The text of a body that sealing yields. -/
def sealedBody (codec : Codec C) (nonce : Nonce) (plaintext : Bytes) : String :=
  (codec.sealBody nonce plaintext).result

/-- What opening a body yields: a message, nothing, or why there is none. -/
def openedBody (codec : Codec C) (text : String) : Except Error (Option String) :=
  (codec.openBody text).run.result

theorem sealedBody_eq (codec : Codec C) (nonce : Nonce) (plaintext : Bytes) :
    codec.sealedBody nonce plaintext = Body.write ⟨some (codec.sealedText nonce plaintext)⟩ := rfl

section Parsed

variable {codec : Codec C} {text : String}

theorem openedBody_of_error {error : Json.Error}
    (parsed : Body.parse (Text.trim text) = .error error) :
    codec.openedBody text = .error (.json error) := by
  rw [openedBody, openBody, parsed]
  rfl

theorem openedBody_of_none (parsed : Body.parse (Text.trim text) = .ok ⟨none⟩) :
    codec.openedBody text = .ok none := by
  rw [openedBody, openBody, parsed]
  rfl

theorem openedBody_of_some {data : String}
    (parsed : Body.parse (Text.trim text) = .ok ⟨some data⟩) :
    codec.openedBody text = (codec.openedText data).map some := by
  rw [openedBody, openBody, parsed, openedText]
  simp only [Traced.result_run_tryCatch, Traced.result_run_map]
  cases (codec.openText data).run.result with
  | error => rfl
  | ok => rfl

end Parsed

theorem openedBody_surrounded {before after : String} (blankBefore : Text.Blank before)
    (blankAfter : Text.Blank after) (codec : Codec C) (text : String) :
    codec.openedBody (before ++ text ++ after) = codec.openedBody text := by
  simp only [openedBody, openBody, Text.trim_surrounded blankBefore blankAfter]

theorem openedBody_compact_some {codec : Codec C} {data : String} {literal : List Char}
    (denotes : Literal data literal) :
    codec.openedBody (Body.compact literal) = (codec.openedText data).map some := by
  have parsed := Body.parse_compact (.literal denotes)
  rw [← Body.trim_compact] at parsed
  exact openedBody_of_some parsed

theorem openedBody_write_some (codec : Codec C) (data : String) :
    codec.openedBody (Body.write ⟨some data⟩) = (codec.openedText data).map some := by
  rw [Body.write_eq_compact]
  exact openedBody_compact_some (literal_stringChars data)

theorem openedBody_write_none (codec : Codec C) :
    codec.openedBody (Body.write ⟨none⟩) = .ok none := by
  have parsed := Body.parse_write ⟨none⟩
  rw [Body.write_eq_compact, ← Body.trim_compact] at parsed
  rw [Body.write_eq_compact]
  exact openedBody_of_none parsed

/-- A body opens to what its data open to. Between any blank characters, an object with one member
`data` opens as the text that its literal denotes does, with the same message or the same error,
however the literal spells it. A written body reads back as it was, opens as its data do, and to
nothing if it has none. So opening undoes sealing. -/
theorem openedBody_eq_openedText (codec : Codec C) :
    (∀ before after, Text.Blank before → Text.Blank after →
      (∀ data literal, Literal data literal →
        codec.openedBody
            (before ++ ("\x7b\"data\":" ++ String.ofList literal ++ "\x7d") ++ after) =
          (codec.openedText data).map some) ∧
      (∀ data, codec.openedBody (before ++ Body.write ⟨some data⟩ ++ after) =
        (codec.openedText data).map some) ∧
      codec.openedBody (before ++ Body.write ⟨none⟩ ++ after) = .ok none) ∧
    (∀ body, Body.parse (Body.write body) = .ok body) ∧
    ∀ nonce message,
      codec.openedBody (codec.sealedBody nonce (Utf8.encode message)) = .ok (some message) := by
  refine ⟨fun before after blankBefore blankAfter => ?_, Body.parse_write, ?_⟩
  · simp only [openedBody_surrounded blankBefore blankAfter]
    exact ⟨fun _ _ => openedBody_compact_some, codec.openedBody_write_some,
      codec.openedBody_write_none⟩
  · intro nonce message
    rw [sealedBody_eq, openedBody_write_some, openedText_sealedText]
    rfl

/-- Data of one blank character, spelled as an escape between blank characters, and a character
beyond sixteen bits, spelled as a pair of escapes with digits in both cases. -/
theorem openedBody_eq_openedText_escapes :
    let codec : Codec (Block → Block) := { cipher := id, subkey := 0 }
    let blank := ['"', '\\', 'u', '2', '0', '0', '3', '"']
    let pair := ['"', '\\', 'u', 'D', '8', '3', 'd', '\\', 'u', 'd', 'E', '0', '0', '"']
    Literal "\u2003" blank ∧ Literal "😀" pair ∧
      Text.Blank "\n" ∧ Text.Blank "\u00a0" ∧
      codec.openedBody ("\n" ++ ("\x7b\"data\":" ++ String.ofList blank ++ "\x7d") ++ "\u00a0") =
        (codec.openedText "\u2003").map some ∧
      codec.openedBody ("\n" ++ ("\x7b\"data\":" ++ String.ofList pair ++ "\x7d") ++ "\u00a0") =
        (codec.openedText "😀").map some := by
  intro codec blank pair
  have zero : HexDigit '0' 0 := by decide
  have space : CodeUnit 0x2003 ['2', '0', '0', '3'] :=
    .digits (by decide : HexDigit _ 2) zero zero (by decide : HexDigit _ 3) rfl
  have escaped : Spelling '\u2003' ['\\', 'u', '2', '0', '0', '3'] := .unit space
  have spelledBlank : Spelled "\u2003".toList _ := .cons escaped .nil
  have denotesBlank : Literal "\u2003" blank := .quoted spelledBlank
  have high : CodeUnit (0xD800 + ('😀'.toNat - 0x10000) / 0x400) ['D', '8', '3', 'd'] :=
    .digits (by decide : HexDigit _ 13) (by decide : HexDigit _ 8) (by decide : HexDigit _ 3)
      (by decide : HexDigit _ 13) (by decide)
  have low : CodeUnit (0xDC00 + ('😀'.toNat - 0x10000) % 0x400) ['d', 'E', '0', '0'] :=
    .digits (by decide : HexDigit _ 13) (by decide : HexDigit _ 14) zero zero (by decide)
  have halves : Spelling '😀' ['\\', 'u', 'D', '8', '3', 'd', '\\', 'u', 'd', 'E', '0', '0'] :=
    .pair (by decide) high low
  have spelledPair : Spelled "😀".toList _ := .cons halves .nil
  have denotesPair : Literal "😀" pair := .quoted spelledPair
  have blankBefore : Text.Blank "\n" := by decide
  have blankAfter : Text.Blank "\u00a0" := by decide
  have opens := ((openedBody_eq_openedText codec).1 _ _ blankBefore blankAfter).1
  exact ⟨denotesBlank, denotesPair, blankBefore, blankAfter, opens _ _ denotesBlank,
    opens _ _ denotesPair⟩

end SealedEnvelope.Codec
