import SealedEnvelope.Proofs.Body.Shapes
import SealedEnvelope.Proofs.Message.Bodies
import SealedEnvelope.Proofs.Message.Outcomes

/-!
Which texts are opened as bodies.

A body is meant to be an object, and to hold nothing only if it says so: no member `data`, or one
that is null. A text keeps to this just when it is no list whose only item is null or a string,
for such a list is read as its item.
-/

namespace SealedEnvelope.Codec

open Json Body

variable {C : Type} [BlockCipher C]

/-- Opening a text takes an object for a body and nothing else: it finds nothing only in an object
without the member or with one that is null, a message only in an object with one that is a string,
and a text that is no object is no body. -/
def TakesObjectsOnly (codec : Codec C) (text : String) : Prop :=
  let trimmed := (Text.trim text).toList
  (codec.openedBody text = .ok none → InObject none trimmed) ∧
  (∀ message, codec.openedBody text = .ok (some message) →
    ∃ data, InObject (some data) trimmed) ∧
  ((∀ members, ¬ ObjectText members trimmed) →
    ∃ error, codec.openedBody text = .error (.json error))

/-- A text is refused as JSON, or it is read as a body and opens as its data do. -/
theorem openedBody_cases (codec : Codec C) (text : String) :
    (∃ error, codec.openedBody text = .error (.json error)) ∨
      (Body.parse (Text.trim text) = .ok ⟨none⟩ ∧ codec.openedBody text = .ok none) ∨
      ∃ data, Body.parse (Text.trim text) = .ok ⟨some data⟩ ∧
        codec.openedBody text = (codec.openedText data).map some := by
  cases parsed : Body.parse (Text.trim text) with
  | error error => exact .inl ⟨error, openedBody_of_error parsed⟩
  | ok body =>
    obtain ⟨_ | data⟩ := body
    · exact .inr (.inl ⟨rfl, openedBody_of_none parsed⟩)
    · exact .inr (.inr ⟨data, rfl, openedBody_of_some parsed⟩)

/-- No error of the data is one of JSON. -/
theorem map_openedText_ne_json (codec : Codec C) (data : String) (error : Json.Error) :
    (codec.openedText data).map some ≠ .error (.json error) := by
  have outcome := codec.textOutcome data
  generalize codec.openedText data = result at outcome
  cases outcome <;> nofun

/-- Opening keeps to objects at a text just when the text, without the blank characters at its
ends, is no list of one item that is null or a string. -/
theorem takesObjectsOnly_iff (codec : Codec C) (text : String) :
    codec.TakesObjectsOnly text ↔ ∀ data, ¬ InList data (Text.trim text).toList := by
  constructor
  · rintro ⟨_, _, refuses⟩ data inList
    have parsed : Body.parse (Text.trim text) = .ok ⟨data⟩ := parse_item inList
    obtain ⟨error, refused⟩ := refuses inList.not_objectText
    cases data with
    | none =>
      rw [openedBody_of_none parsed] at refused
      cases refused
    | some data =>
      rw [openedBody_of_some parsed] at refused
      exact codec.map_openedText_ne_json data error refused
  · intro noList
    have inObject {data : Option String} (parsed : Body.parse (Text.trim text) = .ok ⟨data⟩) :
        InObject data (Text.trim text).toList :=
      (parse_trim_takes parsed).resolve_right (noList data)
    rcases codec.openedBody_cases text with ⟨error, refused⟩ | ⟨parsed, opens⟩ |
      ⟨data, parsed, opens⟩
    · refine ⟨fun found => ?_, fun message found => ?_, fun _ => ⟨error, refused⟩⟩
      · cases refused.symm.trans found
      · cases refused.symm.trans found
    · obtain ⟨members, isObject⟩ := (inObject parsed).exists_members
      refine ⟨fun _ => inObject parsed, fun message found => ?_, fun noObject => ?_⟩
      · cases opens.symm.trans found
      · exact absurd isObject (noObject members)
    · obtain ⟨members, isObject⟩ := (inObject parsed).exists_members
      refine ⟨fun found => ?_, fun _ _ => ⟨data, inObject parsed⟩, fun noObject => ?_⟩
      · have nothing := opens.symm.trans found
        cases outcome : codec.openedText data with
        | error error =>
          rw [outcome] at nothing
          cases nothing
        | ok message =>
          rw [outcome] at nothing
          cases nothing
      · exact absurd isObject (noObject members)

/-- A list of null is taken for a body that holds nothing. -/
theorem takesObjectsOnly_list_of_null :
    let codec : Codec (Block → Block) := { cipher := id, subkey := 0 }
    codec.openedBody "[null]" = .ok none ∧ ¬ codec.TakesObjectsOnly "[null]" := by
  intro codec
  have trimmed : Text.trim "[null]" = "[null]" := by decide
  have inList : InList none (Text.trim "[null]").toList := by
    rw [trimmed]
    exact .item spaces_nil .null spaces_nil
  have opens : codec.openedBody "[null]" = .ok none := openedBody_of_none (parse_item inList)
  refine ⟨opens, ?_⟩
  rintro ⟨_, _, refuses⟩
  obtain ⟨error, refused⟩ := refuses inList.not_objectText
  cases opens.symm.trans refused

end SealedEnvelope.Codec
