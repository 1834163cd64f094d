import SealedEnvelope.Proofs.Body.Meaning
import SealedEnvelope.Proofs.Message.Bodies

/-!
Members other than the data are transparent, and the data may not come twice.

Two bodies whose data have the same texts are opened alike, whatever other members they have, at
whatever nesting and between whatever white space: with the same result, the same blocks asked of
the cipher and the same reports. Only the place that an error of JSON names may differ.
-/

namespace SealedEnvelope

/-- An error without the place that it names, if it is one of JSON. -/
def Error.unplaced : Error → Error
  | .json error => .json { error with line := 0, column := 0 }
  | error => error

namespace Codec

open Json Body

variable {C : Type} [BlockCipher C]

/-- What opening a body yields and leaves behind, but for the place that an error of JSON names. -/
def openedUnplaced (codec : Codec C) (text : String) : Traced (Except Error (Option String)) :=
  Except.mapError Error.unplaced <$> (codec.openBody text).run

theorem run_openBody_of_error {codec : Codec C} {text : String} {error : Json.Error}
    (parsed : Body.parse (Text.trim text) = .error error) :
    (codec.openBody text).run = pure (.error (.json error)) := by
  rw [openBody, parsed]
  rfl

/-- Opening depends on what a body says and not on how it is written. -/
theorem openedUnplaced_congr (codec : Codec C) {text other : String}
    (same : (Body.parse (Text.trim text)).mapError Json.Error.cause =
      (Body.parse (Text.trim other)).mapError Json.Error.cause) :
    codec.openedUnplaced text = codec.openedUnplaced other := by
  have unplaced (error : Json.Error) : Except.mapError Error.unplaced <$>
      (pure (.error (.json error)) : Traced (Except Error (Option String))) =
        pure (.error (.json ⟨error.cause, 0, 0⟩)) := rfl
  cases parsed : Body.parse (Text.trim text) with
  | error error =>
    cases parsedOther : Body.parse (Text.trim other) with
    | error otherError =>
      rw [parsed, parsedOther] at same
      have causes : error.cause = otherError.cause := Except.error.inj same
      rw [openedUnplaced, openedUnplaced, run_openBody_of_error parsed,
        run_openBody_of_error parsedOther, unplaced, unplaced, causes]
    | ok body =>
      rw [parsed, parsedOther] at same
      cases same
  | ok body =>
    rw [parsed] at same
    have parsedOther := mapError_eq_ok_iff.mp same.symm
    rw [openedUnplaced, openedUnplaced, openBody, openBody, parsed, parsedOther]

/-- A text writes an object with some members, maybe between blank characters. -/
def WritesObject (members : List (List Char × List Char)) (text : String) : Prop :=
  ObjectText members (Text.trim text).toList

theorem writesObject_objectOf {members : List (List Char × List Char)} (written : Written members) :
    WritesObject members (objectOf members) := by
  have trimmed : Text.trim (objectOf members) = objectOf members := by
    rw [objectOf, Text.trim, String.toList_ofList, Text.trimChars_enclosed rfl rfl]
  rw [WritesObject, trimmed]
  exact objectText_objectOf written

/-- Only the data of a body count, and they may come once. Two objects whose keys all denote names,
and whose data have the same texts in turn, open alike but for the place of an error of JSON. So an
object opens as the one with its data members only. One with the data twice is refused, whatever the
texts of its keys and values, and the cipher is not asked for anything. -/
theorem only_data_members_count (codec : Codec C) :
    (∀ members others text other, WritesObject members text → WritesObject others other →
      Named members → Named others → dataValues members = dataValues others →
        codec.openedUnplaced text = codec.openedUnplaced other) ∧
    (∀ members text, WritesObject members text → Named members →
      WritesObject (dataMembers members) (objectOf (dataMembers members)) ∧
        codec.openedUnplaced text = codec.openedUnplaced (objectOf (dataMembers members))) ∧
    ∀ members text, WritesObject members text → 2 ≤ (dataValues members).length →
      ∃ error, (codec.openBody text).run = pure (.error (.json error)) := by
  have alike {members others : List (List Char × List Char)} {text other : String}
      (writes : WritesObject members text) (writesOther : WritesObject others other)
      (named : Named members) (namedOthers : Named others)
      (same : dataValues members = dataValues others) :
      codec.openedUnplaced text = codec.openedUnplaced other := by
    refine codec.openedUnplaced_congr ?_
    rw [parse_eq_dataIn writes, parse_eq_dataIn writesOther, dataIn_congr named namedOthers same]
  refine ⟨fun _ _ _ _ => alike, fun members text writes named => ?_,
    fun members text writes twice => ?_⟩
  · have among {member : List Char × List Char} (holds : member ∈ dataMembers members) :
        member ∈ members := List.mem_of_mem_filter holds
    have written : Written (dataMembers members) :=
      fun member holds => written_of_objectText writes member (among holds)
    have namedData : Named (dataMembers members) := fun member holds => named member (among holds)
    have writesData := writesObject_objectOf written
    exact ⟨writesData,
      alike writes writesData named namedData (dataValues_dataMembers members).symm⟩
  · cases parsed : Body.parse (Text.trim text) with
    | error error => exact ⟨error, run_openBody_of_error parsed⟩
    | ok body =>
      have said := parse_eq_dataIn writes
      rw [parsed] at said
      obtain ⟨data, holds, _⟩ := map_eq_ok_iff.mp said.symm
      exact absurd (length_dataValues_le_one holds) (Nat.not_le.mpr twice)

/-- A number out of range in nested lists, and the key of the data with an escape. -/
theorem only_data_members_count_nested :
    let codec : Codec (Block → Block) := { cipher := id, subkey := 0 }
    let plain := ("\"data\"".toList, "null".toList)
    let escaped := ("\"\\u0064ata\"".toList, "null".toList)
    let nested := ("\"x\"".toList, "[[1e999]]".toList)
    let text := "\x7b \"x\" :[[1e999]], \"\\u0064ata\":null\x7d"
    WritesObject [nested, escaped] text ∧ Named [nested, escaped] ∧ Named [plain] ∧
      dataValues [nested, escaped] = dataValues [plain] ∧
      codec.openedUnplaced text = codec.openedUnplaced (objectOf [plain]) ∧
      2 ≤ (dataValues [plain, escaped]).length ∧
      ∃ error, (codec.openBody (objectOf [plain, escaped])).run =
        pure (.error (.json error)) := by
  intro codec plain escaped nested text
  have namesPlain : Literal dataKey plain.1 := literal_stringChars dataKey
  have namesEscaped : Literal dataKey escaped.1 := by
    have zero : HexDigit '0' 0 := by decide
    have unit : CodeUnit 0x64 ['0', '0', '6', '4'] :=
      .digits zero zero (by decide : HexDigit _ 6) (by decide : HexDigit _ 4) rfl
    have a : Spelling 'a' ['a'] := .plain (by decide) (by decide) (by decide)
    have t : Spelling 't' ['t'] := .plain (by decide) (by decide) (by decide)
    have spelled : Spelled dataKey.toList _ :=
      .cons (.unit unit : Spelling 'd' _) (.cons a (.cons t (.cons a .nil)))
    exact .quoted spelled
  have namesNested : Literal "x" nested.1 := literal_stringChars "x"
  have other : ¬ Literal dataKey nested.1 := fun names => nomatch namesNested.unique names
  have whole : WholeText ['1'] := .digits ⟨nofun, List.all_eq_true.mp rfl⟩ (by decide)
  have exponent : ExponentText ['e', '9', '9', '9'] :=
    .exponent (.inl rfl) (.inl rfl) ⟨nofun, List.all_eq_true.mp rfl⟩
  have number : NumberText "1e999".toList := .number (.inl rfl) whole .none exponent
  have inner : ItemsText "1e999".toList := .last spaces_nil (.number number) spaces_nil
  have isNested : ValueText nested.2 :=
    .list (.last spaces_nil (.list inner) spaces_nil)
  have space : Spaces [' '] := spaces_nil.cons rfl
  have writes : WritesObject [nested, escaped] text := by
    have areMembers : MembersText [nested, escaped] _ :=
      .next space namesNested.stringText space spaces_nil isNested spaces_nil
        (.last space namesEscaped.stringText spaces_nil spaces_nil .null spaces_nil)
    have trimmed : Text.trim text = text := by decide
    rw [WritesObject, trimmed]
    convert ObjectText.members areMembers using 1
    decide
  have named : Named [nested, escaped] :=
    List.forall_mem_cons.mpr ⟨⟨_, namesNested⟩, List.forall_mem_singleton.mpr ⟨_, namesEscaped⟩⟩
  have namedPlain : Named [plain] := List.forall_mem_singleton.mpr ⟨_, namesPlain⟩
  have same : dataValues [nested, escaped] = dataValues [plain] := by
    rw [dataValues_other other, dataValues_data namesEscaped, dataValues_data namesPlain]
  have written : Written [plain, escaped] :=
    List.forall_mem_cons.mpr ⟨⟨namesPlain.stringText, .null⟩,
      List.forall_mem_singleton.mpr ⟨namesEscaped.stringText, .null⟩⟩
  have writesPlain : WritesObject [plain] (objectOf [plain]) :=
    writesObject_objectOf (List.forall_mem_singleton.mpr (written plain List.mem_cons_self))
  have twice : 2 ≤ (dataValues [plain, escaped]).length := by
    rw [dataValues_data namesPlain, dataValues_data namesEscaped]
    decide
  obtain ⟨alike, _, refused⟩ := only_data_members_count codec
  exact ⟨writes, named, namedPlain, same, alike _ _ _ _ writes writesPlain named namedPlain same,
    twice, refused _ _ (writesObject_objectOf written) twice⟩

end Codec

end SealedEnvelope
