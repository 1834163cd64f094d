import SealedEnvelope.Proofs.Body.Members
import SealedEnvelope.Proofs.Json.Passing
import SealedEnvelope.Proofs.Json.Surrogates

/-!
What the members of an object say as a body.

`note` is what a reader makes of one member, from the texts of its key and its value alone, and the
reader of an object notes its members in turn: white space has no say, nor has the text of a value
whose key is not that of the data. So only the values of the data count.
-/

namespace SealedEnvelope.Body

open Json

/-! ### Data -/

/-- What a value is as data: a string, null, or the cause of a fault. -/
def dataOf (value : List Char) : Except Cause (Option String) :=
  (verdict (readData value)).map Lexeme.value

/-- Data that start with a character, from behind it on. -/
private def readDatum (first : Char) (rest : List Char) :
    Except Fault (Lexeme (Option String)) :=
  if first = 'n' then readWord none ['u', 'l', 'l'] rest
  else if first = '"' then Lexeme.map some <$> readString rest
  else .error (wrongKind "a string" first rest)

private theorem readData_eq {spaces : List Char} {first : Char} (blank : Spaces spaces)
    (visible : isSpace first = false) (rest : List Char) :
    readData (spaces ++ first :: rest) =
      (fun lexeme => ⟨lexeme.value, spaces.length + 1 + lexeme.length⟩) <$>
        readDatum first rest := by
  rw [readData, skipSpace_append_cons blank visible, takeWhile_append_cons blank visible,
    readDatum]
  split
  · rename_i empty
    cases empty
  · rename_i same
    cases same
    rfl
  · rename_i same
    cases same
    rw [if_neg (by decide), if_pos rfl]
    cases readString rest <;> rfl
  · rename_i noNull noQuote same
    cases same
    rw [if_neg noNull, if_neg noQuote]
    rfl

section Kinds

variable {first : Char} {tail : List Char}

private theorem settles_wrongKind {cause : Cause} (noNull : first ≠ 'n') (noQuote : first ≠ '"')
    (refused : ∀ rest, Delimited rest →
      (wrongKind "a string" first (tail ++ rest)).cause = cause) :
    Settles (readDatum first) tail (.error cause) := by
  refine fun rest delimited => verdict_eq_error_iff.mpr ⟨_, ?_, refused rest delimited⟩
  rw [readDatum, if_neg noNull, if_neg noQuote]

/-- A scalar that is no data is refused for what it is, or for its own fault. -/
private theorem exists_settles_scalar {read : List Char → Except Fault (Lexeme Value)}
    {result : Except Cause Value} (reads : ∀ rest, readScalar? first rest = some (read rest))
    (settles : Settles read tail result) (noData : first ≠ 'n' ∧ first ≠ '"')
    (noContainer : first ≠ '[' ∧ first ≠ '\x7b') :
    ∃ result, Settles (readDatum first) tail result := by
  cases result with
  | ok value =>
    refine ⟨.error (.wrongKind (.scalar value) "a string"), ?_⟩
    refine settles_wrongKind noData.1 noData.2 fun rest delimited => ?_
    rw [wrongKind, if_neg noContainer.1, if_neg noContainer.2, reads, settles.reads delimited]
  | error cause =>
    refine ⟨.error cause, settles_wrongKind noData.1 noData.2 fun rest delimited => ?_⟩
    obtain ⟨fault, fails, same⟩ := verdict_eq_error_iff.mp (settles rest delimited)
    rw [wrongKind, if_neg noContainer.1, if_neg noContainer.2, reads, fails, same]

/-- A value has one verdict as data. -/
private theorem exists_settles_readDatum (isValue : ValueText (first :: tail)) :
    ∃ result, Settles (readDatum first) tail result := by
  generalize split : first :: tail = value at isValue
  cases isValue with
  | null =>
    cases split
    exact ⟨_, settles_readWord none _⟩
  | true =>
    cases split
    exact exists_settles_scalar (fun _ => rfl) (settles_readWord (Value.boolean true) _)
      (by decide) (by decide)
  | false =>
    cases split
    exact exists_settles_scalar (fun _ => rfl) (settles_readWord (Value.boolean false) _)
      (by decide) (by decide)
  | number isNumber =>
    rw [← split] at isNumber
    obtain ⟨_, _, ⟨⟩, starts⟩ := isNumber.head
    obtain ⟨result, settles⟩ := exists_settles_readNumber isNumber
    have noOther : (first ≠ 'n' ∧ first ≠ '"') ∧ (first ≠ '[' ∧ first ≠ '\x7b') ∧
        first ≠ 't' ∧ first ≠ 'f' := by
      refine ⟨⟨?_, ?_⟩, ⟨?_, ?_⟩, ?_, ?_⟩ <;> rintro rfl <;>
        rcases starts with minus | digit <;> trivial
    obtain ⟨noData, noContainer, noTrue, noFalse⟩ := noOther
    refine exists_settles_scalar (fun rest => ?_) (settles.map .number) noData noContainer
    rw [readScalar?, if_neg noData.1, if_neg noTrue, if_neg noFalse, if_neg noData.2,
      if_pos starts]
  | string isString =>
    rw [← split] at isString
    obtain rfl : first = '"' := by
      cases isString
      rfl
    obtain ⟨result, settles⟩ := exists_settles_readString isString
    exact ⟨_, settles.map some⟩
  | emptyList _ | list _ =>
    cases split
    exact ⟨_, settles_wrongKind (by decide) (by decide) fun _ _ => rfl⟩
  | object isObject =>
    cases isObject
    all_goals
      cases split
      exact ⟨_, settles_wrongKind (by decide) (by decide) fun _ _ => rfl⟩

end Kinds

/-- What a value is as data does not depend on where it stands. -/
theorem verdict_readData {spaces value rest : List Char} (blank : Spaces spaces)
    (isValue : ValueText value) (delimited : Delimited rest) :
    verdict (readData (spaces ++ (value ++ rest))) =
      (dataOf value).map fun data => ⟨data, spaces.length + value.length⟩ := by
  obtain ⟨first, tail, rfl, visible, _⟩ := head_of_valueText isValue
  obtain ⟨result, settles⟩ := exists_settles_readDatum isValue
  have reads {spaces rest : List Char} (blank : Spaces spaces) (delimited : Delimited rest) :
      verdict (readData (spaces ++ (first :: tail ++ rest))) =
        result.map fun data => ⟨data, spaces.length + (first :: tail).length⟩ := by
    rw [List.cons_append, readData_eq blank visible, verdict_map, settles rest delimited,
      List.length_cons, Nat.add_comm tail.length, ← Nat.add_assoc]
    cases result <;> rfl
  have alone := @reads [] [] spaces_nil nofun
  rw [List.nil_append, List.append_nil] at alone
  rw [reads blank delimited, dataOf, alone]
  cases result <;> rfl

/-! ### Members -/

/-- The name that a key denotes, or the cause for which it denotes none. -/
def nameOf (key : List Char) : Except Cause String :=
  (verdict (readString key.tail)).map Lexeme.value

/-- The data after a value of theirs, of those seen before it. -/
def noteData (seen : Option (Option String)) (value : List Char) :
    Except Cause (Option (Option String)) :=
  if seen.isSome then .error (.duplicateMember dataKey) else some <$> dataOf value

/-- The data after a member, of those seen before it. -/
def note (seen : Option (Option String)) (member : List Char × List Char) :
    Except Cause (Option (Option String)) := do
  let name ← nameOf member.1
  if name = dataKey then noteData seen member.2 else pure seen

/-- The data that some members hold. -/
def dataIn (members : List (List Char × List Char)) : Except Cause (Option String) :=
  Option.join <$> members.foldlM note none

theorem verdict_readMember {key before between value rest : List Char}
    (isKey : StringText ('"' :: key)) (blankBefore : Spaces before) (blankBetween : Spaces between)
    (isValue : ValueText value) (delimited : Delimited rest) (seen : Option (Option String)) :
    verdict (readMember seen (key ++ (before ++ ':' :: (between ++ (value ++ rest))))) =
      (note seen ('"' :: key, value)).map fun seen =>
        ⟨seen, (key ++ (before ++ ':' :: (between ++ value))).length⟩ := by
  have readsColon : readColon (before ++ ':' :: (between ++ (value ++ rest))) =
      .ok (before.length + 1) := readColon_eq_ok_iff.mpr ⟨before, _, rfl, blankBefore, rfl⟩
  have behindColon : (before ++ ':' :: (between ++ (value ++ rest))).drop (before.length + 1) =
      between ++ (value ++ rest) := by simp
  have size : (key ++ (before ++ ':' :: (between ++ value))).length =
      key.length + (before.length + 1) + (between.length + value.length) := by
    simp
    omega
  have colonNext : Delimited (before ++ ':' :: (between ++ (value ++ rest))) :=
    delimited_spaces blankBefore (delimited_punctuation (by decide) _)
  obtain ⟨result, settles⟩ := exists_settles_readString isKey
  have named : nameOf ('"' :: key) = result := settles.eq_verdict.symm
  rw [readMember, verdict_bind_of_map (settles _ colonNext), note, named, size]
  cases result with
  | error cause => rfl
  | ok name =>
    show verdict _ = Except.map _ (if name = dataKey then noteData seen value else pure seen)
    simp only [bind, Except.bind, List.drop_left, readsColon, behindColon]
    by_cases isData : name = dataKey
    · cases seen with
      | some data =>
        simp only [isData, Option.isSome_some, and_self, if_true]
        rfl
      | none =>
        have reads := verdict_readData blankBetween isValue delimited
        simp only [isData, Option.isSome_none, Bool.false_eq_true, and_false, if_false, if_true]
        refine (verdict_bind_of_map reads _).trans ?_
        rw [noteData]
        cases dataOf value <;> rfl
    · have passes := skipStyle_read blankBetween isValue delimited
      simp only [isData, passes, false_and, if_false]
      rfl

/-! ### Objects -/

theorem readMembers_spaces {spaces : List Char} (blank : Spaces spaces)
    (seen : Option (Option String)) (place : Place) (rest : List Char) :
    readMembers seen place (spaces ++ rest) = readMembers seen place rest := by
  induction spaces with
  | nil => rfl
  | cons char spaces ih =>
    obtain ⟨space, others⟩ := List.forall_mem_cons.mp blank
    rw [List.cons_append, readMembers, if_pos space, ih others]

section Member

variable {before key beforeColon behindColon value after rest : List Char}
  {place : Place} {seen : Option (Option String)}

/-- A member is noted, up to the comma or brace behind it. -/
private theorem readMembers_member (unread : place ≠ .behindMember) (blankBefore : Spaces before)
    (isKey : StringText key) (blankKey : Spaces beforeColon) (blankColon : Spaces behindColon)
    (isValue : ValueText value) (blankAfter : Spaces after) (delimited : Delimited rest) :
    verdict (readMembers seen place
        (before ++ (key ++ (beforeColon ++ ':' :: (behindColon ++ (value ++ (after ++ rest))))))) =
      note seen (key, value) >>= fun seen => verdict (readMembers seen .behindMember rest) := by
  obtain ⟨tail, rfl⟩ := isKey.exists_tail
  have noSpace : ¬ isSpace '"' = true := by decide
  have starts (text : List Char) : readMembers seen place ('"' :: text) =
      readMember seen text >>= fun member =>
        readMembers member.value .behindMember (text.drop member.length) := by
    rw [readMembers, if_neg noSpace]
    cases place with
    | first | behindComma => cases readMember seen text <;> rfl
    | behindMember => exact absurd rfl unread
  have reads := verdict_readMember isKey blankKey blankColon isValue
    (delimited_spaces blankAfter delimited) seen
  rw [readMembers_spaces blankBefore, List.cons_append, starts]
  have split : tail ++ (beforeColon ++ ':' :: (behindColon ++ (value ++ (after ++ rest)))) =
      (tail ++ (beforeColon ++ ':' :: (behindColon ++ value))) ++ (after ++ rest) := by simp
  rw [verdict_bind_of_map reads, split]
  simp only [List.drop_left, readMembers_spaces blankAfter]

end Member

private theorem readMembers_brace (seen : Option (Option String)) (place : Place)
    (ends : place ≠ .behindComma) (rest : List Char) :
    readMembers seen place ('\x7d' :: rest) = .ok (seen.join, rest) := by
  have noSpace : ¬ isSpace '\x7d' = true := by decide
  rw [readMembers, if_neg noSpace]
  cases place with
  | first | behindMember => rfl
  | behindComma => exact absurd rfl ends

private theorem readMembers_comma (seen : Option (Option String)) (rest : List Char) :
    readMembers seen .behindMember (',' :: rest) = readMembers seen .behindComma rest := by
  have noSpace : ¬ isSpace ',' = true := by decide
  rw [readMembers, if_neg noSpace]
  rfl

/-- Members are noted in turn, up to the brace behind them. -/
private def Noted (members : List (List Char × List Char)) (chars : List Char) : Prop :=
  ∀ place seen rest, place ≠ .behindMember →
    verdict (readMembers seen place (chars ++ '\x7d' :: rest)) =
      (members.foldlM note seen).map fun seen => (seen.join, rest)

/-- An object notes its members in turn: by recursion on the derivation, for the reader comes back
to the same place behind every comma. -/
private theorem noted_members {members : List (List Char × List Char)} {chars : List Char}
    (areMembers : MembersText members chars) : Noted members chars := by
  cases areMembers with
  | last blankBefore isKey blankKey blankColon isValue blankAfter =>
    intro place seen rest unread
    simp only [List.append_assoc, List.cons_append]
    rw [readMembers_member unread blankBefore isKey blankKey blankColon isValue blankAfter
      (delimited_punctuation (by decide) rest), List.foldlM_cons]
    cases note seen _ with
    | error => rfl
    | ok seen =>
      show verdict (readMembers seen .behindMember ('\x7d' :: rest)) = _
      rw [readMembers_brace seen .behindMember nofun]
      rfl
  | next blankBefore isKey blankKey blankColon isValue blankAfter others =>
    intro place seen rest unread
    simp only [List.append_assoc, List.cons_append]
    rw [readMembers_member unread blankBefore isKey blankKey blankColon isValue blankAfter
      (delimited_punctuation (by decide) _), List.foldlM_cons]
    cases note seen _ with
    | error => rfl
    | ok seen =>
      show verdict (readMembers seen .behindMember (',' :: _)) = _
      rw [readMembers_comma, noted_members others .behindComma seen rest nofun]
      rfl

private theorem verdict_readBody {members : List (List Char × List Char)} {chars : List Char}
    (isObject : ObjectText members chars) :
    verdict (readBody chars) = (dataIn members).map fun data => (data, []) := by
  have unread : Place.first ≠ .behindMember := by rintro ⟨⟩
  have ends : Place.first ≠ .behindComma := by rintro ⟨⟩
  obtain ⟨inner, rfl, reads⟩ : ∃ inner, chars = '\x7b' :: (inner ++ ['\x7d']) ∧
      verdict (readMembers none .first (inner ++ ['\x7d'])) =
        (dataIn members).map fun data => (data, []) := by
    cases isObject with
    | @empty spaces blank =>
      refine ⟨spaces, rfl, ?_⟩
      rw [readMembers_spaces blank, readMembers_brace none .first ends]
      rfl
    | @members _ inner areMembers =>
      refine ⟨inner, rfl, ?_⟩
      rw [noted_members areMembers .first none [] unread, dataIn]
      cases members.foldlM note none <;> rfl
  rw [readBody, skipSpace, List.dropWhile_cons_of_neg (by decide)]
  exact reads

/-- An object says as a body what its members say when they are noted in turn. -/
theorem parse_eq_dataIn {members : List (List Char × List Char)} {text : String}
    (isObject : ObjectText members text.toList) :
    (parse text).mapError Json.Error.cause = (dataIn members).map Body.mk := by
  have causes (read : Except Fault Body) :
      (read.mapError (·.toError text.toList)).mapError Json.Error.cause = verdict read := by
    cases read <;> rfl
  refine (causes _).trans ?_
  rw [verdict_bind_of_map (verdict_readBody isObject)]
  cases dataIn members <;> rfl

/-! ### The members that count -/

/-- The members whose key denotes that of the data. -/
def dataMembers (members : List (List Char × List Char)) : List (List Char × List Char) :=
  members.filter fun member => Literal dataKey member.1

/-- The values of the data, in turn. -/
def dataValues (members : List (List Char × List Char)) : List (List Char) :=
  (dataMembers members).map Prod.snd

theorem dataValues_data {key : List Char} (names : Literal dataKey key) (value : List Char)
    (members : List (List Char × List Char)) :
    dataValues ((key, value) :: members) = value :: dataValues members := by
  rw [dataValues, dataMembers, List.filter_cons_of_pos (by simpa using names)]
  rfl

theorem dataValues_other {key : List Char} (other : ¬ Literal dataKey key) (value : List Char)
    (members : List (List Char × List Char)) :
    dataValues ((key, value) :: members) = dataValues members := by
  rw [dataValues, dataMembers, List.filter_cons_of_neg (by simpa using other)]
  rfl

theorem dataValues_dataMembers (members : List (List Char × List Char)) :
    dataValues (dataMembers members) = dataValues members := by
  rw [dataValues, dataValues, dataMembers, dataMembers, List.filter_filter]
  simp only [Bool.and_self]

/-- Every key denotes a name. -/
def Named (members : List (List Char × List Char)) : Prop :=
  ∀ member ∈ members, ∃ name, Literal name member.1

theorem nameOf_literal {name : String} {key : List Char} (denotes : Literal name key) :
    nameOf key = .ok name := by
  obtain ⟨tail, rfl⟩ := denotes.exists_tail
  rw [nameOf, List.tail_cons, literal_iff_readString.mp denotes]
  rfl

/-- A member whose key denotes another name changes nothing. -/
theorem note_other {name : String} {key : List Char} (denotes : Literal name key)
    (other : ¬ Literal dataKey key) (seen : Option (Option String)) (value : List Char) :
    note seen (key, value) = .ok seen := by
  have apart : name ≠ dataKey := by
    rintro rfl
    exact other denotes
  rw [note, nameOf_literal denotes]
  exact if_neg apart

theorem note_data {key : List Char} (names : Literal dataKey key) (seen : Option (Option String))
    (value : List Char) : note seen (key, value) = noteData seen value := by
  rw [note, nameOf_literal names]
  show (if dataKey = dataKey then noteData seen value else pure seen) = _
  rw [if_pos rfl]

/-- Where every key denotes a name, only the values of the data are noted. -/
theorem foldlM_note {members : List (List Char × List Char)} (named : Named members)
    (seen : Option (Option String)) :
    members.foldlM note seen = (dataValues members).foldlM noteData seen := by
  induction members generalizing seen with
  | nil => rfl
  | cons member members ih =>
    obtain ⟨⟨name, denotes⟩, others⟩ := List.forall_mem_cons.mp named
    obtain ⟨key, value⟩ := member
    rw [List.foldlM_cons]
    by_cases names : Literal dataKey key
    · rw [note_data names, dataValues_data names, List.foldlM_cons]
      exact congrArg _ (funext fun seen => ih others seen)
    · rw [note_other denotes names, dataValues_other names]
      exact ih others seen

theorem dataIn_congr {members others : List (List Char × List Char)} (named : Named members)
    (namedOthers : Named others) (same : dataValues members = dataValues others) :
    dataIn members = dataIn others := by
  rw [dataIn, dataIn, foldlM_note named, foldlM_note namedOthers, same]

/-- Data are noted only where none were seen. -/
private theorem noteData_eq_ok {seen next : Option (Option String)} {value : List Char}
    (noted : noteData seen value = .ok next) : seen = none ∧ next.isSome := by
  cases seen with
  | some data => cases noted
  | none =>
    obtain ⟨data, _, rfl⟩ := map_eq_ok_iff.mp noted
    exact ⟨rfl, rfl⟩

/-- Members that are noted without a fault hold the data once at most, counting those seen before
them. -/
theorem length_dataValues_le {members : List (List Char × List Char)}
    {seen final : Option (Option String)} (noted : members.foldlM note seen = .ok final) :
    seen.toList.length + (dataValues members).length ≤ 1 := by
  induction members generalizing seen with
  | nil => cases seen <;> simp [dataValues, dataMembers]
  | cons member members ih =>
    obtain ⟨key, value⟩ := member
    obtain ⟨next, first, others⟩ := bind_eq_ok_iff.mp noted
    have rest := ih others
    by_cases names : Literal dataKey key
    · rw [note_data names] at first
      obtain ⟨rfl, isSome⟩ := noteData_eq_ok first
      obtain ⟨data, rfl⟩ := Option.isSome_iff_exists.mp isSome
      rw [dataValues_data names, List.length_cons]
      simpa [Nat.add_comm] using rest
    · -- A key that is no string may be read as the name without denoting it, so data may be noted
      -- here too. What was seen before can only grow.
      have grows : seen.toList.length ≤ next.toList.length := by
        obtain ⟨name, _, first⟩ := bind_eq_ok_iff.mp first
        split at first
        · rw [(noteData_eq_ok first).1]
          exact Nat.zero_le _
        · cases first
          exact Nat.le_refl _
      rw [dataValues_other names]
      omega

theorem length_dataValues_le_one {members : List (List Char × List Char)} {data : Option String}
    (said : dataIn members = .ok data) : (dataValues members).length ≤ 1 := by
  obtain ⟨final, noted, _⟩ := map_eq_ok_iff.mp said
  simpa using length_dataValues_le noted

/-! ### Objects without white space -/

/-- The object with some members, without white space. -/
def objectOf (members : List (List Char × List Char)) : String :=
  String.ofList ('\x7b' ::
    ([','].intercalate (members.map fun member => member.1 ++ ':' :: member.2) ++ ['\x7d']))

/-- Every key is a string, and every value one of the grammar. -/
def Written (members : List (List Char × List Char)) : Prop :=
  ∀ member ∈ members, StringText member.1 ∧ ValueText member.2

private theorem written_members {members : List (List Char × List Char)} {chars : List Char}
    (areMembers : MembersText members chars) : Written members := by
  cases areMembers with
  | last _ isKey _ _ isValue _ => exact List.forall_mem_singleton.mpr ⟨isKey, isValue⟩
  | next _ isKey _ _ isValue _ others =>
    exact List.forall_mem_cons.mpr ⟨⟨isKey, isValue⟩, written_members others⟩

theorem written_of_objectText {members : List (List Char × List Char)} {chars : List Char}
    (isObject : ObjectText members chars) : Written members := by
  cases isObject with
  | empty _ => exact fun _ none => nomatch none
  | members areMembers => exact written_members areMembers

theorem objectText_objectOf {members : List (List Char × List Char)} (written : Written members) :
    ObjectText members (objectOf members).toList := by
  have text (first : List Char × List Char) (members : List (List Char × List Char))
      (written : Written (first :: members)) : MembersText (first :: members)
        ([','].intercalate ((first :: members).map fun member => member.1 ++ ':' :: member.2)) := by
    induction members generalizing first with
    | nil =>
      obtain ⟨isKey, isValue⟩ := written first List.mem_cons_self
      have single := MembersText.last spaces_nil isKey spaces_nil spaces_nil isValue spaces_nil
      simpa using single
    | cons second members ih =>
      obtain ⟨⟨isKey, isValue⟩, others⟩ := List.forall_mem_cons.mp written
      have next := MembersText.next spaces_nil isKey spaces_nil spaces_nil isValue spaces_nil
        (ih second others)
      simpa using next
  rw [objectOf, String.toList_ofList]
  cases members with
  | nil => exact .empty spaces_nil
  | cons first members => exact .members (text first members written)

end SealedEnvelope.Body
