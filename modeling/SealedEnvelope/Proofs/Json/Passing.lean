import SealedEnvelope.Proofs.Json.Nesting
import SealedEnvelope.Proofs.Json.Runs

/-!
Every value of the grammar is passed over, at any nesting, and the reader then stands right behind
it.

A value may be the whole text or stand in containers that are still open. The reader goes on behind
it in either case, so a value, the items of a list and the members of an object are each passed over
in one equation, whatever is open around them.
-/

namespace SealedEnvelope.Json

/-- A text is passed over as a value, whatever is open around it. -/
def Passed (value : List Char) : Prop := ∀ stack, skipStyle.Reads () value stack

/-! ### Values that are no containers -/

private theorem passed_scalar {char : Char} {tail : List Char}
    (scans : ∀ rest, Delimited rest →
      skipScalar? char (tail ++ rest) = some (.ok ⟨(), tail.length⟩)) :
    Passed (char :: tail) := by
  have alone := scans [] nofun
  have visible : isSpace char = false := by
    by_contra space
    rcases isSpace_cases (Bool.of_not_eq_false space) with rfl | rfl | rfl | rfl <;>
      cases alone
  have noContainer : ¬ (char = '[' ∨ char = '\x7b') := by
    rintro (rfl | rfl) <;> cases alone
  exact fun stack => reads_scalar visible noContainer scans

private theorem passed_word {first : Char} {letters : List Char}
    (word : ∀ rest, skipScalar? first rest = some (readWord () letters rest)) :
    Passed (first :: letters) := by
  refine passed_scalar fun rest _ => ?_
  have reads : readWord () letters (letters ++ rest) = .ok ⟨(), letters.length⟩ :=
    readWord_eq_ok_iff.mpr ⟨rest, rfl, rfl⟩
  exact (word _).trans (congrArg some reads)

theorem NumberText.head {chars : List Char} (isNumber : NumberText chars) :
    ∃ first tail, chars = first :: tail ∧ (first = '-' ∨ isDigit first) := by
  obtain ⟨isSign, isWhole, _, _⟩ := isNumber
  rcases isSign with rfl | rfl
  · cases isWhole with
    | zero => exact ⟨_, _, rfl, .inr rfl⟩
    | digits areDigits _ => exact ⟨_, _, rfl, .inr (areDigits.2 _ List.mem_cons_self)⟩
  · exact ⟨_, _, rfl, .inl rfl⟩

private theorem passed_string {chars : List Char} (isString : StringText chars) : Passed chars := by
  obtain ⟨tail, rfl⟩ := isString.exists_tail
  exact passed_scalar fun rest delimited =>
    congrArg some ((settles_skipString isString).reads delimited)

private theorem passed_number {chars : List Char} (isNumber : NumberText chars) :
    Passed chars := by
  obtain ⟨first, tail, rfl, starts⟩ := isNumber.head
  obtain ⟨_, _, _, _, noNull, noTrue, noFalse, noQuote⟩ := visible_of_number starts
  refine passed_scalar fun rest delimited => ?_
  rw [skipScalar?, if_neg noNull, if_neg noTrue, if_neg noFalse, if_neg noQuote, if_pos starts,
    (settles_skipNumber isNumber).reads delimited]

/-! ### Containers -/

/-- The first character of a value is no white space, and no bracket that closes a list. -/
theorem head_of_valueText {value : List Char} (isValue : ValueText value) :
    ∃ first tail, value = first :: tail ∧ isSpace first = false ∧ first ≠ ']' := by
  cases isValue with
  | null | true | false => exact ⟨_, _, rfl, rfl, by decide⟩
  | number isNumber =>
    obtain ⟨first, tail, rfl, starts⟩ := isNumber.head
    obtain ⟨visible, noBracket, _⟩ := visible_of_number starts
    exact ⟨first, tail, rfl, visible, noBracket⟩
  | string isString =>
    cases isString
    exact ⟨_, _, rfl, rfl, by decide⟩
  | emptyList _ | list _ => exact ⟨_, _, rfl, rfl, by decide⟩
  | object isObject => cases isObject <;> exact ⟨_, _, rfl, rfl, by decide⟩

private theorem begins_of_valueText {value : List Char} (isValue : ValueText value) :
    BeginsBeside ']' value := by
  obtain ⟨first, tail, rfl, visible, noBracket⟩ := head_of_valueText isValue
  exact ⟨[], first, tail, rfl, spaces_nil, visible, noBracket⟩

private theorem begins_of_itemsText {items : List Char} (areItems : ItemsText items) :
    BeginsBeside ']' items := by
  cases areItems with
  | last blankBefore isValue _ | next blankBefore isValue _ _ =>
    exact ((begins_of_valueText isValue).append _).behind blankBefore

private theorem begins_of_membersText {members : List (List Char × List Char)} {chars : List Char}
    (areMembers : MembersText members chars) : BeginsBeside '\x7d' chars := by
  cases areMembers with
  | last blankBefore isKey _ _ _ _ | next blankBefore isKey _ _ _ _ _ =>
    cases isKey
    exact ⟨_, _, _, rfl, blankBefore, rfl, by decide⟩

/-- The items of a list are passed over, with the bracket behind them. -/
private def PassedItems (items : List Char) : Prop :=
  ∀ stack read length rest,
    skipStyle.readFrom (.nextItem read) stack length (items ++ ']' :: rest) =
      skipStyle.goOn () (length + items.length + 1) rest stack

/-- The members of an object are passed over, with the brace behind them. -/
private def PassedMembers (chars : List Char) : Prop :=
  ∀ stack read length rest,
    skipStyle.readFrom (.nextKey read) stack length (chars ++ '\x7d' :: rest) =
      skipStyle.goOn () (length + chars.length + 1) rest stack

section Others

variable {before value after others : List Char} (blankBefore : Spaces before)
  (isValue : ValueText value) (passed : Passed value) (blankAfter : Spaces after)

include blankBefore isValue passed blankAfter

private theorem passedItems_last : PassedItems (before ++ (value ++ after)) := by
  intro stack read length rest
  simp only [List.append_assoc]
  rw [readFrom_item blankBefore blankAfter (delimited_punctuation (by decide) _)
    (begins_of_valueText isValue) (passed _), readFrom_ending .list]

private theorem passedItems_next (passedOthers : PassedItems others) :
    PassedItems (before ++ (value ++ (after ++ ',' :: others))) := by
  intro stack read length rest
  simp only [List.append_assoc, List.cons_append]
  rw [readFrom_item blankBefore blankAfter (delimited_punctuation (by decide) _)
    (begins_of_valueText isValue) (passed _), readFrom_leads .itemComma, passedOthers]
  congr 1
  simp only [List.length_append, List.length_cons]
  omega

end Others

section Others

variable {before key beforeColon behindColon value after others : List Char}
  (blankBefore : Spaces before) (isKey : StringText key) (blankKey : Spaces beforeColon)
  (blankColon : Spaces behindColon) (passed : Passed value) (blankAfter : Spaces after)

/-- The key of a member that is passed over. -/
private theorem key_skipStyle {tail : List Char} (isKey : StringText ('"' :: tail))
    (rest : List Char) (delimited : Delimited rest) :
    skipStyle.key (tail ++ rest) = .ok ⟨"", tail.length⟩ := by
  show Lexeme.map (fun _ => "") <$> skipString _ = _
  rw [(settles_skipString isKey).reads delimited]
  rfl

include blankBefore isKey blankKey blankColon passed blankAfter

private theorem passedMembers_last : PassedMembers
    (before ++ (key ++ (beforeColon ++ ':' :: (behindColon ++ (value ++ after))))) := by
  intro stack read length rest
  obtain ⟨tail, rfl⟩ := isKey.exists_tail
  simp only [List.append_assoc, List.cons_append]
  rw [readFrom_member blankBefore blankAfter (delimited_punctuation (by decide) _)
    (key_skipStyle isKey) blankKey blankColon (passed _), readFrom_ending .object]

private theorem passedMembers_next (passedOthers : PassedMembers others) : PassedMembers
    (before ++ (key ++ (beforeColon ++ ':' :: (behindColon ++ (value ++
      (after ++ ',' :: others)))))) := by
  intro stack read length rest
  obtain ⟨tail, rfl⟩ := isKey.exists_tail
  simp only [List.append_assoc, List.cons_append]
  rw [readFrom_member blankBefore blankAfter (delimited_punctuation (by decide) _)
    (key_skipStyle isKey) blankKey blankColon (passed _), readFrom_leads .memberComma,
    passedOthers]
  congr 1
  simp only [List.length_append, List.length_cons]
  omega

end Others

/-! ### All values -/

-- The relations of the grammar are one family, so the recursion is on the derivation: a container
-- is passed over because what it holds is, item by item and member by member.
mutual

/-- Every value is passed over. -/
theorem passed_value {value : List Char} (isValue : ValueText value) : Passed value :=
  match isValue with
  | .null | .true | .false => passed_word fun _ => rfl
  | .number isNumber => passed_number isNumber
  | .string isString => passed_string isString
  | .emptyList blank => fun _ => reads_empty (.openList rfl) .emptyList blank
  | .list areItems => fun stack =>
    reads_list rfl (begins_of_itemsText areItems) (passed_items areItems stack [])
  | .object isObject => passed_object isObject

private theorem passed_object {members : List (List Char × List Char)} {chars : List Char}
    (isObject : ObjectText members chars) : Passed chars :=
  match isObject with
  | .empty blank => fun _ => reads_empty (.openObject rfl) .emptyObject blank
  | .members areMembers => fun stack =>
    reads_object rfl (begins_of_membersText areMembers) (passed_members areMembers stack [])

private theorem passed_items {items : List Char} (areItems : ItemsText items) :
    PassedItems items :=
  match areItems with
  | .last blankBefore isValue blankAfter =>
    passedItems_last blankBefore isValue (passed_value isValue) blankAfter
  | .next blankBefore isValue blankAfter others =>
    passedItems_next blankBefore isValue (passed_value isValue) blankAfter (passed_items others)

private theorem passed_members {members : List (List Char × List Char)} {chars : List Char}
    (areMembers : MembersText members chars) : PassedMembers chars :=
  match areMembers with
  | .last blankBefore isKey blankKey blankColon isValue blankAfter =>
    passedMembers_last blankBefore isKey blankKey blankColon (passed_value isValue) blankAfter
  | .next blankBefore isKey blankKey blankColon isValue blankAfter others =>
    passedMembers_next blankBefore isKey blankKey blankColon (passed_value isValue) blankAfter
      (passed_members others)

end

/-- A value is passed over with the white space in front of it, ahead of any text that does not go
on with a number. -/
theorem skipStyle_read {spaces value rest : List Char} (blank : Spaces spaces)
    (isValue : ValueText value) (delimited : Delimited rest) :
    skipStyle.read (spaces ++ (value ++ rest)) = .ok ⟨(), spaces.length + value.length⟩ := by
  rw [Style.read, readFrom_spaces blank, passed_value isValue [] _ rest delimited, Nat.zero_add]
  rfl

end SealedEnvelope.Json
