import SealedEnvelope.Json.Reader
import SealedEnvelope.Proofs.Json.Scalars

/-!
What the reader takes for a value is one of the grammar, at any nesting.

The reader holds a stack of open containers and a place in the innermost of them. `Completes` says
which texts lead from there to the end of the outermost value. Every step of the reader puts what
it takes in front of such a text, so the text of a whole run completes the state it started in.
-/

namespace SealedEnvelope.Json

variable {α : Type}

/-! ### Places and stacks -/

/-- What may follow an item: the end of the list, or a comma and more items. -/
inductive ListRest : List Char → Prop where
  | close {spaces : List Char} (blank : Spaces spaces) : ListRest (spaces ++ [']'])
  | comma {spaces items : List Char} (blank : Spaces spaces) (areItems : ItemsText items) :
      ListRest (spaces ++ ',' :: (items ++ [']']))

/-- What may follow a member: the end of the object, or a comma and more members. -/
inductive ObjectRest : List Char → Prop where
  | close {spaces : List Char} (blank : Spaces spaces) : ObjectRest (spaces ++ ['\x7d'])
  | comma {members : List (List Char × List Char)} {spaces chars : List Char}
      (blank : Spaces spaces) (areMembers : MembersText members chars) :
      ObjectRest (spaces ++ ',' :: (chars ++ ['\x7d']))

/-- The texts from a place to the end of the container that it is in. -/
inductive Ends : Awaiting α → List Char → Prop where
  | value {spaces value : List Char} (blank : Spaces spaces) (isValue : ValueText value) :
      Ends .value (spaces ++ value)
  | emptyList {spaces : List Char} (blank : Spaces spaces) : Ends .firstItem (spaces ++ [']'])
  | firstItem {items : List Char} (areItems : ItemsText items) : Ends .firstItem (items ++ [']'])
  | nextItem {read : List α} {items : List Char} (areItems : ItemsText items) :
      Ends (.nextItem read) (items ++ [']'])
  | itemEnd {read : List α} {rest : List Char} (ends : ListRest rest) : Ends (.itemEnd read) rest
  | emptyObject {spaces : List Char} (blank : Spaces spaces) :
      Ends .firstKey (spaces ++ ['\x7d'])
  | firstKey {members : List (List Char × List Char)} {chars : List Char}
      (areMembers : MembersText members chars) : Ends .firstKey (chars ++ ['\x7d'])
  | nextKey {read : List (String × α)} {members : List (List Char × List Char)}
      {chars : List Char} (areMembers : MembersText members chars) :
      Ends (.nextKey read) (chars ++ ['\x7d'])
  | colon {read : List (String × α)} {key : String} {before behind value rest : List Char}
      (blankBefore : Spaces before) (blankBehind : Spaces behind) (isValue : ValueText value)
      (ends : ObjectRest rest) :
      Ends (.colon read key) (before ++ ':' :: (behind ++ (value ++ rest)))
  | memberEnd {read : List (String × α)} {rest : List Char} (ends : ObjectRest rest) :
      Ends (.memberEnd read) rest

/-- The texts that close all containers of a stack, each behind a value it waited for. -/
inductive Closes : List (Frame α) → List Char → Prop where
  | nil : Closes [] []
  | list {read : List α} {stack : List (Frame α)} {here behind : List Char} (ends : ListRest here)
      (closes : Closes stack behind) : Closes (.list read :: stack) (here ++ behind)
  | object {read : List (String × α)} {key : String} {stack : List (Frame α)}
      {here behind : List Char} (ends : ObjectRest here) (closes : Closes stack behind) :
      Closes (.object read key :: stack) (here ++ behind)

/-- The texts that lead from a state of the reader to the end of the outermost value. -/
inductive Completes (awaiting : Awaiting α) (stack : List (Frame α)) : List Char → Prop where
  | intro {here behind : List Char} (ends : Ends awaiting here) (closes : Closes stack behind) :
      Completes awaiting stack (here ++ behind)

/-- The texts that lead on from what a step has reached. -/
def Progress.Completed : Progress α → List Char → Prop
  | .more awaiting stack _, text => Completes awaiting stack text
  | .done _ _, text => text = []

/-- The characters that a step takes behind its first. -/
def Progress.length : Progress α → Nat
  | .more _ _ length => length
  | .done _ length => length

/-- What a step takes behind its first character stands, with it, in front of the texts that lead
on: they then have the property that is wanted of the texts before the step. -/
def Advances (wanted : List Char → Prop) (char : Char) (rest : List Char)
    (progress : Progress α) : Prop :=
  ∃ tail more, rest = tail ++ more ∧ progress.length = tail.length ∧
    ∀ text, progress.Completed text → wanted (char :: (tail ++ text))

theorem Advances.mono {wanted wider : List Char → Prop} {char : Char} {rest : List Char}
    {progress : Progress α} (advances : Advances wanted char rest progress)
    (widens : ∀ text, wanted text → wider text) : Advances wider char rest progress := by
  obtain ⟨tail, more, split, size, leads⟩ := advances
  exact ⟨tail, more, split, size, fun text completed => widens _ (leads text completed)⟩

/-! ### White space -/

theorem ItemsText.space {char : Char} {items : List Char} (space : isSpace char)
    (areItems : ItemsText items) : ItemsText (char :: items) := by
  cases areItems with
  | last blankBefore isValue blankAfter =>
    exact .last (blankBefore.cons space) isValue blankAfter
  | next blankBefore isValue blankAfter others =>
    exact .next (blankBefore.cons space) isValue blankAfter others

theorem MembersText.space {char : Char} {members : List (List Char × List Char)}
    {chars : List Char} (space : isSpace char) (areMembers : MembersText members chars) :
    MembersText members (char :: chars) := by
  cases areMembers with
  | last blankBefore isKey blankKey blankColon isValue blankAfter =>
    exact .last (blankBefore.cons space) isKey blankKey blankColon isValue blankAfter
  | next blankBefore isKey blankKey blankColon isValue blankAfter others =>
    exact .next (blankBefore.cons space) isKey blankKey blankColon isValue blankAfter others

private theorem ListRest.space {char : Char} {rest : List Char} (space : isSpace char)
    (ends : ListRest rest) : ListRest (char :: rest) := by
  cases ends with
  | close blank => exact .close (blank.cons space)
  | comma blank areItems => exact .comma (blank.cons space) areItems

private theorem ObjectRest.space {char : Char} {rest : List Char} (space : isSpace char)
    (ends : ObjectRest rest) : ObjectRest (char :: rest) := by
  cases ends with
  | close blank => exact .close (blank.cons space)
  | comma blank areMembers => exact .comma (blank.cons space) areMembers

/-- White space may stand at every place. -/
private theorem Completes.space {char : Char} {awaiting : Awaiting α} {stack : List (Frame α)}
    {text : List Char} (space : isSpace char) (completes : Completes awaiting stack text) :
    Completes awaiting stack (char :: text) := by
  obtain ⟨ends, closes⟩ := completes
  rw [← List.cons_append]
  refine .intro ?_ closes
  cases ends with
  | value blank isValue => exact .value (blank.cons space) isValue
  | emptyList blank => exact .emptyList (blank.cons space)
  | firstItem areItems => exact .firstItem (areItems.space space)
  | nextItem areItems => exact .nextItem (areItems.space space)
  | itemEnd ends => exact .itemEnd (ends.space space)
  | emptyObject blank => exact .emptyObject (blank.cons space)
  | firstKey areMembers => exact .firstKey (areMembers.space space)
  | nextKey areMembers => exact .nextKey (areMembers.space space)
  | colon blankBefore blankBehind isValue ends =>
    exact .colon (blankBefore.cons space) blankBehind isValue ends
  | memberEnd ends => exact .memberEnd (ends.space space)

/-! ### Items and members -/

private theorem items_of_rest {value rest : List Char} (isValue : ValueText value)
    (ends : ListRest rest) : ∃ items, value ++ rest = items ++ [']'] ∧ ItemsText items := by
  cases ends with
  | close blank => exact ⟨_, by simp, .last spaces_nil isValue blank⟩
  | comma blank areItems => exact ⟨_, by simp, .next spaces_nil isValue blank areItems⟩

private theorem members_of_rest {key before behind value rest : List Char}
    (isKey : StringText key) (blankBefore : Spaces before) (blankBehind : Spaces behind)
    (isValue : ValueText value) (ends : ObjectRest rest) :
    ∃ members chars, key ++ (before ++ ':' :: (behind ++ (value ++ rest))) = chars ++ ['\x7d'] ∧
      MembersText members chars := by
  cases ends with
  | close blank =>
    exact ⟨_, _, by simp, .last spaces_nil isKey blankBefore blankBehind isValue blank⟩
  | comma blank areMembers =>
    exact ⟨_, _, by simp, .next spaces_nil isKey blankBefore blankBehind isValue blank areMembers⟩

/-! ### Steps -/

/-- A style whose scalars and keys are those of the grammar. -/
structure Style.Sound (style : Style α) : Prop where
  scalar {first : Char} {rest : List Char} {lexeme : Lexeme α}
    (reads : style.scalar? first rest = some (.ok lexeme)) :
    Takes ValueText first rest lexeme.length
  key {rest : List Char} {lexeme : Lexeme String} (reads : style.key rest = .ok lexeme) :
    Takes StringText '"' rest lexeme.length

@[simp] theorem length_accept (value : α) (length : Nat) (stack : List (Frame α)) :
    (Style.accept value length stack).length = length := by
  cases stack with
  | nil => rfl
  | cons frame stack => cases frame <;> rfl

/-- A value that is handed on leaves the stack to be closed. -/
theorem closes_of_accept {value : α} {length : Nat} {stack : List (Frame α)} {text : List Char}
    (completed : (Style.accept value length stack).Completed text) : Closes stack text := by
  cases stack with
  | nil =>
    obtain rfl : text = [] := completed
    exact .nil
  | cons frame stack =>
    cases frame with
    | list read =>
      obtain ⟨ends, closes⟩ := completed
      cases ends with
      | itemEnd ends => exact .list ends closes
    | object read key =>
      obtain ⟨ends, closes⟩ := completed
      cases ends with
      | memberEnd ends => exact .object ends closes

section Steps

variable {style : Style α} {stack : List (Frame α)} {char : Char} {rest : List Char}
  {progress : Progress α}

private theorem startValue_advances (sound : style.Sound)
    (starts : style.startValue stack char rest = .ok progress) :
    Advances (fun text => ∃ value behind, text = value ++ behind ∧ ValueText value ∧
      Closes stack behind) char rest progress := by
  unfold Style.startValue at starts
  split at starts
  · rename_i opens
    split at starts
    · obtain rfl := Except.ok.inj starts
      refine ⟨[], rest, rfl, rfl, fun text completed => ?_⟩
      obtain ⟨ends, closes⟩ := completed
      rcases opens with rfl | rfl
      · rw [if_pos rfl] at ends
        cases ends with
        | emptyList blank => exact ⟨_, _, rfl, .emptyList blank, closes⟩
        | firstItem areItems => exact ⟨_, _, rfl, .list areItems, closes⟩
      · rw [if_neg (by decide)] at ends
        cases ends with
        | emptyObject blank => exact ⟨_, _, rfl, .object (.empty blank), closes⟩
        | firstKey areMembers => exact ⟨_, _, rfl, .object (.members areMembers), closes⟩
    · cases starts
  · split at starts
    · rename_i lexeme reads
      obtain rfl := Except.ok.inj starts
      obtain ⟨tail, more, rfl, size, isValue⟩ := sound.scalar reads
      refine ⟨tail, more, rfl, (length_accept _ _ _).trans size, fun text completed => ?_⟩
      exact ⟨char :: tail, text, rfl, isValue, closes_of_accept completed⟩
    · cases starts
    · cases starts

private theorem startItem_advances {read : List α} (sound : style.Sound)
    (starts : style.startValue (.list read :: stack) char rest = .ok progress) :
    Advances (fun text => ∃ items behind, text = (items ++ [']']) ++ behind ∧ ItemsText items ∧
      Closes stack behind) char rest progress := by
  refine (startValue_advances sound starts).mono ?_
  rintro _ ⟨value, behind, rfl, isValue, closes⟩
  cases closes with
  | list ends closes =>
    obtain ⟨items, split, areItems⟩ := items_of_rest isValue ends
    refine ⟨items, _, ?_, areItems, closes⟩
    rw [← List.append_assoc, split]

private theorem startKey_advances {read : List (String × α)} (sound : style.Sound)
    (starts : style.startKey read stack char rest = .ok progress) :
    Advances (fun text => ∃ members chars behind, text = (chars ++ ['\x7d']) ++ behind ∧
      MembersText members chars ∧ Closes stack behind) char rest progress := by
  unfold Style.startKey at starts
  split at starts
  · rename_i quote
    split at starts
    · rename_i lexeme reads
      obtain rfl := Except.ok.inj starts
      obtain ⟨tail, more, rfl, size, isKey⟩ := sound.key reads
      refine ⟨tail, more, rfl, size, fun text completed => ?_⟩
      obtain ⟨ends, closes⟩ := completed
      cases ends with
      | colon blankBefore blankBehind isValue ends =>
        obtain ⟨members, chars, split, areMembers⟩ :=
          members_of_rest isKey blankBefore blankBehind isValue ends
        refine ⟨members, chars, _, ?_, areMembers, closes⟩
        rw [← split, quote]
        simp
    · cases starts
  · cases starts

/-- The end of a container hands it on as a value. -/
private theorem accept_advances {awaiting : Awaiting α} (value : α) (ends : Ends awaiting [char]) :
    Advances (Completes awaiting stack) char rest (Style.accept value 0 stack) :=
  ⟨[], rest, rfl, length_accept _ _ _, fun _ completed => .intro ends (closes_of_accept completed)⟩

/-- From every place, a step leads towards the end of the outermost value. -/
theorem step_advances (sound : style.Sound) {awaiting : Awaiting α}
    (steps : style.step awaiting stack char rest = .ok progress) :
    Advances (Completes awaiting stack) char rest progress := by
  cases awaiting with
  | value =>
    refine (startValue_advances sound steps).mono ?_
    rintro _ ⟨value, behind, rfl, isValue, closes⟩
    exact .intro (.value spaces_nil isValue) closes
  | firstItem =>
    simp only [Style.step] at steps
    split at steps
    · rename_i bracket
      obtain rfl := Except.ok.inj steps
      subst bracket
      exact accept_advances _ (.emptyList spaces_nil)
    · refine (startItem_advances sound steps).mono ?_
      rintro _ ⟨items, behind, rfl, areItems, closes⟩
      exact .intro (.firstItem areItems) closes
  | nextItem read =>
    simp only [Style.step] at steps
    split at steps
    · cases steps
    · refine (startItem_advances sound steps).mono ?_
      rintro _ ⟨items, behind, rfl, areItems, closes⟩
      exact .intro (.nextItem areItems) closes
  | itemEnd read =>
    simp only [Style.step] at steps
    split at steps
    · rename_i comma
      obtain rfl := Except.ok.inj steps
      subst comma
      refine ⟨[], rest, rfl, rfl, fun text completed => ?_⟩
      obtain ⟨ends, closes⟩ := completed
      cases ends with
      | nextItem areItems => exact .intro (.itemEnd (.comma spaces_nil areItems)) closes
    split at steps
    · rename_i bracket
      obtain rfl := Except.ok.inj steps
      subst bracket
      exact accept_advances _ (.itemEnd (.close spaces_nil))
    · cases steps
  | firstKey =>
    simp only [Style.step] at steps
    split at steps
    · rename_i brace
      obtain rfl := Except.ok.inj steps
      subst brace
      exact accept_advances _ (.emptyObject spaces_nil)
    · refine (startKey_advances sound steps).mono ?_
      rintro _ ⟨members, chars, behind, rfl, areMembers, closes⟩
      exact .intro (.firstKey areMembers) closes
  | nextKey read =>
    simp only [Style.step] at steps
    split at steps
    · cases steps
    · refine (startKey_advances sound steps).mono ?_
      rintro _ ⟨members, chars, behind, rfl, areMembers, closes⟩
      exact .intro (.nextKey areMembers) closes
  | colon read key =>
    simp only [Style.step] at steps
    split at steps
    · rename_i colon
      obtain rfl := Except.ok.inj steps
      subst colon
      refine ⟨[], rest, rfl, rfl, fun text completed => ?_⟩
      obtain ⟨ends, closes⟩ := completed
      cases ends with
      | @value spaces value blank isValue =>
        cases closes with
        | @object _ _ _ here behind ends closes =>
          have whole : ':' :: ([] ++ (spaces ++ value ++ (here ++ behind))) =
              ([] ++ ':' :: (spaces ++ (value ++ here))) ++ behind := by simp
          rw [whole]
          exact .intro (.colon spaces_nil blank isValue ends) closes
    · cases steps
  | memberEnd read =>
    simp only [Style.step] at steps
    split at steps
    · rename_i comma
      obtain rfl := Except.ok.inj steps
      subst comma
      refine ⟨[], rest, rfl, rfl, fun text completed => ?_⟩
      obtain ⟨ends, closes⟩ := completed
      cases ends with
      | nextKey areMembers => exact .intro (.memberEnd (.comma spaces_nil areMembers)) closes
    split at steps
    · rename_i brace
      obtain rfl := Except.ok.inj steps
      subst brace
      exact accept_advances _ (.memberEnd (.close spaces_nil))
    · cases steps

end Steps

/-! ### Runs -/

/-- What a whole run takes completes the state that it started in. -/
theorem readFrom_completes {style : Style α} (sound : style.Sound) {awaiting : Awaiting α}
    {stack : List (Frame α)} {length : Nat} {chars : List Char} {lexeme : Lexeme α}
    (reads : style.readFrom awaiting stack length chars = .ok lexeme) :
    ∃ text rest, chars = text ++ rest ∧ lexeme.length = length + text.length ∧
      Completes awaiting stack text := by
  fun_induction Style.readFrom style awaiting stack length chars with
  | case1 => cases reads
  | case2 awaiting stack length char rest space ih =>
    obtain ⟨text, behind, rfl, size, completes⟩ := ih reads
    refine ⟨char :: text, behind, rfl, ?_, completes.space space⟩
    rw [size, List.length_cons]
    omega
  | case3 => cases reads
  | case4 awaiting stack length char rest space value taken steps =>
    obtain rfl := Except.ok.inj reads
    obtain ⟨tail, behind, rfl, size, leads⟩ := step_advances sound steps
    have completes := leads [] rfl
    rw [List.append_nil] at completes
    obtain rfl : taken = tail.length := size
    refine ⟨char :: tail, behind, rfl, ?_, completes⟩
    rw [List.length_cons, Nat.add_comm tail.length, ← Nat.add_assoc]
  | case5 awaiting stack length char rest space next after taken steps ih =>
    obtain ⟨tail, behind, rfl, size, leads⟩ := step_advances sound steps
    obtain rfl : taken = tail.length := size
    rw [List.drop_left] at ih reads
    obtain ⟨text, behind, rfl, total, completes⟩ := ih reads
    refine ⟨char :: (tail ++ text), behind, by simp, ?_, leads text completes⟩
    rw [total, List.length_cons, List.length_append]
    omega

/-- What is read as a value is one, with white space in front. -/
theorem read_takes_value {style : Style α} (sound : style.Sound) {chars : List Char}
    {lexeme : Lexeme α} (reads : style.read chars = .ok lexeme) :
    ∃ spaces value rest, chars = spaces ++ (value ++ rest) ∧
      lexeme.length = spaces.length + value.length ∧ Spaces spaces ∧ ValueText value := by
  obtain ⟨text, rest, rfl, size, completes⟩ := readFrom_completes sound reads
  obtain ⟨ends, closes⟩ := completes
  cases ends with
  | @value spaces value blank isValue =>
    cases closes with
    | nil => exact ⟨spaces, value, rest, by simp, by simp [size], blank, isValue⟩

/-- Passing over values by their form alone keeps to the grammar. -/
theorem skipStyle_sound : skipStyle.Sound where
  scalar := skipScalar?_takes
  key := by
    intro rest lexeme reads
    obtain ⟨passed, skips, rfl⟩ := map_eq_ok_iff.mp reads
    exact skipString_takes skips

end SealedEnvelope.Json
