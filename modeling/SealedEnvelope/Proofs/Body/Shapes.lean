import SealedEnvelope.Proofs.Body.Members

/-!
The two shapes of a body: an object whose member `data` counts, and a list of one item.

A text is read as a body only if it has one of the two, and a list of one item that is data always
is. So the reader takes more than objects.
-/

namespace SealedEnvelope.Body

open Json

/-- An object that carries data: no member has their name, or exactly one. -/
inductive InObject : Option String → List Char → Prop where
  | absent {members : List (List Char × List Char)} {chars : List Char}
      (isObject : ObjectText members chars) (without : Without dataKey members) :
      InObject none chars
  | present {data : Option String} {members : List (List Char × List Char)}
      {chars value : List Char} (isObject : ObjectText members chars)
      (only : OnlyOne dataKey value members) (holds : DataText data value) : InObject data chars

/-- A list whose only item is data. -/
inductive InList (data : Option String) : List Char → Prop where
  | item {before item after : List Char} (blankBefore : Spaces before)
      (holds : DataText data item) (blankAfter : Spaces after) :
      InList data ('[' :: (before ++ (item ++ (after ++ [']']))))

/-! ### Lists of one item -/

private theorem readListEnd_eq_ok_iff {chars rest : List Char} :
    readListEnd chars = .ok rest ↔ ∃ spaces, chars = spaces ++ ']' :: rest ∧ Spaces spaces := by
  constructor
  · intro reads
    have whole := takeWhile_append_skipSpace chars
    unfold readListEnd at reads
    split at reads
    · cases reads
    · rename_i visible
      cases reads
      rw [visible] at whole
      exact ⟨_, whole.symm, spaces_takeWhile chars⟩
    · split at reads <;> cases reads
    · cases reads
  · rintro ⟨spaces, rfl, blank⟩
    rw [readListEnd, skipSpace_append_cons blank rfl]
    rfl

private theorem inList_of_readList {chars rest : List Char} {data : Option String}
    (reads : readList chars = .ok (data, rest)) :
    ∃ value, '[' :: chars = value ++ rest ∧ InList data value := by
  have whole := takeWhile_append_skipSpace chars
  have blankBefore := spaces_takeWhile chars
  unfold readList at reads
  generalize chars.takeWhile isSpace = before at *
  split at reads
  · cases reads
  · cases reads
  · obtain ⟨found, first, reads⟩ := bind_eq_ok_iff.mp reads
    obtain ⟨between, item, behind, visible, blankBetween, holds, size⟩ :=
      dataText_of_readData first
    have split : skipSpace chars = (between ++ item) ++ behind := by
      rw [visible, List.append_assoc]
    have dropped : (skipSpace chars).drop found.length = behind := by
      rw [split, size]
      exact List.drop_left' List.length_append
    rw [dropped] at reads
    obtain ⟨after, second, reads⟩ := bind_eq_ok_iff.mp reads
    cases reads
    obtain ⟨spaces, rfl, blankAfter⟩ := readListEnd_eq_ok_iff.mp second
    have blank : Spaces (before ++ between) :=
      List.forall_mem_append.mpr ⟨blankBefore, blankBetween⟩
    refine ⟨_, ?_, .item blank holds blankAfter⟩
    rw [← whole, split]
    simp

private theorem DataText.head {data : Option String} {item : List Char}
    (holds : DataText data item) :
    ∃ first tail, item = first :: tail ∧ isSpace first = false ∧ first ≠ ']' := by
  cases holds with
  | null => exact ⟨_, _, rfl, rfl, by decide⟩
  | literal denotes =>
    cases denotes
    exact ⟨_, _, rfl, rfl, by decide⟩

private theorem readList_item {before item after : List Char} {data : Option String}
    (blankBefore : Spaces before) (holds : DataText data item) (blankAfter : Spaces after)
    (rest : List Char) :
    readList (before ++ (item ++ (after ++ ']' :: rest))) = .ok (data, rest) := by
  have readsItem := readData_spelled spaces_nil holds (after ++ ']' :: rest)
  have readsEnd : readListEnd (after ++ ']' :: rest) = .ok rest :=
    readListEnd_eq_ok_iff.mpr ⟨after, rfl, blankAfter⟩
  obtain ⟨first, tail, rfl, noSpace, noEnd⟩ := holds.head
  have dropped : (first :: tail ++ (after ++ ']' :: rest)).drop
      (([] : List Char).length + (first :: tail).length) = after ++ ']' :: rest :=
    List.drop_left' (Nat.zero_add _).symm
  rw [readList, List.cons_append, skipSpace_append_cons blankBefore noSpace]
  split
  · rename_i empty
    cases empty
  · rename_i bracket
    exact absurd (List.cons.inj bracket).1 noEnd
  · rw [List.nil_append, List.cons_append] at readsItem
    rw [List.cons_append] at dropped
    simp only [readsItem, bind, Except.bind, dropped, readsEnd]
    rfl

/-! ### Whole bodies -/

theorem readBody_takes {chars rest : List Char} {data : Option String}
    (reads : readBody chars = .ok (data, rest)) :
    ∃ spaces value, chars = spaces ++ (value ++ rest) ∧ Spaces spaces ∧
      (InObject data value ∨ InList data value) := by
  have whole := takeWhile_append_skipSpace chars
  have blank := spaces_takeWhile chars
  unfold readBody at reads
  generalize chars.takeWhile isSpace = spaces at *
  split at reads
  · cases reads
  · rename_i behind visible
    rw [visible] at whole
    obtain ⟨text, members, final, rfl, fits, gathers, rfl⟩ := readMembers_takes reads
    have isObject : ObjectText members ('\x7b' :: (text ++ ['\x7d'])) := by
      cases fits with
      | empty blank => exact .empty blank
      | first areMembers => exact .members areMembers
    refine ⟨spaces, '\x7b' :: (text ++ ['\x7d']), ?_, blank, .inl ?_⟩
    · rw [← whole]
      simp
    · rcases gathers.of_none with ⟨rfl, without⟩ | ⟨found, value, rfl, holds, only⟩
      · exact .absent isObject without
      · exact .present isObject only holds
  · rename_i behind visible
    rw [visible] at whole
    obtain ⟨value, split, inList⟩ := inList_of_readList reads
    refine ⟨spaces, value, ?_, blank, .inr inList⟩
    rw [← whole, split]
  · cases reads

theorem readBody_item {data : Option String} {value : List Char} (inList : InList data value) :
    readBody value = .ok (data, []) := by
  obtain ⟨blankBefore, holds, blankAfter⟩ := inList
  exact readList_item blankBefore holds blankAfter []

/-- A text is read as a body only if it is one of the two shapes. -/
theorem parse_takes {text : String} {data : Option String} (parses : parse text = .ok ⟨data⟩) :
    ∃ before value after, text.toList = before ++ (value ++ after) ∧ Spaces before ∧
      Spaces after ∧ (InObject data value ∨ InList data value) := by
  obtain ⟨⟨found, rest⟩, first, reads⟩ := bind_eq_ok_iff.mp (mapError_eq_ok_iff.mp parses)
  obtain ⟨_, second, reads⟩ := bind_eq_ok_iff.mp reads
  cases reads
  obtain ⟨before, value, split, blankBefore, shape⟩ := readBody_takes first
  exact ⟨before, value, rest, split, blankBefore, expectEnd_eq_ok_iff.mp second, shape⟩

theorem parse_item {text : String} {data : Option String} (inList : InList data text.toList) :
    parse text = .ok ⟨data⟩ := by
  unfold parse
  simp only [readBody_item inList, bind, Except.bind]
  rfl

/-! ### Between blank characters -/

private theorem isBlank_of_spaces {chars : List Char} (spaces : Spaces chars) :
    ∀ char ∈ chars, Text.isBlank char := by
  intro char member
  rcases isSpace_cases (spaces char member) with rfl | rfl | rfl | rfl <;> rfl

private theorem InObject.braces {data : Option String} {chars : List Char}
    (inObject : InObject data chars) : ∃ inner, chars = '\x7b' :: (inner ++ ['\x7d']) := by
  cases inObject with
  | absent isObject => cases isObject <;> exact ⟨_, rfl⟩
  | present isObject => cases isObject <;> exact ⟨_, rfl⟩

private theorem InList.brackets {data : Option String} {chars : List Char}
    (inList : InList data chars) : ∃ inner, chars = '[' :: (inner ++ [']']) := by
  obtain @⟨before, item, after, _, _, _⟩ := inList
  exact ⟨before ++ (item ++ after), by simp⟩

/-- A trimmed text that is read as a body has one of the two shapes from end to end. -/
theorem parse_trim_takes {text : String} {data : Option String}
    (parses : parse (Text.trim text) = .ok ⟨data⟩) :
    InObject data (Text.trim text).toList ∨ InList data (Text.trim text).toList := by
  obtain ⟨before, value, after, split, blankBefore, blankAfter, shape⟩ := parse_takes parses
  have trimmed : Text.trimChars value = value := by
    rcases shape with inObject | inList
    · obtain ⟨inner, rfl⟩ := inObject.braces
      exact Text.trimChars_enclosed rfl rfl inner
    · obtain ⟨inner, rfl⟩ := inList.brackets
      exact Text.trimChars_enclosed rfl rfl inner
  have whole : (Text.trim text).toList = value := by
    calc (Text.trim text).toList
        = Text.trimChars (Text.trim text).toList := by
          rw [Text.trim, String.toList_ofList, Text.trimChars_trimChars]
      _ = Text.trimChars (before ++ value ++ after) := by rw [split, List.append_assoc]
      _ = Text.trimChars value :=
          Text.trimChars_surrounded (isBlank_of_spaces blankBefore) (isBlank_of_spaces blankAfter)
      _ = value := trimmed
  rw [whole]
  exact shape

theorem InObject.exists_members {data : Option String} {chars : List Char}
    (inObject : InObject data chars) : ∃ members, ObjectText members chars := by
  cases inObject with
  | absent isObject => exact ⟨_, isObject⟩
  | present isObject => exact ⟨_, isObject⟩

/-- No list is an object. -/
theorem InList.not_objectText {data : Option String} {chars : List Char}
    (inList : InList data chars) (members : List (List Char × List Char)) :
    ¬ ObjectText members chars := by
  obtain ⟨inner, rfl⟩ := inList.brackets
  rintro ⟨⟩

end SealedEnvelope.Body
