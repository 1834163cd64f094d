import SealedEnvelope.Proofs.Json.Integers
import SealedEnvelope.Proofs.Json.Objects
import SealedEnvelope.Proofs.Json.Runs

/-!
What a JSON text denotes when its numbers are integers.

A scalar denotes itself, a list its items in their order, and an object what its members leave when
the last of equal keys wins. Containers stand in each other, and only so many of them. The reader
takes each such text for the value that it denotes.
-/

namespace SealedEnvelope.Json

/-! ### Texts and their values -/

/-- Texts between commas, with white space around each. -/
inductive Separated : List (List Char) → List Char → Prop where
  | none {spaces : List Char} (blank : Spaces spaces) : Separated [] spaces
  | last {before text after : List Char} (blankBefore : Spaces before)
      (blankAfter : Spaces after) : Separated [text] (before ++ (text ++ after))
  | next {before text after rest : List Char} {texts : List (List Char)}
      (blankBefore : Spaces before) (blankAfter : Spaces after) (more : texts ≠ [])
      (others : Separated texts rest) :
      Separated (text :: texts) (before ++ (text ++ (after ++ ',' :: rest)))

/-- A member as it is written. -/
structure Written where
  name : String
  value : Value
  key : List Char
  beforeColon : List Char
  behindColon : List Char
  text : List Char
  isKey : Literal name key
  blankKey : Spaces beforeColon
  blankColon : Spaces behindColon

/-- The characters of a member. -/
def Written.chars (member : Written) : List Char :=
  member.key ++ (member.beforeColon ++ ':' :: (member.behindColon ++ member.text))

/-- What a member adds to its object. -/
def Written.entry (member : Written) : String × Value := (member.name, member.value)

/-- A text with integers for numbers denotes a value, and has no more containers in each other than
there is room for. -/
inductive Denotes : Nat → Value → List Char → Prop where
  | null {room : Nat} : Denotes room .null "null".toList
  | boolean {room : Nat} (value : Bool) :
      Denotes room (.boolean value) (if value then "true" else "false").toList
  | integer {room : Nat} {value : Int} (exact : Exact value) :
      Denotes room (.number (.integer value)) (toString value).toList
  | string {room : Nat} {text : String} {literal : List Char} (isString : Literal text literal) :
      Denotes room (.string text) literal
  | list {room : Nat} {items : List (Value × List Char)} {chars : List Char}
      (each : ∀ item ∈ items, Denotes room item.1 item.2)
      (separated : Separated (items.map Prod.snd) chars) :
      Denotes (room + 1) (.list (items.map Prod.fst)) ('[' :: (chars ++ [']']))
  | object {room : Nat} {written : List Written} {members : List (String × Value)}
      {chars : List Char} (each : ∀ member ∈ written, Denotes room member.value member.text)
      (separated : Separated (written.map Written.chars) chars)
      (lastWins : LastWins (written.map Written.entry) members) :
      Denotes (room + 1) (.object members) ('\x7b' :: (chars ++ ['\x7d']))

variable {α : Type} {style : Style α} {stack : List (Frame α)} {room : Nat} {value : Value}
  {text chars : List Char} {closing : Char}

/-! ### How texts begin -/

/-- The first character of a value is no white space, and closes no list. -/
theorem Denotes.head (denotes : Denotes room value text) :
    ∃ first tail, text = first :: tail ∧ isSpace first = false ∧ first ≠ ']' := by
  cases denotes with
  | null => exact ⟨_, _, rfl, rfl, by decide⟩
  | boolean value => cases value <;> exact ⟨_, _, rfl, rfl, by decide⟩
  | @integer _ value _ =>
    obtain ⟨first, tail, literal, starts⟩ := exists_toString_cons value
    obtain ⟨visible, noBracket, _⟩ := visible_of_number starts
    exact ⟨first, tail, literal, visible, noBracket⟩
  | string isString =>
    obtain ⟨tail, rfl⟩ := isString.exists_tail
    exact ⟨_, _, rfl, rfl, by decide⟩
  | list _ _ | object _ _ _ => exact ⟨_, _, rfl, rfl, by decide⟩

theorem Denotes.begins (denotes : Denotes room value text) : BeginsBeside ']' text := by
  obtain ⟨first, tail, rfl, visible, noBracket⟩ := denotes.head
  exact ⟨[], first, tail, rfl, spaces_nil, visible, noBracket⟩

theorem Written.begins (member : Written) : BeginsBeside '\x7d' member.chars := by
  obtain ⟨tail, literal⟩ := member.isKey.exists_tail
  rw [Written.chars, literal]
  exact ⟨[], '"', _, rfl, spaces_nil, rfl, by decide⟩

theorem Separated.begins {texts : List (List Char)} (separated : Separated texts chars)
    (more : texts ≠ []) (each : ∀ text ∈ texts, BeginsBeside closing text) :
    BeginsBeside closing chars := by
  cases separated with
  | none => exact absurd rfl more
  | last blankBefore _ | next blankBefore _ _ _ =>
    exact ((each _ List.mem_cons_self).append _).behind blankBefore

/-! ### Reading entry by entry -/

section Entries

variable {β γ : Type} {next finish : List β → Awaiting α} {entry : γ → β} {form : γ → List Char}

/-- A text is read as an entry of the innermost container, up to the comma or the end behind it. -/
def Style.ReadsEntry (style : Style α) (stack : List (Frame α)) (next finish : List β → Awaiting α)
    (entry : β) (text : List Char) : Prop :=
  ∀ read before after rest length, Spaces before → Spaces after → Delimited rest →
    style.readFrom (next read) stack length (before ++ (text ++ (after ++ rest))) =
      style.readFrom (finish (entry :: read)) stack
        (length + (before ++ (text ++ after)).length) rest

/-- Entries between commas are read one behind the other. -/
theorem readFrom_separated (comma : ∀ read, Leads style stack (finish read) ',' (next read))
    {written : List γ} (more : written ≠ []) (separated : Separated (written.map form) chars)
    (reads : ∀ one ∈ written, style.ReadsEntry stack next finish (entry one) (form one))
    (read : List β) (length : Nat) {rest : List Char} (delimited : Delimited rest) :
    style.readFrom (next read) stack length (chars ++ rest) =
      style.readFrom (finish ((written.map entry).reverse ++ read)) stack (length + chars.length)
        rest := by
  induction written generalizing read length chars with
  | nil => exact absurd rfl more
  | cons one others ih =>
    obtain ⟨readsOne, readsOthers⟩ := List.forall_mem_cons.mp reads
    rw [List.map_cons] at separated
    rw [List.map_cons, List.reverse_cons, List.append_assoc, List.singleton_append]
    generalize texts : others.map form = otherTexts at separated
    cases separated with
    | last blankBefore blankAfter =>
      rw [List.map_eq_nil_iff.mp texts, List.append_assoc, List.append_assoc,
        readsOne _ _ _ _ _ blankBefore blankAfter delimited]
      rfl
    | next blankBefore blankAfter moreTexts separatedOthers =>
      obtain rfl := texts
      have moreOthers : others ≠ [] := fun none => moreTexts (by rw [none, List.map_nil])
      simp only [List.append_assoc, List.cons_append]
      rw [readsOne _ _ _ _ _ blankBefore blankAfter (delimited_punctuation (by decide) _),
        readFrom_leads (comma _), ih moreOthers separatedOthers readsOthers]
      congr 1
      simp only [List.length_append, List.length_cons]
      omega

end Entries

theorem readsEntry_item {item : α} (begins : BeginsBeside ']' text)
    (reads : ∀ read, style.Reads item text (.list read :: stack)) :
    style.ReadsEntry stack .nextItem .itemEnd item text :=
  fun read _ _ _ length blankBefore blankAfter delimited =>
    readFrom_item blankBefore blankAfter delimited begins (reads read) length

theorem readsEntry_member {stack : List (Frame Value)} {member : Written}
    (reads : ∀ read,
      valueStyle.Reads member.value member.text (.object read member.name :: stack)) :
    valueStyle.ReadsEntry stack .nextKey .memberEnd member.entry member.chars := by
  intro read before after rest length blankBefore blankAfter delimited
  obtain ⟨name, value, key, beforeColon, behindColon, text, isKey, blankKey, blankColon⟩ := member
  obtain ⟨tail, rfl⟩ := isKey.exists_tail
  have readsKey (rest : List Char) (_ : Delimited rest) :
      valueStyle.key (tail ++ rest) = .ok ⟨name, tail.length⟩ :=
    readString_eq_ok_iff.mpr ⟨tail, rest, rfl, isKey, rfl⟩
  simp only [Written.chars, List.append_assoc, List.cons_append]
  exact readFrom_member blankBefore blankAfter delimited readsKey blankKey blankColon (reads read)
    length

/-! ### Scalars -/

private theorem reads_word {first : Char} {letters : List Char}
    (visible : isSpace first = false) (noContainer : ¬ (first = '[' ∨ first = '\x7b'))
    (word : ∀ rest, readScalar? first rest = some (readWord value letters rest))
    (stack : List (Frame Value)) : valueStyle.Reads value (first :: letters) stack := by
  refine reads_scalar visible noContainer fun rest _ => (word _).trans (congrArg some ?_)
  exact readWord_eq_ok_iff.mpr ⟨rest, rfl, rfl⟩

private theorem reads_string {content : String} {literal : List Char}
    (isString : Literal content literal) (stack : List (Frame Value)) :
    valueStyle.Reads (.string content) literal stack := by
  obtain ⟨tail, rfl⟩ := isString.exists_tail
  refine reads_scalar rfl (by decide) fun rest _ => congrArg some ?_
  have reads : readString (tail ++ rest) = .ok ⟨content, tail.length⟩ :=
    readString_eq_ok_iff.mpr ⟨tail, rest, rfl, isString, rfl⟩
  rw [reads]
  rfl

theorem readScalar?_number {first : Char} (starts : first = '-' ∨ isDigit first)
    (rest : List Char) :
    readScalar? first rest = some (Lexeme.map .number <$> readNumber first rest) := by
  obtain ⟨_, _, _, _, noNull, noTrue, noFalse, noQuote⟩ := visible_of_number starts
  rw [readScalar?, if_neg noNull, if_neg noTrue, if_neg noFalse, if_neg noQuote, if_pos starts]

private theorem reads_integer {value : Int} (exact : Exact value) (stack : List (Frame Value)) :
    valueStyle.Reads (.number (.integer value)) (toString value).toList stack := by
  obtain ⟨first, tail, literal, starts⟩ := exists_toString_cons value
  obtain ⟨visible, _, noList, noObject, _⟩ := visible_of_number starts
  rw [literal]
  refine reads_scalar visible (not_or.mpr ⟨noList, noObject⟩) fun rest delimited => ?_
  refine (readScalar?_number starts _).trans (congrArg some ?_)
  rw [readNumber_integer exact literal delimited]
  rfl

/-! ### Values -/

theorem mayOpen_valueStyle {stack : List (Frame Value)} :
    valueStyle.mayOpen stack = true ↔ stack.length < 127 := decide_eq_true_iff

/-- A text is read for the value that it denotes, where as many containers may still be opened as
there is room for. -/
theorem reads_of_denotes (denotes : Denotes room value text) (stack : List (Frame Value))
    (fits : stack.length + room ≤ 127) : valueStyle.Reads value text stack := by
  induction denotes generalizing stack with
  | null => exact reads_word rfl (by decide) (fun _ => rfl) stack
  | boolean value => cases value <;> exact reads_word rfl (by decide) (fun _ => rfl) stack
  | integer exact => exact reads_integer exact stack
  | string isString => exact reads_string isString stack
  | @list room items chars each separated ih =>
    have mayOpen : valueStyle.mayOpen stack = true := mayOpen_valueStyle.mpr (by omega)
    rcases eq_or_ne items [] with rfl | more
    · cases separated with
      | none blank => exact reads_empty (.openList mayOpen) .emptyList blank
    · have begins : BeginsBeside ']' chars := by
        refine separated.begins (mt List.map_eq_nil_iff.mp more) fun text isText => ?_
        obtain ⟨item, isItem, rfl⟩ := List.mem_map.mp isText
        exact (each item isItem).begins
      refine reads_list mayOpen begins fun length rest => ?_
      have ends : Delimited (']' :: rest) := delimited_punctuation (by decide) rest
      rw [readFrom_separated (fun _ => .itemComma) more separated
        (fun item isItem => readsEntry_item (each item isItem).begins fun read =>
          ih item isItem (.list read :: stack) (by rw [List.length_cons]; omega))
        [] length ends, readFrom_ending .list, List.append_nil]
      congr 1
      exact congrArg Value.list (List.reverse_reverse _)
  | @object room written members chars each separated lastWins ih =>
    have mayOpen : valueStyle.mayOpen stack = true := mayOpen_valueStyle.mpr (by omega)
    obtain rfl := lastWins.unique (lastWins_ofLastFirst _)
    rcases eq_or_ne written [] with rfl | more
    · cases separated with
      | none blank => exact reads_empty (.openObject mayOpen) .emptyObject blank
    · have begins : BeginsBeside '\x7d' chars := by
        refine separated.begins (mt List.map_eq_nil_iff.mp more) fun text isText => ?_
        obtain ⟨member, _, rfl⟩ := List.mem_map.mp isText
        exact member.begins
      refine reads_object mayOpen begins fun length rest => ?_
      have ends : Delimited ('\x7d' :: rest) := delimited_punctuation (by decide) rest
      rw [readFrom_separated (fun _ => .memberComma) more separated
        (fun member isMember => readsEntry_member fun read =>
          ih member isMember (.object read member.name :: stack) (by rw [List.length_cons]; omega))
        [] length ends, readFrom_ending .object, List.append_nil]
      rfl

/-! ### Whole texts -/

/-- A whole text that denotes a value, with white space around it and no more than 127 containers in
each other. -/
def Document (value : Value) (text : String) : Prop :=
  ∃ before chars after, text.toList = before ++ (chars ++ after) ∧ Spaces before ∧ Spaces after ∧
    Denotes 127 value chars

theorem parse_eq_ok_iff_read {text : String} {value : Value} :
    parse text = .ok value ↔ ∃ length, valueStyle.read text.toList = .ok ⟨value, length⟩ ∧
      Spaces (text.toList.drop length) := by
  rw [parse, mapError_eq_ok_iff, bind_eq_ok_iff]
  constructor
  · rintro ⟨⟨found, length⟩, reads, ends⟩
    obtain ⟨_, blank, same⟩ := bind_eq_ok_iff.mp ends
    obtain rfl := Except.ok.inj same
    exact ⟨length, reads, expectEnd_eq_ok_iff.mp blank⟩
  · rintro ⟨length, reads, blank⟩
    exact ⟨⟨value, length⟩, reads, bind_eq_ok_iff.mpr ⟨(), expectEnd_eq_ok_iff.mpr blank, rfl⟩⟩

/-- A text that denotes a value is read for it. -/
theorem Document.parse {text : String} {value : Value} (document : Document value text) :
    parse text = .ok value := by
  obtain ⟨before, chars, after, split, blankBefore, blankAfter, denotes⟩ := document
  have delimited : Delimited after := by
    rw [← List.append_nil after]
    exact delimited_spaces blankAfter nofun
  have reads : valueStyle.read text.toList = .ok ⟨value, before.length + chars.length⟩ := by
    rw [split, Style.read, readFrom_spaces blankBefore, Nat.zero_add]
    exact reads_of_denotes denotes [] (by decide) before.length after delimited
  refine parse_eq_ok_iff_read.mpr ⟨before.length + chars.length, reads, ?_⟩
  rwa [split, ← List.append_assoc, List.drop_left' (List.length_append)]

end SealedEnvelope.Json
