import SealedEnvelope.Proofs.Json.Denotation

/-!
Texts that are read denote the values they are read for.

A run that ends well has taken, at each place, a step that leads on. A value that it reads is a
scalar or a container; the items of a list and the members of an object are read one by one, each
from a shorter text. So the characters of each value denote it, by induction on how many are left.
-/

namespace SealedEnvelope.Json

/-! ### Places -/

section Places

variable {α : Type} {style : Style α} {stack : List (Frame α)} {lexeme : Lexeme α} {length : Nat}
  {chars : List Char}

/-- What starts a value opens a container or is a scalar. -/
theorem startValue_eq_ok {char : Char} {rest : List Char} {progress : Progress α}
    (starts : style.startValue stack char rest = .ok progress) :
    (∃ next, Leads style stack .value char next ∧ progress = .more next stack 0) ∨
      ∃ scalar, style.scalar? char rest = some (.ok scalar) ∧
        progress = Style.accept scalar.value scalar.length stack := by
  rw [Style.startValue] at starts
  split at starts
  · rename_i opens
    split at starts
    · rename_i mayOpen
      obtain rfl := Except.ok.inj starts
      rcases opens with rfl | rfl
      · exact .inl ⟨_, .openList mayOpen, rfl⟩
      · exact .inl ⟨_, .openObject mayOpen, rfl⟩
    · cases starts
  · split at starts
    · rename_i scalar scans
      exact .inr ⟨scalar, scans, (Except.ok.inj starts).symm⟩
    · cases starts
    · cases starts

/-- Behind the character that opens a container, the container ends or something starts in it. -/
theorem endsOrStarts {awaiting next : Awaiting α} {closing : Char} {empty : α}
    (ending : Ending style awaiting closing empty)
    (starts : BeginsBeside closing chars →
      style.readFrom awaiting stack length chars = style.readFrom next stack length chars)
    (reads : style.readFrom awaiting stack length chars = .ok lexeme) :
    (∃ spaces rest, chars = spaces ++ closing :: rest ∧ Spaces spaces ∧
      style.goOn empty (length + spaces.length + 1) rest stack = .ok lexeme) ∨
      style.readFrom next stack length chars = .ok lexeme := by
  obtain ⟨spaces, first, rest, _, rfl, blank, visible, _, _⟩ := exists_step_of_readFrom reads
  by_cases closes : first = closing
  · subst closes
    rw [readFrom_spaces blank, readFrom_ending ending] at reads
    exact .inl ⟨spaces, rest, rfl, blank, reads⟩
  · rw [starts ⟨spaces, first, rest, rfl, blank, visible, closes⟩] at reads
    exact .inr reads

/-- Behind an item or a member, a comma leads to the next one or the container ends. -/
theorem endsOrGoesOn {awaiting next : Awaiting α} {closing : Char} {value : α}
    (comma : Leads style stack awaiting ',' next) (ending : Ending style awaiting closing value)
    (refuses : ∀ first rest, first ≠ ',' → first ≠ closing →
      ∃ fault, style.step awaiting stack first rest = .error fault)
    (reads : style.readFrom awaiting stack length chars = .ok lexeme) :
    ∃ spaces rest, Spaces spaces ∧
      (chars = spaces ++ ',' :: rest ∧
          style.readFrom next stack (length + spaces.length + 1) rest = .ok lexeme ∨
        chars = spaces ++ closing :: rest ∧
          style.goOn value (length + spaces.length + 1) rest stack = .ok lexeme) := by
  obtain ⟨spaces, first, rest, _, rfl, blank, _, steps, _⟩ := exists_step_of_readFrom reads
  refine ⟨spaces, rest, blank, ?_⟩
  rw [readFrom_spaces blank] at reads
  by_cases isComma : first = ','
  · subst isComma
    rw [readFrom_leads comma] at reads
    exact .inl ⟨rfl, reads⟩
  by_cases closes : first = closing
  · subst closes
    rw [readFrom_ending ending] at reads
    exact .inr ⟨rfl, reads⟩
  · obtain ⟨fault, fails⟩ := refuses first rest isComma closes
    rw [fails] at steps
    cases steps

/-- An item is a value that the list waits for. -/
theorem nextItem_eq_ok {read : List α}
    (reads : style.readFrom (.nextItem read) stack length chars = .ok lexeme) :
    style.readFrom .value (.list read :: stack) length chars = .ok lexeme := by
  obtain ⟨spaces, first, rest, _, rfl, blank, visible, steps, _⟩ := exists_step_of_readFrom reads
  have noBracket : first ≠ ']' := by
    rintro rfl
    rw [Style.step, if_pos rfl] at steps
    cases steps
  rwa [readFrom_nextItem ⟨spaces, first, rest, rfl, blank, visible, noBracket⟩] at reads

/-- A member starts with its key, and a colon leads from there to its value. -/
theorem nextKey_eq_ok {read : List (String × α)}
    (reads : style.readFrom (.nextKey read) stack length chars = .ok lexeme) :
    ∃ before key rest, chars = before ++ '"' :: rest ∧ Spaces before ∧ style.key rest = .ok key ∧
      ∃ beforeColon more, rest.drop key.length = beforeColon ++ ':' :: more ∧ Spaces beforeColon ∧
        style.readFrom .value (.object read key.value :: stack)
          (length + before.length + 1 + key.length + beforeColon.length + 1) more = .ok lexeme := by
  obtain ⟨before, first, rest, progress, rfl, blank, _, steps, follows⟩ :=
    exists_step_of_readFrom reads
  rw [Style.step] at steps
  split at steps
  · cases steps
  rw [Style.startKey] at steps
  split at steps
  · rename_i quote
    subst quote
    split at steps
    · rename_i key readsKey
      obtain rfl := Except.ok.inj steps
      obtain ⟨beforeColon, char, more, progress, split, blankColon, _, steps, follows⟩ :=
        exists_step_of_readFrom follows
      rw [Style.step] at steps
      split at steps
      · rename_i colon
        subst colon
        obtain rfl := Except.ok.inj steps
        exact ⟨before, key, rest, rfl, blank, readsKey, beforeColon, more, split, blankColon,
          follows⟩
      · cases steps
    · cases steps
  · cases steps

end Places

/-! ### Entry by entry -/

section Entries

variable {α β γ : Type} {style : Style α} {stack : List (Frame α)} {lexeme : Lexeme α}
  {next finish : List β → Awaiting α} {closing : Char} {close : List β → α} {entry : γ → β}
  {form : γ → List Char}

/-- A run that ends well from the start of an entry has read one of a kind. -/
def Style.TakesEntry (style : Style α) (stack : List (Frame α)) (next finish : List β → Awaiting α)
    (entry : γ → β) (form : γ → List Char) (allowed : γ → Prop) (chars : List Char) : Prop :=
  ∀ read length lexeme, Integral chars →
    style.readFrom (next read) stack length chars = .ok lexeme →
      ∃ before one rest, chars = before ++ (form one ++ rest) ∧ Spaces before ∧ allowed one ∧
        Integral rest ∧ style.readFrom (finish (entry one :: read)) stack
          (length + (before ++ form one).length) rest = .ok lexeme

variable (comma : ∀ read, Leads style stack (finish read) ',' (next read))
  (ending : ∀ read, Ending style (finish read) closing (close read))
  (refuses : ∀ read first rest, first ≠ ',' → first ≠ closing →
    ∃ fault, style.step (finish read) stack first rest = .error fault)
  (plain : closing ≠ '"' ∧ startsNumber closing = false) {allowed : γ → Prop} {bound : Nat}
  (takes : ∀ chars, chars.length ≤ bound →
    style.TakesEntry stack next finish entry form allowed chars)

include comma ending refuses plain takes

/-- A run that ends well from the start of an entry reads entries between commas, up to the end of
the container. -/
private theorem exists_separated {read : List β} {length : Nat} {chars : List Char}
    (short : chars.length ≤ bound) (integral : Integral chars)
    (reads : style.readFrom (next read) stack length chars = .ok lexeme) :
    ∃ (written : List γ) (all rest : List Char), written ≠ [] ∧ chars = all ++ closing :: rest ∧
      Separated (written.map form) all ∧ (∀ one ∈ written, allowed one) ∧ Integral rest ∧
        style.goOn (close ((written.map entry).reverse ++ read)) (length + all.length + 1) rest
          stack = .ok lexeme := by
  -- Each entry but the last has a comma behind it, so fewer characters are left for the others.
  induction size : chars.length using Nat.strongRecOn generalizing read length chars with
  | ind total ih =>
    obtain ⟨before, one, behind, rfl, blankBefore, isOne, integralBehind, behindOne⟩ :=
      takes chars short read length lexeme integral reads
    obtain ⟨after, rest, blankAfter, ⟨rfl, goesOn⟩ | ⟨rfl, ends⟩⟩ :=
      endsOrGoesOn (comma _) (ending _) (refuses _) behindOne
    · have integralRest : Integral rest :=
        (integralBehind.behind_spaces blankAfter).behind_plain (by decide) (by decide)
      simp only [List.length_append, List.length_cons] at size short
      obtain ⟨others, all, rest, more, rfl, separated, areOthers, integralRest, ends⟩ :=
        ih rest.length (by omega) (by omega) integralRest goesOn rfl
      refine ⟨one :: others, before ++ (form one ++ (after ++ ',' :: all)), rest,
        List.cons_ne_nil one others, by simp,
        .next blankBefore blankAfter (mt List.map_eq_nil_iff.mp more) separated,
        List.forall_mem_cons.mpr ⟨isOne, areOthers⟩, integralRest, ?_⟩
      rw [List.map_cons, List.reverse_cons, List.append_assoc, List.singleton_append, ← ends]
      congr 1
      simp only [List.length_append, List.length_cons]
      omega
    · refine ⟨[one], before ++ (form one ++ after), rest, List.cons_ne_nil one [], by simp,
        .last blankBefore blankAfter, List.forall_mem_singleton.mpr isOne,
        (integralBehind.behind_spaces blankAfter).behind_plain plain.1 plain.2, ?_⟩
      rw [← ends]
      congr 1
      simp only [List.length_append]
      omega

/-- A run that ends well from behind the opening character reads entries, or none. -/
theorem exists_entries {first : Awaiting α} {length : Nat} {chars : List Char}
    (empty : Ending style first closing (close []))
    (starts : BeginsBeside closing chars →
      style.readFrom first stack length chars = style.readFrom (next []) stack length chars)
    (short : chars.length ≤ bound) (integral : Integral chars)
    (reads : style.readFrom first stack length chars = .ok lexeme) :
    ∃ (written : List γ) (all rest : List Char), chars = all ++ closing :: rest ∧
      Separated (written.map form) all ∧ (∀ one ∈ written, allowed one) ∧ Integral rest ∧
        style.goOn (close (written.map entry).reverse) (length + all.length + 1) rest stack =
          .ok lexeme := by
  rcases endsOrStarts empty starts reads with ⟨spaces, rest, rfl, blank, ends⟩ | goesOn
  · exact ⟨[], spaces, rest, rfl, .none blank, nofun,
      (integral.behind_spaces blank).behind_plain plain.1 plain.2, ends⟩
  · obtain ⟨written, all, rest, _, split, separated, each, integralRest, ends⟩ :=
      exists_separated comma ending refuses plain takes short integral goesOn
    rw [List.append_nil] at ends
    exact ⟨written, all, rest, split, separated, each, integralRest, ends⟩

end Entries

/-! ### Values -/

section Values

variable {stack : List (Frame Value)} {lexeme : Lexeme Value} {length : Nat} {chars : List Char}

section Scalars

variable {first : Char} {rest : List Char} {scalar : Lexeme Value} {room : Nat}
  (integral : Integral (first :: rest))

include integral

private theorem exists_word {word : Value} {letters : List Char}
    (plain : (first :: letters).all fun char => char != '"' && !startsNumber char)
    (isWord : Denotes room word (first :: letters))
    (reads : readWord word letters rest = .ok scalar) :
    ∃ tail more, rest = tail ++ more ∧ scalar.length = tail.length ∧
      Denotes room scalar.value (first :: tail) ∧ Integral more := by
  obtain ⟨more, rfl, rfl⟩ := readWord_eq_ok_iff.mp reads
  have whole : Integral ((first :: letters) ++ more) := integral
  exact ⟨letters, more, rfl, rfl, isWord, whole.behind_word plain⟩

/-- A scalar that is read is denoted by the characters it takes. -/
theorem exists_scalar (reads : readScalar? first rest = some (.ok scalar)) :
    ∃ tail more, rest = tail ++ more ∧ scalar.length = tail.length ∧
      Denotes room scalar.value (first :: tail) ∧ Integral more := by
  by_cases number : first = '-' ∨ isDigit first
  · obtain ⟨value, tail, more, rfl, exact, literal, delimited, integralMore⟩ :=
      integral.exists_integer (startsNumber_iff.mpr number)
    rw [readScalar?_number number, readNumber_integer exact literal delimited] at reads
    obtain rfl := Except.ok.inj (Option.some.inj reads)
    refine ⟨tail, more, rfl, rfl, ?_, integralMore⟩
    rw [← literal]
    exact .integer exact
  rw [readScalar?] at reads
  split at reads
  · rename_i same
    subst same
    exact exists_word integral rfl .null (Option.some.inj reads)
  split at reads
  · rename_i same
    subst same
    exact exists_word integral rfl (.boolean true) (Option.some.inj reads)
  split at reads
  · rename_i same
    subst same
    exact exists_word integral rfl (.boolean false) (Option.some.inj reads)
  split at reads
  · rename_i same
    subst same
    obtain ⟨content, readsString, rfl⟩ := map_eq_ok_iff.mp (Option.some.inj reads)
    obtain ⟨tail, more, rfl, isString, size⟩ := readString_eq_ok_iff.mp readsString
    exact ⟨tail, more, rfl, size, .string isString, Integral.behind_literal integral isString⟩
  · cases reads

end Scalars

/-- A value that is read at the start of a text, whatever is open around it, is denoted by the
characters it takes, and nests no deeper than the open containers leave room for. -/
def Described (chars : List Char) : Prop :=
  ∀ (stack : List (Frame Value)) length lexeme, Integral chars →
    valueStyle.readFrom .value stack length chars = .ok lexeme →
      ∃ before value text rest, chars = before ++ (text ++ rest) ∧ Spaces before ∧
        Denotes (127 - stack.length) value text ∧ Integral rest ∧
        valueStyle.goOn value (length + (before ++ text).length) rest stack = .ok lexeme

private theorem takesItem (described : Described chars) :
    valueStyle.TakesEntry stack .nextItem .itemEnd Prod.fst Prod.snd
      (fun item => Denotes (127 - (stack.length + 1)) item.1 item.2) chars := by
  intro read length lexeme integral reads
  obtain ⟨before, value, text, rest, rfl, blank, denotes, integralRest, goesOn⟩ :=
    described (.list read :: stack) length lexeme integral (nextItem_eq_ok reads)
  exact ⟨before, (value, text), rest, rfl, blank, denotes, integralRest, goesOn⟩

private theorem takesMember
    (described : ∀ shorter : List Char, shorter.length < chars.length → Described shorter) :
    valueStyle.TakesEntry stack .nextKey .memberEnd Written.entry Written.chars
      (fun member => Denotes (127 - (stack.length + 1)) member.value member.text) chars := by
  intro read length lexeme integral reads
  obtain ⟨before, ⟨name, size⟩, behind, rfl, blank, readsKey, beforeColon, more, split, blankKey,
    readsValue⟩ := nextKey_eq_ok reads
  obtain ⟨tail, behindKey, rfl, isKey, rfl⟩ := readString_eq_ok_iff.mp readsKey
  rw [List.drop_left] at split
  subst split
  have integralKey : Integral ('"' :: tail ++ (beforeColon ++ ':' :: more)) :=
    integral.behind_spaces blank
  have integralMore : Integral more :=
    ((integralKey.behind_literal isKey).behind_spaces blankKey).behind_plain (by decide) (by decide)
  have shorter : more.length <
      (before ++ '"' :: (tail ++ (beforeColon ++ ':' :: more))).length := by
    simp only [List.length_append, List.length_cons]
    omega
  obtain ⟨behindColon, value, text, rest, rfl, blankColon, denotes, integralRest, goesOn⟩ :=
    described more shorter _ _ lexeme integralMore readsValue
  refine ⟨before, ⟨name, value, '"' :: tail, beforeColon, behindColon, text, isKey, blankKey,
    blankColon⟩, rest, by simp [Written.chars], blank, denotes, integralRest, ?_⟩
  rw [← goesOn]
  show valueStyle.readFrom _ _ _ _ = valueStyle.readFrom _ _ _ _
  congr 1
  simp only [Written.chars, List.length_append, List.length_cons]
  omega

/-- A container that is read is denoted by the characters it takes. -/
private theorem exists_container {first : Char} {rest : List Char} {next : Awaiting Value}
    (leads : Leads valueStyle stack .value first next)
    (shorter : ∀ chars : List Char, chars.length ≤ rest.length → Described chars)
    (integral : Integral (first :: rest))
    (reads : valueStyle.readFrom next stack length rest = .ok lexeme) :
    ∃ value tail more, rest = tail ++ more ∧ Denotes (127 - stack.length) value (first :: tail) ∧
      Integral more ∧ valueStyle.goOn value (length + tail.length) more stack = .ok lexeme := by
  have room (mayOpen : valueStyle.mayOpen stack = true) :
      127 - stack.length = 127 - (stack.length + 1) + 1 := by
    have opens : stack.length < 127 := mayOpen_valueStyle.mp mayOpen
    omega
  cases leads with
  | openList mayOpen =>
    obtain ⟨items, all, more, rfl, separated, each, integralMore, goesOn⟩ :=
      exists_entries (fun _ => .itemComma) (fun _ => .list)
        (fun _ _ _ noComma noBracket => ⟨_, by rw [Style.step, if_neg noComma, if_neg noBracket]⟩)
        (by decide) (fun chars short => takesItem (shorter chars short))
        .emptyList (fun begins => readFrom_firstItem begins length) (Nat.le_refl rest.length)
        (integral.behind_plain (by decide) (by decide)) reads
    have inOrder : valueStyle.list (items.map Prod.fst).reverse = .list (items.map Prod.fst) :=
      congrArg Value.list (List.reverse_reverse _)
    rw [inOrder] at goesOn
    refine ⟨.list (items.map Prod.fst), all ++ [']'], more, by simp, ?_, integralMore, ?_⟩
    · rw [room mayOpen]
      exact .list each separated
    · rwa [List.length_append, ← Nat.add_assoc]
  | openObject mayOpen =>
    obtain ⟨written, all, more, rfl, separated, each, integralMore, goesOn⟩ :=
      exists_entries (fun _ => .memberComma) (fun _ => .object)
        (fun _ _ _ noComma noBrace => ⟨_, by rw [Style.step, if_neg noComma, if_neg noBrace]⟩)
        (by decide)
        (fun chars short => takesMember fun other less => shorter other (less.le.trans short))
        .emptyObject (fun begins => readFrom_firstKey begins length) (Nat.le_refl rest.length)
        (integral.behind_plain (by decide) (by decide)) reads
    refine ⟨_, all ++ ['\x7d'], more, by simp, ?_, integralMore, by
      rwa [List.length_append, ← Nat.add_assoc]⟩
    rw [room mayOpen]
    exact .object each separated (lastWins_ofLastFirst _)

/-- A value that is read is denoted by the characters it takes. -/
theorem described (chars : List Char) : Described chars := by
  -- The items and members of a container stand behind its first character, so they are shorter.
  induction size : chars.length using Nat.strongRecOn generalizing chars with
  | ind total ih =>
    intro stack length lexeme integral reads
    obtain ⟨before, first, rest, progress, rfl, blank, visible, steps, follows⟩ :=
      exists_step_of_readFrom reads
    have integralHere : Integral (first :: rest) := integral.behind_spaces blank
    rw [List.length_append, List.length_cons] at size
    obtain ⟨value, tail, more, rfl, denotes, integralMore, goesOn⟩ : ∃ value tail more,
        rest = tail ++ more ∧ Denotes (127 - stack.length) value (first :: tail) ∧ Integral more ∧
          valueStyle.goOn value (length + before.length + 1 + tail.length) more stack =
            .ok lexeme := by
      rcases startValue_eq_ok steps with ⟨next, leads, rfl⟩ | ⟨scalar, scans, rfl⟩
      · exact exists_container leads (fun chars short => ih chars.length (by omega) chars rfl)
          integralHere follows
      · obtain ⟨tail, more, rfl, taken, denotes, integralMore⟩ := exists_scalar integralHere scans
        rw [Style.follow_accept, taken, List.drop_left] at follows
        exact ⟨scalar.value, tail, more, rfl, denotes, integralMore, follows⟩
    refine ⟨before, value, first :: tail, more, rfl, blank, denotes, integralMore, ?_⟩
    rw [← goesOn]
    congr 1
    simp only [List.length_append, List.length_cons]
    omega

end Values

/-! ### Whole texts -/

/-- The texts that are read for a value are those that denote it, where all numbers are integers. -/
theorem parse_eq_ok_iff_document {text : String} {value : Value}
    (integral : Integral text.toList) : Json.parse text = .ok value ↔ Document value text := by
  refine ⟨fun parses => ?_, Document.parse⟩
  obtain ⟨length, reads, blankAfter⟩ := parse_eq_ok_iff_read.mp parses
  obtain ⟨before, found, chars, rest, split, blank, denotes, _, ends⟩ :=
    described text.toList [] 0 ⟨value, length⟩ integral reads
  obtain ⟨rfl, rfl⟩ := Lexeme.mk.inj (Except.ok.inj ends)
  rw [split, Nat.zero_add, ← List.append_assoc, List.drop_left] at blankAfter
  exact ⟨before, chars, rest, split, blank, blankAfter, denotes⟩

end SealedEnvelope.Json
