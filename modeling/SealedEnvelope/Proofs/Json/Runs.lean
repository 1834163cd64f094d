import SealedEnvelope.Proofs.Json.Verdicts

/-!
Runs of the reader, whatever is made of the values.

A run passes white space, takes a step, and goes on from what the step leads to. A step that ends a
value hands it to the innermost open container: `goOn` is how the reader goes on from there. These
are the equations of a run in which nothing is wrong. Read the other way, a run that ends well has
taken one of the steps that its place allows.
-/

namespace SealedEnvelope.Json

variable {α : Type} {style : Style α} {awaiting next : Awaiting α} {stack after : List (Frame α)}
  {char : Char} {rest : List Char}

namespace Style

/-- How a reader goes on behind a value that ends after `length` characters. -/
def goOn (style : Style α) (value : α) (length : Nat) (rest : List Char) :
    List (Frame α) → Except Fault (Lexeme α)
  | [] => .ok ⟨value, length⟩
  | .list items :: stack => style.readFrom (.itemEnd (value :: items)) stack length rest
  | .object members key :: stack =>
    style.readFrom (.memberEnd ((key, value) :: members)) stack length rest

/-- How a reader goes on from what a step leads to, where `length` characters end with the first of
the step. -/
def follow (style : Style α) (length : Nat) (rest : List Char) :
    Progress α → Except Fault (Lexeme α)
  | .more awaiting stack size => style.readFrom awaiting stack (length + size) (rest.drop size)
  | .done value size => .ok ⟨value, length + size⟩

theorem follow_accept (style : Style α) (value : α) (length size : Nat) (rest : List Char)
    (stack : List (Frame α)) :
    style.follow length rest (accept value size stack) =
      style.goOn value (length + size) (rest.drop size) stack := by
  cases stack with
  | nil => rfl
  | cons frame stack => cases frame <;> rfl

end Style

/-! ### White space and steps -/

theorem readFrom_spaces {spaces : List Char} (blank : Spaces spaces) (length : Nat) :
    style.readFrom awaiting stack length (spaces ++ rest) =
      style.readFrom awaiting stack (length + spaces.length) rest := by
  induction spaces generalizing length with
  | nil => rfl
  | cons char spaces ih =>
    obtain ⟨space, others⟩ := List.forall_mem_cons.mp blank
    rw [List.cons_append, Style.readFrom, if_pos space, ih others, List.length_cons,
      Nat.add_right_comm, Nat.add_assoc]

theorem readFrom_visible (visible : isSpace char = false) (length : Nat) :
    style.readFrom awaiting stack length (char :: rest) =
      style.step awaiting stack char rest >>= style.follow (length + 1) rest := by
  rw [Style.readFrom, if_neg (Bool.eq_false_iff.mp visible)]
  cases style.step awaiting stack char rest with
  | error fault => rfl
  | ok progress => cases progress <;> rfl

theorem readFrom_more {size : Nat} (visible : isSpace char = false)
    (steps : style.step awaiting stack char rest = .ok (.more next after size)) (length : Nat) :
    style.readFrom awaiting stack length (char :: rest) =
      style.readFrom next after (length + 1 + size) (rest.drop size) := by
  rw [readFrom_visible visible, steps]
  rfl

theorem readFrom_accept {value : α} {size : Nat} (visible : isSpace char = false)
    (steps : style.step awaiting stack char rest = .ok (Style.accept value size after))
    (length : Nat) :
    style.readFrom awaiting stack length (char :: rest) =
      style.goOn value (length + 1 + size) (rest.drop size) after := by
  rw [readFrom_visible visible, steps]
  exact style.follow_accept value (length + 1) size rest after

/-- A run that ends well passes white space and takes a step. -/
theorem exists_step_of_readFrom {chars : List Char} {length : Nat} {lexeme : Lexeme α}
    (reads : style.readFrom awaiting stack length chars = .ok lexeme) :
    ∃ spaces first rest progress, chars = spaces ++ first :: rest ∧ Spaces spaces ∧
      isSpace first = false ∧ style.step awaiting stack first rest = .ok progress ∧
      style.follow (length + spaces.length + 1) rest progress = .ok lexeme := by
  induction chars generalizing length with
  | nil =>
    rw [Style.readFrom] at reads
    cases reads
  | cons char chars ih =>
    by_cases space : isSpace char
    · rw [Style.readFrom, if_pos space] at reads
      obtain ⟨spaces, first, rest, progress, rfl, blank, visible, steps, follows⟩ := ih reads
      refine ⟨char :: spaces, first, rest, progress, rfl, blank.cons space, visible, steps, ?_⟩
      rwa [List.length_cons, ← Nat.add_assoc, Nat.add_right_comm length]
    · have visible := Bool.eq_false_iff.mpr space
      rw [readFrom_visible visible] at reads
      obtain ⟨progress, steps, follows⟩ := bind_eq_ok_iff.mp reads
      exact ⟨[], char, chars, progress, rfl, spaces_nil, visible, steps, follows⟩

/-! ### Brackets, braces and commas -/

/-- The characters that lead from one place of the innermost container to another, or open one. -/
inductive Leads (style : Style α) (stack : List (Frame α)) :
    Awaiting α → Char → Awaiting α → Prop where
  | openList (mayOpen : style.mayOpen stack = true) : Leads style stack .value '[' .firstItem
  | openObject (mayOpen : style.mayOpen stack = true) : Leads style stack .value '\x7b' .firstKey
  | itemComma {read : List α} : Leads style stack (.itemEnd read) ',' (.nextItem read)
  | memberComma {read : List (String × α)} :
      Leads style stack (.memberEnd read) ',' (.nextKey read)

/-- The characters that end the innermost container, at the places where they do, and the value it
is then. -/
inductive Ending (style : Style α) : Awaiting α → Char → α → Prop where
  | emptyList : Ending style .firstItem ']' (style.list [])
  | list {read : List α} : Ending style (.itemEnd read) ']' (style.list read)
  | emptyObject : Ending style .firstKey '\x7d' (style.object [])
  | object {read : List (String × α)} : Ending style (.memberEnd read) '\x7d' (style.object read)

theorem readFrom_leads (leads : Leads style stack awaiting char next) (length : Nat)
    (rest : List Char) :
    style.readFrom awaiting stack length (char :: rest) =
      style.readFrom next stack (length + 1) rest := by
  have visible : isSpace char = false := by cases leads <;> rfl
  have steps : style.step awaiting stack char rest = .ok (.more next stack 0) := by
    cases leads with
    | openList mayOpen =>
      rw [Style.step, Style.startValue, if_pos (.inl rfl), if_pos mayOpen, if_pos rfl]
    | openObject mayOpen =>
      rw [Style.step, Style.startValue, if_pos (.inr rfl), if_pos mayOpen, if_neg (by decide)]
    | itemComma | memberComma => rw [Style.step, if_pos rfl]
  exact readFrom_more visible steps length

theorem readFrom_ending {value : α} (ending : Ending style awaiting char value) (length : Nat)
    (rest : List Char) (stack : List (Frame α)) :
    style.readFrom awaiting stack length (char :: rest) =
      style.goOn value (length + 1) rest stack := by
  have visible : isSpace char = false := by cases ending <;> rfl
  have steps : style.step awaiting stack char rest = .ok (Style.accept value 0 stack) := by
    cases ending with
    | emptyList | emptyObject => rw [Style.step, if_pos rfl]
    | list | object => rw [Style.step, if_neg (by decide), if_pos rfl]
  exact readFrom_accept visible steps length

/-! ### Values -/

/-- With some containers open, a text is read as a value, whatever comes behind it unless it goes on
with a number. -/
def Style.Reads (style : Style α) (value : α) (text : List Char) (stack : List (Frame α)) : Prop :=
  ∀ length rest, Delimited rest →
    style.readFrom .value stack length (text ++ rest) =
      style.goOn value (length + text.length) rest stack

/-- What a character is not when a number starts with it. -/
theorem visible_of_number {char : Char} (starts : char = '-' ∨ isDigit char) :
    isSpace char = false ∧ char ≠ ']' ∧ char ≠ '[' ∧ char ≠ '\x7b' ∧ char ≠ 'n' ∧ char ≠ 't' ∧
      char ≠ 'f' ∧ char ≠ '"' := by
  refine ⟨?_, ?_, ?_, ?_, ?_, ?_, ?_, ?_⟩
  · by_contra space
    rcases isSpace_cases (Bool.of_not_eq_false space) with rfl | rfl | rfl | rfl <;>
      rcases starts with minus | digit <;> trivial
  all_goals
    rintro rfl
    rcases starts with minus | digit <;> trivial

theorem reads_scalar {tail : List Char} {value : α} (visible : isSpace char = false)
    (noContainer : ¬ (char = '[' ∨ char = '\x7b'))
    (scans : ∀ rest, Delimited rest →
      style.scalar? char (tail ++ rest) = some (.ok ⟨value, tail.length⟩)) :
    style.Reads value (char :: tail) stack := by
  intro length rest delimited
  have steps : style.step .value stack char (tail ++ rest) =
      .ok (Style.accept value tail.length stack) := by
    rw [Style.step, Style.startValue, if_neg noContainer, scans rest delimited]
  rw [List.cons_append, readFrom_accept visible steps, List.drop_left, List.length_cons,
    Nat.add_comm tail.length, Nat.add_assoc]

theorem reads_empty {opening closing : Char} {value : α} {spaces : List Char}
    (leads : Leads style stack .value opening awaiting)
    (ending : Ending style awaiting closing value) (blank : Spaces spaces) :
    style.Reads value (opening :: (spaces ++ [closing])) stack := by
  intro length rest _
  rw [List.cons_append, List.append_assoc, List.singleton_append, readFrom_leads leads,
    readFrom_spaces blank, readFrom_ending ending]
  congr 1
  simp only [List.length_cons, List.length_append, List.length_nil]
  omega

/-- A text begins, behind white space, with another character. -/
def BeginsBeside (closing : Char) (text : List Char) : Prop :=
  ∃ spaces first more, text = spaces ++ first :: more ∧ Spaces spaces ∧ isSpace first = false ∧
    first ≠ closing

section Beginnings

variable {closing : Char} {text : List Char} (begins : BeginsBeside closing text)

include begins

theorem BeginsBeside.append (more : List Char) : BeginsBeside closing (text ++ more) := by
  obtain ⟨spaces, first, tail, rfl, blank, visible, other⟩ := begins
  exact ⟨spaces, first, tail ++ more, by simp, blank, visible, other⟩

theorem BeginsBeside.behind {before : List Char} (blankBefore : Spaces before) :
    BeginsBeside closing (before ++ text) := by
  obtain ⟨spaces, first, tail, rfl, blank, visible, other⟩ := begins
  refine ⟨before ++ spaces, first, tail, by simp, ?_, visible, other⟩
  exact List.forall_mem_append.mpr ⟨blankBefore, blank⟩

/-- Steps that agree on a text's first character lead the same way. -/
private theorem readFrom_congr {other : List (Frame α)} (length : Nat)
    (same : ∀ first rest, first ≠ closing →
      style.step awaiting stack first rest = style.step next other first rest) :
    style.readFrom awaiting stack length text = style.readFrom next other length text := by
  obtain ⟨spaces, first, tail, rfl, blank, visible, differs⟩ := begins
  rw [readFrom_spaces blank, readFrom_spaces blank, readFrom_visible visible,
    readFrom_visible visible, same first tail differs]

end Beginnings

/-- The start of an item is that of a value that the list waits for. -/
theorem readFrom_nextItem {text : List Char} (begins : BeginsBeside ']' text) (read : List α)
    (length : Nat) :
    style.readFrom (.nextItem read) stack length text =
      style.readFrom .value (.list read :: stack) length text :=
  readFrom_congr begins length fun _ _ noBracket => if_neg noBracket

/-- Ahead of an item, it does not matter whether the list could still be empty. -/
theorem readFrom_firstItem {text : List Char} (begins : BeginsBeside ']' text) (length : Nat) :
    style.readFrom .firstItem stack length text =
      style.readFrom (.nextItem []) stack length text :=
  readFrom_congr begins length fun _ _ noBracket => by
    rw [Style.step, if_neg noBracket, Style.step, if_neg noBracket]

/-- Ahead of a member, it does not matter whether the object could still be empty. -/
theorem readFrom_firstKey {text : List Char} (begins : BeginsBeside '\x7d' text) (length : Nat) :
    style.readFrom .firstKey stack length text =
      style.readFrom (.nextKey []) stack length text :=
  readFrom_congr begins length fun _ _ noBrace => by
    rw [Style.step, if_neg noBrace, Style.step, if_neg noBrace]

theorem reads_list {value : α} {items : List Char} (mayOpen : style.mayOpen stack = true)
    (begins : BeginsBeside ']' items)
    (reads : ∀ length rest, style.readFrom (.nextItem []) stack length (items ++ ']' :: rest) =
      style.goOn value (length + items.length + 1) rest stack) :
    style.Reads value ('[' :: (items ++ [']'])) stack := by
  intro length rest _
  rw [List.cons_append, List.append_assoc, List.singleton_append,
    readFrom_leads (.openList mayOpen), readFrom_firstItem (begins.append _), reads]
  congr 1
  simp only [List.length_cons, List.length_append, List.length_nil]
  omega

theorem reads_object {value : α} {members : List Char} (mayOpen : style.mayOpen stack = true)
    (begins : BeginsBeside '\x7d' members)
    (reads : ∀ length rest, style.readFrom (.nextKey []) stack length (members ++ '\x7d' :: rest) =
      style.goOn value (length + members.length + 1) rest stack) :
    style.Reads value ('\x7b' :: (members ++ ['\x7d'])) stack := by
  intro length rest _
  rw [List.cons_append, List.append_assoc, List.singleton_append,
    readFrom_leads (.openObject mayOpen), readFrom_firstKey (begins.append _), reads]
  congr 1
  simp only [List.length_cons, List.length_append, List.length_nil]
  omega

/-! ### Items and members -/

theorem delimited_spaces {spaces rest : List Char} (blank : Spaces spaces)
    (delimited : Delimited rest) : Delimited (spaces ++ rest) := by
  cases spaces with
  | nil => exact delimited
  | cons char spaces =>
    apply delimited_cons
    rcases isSpace_cases (blank char List.mem_cons_self) with rfl | rfl | rfl | rfl <;>
      exact ⟨rfl, by decide, by decide, by decide⟩

/-- The characters that may stand behind a key or a value end a number. -/
theorem delimited_punctuation {char : Char} (isPunctuation : char ∈ [':', ',', ']', '\x7d'])
    (rest : List Char) : Delimited (char :: rest) := by
  apply delimited_cons
  simp only [List.mem_cons, List.not_mem_nil, or_false] at isPunctuation
  rcases isPunctuation with rfl | rfl | rfl | rfl <;>
    exact ⟨rfl, by decide, by decide, by decide⟩

section Entries

variable {before text after : List Char} {value : α} (blankBefore : Spaces before)
  (blankAfter : Spaces after) (delimited : Delimited rest)

include blankBefore blankAfter delimited

/-- An item is read up to the comma or bracket behind it. -/
theorem readFrom_item {read : List α} (begins : BeginsBeside ']' text)
    (reads : style.Reads value text (.list read :: stack)) (length : Nat) :
    style.readFrom (.nextItem read) stack length (before ++ (text ++ (after ++ rest))) =
      style.readFrom (.itemEnd (value :: read)) stack
        (length + (before ++ (text ++ after)).length) rest := by
  rw [readFrom_nextItem ((begins.append _).behind blankBefore), readFrom_spaces blankBefore,
    reads _ _ (delimited_spaces blankAfter delimited), Style.goOn, readFrom_spaces blankAfter]
  congr 1
  simp only [List.length_append]
  omega

/-- A member is read up to the comma or brace behind it. -/
theorem readFrom_member {tail beforeColon behindColon : List Char} {name : String}
    {read : List (String × α)}
    (readsKey : ∀ rest, Delimited rest → style.key (tail ++ rest) = .ok ⟨name, tail.length⟩)
    (blankKey : Spaces beforeColon) (blankColon : Spaces behindColon)
    (reads : style.Reads value text (.object read name :: stack)) (length : Nat) :
    style.readFrom (.nextKey read) stack length
        (before ++ '"' :: (tail ++ (beforeColon ++ ':' :: (behindColon ++
          (text ++ (after ++ rest)))))) =
      style.readFrom (.memberEnd ((name, value) :: read)) stack
        (length + (before ++ '"' :: (tail ++ (beforeColon ++ ':' :: (behindColon ++
          (text ++ after))))).length) rest := by
  have colonNext : Delimited (':' :: (behindColon ++ (text ++ (after ++ rest)))) :=
    delimited_punctuation (by decide) _
  have keyStep : style.step (.nextKey read) stack '"'
      (tail ++ (beforeColon ++ ':' :: (behindColon ++ (text ++ (after ++ rest))))) =
        .ok (.more (.colon read name) stack tail.length) := by
    rw [Style.step, if_neg (by decide), Style.startKey, if_pos rfl,
      readsKey _ (delimited_spaces blankKey colonNext)]
  have colonStep : style.step (.colon read name) stack ':'
      (behindColon ++ (text ++ (after ++ rest))) =
        .ok (.more .value (.object read name :: stack) 0) := by
    rw [Style.step, if_pos rfl]
  rw [readFrom_spaces blankBefore, readFrom_more rfl keyStep, List.drop_left,
    readFrom_spaces blankKey, readFrom_more rfl colonStep, List.drop_zero,
    readFrom_spaces blankColon, reads _ _ (delimited_spaces blankAfter delimited), Style.goOn,
    readFrom_spaces blankAfter]
  congr 1
  simp only [List.length_append, List.length_cons]
  omega

end Entries

end SealedEnvelope.Json
