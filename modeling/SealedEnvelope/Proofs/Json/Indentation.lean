import SealedEnvelope.Json.Printer
import SealedEnvelope.Proofs.Json.Denotation

/-!
The indented text of a value denotes it.

Indentation puts each item and each member on a line of its own, which is white space between them.
It writes an object in the order of its keys, each key once, and nests no deeper than any other text
of the value. So the indented text of what is read is read again, for the same value.
-/

namespace SealedEnvelope.Json

variable {room : Nat} {value : Value} {chars : List Char}

theorem prettyItems_eq_map (level : Nat) (items : List Value) :
    prettyItems level items = items.map (prettyChars level) := by
  induction items with
  | nil => rfl
  | cons item rest ih => rw [prettyItems, ih, List.map_cons]

/-- A member on a line of its own, with a text for its value. -/
def Written.indented (level : Nat) (member : String × Value) : Written where
  name := member.1
  value := member.2
  key := stringChars member.1
  beforeColon := []
  behindColon := [' ']
  text := prettyChars level member.2
  isKey := literal_stringChars member.1
  blankKey := spaces_nil
  blankColon := spaces_nil.cons rfl

theorem prettyMembers_eq_map (level : Nat) (members : List (String × Value)) :
    prettyMembers level members =
      (members.map (Written.indented level)).map Written.chars := by
  induction members with
  | nil => rfl
  | cons member rest ih =>
    rw [prettyMembers, ih]
    rfl

theorem spaces_lineBreak (level : Nat) : Spaces (lineBreak level) :=
  Spaces.cons rfl fun _ isSpace => (List.eq_of_mem_replicate isSpace) ▸ rfl

/-- The lines of a container are its texts between commas. -/
private theorem separated_lines (level : Nat) (first : List Char) (rest : List (List Char)) :
    Separated (first :: rest) (lineBreak (level + 1) ++ (first ++
      (rest.flatMap (fun item => ',' :: (lineBreak (level + 1) ++ item)) ++ lineBreak level))) := by
  induction rest generalizing first with
  | nil => exact .last (spaces_lineBreak _) (spaces_lineBreak _)
  | cons other others ih =>
    simp only [List.flatMap_cons, List.cons_append, List.append_assoc]
    exact .next (spaces_lineBreak (level + 1)) spaces_nil (List.cons_ne_nil other others) (ih other)

theorem exists_block (opening closing : Char) (level : Nat) (texts : List (List Char)) :
    ∃ inner, block opening closing level texts = opening :: (inner ++ [closing]) ∧
      Separated texts inner := by
  cases texts with
  | nil => exact ⟨[], rfl, .none spaces_nil⟩
  | cons first rest => exact ⟨_, by simp [block], separated_lines level first rest⟩

/-- The indented text of a value denotes it, and nests no deeper than another text that does. -/
theorem denotes_prettyChars (denotes : Denotes room value chars) (level : Nat) :
    Denotes room value (prettyChars level value) := by
  induction denotes generalizing level with
  | null => exact .null
  | boolean value => exact .boolean value
  | integer exact => exact .integer exact
  | @string _ text _ _ => exact .string (literal_stringChars text)
  | @list room items chars each separated ih =>
    obtain ⟨inner, lines, separatedInner⟩ :=
      exists_block '[' ']' level (prettyItems (level + 1) (items.map Prod.fst))
    rw [prettyChars, lines]
    let indented := items.map fun item => (item.1, prettyChars (level + 1) item.1)
    have values : indented.map Prod.fst = items.map Prod.fst := List.map_map
    have texts : indented.map Prod.snd = prettyItems (level + 1) (items.map Prod.fst) := by
      rw [prettyItems_eq_map, List.map_map, List.map_map]
      rfl
    rw [← values]
    refine .list (fun item isItem => ?_) (texts ▸ separatedInner)
    obtain ⟨original, isOriginal, rfl⟩ := List.mem_map.mp isItem
    exact ih original isOriginal (level + 1)
  | @object room written members chars each separated lastWins ih =>
    obtain ⟨inner, lines, separatedInner⟩ :=
      exists_block '\x7b' '\x7d' level (prettyMembers (level + 1) members)
    rw [prettyChars, lines]
    rw [prettyMembers_eq_map] at separatedInner
    have entries : (members.map (Written.indented (level + 1))).map Written.entry = members := by
      rw [List.map_map]
      exact List.map_id members
    refine .object (fun member isMember => ?_) separatedInner
      (entries.symm ▸ lastWins.sorted.lastWins)
    obtain ⟨entry, isEntry, rfl⟩ := List.mem_map.mp isMember
    -- Each member that is left was written once, with a text that denotes its value.
    obtain ⟨original, isOriginal, rfl⟩ := List.mem_map.mp (lastWins.mem_written isEntry)
    exact ih original isOriginal (level + 1)

/-- Indenting what a text denotes gives a text that denotes it too. -/
theorem Document.pretty {text : String} (document : Document value text) :
    Document value (pretty value) := by
  obtain ⟨_, _, _, _, _, _, denotes⟩ := document
  refine ⟨[], prettyChars 0 value, [], ?_, spaces_nil, spaces_nil, denotes_prettyChars denotes 0⟩
  rw [Json.pretty, String.toList_ofList, List.nil_append, List.append_nil]

theorem Document.append_spaces {text spaces : String} (document : Document value text)
    (blank : Spaces spaces.toList) : Document value (text ++ spaces) := by
  obtain ⟨before, chars, after, split, blankBefore, blankAfter, denotes⟩ := document
  refine ⟨before, chars, after ++ spaces.toList, ?_, blankBefore,
    List.forall_mem_append.mpr ⟨blankAfter, blank⟩, denotes⟩
  rw [String.toList_append, split, List.append_assoc, List.append_assoc]

end SealedEnvelope.Json
