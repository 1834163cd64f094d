import SealedEnvelope.Body
import SealedEnvelope.Proofs.Json.Strings
import SealedEnvelope.Proofs.Json.Words
import SealedEnvelope.Proofs.Text.Blank

/-!
What a body is read from: the data of a body, the member that holds it, and the object around.
-/

namespace SealedEnvelope.Body

open Json

/-- The text of data: the word null, or a literal of the data. -/
inductive DataText : Option String → List Char → Prop where
  | null : DataText none ['n', 'u', 'l', 'l']
  | literal {text : String} {chars : List Char} (denotes : Literal text chars) :
      DataText (some text) chars

theorem dataText_of_readData {chars : List Char} {lexeme : Lexeme (Option String)}
    (reads : readData chars = .ok lexeme) :
    ∃ spaces item rest, chars = spaces ++ (item ++ rest) ∧ Spaces spaces ∧
      DataText lexeme.value item ∧ lexeme.length = spaces.length + item.length := by
  have whole := takeWhile_append_skipSpace chars
  have blank := spaces_takeWhile chars
  unfold readData at reads
  generalize chars.takeWhile isSpace = spaces at *
  split at reads
  · cases reads
  · rename_i visible
    obtain ⟨found, word, rfl⟩ := map_eq_ok_iff.mp reads
    obtain ⟨behind, rfl, rfl⟩ := readWord_eq_ok_iff.mp word
    rw [visible] at whole
    exact ⟨spaces, _, behind, whole.symm, blank, .null, rfl⟩
  · rename_i visible
    obtain ⟨found, string, rfl⟩ := map_eq_ok_iff.mp reads
    obtain ⟨tail, behind, rfl, denotes, length⟩ := readString_eq_ok_iff.mp string
    rw [visible] at whole
    refine ⟨spaces, _, behind, whole.symm, blank, .literal denotes, ?_⟩
    simp [Lexeme.map, length]
    omega
  · cases reads

theorem readData_spelled {data : Option String} {spaces item : List Char} (blank : Spaces spaces)
    (spelled : DataText data item) (rest : List Char) :
    readData (spaces ++ (item ++ rest)) = .ok ⟨data, spaces.length + item.length⟩ := by
  cases spelled with
  | null =>
    have word : readWord (none : Option String) ['u', 'l', 'l'] ('u' :: 'l' :: 'l' :: rest) =
        .ok ⟨none, 3⟩ := readWord_eq_ok_iff.mpr ⟨rest, rfl, rfl⟩
    rw [readData, List.cons_append, skipSpace_append_cons blank rfl,
      takeWhile_append_cons blank rfl]
    simp only [List.cons_append, List.nil_append, word]
    rfl
  | @literal text item denotes =>
    obtain ⟨tail, rfl⟩ := denotes.exists_tail
    have string : readString (tail ++ rest) = .ok ⟨text, tail.length⟩ :=
      readString_eq_ok_iff.mpr ⟨tail, rest, rfl, denotes, rfl⟩
    have size : spaces.length + ('"' :: tail).length = spaces.length + 1 + tail.length := by
      rw [List.length_cons, Nat.add_assoc, Nat.add_comm 1]
    rw [readData, List.cons_append, skipSpace_append_cons blank rfl,
      takeWhile_append_cons blank rfl, size]
    simp only [string]
    rfl

theorem readColon_eq_ok_iff {chars : List Char} {length : Nat} :
    readColon chars = .ok length ↔
      ∃ spaces rest, chars = spaces ++ ':' :: rest ∧ Spaces spaces ∧
        length = spaces.length + 1 := by
  constructor
  · intro reads
    have whole := takeWhile_append_skipSpace chars
    have blank := spaces_takeWhile chars
    unfold readColon at reads
    split at reads
    · cases reads
    · rename_i rest visible
      split at reads
      · rename_i colon
        rw [visible, colon] at whole
        exact ⟨_, rest, whole.symm, blank, (Except.ok.inj reads).symm⟩
      · cases reads
  · rintro ⟨spaces, rest, rfl, blank, rfl⟩
    rw [readColon, skipSpace_append_cons blank rfl, takeWhile_append_cons blank rfl]
    rfl

/-- A member whose key denotes the one that counts, from behind the quote that opens it. -/
inductive DataMember (data : Option String) : List Char → Prop where
  | member {key before between item : List Char} (names : Literal dataKey ('"' :: key))
      (blankBefore : Spaces before) (blankBetween : Spaces between) (holds : DataText data item) :
      DataMember data (key ++ (before ++ ':' :: (between ++ item)))

theorem readMember_data {data : Option String} {member : List Char}
    (spelled : DataMember data member) (rest : List Char) :
    readMember none (member ++ rest) = .ok ⟨some data, member.length⟩ := by
  obtain @⟨key, before, between, item, names, blankBefore, blankBetween, holds⟩ := spelled
  have readsKey : readString (key ++ (before ++ ':' :: (between ++ (item ++ rest)))) =
      .ok ⟨dataKey, key.length⟩ := readString_eq_ok_iff.mpr ⟨key, _, rfl, names, rfl⟩
  have readsColon : readColon (before ++ ':' :: (between ++ (item ++ rest))) =
      .ok (before.length + 1) := readColon_eq_ok_iff.mpr ⟨before, _, rfl, blankBefore, rfl⟩
  have behindColon : (before ++ ':' :: (between ++ (item ++ rest))).drop (before.length + 1) =
      between ++ (item ++ rest) := by simp
  have size : (key ++ (before ++ ':' :: (between ++ item))).length =
      key.length + (before.length + 1) + (between.length + item.length) := by
    simp
    omega
  rw [size]
  simp only [List.append_assoc, List.cons_append, readMember, readsKey, bind, Except.bind,
    List.drop_left, readsColon, behindColon, readData_spelled blankBetween holds rest]
  rfl

theorem readMembers_data {data : Option String} {member : List Char}
    (spelled : DataMember data member) (rest : List Char) :
    readMembers none .first ('"' :: (member ++ '\x7d' :: rest)) = .ok (data, rest) := by
  have quote : ¬ isSpace '"' = true := by decide
  have brace : ¬ isSpace '\x7d' = true := by decide
  rw [readMembers, if_neg quote]
  simp only [readMember_data spelled, List.drop_left]
  rw [readMembers, if_neg brace]
  rfl

theorem parse_object {data : Option String} {member : List Char}
    (spelled : DataMember data member) :
    parse (String.ofList ('\x7b' :: '"' :: (member ++ ['\x7d']))) = .ok ⟨data⟩ := by
  have body : readBody ('\x7b' :: '"' :: (member ++ ['\x7d'])) = .ok (data, []) :=
    readMembers_data spelled []
  rw [parse, String.toList_ofList]
  simp only [body, bind, Except.bind]
  rfl

/-! ### Bodies without white space -/

/-- The object whose only member is `data`, without white space. -/
def compact (item : List Char) : String := "\x7b\"data\":" ++ String.ofList item ++ "\x7d"

theorem toList_compact (item : List Char) :
    (compact item).toList = '\x7b' :: ('"' :: ("data\":".toList ++ item) ++ ['\x7d']) := by
  rw [compact, String.toList_append, String.toList_append, String.toList_ofList (l := item)]
  rfl

/-- The text of data as they are written. -/
def dataChars : Option String → List Char
  | some text => stringChars text
  | none => "null".toList

theorem write_eq_compact (body : Body) : write body = compact (dataChars body.data) := by
  rw [← String.toList_inj, toList_compact, write, String.toList_ofList]
  cases body.data <;> rfl

theorem dataText_dataChars (data : Option String) : DataText data (dataChars data) := by
  cases data with
  | none => exact .null
  | some text => exact .literal (literal_stringChars text)

theorem parse_compact {data : Option String} {item : List Char} (spelled : DataText data item) :
    parse (compact item) = .ok ⟨data⟩ := by
  have names : Literal dataKey ('"' :: ['d', 'a', 't', 'a', '"']) := literal_stringChars dataKey
  have parsed := parse_object (.member names spaces_nil spaces_nil spelled)
  rw [← String.ofList_toList (s := compact item), toList_compact]
  exact parsed

/-- A body reads back as it was written. -/
theorem parse_write (body : Body) : parse (write body) = .ok body := by
  rw [write_eq_compact]
  exact parse_compact (dataText_dataChars body.data)

/-- Braces are not blank. -/
theorem trim_compact (item : List Char) : Text.trim (compact item) = compact item := by
  rw [Text.trim, toList_compact, Text.trimChars_enclosed rfl rfl, ← toList_compact,
    String.ofList_toList]

end SealedEnvelope.Body
