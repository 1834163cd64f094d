import SealedEnvelope.Proofs.Body
import SealedEnvelope.Proofs.Json.Nesting

/-!
The members of a body that is read, and the data among them.

A reader of members carries the data that it has seen. `Gathers` says what it holds at the end, and
that it has then seen no member for the data, or exactly one.
-/

namespace SealedEnvelope.Body

open Json

/-! ### Names of members -/

/-- No member has the name. -/
def Without (name : String) (members : List (List Char × List Char)) : Prop :=
  ∀ member ∈ members, ¬ Literal name member.1

theorem without_nil (name : String) : Without name [] := fun _ member => nomatch member

/-- Exactly one member has the name, and this is its value. -/
def OnlyOne (name : String) (value : List Char) (members : List (List Char × List Char)) : Prop :=
  ∃ before key after, members = before ++ (key, value) :: after ∧ Literal name key ∧
    Without name before ∧ Without name after

/-- The data after some members, of those before them. -/
inductive Gathers : Option (Option String) → List (List Char × List Char) →
    Option (Option String) → Prop where
  | nil {data : Option (Option String)} : Gathers data [] data
  | pass {data final : Option (Option String)} {key value : List Char}
      {members : List (List Char × List Char)} (other : ¬ Literal dataKey key)
      (rest : Gathers data members final) : Gathers data ((key, value) :: members) final
  | take {found : Option String} {final : Option (Option String)} {key value : List Char}
      {members : List (List Char × List Char)} (names : Literal dataKey key)
      (holds : DataText found value) (rest : Gathers (some found) members final) :
      Gathers none ((key, value) :: members) final

/-- Data that were seen stay, and no other member has their name. -/
theorem Gathers.of_some {found : Option String} {members : List (List Char × List Char)}
    {final : Option (Option String)} (gathers : Gathers (some found) members final) :
    final = some found ∧ Without dataKey members := by
  generalize seen : some found = data at gathers
  induction gathers with
  | nil => exact ⟨rfl, without_nil _⟩
  | pass other _ ih =>
    obtain ⟨rfl, without⟩ := ih seen
    exact ⟨rfl, List.forall_mem_cons.mpr ⟨other, without⟩⟩
  | take => cases seen

theorem Gathers.of_none {members : List (List Char × List Char)} {final : Option (Option String)}
    (gathers : Gathers none members final) :
    (final = none ∧ Without dataKey members) ∨
      ∃ found value, final = some found ∧ DataText found value ∧ OnlyOne dataKey value members := by
  generalize unseen : (none : Option (Option String)) = data at gathers
  induction gathers with
  | nil => exact .inl ⟨rfl, without_nil _⟩
  | @pass _ _ key value _ other _ ih =>
    rcases ih unseen with ⟨rfl, without⟩ | ⟨found, item, rfl, holds, only⟩
    · exact .inl ⟨rfl, List.forall_mem_cons.mpr ⟨other, without⟩⟩
    · obtain ⟨before, name, after, rfl, names, withoutBefore, withoutAfter⟩ := only
      refine .inr ⟨found, item, rfl, holds, (key, value) :: before, name, after, rfl, names, ?_,
        withoutAfter⟩
      exact List.forall_mem_cons.mpr ⟨other, withoutBefore⟩
  | @take found _ key value _ names holds rest =>
    obtain ⟨rfl, without⟩ := rest.of_some
    exact .inr ⟨found, value, rfl, holds, [], key, _, rfl, names, without_nil _, without⟩

/-! ### One member -/

theorem DataText.valueText {data : Option String} {value : List Char}
    (holds : DataText data value) : ValueText value := by
  cases holds with
  | null => exact .null
  | literal denotes => exact .string denotes.stringText

/-- A member that is read is one of the grammar, and gathers the data that it holds. -/
theorem readMember_takes {data : Option (Option String)} {chars : List Char}
    {lexeme : Lexeme (Option (Option String))} (reads : readMember data chars = .ok lexeme) :
    ∃ key before between value rest,
      chars = key ++ (before ++ ':' :: (between ++ (value ++ rest))) ∧
      lexeme.length = (key ++ (before ++ ':' :: (between ++ value))).length ∧
      StringText ('"' :: key) ∧ Spaces before ∧ Spaces between ∧ ValueText value ∧
      ∀ members final, Gathers lexeme.value members final →
        Gathers data (('"' :: key, value) :: members) final := by
  obtain ⟨name, first, reads⟩ := bind_eq_ok_iff.mp reads
  obtain ⟨key, behindKey, rfl, denotes, keySize⟩ := readString_eq_ok_iff.mp first
  simp only [keySize, List.drop_left] at reads
  split at reads
  · cases reads
  rename_i unrepeated
  obtain ⟨colon, second, reads⟩ := bind_eq_ok_iff.mp reads
  obtain ⟨before, behindColon, rfl, blankBefore, rfl⟩ := readColon_eq_ok_iff.mp second
  have dropped : (before ++ ':' :: behindColon).drop (before.length + 1) = behindColon := by
    simp
  simp only [dropped] at reads
  split at reads
  · rename_i isData
    obtain ⟨text, third, reads⟩ := bind_eq_ok_iff.mp reads
    cases reads
    obtain ⟨between, value, rest, rfl, blankBetween, holds, size⟩ := dataText_of_readData third
    refine ⟨key, before, between, value, rest, rfl, ?_, denotes.stringText, blankBefore,
      blankBetween, holds.valueText, fun members final gathers => ?_⟩
    · simp [size]
      omega
    · obtain rfl : data = none := by
        cases data with
        | none => rfl
        | some found => exact absurd ⟨isData, rfl⟩ unrepeated
      rw [isData] at denotes
      exact .take denotes holds gathers
  · rename_i isOther
    obtain ⟨passed, third, reads⟩ := bind_eq_ok_iff.mp reads
    cases reads
    obtain ⟨between, value, rest, rfl, size, blankBetween, isValue⟩ :=
      read_takes_value skipStyle_sound third
    refine ⟨key, before, between, value, rest, rfl, ?_, denotes.stringText, blankBefore,
      blankBetween, isValue, fun members final gathers => ?_⟩
    · simp [size]
      omega
    · exact .pass (fun names => isOther (denotes.unique names)) gathers

/-! ### All members -/

/-- The texts from a place to the end of the object, without the brace. -/
inductive Fits : Place → List (List Char × List Char) → List Char → Prop where
  | empty {spaces : List Char} (blank : Spaces spaces) : Fits .first [] spaces
  | first {members : List (List Char × List Char)} {chars : List Char}
      (areMembers : MembersText members chars) : Fits .first members chars
  | behindComma {members : List (List Char × List Char)} {chars : List Char}
      (areMembers : MembersText members chars) : Fits .behindComma members chars
  | close {spaces : List Char} (blank : Spaces spaces) : Fits .behindMember [] spaces
  | comma {members : List (List Char × List Char)} {spaces chars : List Char}
      (blank : Spaces spaces) (areMembers : MembersText members chars) :
      Fits .behindMember members (spaces ++ ',' :: chars)

private theorem Fits.space {char : Char} {place : Place}
    {members : List (List Char × List Char)} {chars : List Char} (space : isSpace char)
    (fits : Fits place members chars) : Fits place members (char :: chars) := by
  cases fits with
  | empty blank => exact .empty (blank.cons space)
  | first areMembers => exact .first (areMembers.space space)
  | behindComma areMembers => exact .behindComma (areMembers.space space)
  | close blank => exact .close (blank.cons space)
  | comma blank areMembers => exact .comma (blank.cons space) areMembers

private theorem Fits.member {key before between value rest : List Char}
    {members : List (List Char × List Char)} (isKey : StringText key)
    (blankBefore : Spaces before) (blankBetween : Spaces between) (isValue : ValueText value)
    (fits : Fits .behindMember members rest) :
    MembersText ((key, value) :: members)
      (key ++ (before ++ ':' :: (between ++ (value ++ rest)))) := by
  cases fits with
  | close blank => exact .last spaces_nil isKey blankBefore blankBetween isValue blank
  | comma blank areMembers =>
    exact .next spaces_nil isKey blankBefore blankBetween isValue blank areMembers

/-- The members that are read up to the end of the object gather the data that are found. -/
theorem readMembers_takes {data : Option (Option String)} {place : Place} {chars rest : List Char}
    {found : Option String} (reads : readMembers data place chars = .ok (found, rest)) :
    ∃ text members final, chars = text ++ '\x7d' :: rest ∧ Fits place members text ∧
      Gathers data members final ∧ found = final.join := by
  fun_induction readMembers data place chars with
  | case1 => cases reads
  | case2 data place char behind space ih =>
    obtain ⟨text, members, final, rfl, fits, gathers, rfl⟩ := ih reads
    exact ⟨char :: text, members, final, rfl, fits.space space, gathers, rfl⟩
  | case3 data behind =>
    cases reads
    exact ⟨[], [], data, rfl, .empty spaces_nil, .nil, rfl⟩
  | case4 data behind =>
    cases reads
    exact ⟨[], [], data, rfl, .close spaces_nil, .nil, rfl⟩
  | case5 => cases reads
  | case6 data behind _ ih =>
    obtain ⟨text, members, final, rfl, fits, gathers, rfl⟩ := ih reads
    cases fits with
    | behindComma areMembers =>
      exact ⟨',' :: text, members, final, rfl, .comma spaces_nil areMembers, gathers, rfl⟩
  | case7 => cases reads
  | case8 data place behind member readsMember notBehind _ ih =>
    obtain ⟨key, before, between, value, more, rfl, size, isKey, blankBefore, blankBetween,
      isValue, takes⟩ := readMember_takes readsMember
    have split : key ++ (before ++ ':' :: (between ++ (value ++ more))) =
        (key ++ (before ++ ':' :: (between ++ value))) ++ more := by simp
    rw [split, size, List.drop_left] at ih reads
    obtain ⟨text, members, final, rfl, fits, gathers, rfl⟩ := ih reads
    have areMembers := fits.member isKey blankBefore blankBetween isValue
    refine ⟨'"' :: (key ++ (before ++ ':' :: (between ++ (value ++ text)))), _, final, by simp,
      ?_, takes members final gathers, rfl⟩
    cases place with
    | first => exact .first areMembers
    | behindComma => exact .behindComma areMembers
    | behindMember => exact absurd rfl notBehind
  | case9 => cases reads
  | case10 => cases reads

end SealedEnvelope.Body
