import SealedEnvelope.Proofs.Json.Verdicts

/-!
Strings of the grammar that denote no text.

A code unit that is half of a surrogate pair must have the other half next to it. Up to the first
one that has not, the pieces of a string spell characters. There the reader refuses the string, and
the string alone decides for what cause.
-/

namespace SealedEnvelope.Json

/-- The pieces of a string spell a text, or they spell one up to an escape that is refused whatever
comes behind the string. -/
inductive Reading (pieces : List Char) : Prop where
  | spelled {meaning : List Char} (spelled : Spelled meaning pieces) : Reading pieces
  | refused {meaning front tail : List Char} {cause : Cause}
      (split : pieces = front ++ '\\' :: tail) (spelled : Spelled meaning front)
      (refuses : ∀ rest, verdict (readEscape (tail ++ '"' :: rest)) = .error cause) :
      Reading pieces

private theorem Reading.here {tail : List Char} {cause : Cause}
    (refuses : ∀ rest, verdict (readEscape (tail ++ '"' :: rest)) = .error cause) :
    Reading ('\\' :: tail) :=
  .refused (List.nil_append _).symm .nil refuses

private theorem Reading.cons {char : Char} {spelling pieces : List Char}
    (first : Spelling char spelling) (reading : Reading pieces) : Reading (spelling ++ pieces) := by
  cases reading with
  | spelled spelled => exact .spelled (.cons first spelled)
  | refused split spelled refuses =>
    rw [split, ← List.append_assoc]
    exact .refused rfl (.cons first spelled) refuses

/-! ### Refused escapes -/

section Escapes

variable {unit : Nat} {digits more : List Char} {cause : Cause}

private theorem readEscape_of_readUnicode
    (refuses : verdict (readUnicode more) = .error cause) :
    verdict (readEscape ('u' :: more)) = .error cause := by
  obtain ⟨fault, fails, rfl⟩ := verdict_eq_error_iff.mp refuses
  rw [readEscape, fails]
  rfl

private theorem readEscape_low (isUnit : CodeUnit unit digits)
    (isLow : 0xDC00 ≤ unit ∧ unit ≤ 0xDFFF) (more : List Char) :
    verdict (readEscape ('u' :: (digits ++ more))) = .error .loneSurrogate := by
  apply readEscape_of_readUnicode
  rw [readUnicode_eq (readHex4_eq_ok_iff.mpr ⟨digits, more, rfl, isUnit⟩), if_pos isLow]
  rfl

private theorem readEscape_high (isUnit : CodeUnit unit digits)
    (isHigh : 0xD800 ≤ unit ∧ unit ≤ 0xDBFF)
    (refuses : verdict (readSecondHalf unit more) = .error cause) :
    verdict (readEscape ('u' :: (digits ++ more))) = .error cause := by
  obtain ⟨fault, fails, rfl⟩ := verdict_eq_error_iff.mp refuses
  apply readEscape_of_readUnicode
  rw [readUnicode_eq (readHex4_eq_ok_iff.mpr ⟨digits, more, rfl, isUnit⟩), if_neg (by omega),
    if_pos isHigh, List.drop_left' isUnit.length_eq, fails]
  rfl

private theorem readSecondHalf_plain {char : Char} (noBackslash : char ≠ '\\') (unit : Nat)
    (more : List Char) :
    verdict (readSecondHalf unit (char :: more)) = .error .endOfHexEscape := by
  unfold readSecondHalf
  split
  · rename_i empty
    cases empty
  iterate 3
    · rename_i same
      exact absurd (List.cons.inj same).1 noBackslash
  · rfl

private theorem readSecondHalf_short {letter : Char} (notUnicode : letter ≠ 'u') (unit : Nat)
    (more : List Char) :
    verdict (readSecondHalf unit ('\\' :: letter :: more)) = .error .endOfHexEscape := by
  unfold readSecondHalf
  split
  · rename_i empty
    cases empty
  · rename_i same
    cases same
    exact absurd rfl notUnicode
  · rename_i single
    cases single
  · rfl
  · rfl

private theorem readSecondHalf_unit {other : Nat} (isOther : CodeUnit other digits)
    (noLow : ¬ (0xDC00 ≤ other ∧ other ≤ 0xDFFF)) (unit : Nat) (more : List Char) :
    verdict (readSecondHalf unit ('\\' :: 'u' :: (digits ++ more))) = .error .loneSurrogate := by
  rw [readSecondHalf, readHex4_eq_ok_iff.mpr ⟨digits, more, rfl, isOther⟩]
  simp only [bind, Except.bind]
  rw [if_pos (by omega)]
  rfl

end Escapes

/-! ### Whole strings -/

private theorem Reading.high {unit : Nat} {digits pieces : List Char} {cause : Cause}
    (isUnit : CodeUnit unit digits) (isHigh : 0xD800 ≤ unit ∧ unit ≤ 0xDBFF)
    (refuses : ∀ rest, verdict (readSecondHalf unit (pieces ++ '"' :: rest)) = .error cause) :
    Reading ('\\' :: 'u' :: (digits ++ pieces)) := by
  apply Reading.here
  intro rest
  rw [List.cons_append, List.append_assoc]
  exact readEscape_high isUnit isHigh (refuses rest)

/-- The second half of the statement is for pieces behind the first half of a pair: it is refused
unless they begin with the second. -/
private theorem reading_of_pieces {pieces : List Char} (arePieces : Pieces pieces) :
    Reading pieces ∧ ∀ unit digits, CodeUnit unit digits → 0xD800 ≤ unit ∧ unit ≤ 0xDBFF →
      Reading ('\\' :: 'u' :: (digits ++ pieces)) := by
  induction arePieces with
  | nil =>
    exact ⟨.spelled .nil, fun unit digits isUnit isHigh =>
      .high isUnit isHigh (readSecondHalf_plain (by decide) unit)⟩
  | @cons piece others first _ ih =>
    obtain ⟨alone, afterHigh⟩ := ih
    cases first with
    | plain noQuote noBackslash noControl =>
      exact ⟨alone.cons (.plain noQuote noBackslash noControl), fun unit digits isUnit isHigh =>
        .high isUnit isHigh fun rest => readSecondHalf_plain noBackslash unit _⟩
    | @short letter char listed =>
      have notUnicode : letter ≠ 'u' := by
        rintro rfl
        simp [shortEscapes] at listed
      exact ⟨alone.cons (.short listed), fun unit digits isUnit isHigh =>
        .high isUnit isHigh fun rest => readSecondHalf_short notUnicode unit _⟩
    | @unit other digits isOther =>
      by_cases isLow : 0xDC00 ≤ other ∧ other ≤ 0xDFFF
      · have refuses (rest : List Char) :
            verdict (readEscape ('u' :: digits ++ others ++ '"' :: rest)) =
              .error .loneSurrogate := by
          rw [List.append_assoc]
          exact readEscape_low isOther isLow _
        refine ⟨.here refuses, fun unit high isUnit isHigh => ?_⟩
        have paired := alone.cons (spelling_pair isUnit isOther isHigh isLow)
        rwa [List.cons_append, List.cons_append, List.append_assoc] at paired
      · have refuses (unit : Nat) (rest : List Char) :
            verdict (readSecondHalf unit ('\\' :: 'u' :: digits ++ others ++ '"' :: rest)) =
              .error .loneSurrogate := by
          rw [List.append_assoc]
          exact readSecondHalf_unit isOther isLow unit _
        refine ⟨?_, fun unit high isUnit isHigh => .high isUnit isHigh (refuses unit)⟩
        by_cases isHigh : 0xD800 ≤ other ∧ other ≤ 0xDBFF
        · exact afterHigh other digits isOther isHigh
        · exact alone.cons (spelling_unit isOther isHigh isLow)

/-- A string has one verdict: the text that it denotes, or the cause for which it denotes none. -/
theorem exists_settles_readString {tail : List Char} (isString : StringText ('"' :: tail)) :
    ∃ result, Settles readString tail result := by
  cases isString with
  | @quoted pieces arePieces =>
    cases (reading_of_pieces arePieces).1 with
    | @spelled meaning spelled =>
      rw [← String.toList_ofList (l := meaning)] at spelled
      refine ⟨.ok (String.ofList meaning), fun rest _ => verdict_eq_ok_iff.mpr ?_⟩
      exact readString_eq_ok_iff.mpr ⟨_, rest, rfl, .quoted spelled, rfl⟩
    | @refused meaning front tail cause split spelled refuses =>
      refine ⟨.error cause, fun rest _ => verdict_eq_error_iff.mpr ?_⟩
      obtain ⟨fault, fails, same⟩ := verdict_eq_error_iff.mp (refuses rest)
      refine ⟨fault, ?_, same⟩
      rw [split, List.append_assoc, List.append_assoc, readString, readStringOnto_append spelled,
        List.cons_append, readStringOnto, if_neg (by decide), if_pos rfl, List.singleton_append,
        fails]

end SealedEnvelope.Json
