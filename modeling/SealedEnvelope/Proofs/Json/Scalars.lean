import SealedEnvelope.Json.Reader
import SealedEnvelope.Proofs.Json.Grammar

/-!
Words, strings and numbers that are passed over are those of the grammar.
-/

namespace SealedEnvelope.Json

/-- What a reader takes: a beginning of the rest that, behind the first character, the grammar
allows. -/
def Takes (allowed : List Char → Prop) (first : Char) (rest : List Char) (length : Nat) : Prop :=
  ∃ tail more, rest = tail ++ more ∧ length = tail.length ∧ allowed (first :: tail)

theorem Takes.mono {allowed wider : List Char → Prop} {first : Char} {rest : List Char}
    {length : Nat} (takes : Takes allowed first rest length)
    (widens : ∀ chars, allowed chars → wider chars) : Takes wider first rest length := by
  obtain ⟨tail, more, split, size, fits⟩ := takes
  exact ⟨tail, more, split, size, widens _ fits⟩

/-! ### Strings -/

private theorem piece_of_skipEscape {rest : List Char} {size : Nat}
    (skips : skipEscape rest = .ok size) : Takes Piece '\\' rest size := by
  unfold skipEscape at skips
  split at skips
  · cases skips
  · obtain ⟨unit, hex, rfl⟩ := map_eq_ok_iff.mp skips
    obtain ⟨spelled, more, rfl, isUnit⟩ := readHex4_eq_ok_iff.mp hex
    exact ⟨'u' :: spelled, more, rfl, by rw [List.length_cons, isUnit.length_eq], .unit isUnit⟩
  · rename_i letter more _
    split at skips
    · rename_i known
      obtain ⟨char, short⟩ := Option.isSome_iff_exists.mp known
      obtain rfl := Except.ok.inj skips
      exact ⟨[letter], more, rfl, rfl, .short (shortEscape?_eq_some_iff.mp short)⟩
    · cases skips

private theorem pieces_of_skipStringFrom {length : Nat} {chars : List Char} {lexeme : Lexeme Unit}
    (skips : skipStringFrom length chars = .ok lexeme) :
    ∃ pieces rest, chars = pieces ++ '"' :: rest ∧ Pieces pieces ∧
      lexeme.length = length + pieces.length + 1 := by
  fun_induction skipStringFrom length chars with
  | case1 => cases skips
  | case2 length rest =>
    obtain rfl := Except.ok.inj skips
    exact ⟨[], rest, rfl, .nil, rfl⟩
  | case3 length rest size escape _ ih =>
    obtain ⟨tail, behind, rfl, rfl, piece⟩ := piece_of_skipEscape escape
    rw [List.drop_left] at ih skips
    obtain ⟨pieces, rest, rfl, others, total⟩ := ih skips
    refine ⟨'\\' :: tail ++ pieces, rest, by simp, .cons piece others, ?_⟩
    rw [total, List.length_append, List.length_cons]
    omega
  | case4 => cases skips
  | case5 => cases skips
  | case6 length char rest noQuote noBackslash noControl ih =>
    obtain ⟨pieces, rest, rfl, others, total⟩ := ih skips
    have piece : Piece [char] := .plain noQuote noBackslash (Nat.not_lt.mp noControl)
    refine ⟨[char] ++ pieces, rest, rfl, .cons piece others, ?_⟩
    rw [total, List.length_append, List.length_singleton]
    omega

theorem skipString_takes {rest : List Char} {lexeme : Lexeme Unit}
    (skips : skipString rest = .ok lexeme) : Takes StringText '"' rest lexeme.length := by
  obtain ⟨pieces, more, rfl, arePieces, total⟩ := pieces_of_skipStringFrom skips
  refine ⟨pieces ++ ['"'], more, by simp, ?_, .quoted arePieces⟩
  rw [total, List.length_append, Nat.zero_add, List.length_singleton]

/-! ### Numbers -/

private theorem digits_of_first {first : Char} {rest : List Char} (digit : isDigit first) :
    Digits (first :: rest.takeWhile isDigit) := by
  refine ⟨List.cons_ne_nil _ _, ?_⟩
  intro char member
  rcases List.mem_cons.mp member with rfl | behind
  · exact digit
  · exact List.mem_takeWhile_imp behind

private theorem splitWhole_sound {atEnd : Cause} {chars whole rest : List Char}
    (splits : splitWhole atEnd chars = .ok (whole, rest)) :
    chars = whole ++ rest ∧ WholeText whole := by
  unfold splitWhole at splits
  split at splits
  · cases splits
  · split at splits
    · cases splits
    · cases splits
      exact ⟨rfl, .zero⟩
  · rename_i first behind noZero
    split at splits
    · rename_i digit
      cases splits
      refine ⟨?_, .digits (digits_of_first digit) noZero⟩
      rw [List.cons_append, List.takeWhile_append_dropWhile]
    · cases splits

/-- The number of characters of a fraction. -/
private def fractionSize : Option (List Char) → Nat
  | some digits => 1 + digits.length
  | none => 0

private theorem splitFraction_sound {atEnd : Cause} {chars rest : List Char}
    {fraction : Option (List Char)} (splits : splitFraction atEnd chars = .ok (fraction, rest)) :
    ∃ text, chars = text ++ rest ∧ FractionText text ∧ fractionSize fraction = text.length := by
  unfold splitFraction at splits
  split at splits
  · split at splits
    · cases splits
    · rename_i first behind
      split at splits
      · rename_i digit
        rw [List.takeWhile_cons_of_pos digit, List.dropWhile_cons_of_pos digit] at splits
        cases splits
        refine ⟨_, ?_, .point (digits_of_first digit), Nat.add_comm _ _⟩
        rw [List.cons_append, List.cons_append, List.takeWhile_append_dropWhile]
      · cases splits
  · cases splits
    exact ⟨[], rfl, .none, rfl⟩

/-- The number of characters of an exponent. -/
private def exponentSize : Option (Option Char × List Char) → Nat
  | some (sign, digits) => 1 + sign.toList.length + digits.length
  | none => 0

private theorem splitExponentDigits_sound {atEnd : Cause} {sign : Option Char}
    {chars rest : List Char} {exponent : Option (Option Char × List Char)}
    (splits : splitExponentDigits atEnd sign chars = .ok (exponent, rest)) :
    ∃ digits, chars = digits ++ rest ∧ Digits digits ∧ exponent = some (sign, digits) := by
  unfold splitExponentDigits at splits
  split at splits
  · cases splits
  · split at splits
    · rename_i digit
      cases splits
      refine ⟨_, ?_, digits_of_first digit, rfl⟩
      rw [List.cons_append, List.takeWhile_append_dropWhile]
    · cases splits

private theorem splitExponent_sound {atEnd : Cause} {chars rest : List Char}
    {exponent : Option (Option Char × List Char)}
    (splits : splitExponent atEnd chars = .ok (exponent, rest)) :
    ∃ text, chars = text ++ rest ∧ ExponentText text ∧ exponentSize exponent = text.length := by
  unfold splitExponent at splits
  split at splits
  · cases splits
    exact ⟨[], rfl, .none, rfl⟩
  split at splits
  · rename_i isLetter
    split at splits
    · obtain ⟨digits, rfl, areDigits, rfl⟩ := splitExponentDigits_sound splits
      exact ⟨_, rfl, .exponent isLetter (.inr (.inl rfl)) areDigits, by simp [exponentSize]; omega⟩
    · obtain ⟨digits, rfl, areDigits, rfl⟩ := splitExponentDigits_sound splits
      exact ⟨_, rfl, .exponent isLetter (.inr (.inr rfl)) areDigits, by simp [exponentSize]; omega⟩
    · obtain ⟨digits, rfl, areDigits, rfl⟩ := splitExponentDigits_sound splits
      exact ⟨_, rfl, .exponent isLetter (.inl rfl) areDigits, by simp [exponentSize]; omega⟩
  · cases splits
    exact ⟨[], rfl, .none, rfl⟩

/-- The parts of a number follow each other. -/
theorem splitNumber_sound {atEnd : Cause} {negative : Bool} {chars : List Char}
    {parts : NumberParts} (splits : splitNumber atEnd negative chars = .ok parts) :
    ∃ whole fraction exponent, chars = whole ++ (fraction ++ (exponent ++ parts.rest)) ∧
      WholeText whole ∧ FractionText fraction ∧ ExponentText exponent ∧
      parts.length = (whole ++ (fraction ++ exponent)).length := by
  unfold splitNumber at splits
  obtain ⟨⟨whole, behindWhole⟩, first, splits⟩ := bind_eq_ok_iff.mp splits
  obtain ⟨⟨fraction, behindFraction⟩, second, splits⟩ := bind_eq_ok_iff.mp splits
  obtain ⟨⟨exponent, rest⟩, third, splits⟩ := bind_eq_ok_iff.mp splits
  cases splits
  obtain ⟨rfl, isWhole⟩ := splitWhole_sound first
  obtain ⟨fractionText, rfl, isFraction, fractionLength⟩ := splitFraction_sound second
  obtain ⟨exponentText, rfl, isExponent, exponentLength⟩ := splitExponent_sound third
  refine ⟨whole, fractionText, exponentText, rfl, isWhole, isFraction, isExponent, ?_⟩
  rw [List.length_append, List.length_append, ← fractionLength, ← exponentLength, ← Nat.add_assoc]
  rfl

theorem skipNumber_takes {first : Char} {rest : List Char} {lexeme : Lexeme Unit}
    (skips : skipNumber first rest = .ok lexeme) :
    Takes NumberText first rest lexeme.length := by
  obtain ⟨literal, splitsAt, rfl⟩ := map_eq_ok_iff.mp skips
  unfold splitNumberAt at splitsAt
  split at splitsAt
  · rename_i minus
    obtain ⟨parts, splits, rfl⟩ := map_eq_ok_iff.mp splitsAt
    obtain ⟨whole, fraction, exponent, rfl, isWhole, isFraction, isExponent, size⟩ :=
      splitNumber_sound splits
    refine ⟨whole ++ (fraction ++ exponent), parts.rest, by simp, size, ?_⟩
    rw [minus]
    exact .number (.inr rfl) isWhole isFraction isExponent
  · obtain ⟨parts, splits, rfl⟩ := map_eq_ok_iff.mp splitsAt
    obtain ⟨whole, fraction, exponent, split, isWhole, isFraction, isExponent, size⟩ :=
      splitNumber_sound splits
    obtain ⟨digit, more, rfl⟩ : ∃ digit more, whole = digit :: more := by
      cases isWhole <;> exact ⟨_, _, rfl⟩
    obtain ⟨rfl, rfl⟩ := List.cons.inj split
    refine ⟨more ++ (fraction ++ exponent), parts.rest, by simp, ?_,
      .number (.inl rfl) isWhole isFraction isExponent⟩
    show parts.length - 1 = _
    rw [size, List.cons_append, List.length_cons, Nat.add_sub_cancel]

/-! ### Any of them -/

private theorem readWord_takes {letters rest : List Char} {lexeme : Lexeme Unit} {first : Char}
    (reads : readWord () letters rest = .ok lexeme) :
    Takes (· = first :: letters) first rest lexeme.length := by
  obtain ⟨more, rfl, rfl⟩ := readWord_eq_ok_iff.mp reads
  exact ⟨letters, more, rfl, rfl, rfl⟩

/-- A value that is no container, passed over. -/
theorem skipScalar?_takes {first : Char} {rest : List Char} {lexeme : Lexeme Unit}
    (skips : skipScalar? first rest = some (.ok lexeme)) :
    Takes ValueText first rest lexeme.length := by
  unfold skipScalar? at skips
  split at skips
  · rename_i same
    refine (readWord_takes (Option.some.inj skips)).mono ?_
    rintro _ rfl
    rw [same]
    exact .null
  split at skips
  · rename_i same
    refine (readWord_takes (Option.some.inj skips)).mono ?_
    rintro _ rfl
    rw [same]
    exact .true
  split at skips
  · rename_i same
    refine (readWord_takes (Option.some.inj skips)).mono ?_
    rintro _ rfl
    rw [same]
    exact .false
  split at skips
  · rename_i quote
    rw [quote]
    exact (skipString_takes (Option.some.inj skips)).mono fun _ => .string
  split at skips
  · exact (skipNumber_takes (Option.some.inj skips)).mono fun _ => .number
  · cases skips

end SealedEnvelope.Json
