import SealedEnvelope.Proofs.Json.Scalars

/-!
What the readers of words, strings and numbers make of those of the grammar.

Each such text has one verdict, a meaning or the cause of a fault, and whatever follows has no say
in it unless it goes on with a number. Passing over a text finds no fault; reading it for its
meaning may, for a number can be out of range and a surrogate can stand alone.
-/

namespace SealedEnvelope.Json

variable {α β : Type}

/-- What a reader yields, with the cause of a fault but not its place. -/
def verdict (read : Except Fault α) : Except Cause α := read.mapError Fault.cause

/-- Whether a number would end ahead of a text. -/
def Delimited (rest : List Char) : Prop :=
  ∀ char, rest.head? = some char → isDigit char = false ∧ char ≠ '.' ∧ char ≠ 'e' ∧ char ≠ 'E'

/-- A reader takes the whole of a text, and comes to a verdict on it, ahead of any text that is
delimited. -/
def Settles (read : List Char → Except Fault (Lexeme α)) (text : List Char)
    (result : Except Cause α) : Prop :=
  ∀ rest, Delimited rest →
    verdict (read (text ++ rest)) = result.map fun value => ⟨value, text.length⟩

theorem verdict_eq_ok_iff {read : Except Fault α} {value : α} :
    verdict read = .ok value ↔ read = .ok value := mapError_eq_ok_iff

theorem verdict_eq_error_iff {read : Except Fault α} {cause : Cause} :
    verdict read = .error cause ↔ ∃ fault, read = .error fault ∧ fault.cause = cause := by
  cases read with
  | error fault =>
    rw [verdict, Except.mapError, Except.error.injEq]
    exact ⟨fun same => ⟨fault, rfl, same⟩, fun ⟨_, same, cause⟩ => (Except.error.inj same) ▸ cause⟩
  | ok value => exact ⟨nofun, nofun⟩

theorem delimited_cons {char : Char} {rest : List Char}
    (ends : isDigit char = false ∧ char ≠ '.' ∧ char ≠ 'e' ∧ char ≠ 'E') :
    Delimited (char :: rest) := by
  rintro _ ⟨⟩
  exact ends

theorem Settles.reads {read : List Char → Except Fault (Lexeme α)} {text rest : List Char}
    {value : α} (settles : Settles read text (.ok value)) (delimited : Delimited rest) :
    read (text ++ rest) = .ok ⟨value, text.length⟩ :=
  verdict_eq_ok_iff.mp (settles rest delimited)

theorem verdict_map (f : α → β) (read : Except Fault α) :
    verdict (f <$> read) = (verdict read).map f := by
  cases read <;> rfl

/-- A reader that goes on from a verdict. -/
theorem verdict_bind_of_map {γ : Type} {read : Except Fault α} {result : Except Cause γ}
    {f : γ → α} (reads : verdict read = result.map f) (next : α → Except Fault β) :
    verdict (read >>= next) = result >>= fun value => verdict (next (f value)) := by
  cases result with
  | error cause =>
    obtain ⟨fault, rfl, rfl⟩ := verdict_eq_error_iff.mp reads
    rfl
  | ok value =>
    rw [verdict_eq_ok_iff.mp reads]
    rfl

theorem Settles.map {read : List Char → Except Fault (Lexeme α)} {text : List Char}
    {result : Except Cause α} (settles : Settles read text result) (f : α → β) :
    Settles (fun chars => Lexeme.map f <$> read chars) text (result.map f) := by
  intro rest delimited
  rw [verdict_map, settles rest delimited]
  cases result <;> rfl

/-- The verdict on a text is what is read of the text alone. -/
theorem Settles.eq_verdict {read : List Char → Except Fault (Lexeme α)} {text : List Char}
    {result : Except Cause α} (settles : Settles read text result) :
    result = (verdict (read text)).map Lexeme.value := by
  have alone := settles [] nofun
  rw [List.append_nil] at alone
  rw [alone]
  cases result <;> rfl

/-! ### Words -/

theorem settles_readWord (value : α) (letters : List Char) :
    Settles (readWord value letters) letters (.ok value) :=
  fun rest _ => verdict_eq_ok_iff.mpr (readWord_eq_ok_iff.mpr ⟨rest, rfl, rfl⟩)

/-! ### Strings that are passed over -/

private theorem skipEscape_piece {tail : List Char} (piece : Piece ('\\' :: tail))
    (rest : List Char) : skipEscape (tail ++ rest) = .ok tail.length := by
  cases piece with
  | plain _ noBackslash _ => exact absurd rfl noBackslash
  | @short letter char listed =>
    have notUnicode : letter ≠ 'u' := by
      rintro rfl
      simp [shortEscapes] at listed
    rw [List.singleton_append, skipEscape, shortEscape?_eq_some_iff.mpr listed]
    · rfl
    · exact notUnicode
  | unit isUnit =>
    rw [List.cons_append, skipEscape, readHex4_eq_ok_iff.mpr ⟨_, rest, rfl, isUnit⟩,
      List.length_cons, isUnit.length_eq]
    rfl

/-- A piece is one character, or an escape. -/
private theorem Piece.cases {piece : List Char} (isPiece : Piece piece) :
    (∃ char, piece = [char] ∧ char ≠ '"' ∧ char ≠ '\\' ∧ ' ' ≤ char) ∨
      ∃ tail, piece = '\\' :: tail := by
  cases isPiece with
  | plain noQuote noBackslash noControl => exact .inl ⟨_, rfl, noQuote, noBackslash, noControl⟩
  | short listed => exact .inr ⟨_, rfl⟩
  | unit isUnit => exact .inr ⟨_, rfl⟩

private theorem skipStringFrom_pieces {pieces : List Char} (arePieces : Pieces pieces)
    (length : Nat) (rest : List Char) :
    skipStringFrom length (pieces ++ '"' :: rest) = .ok ⟨(), length + pieces.length + 1⟩ := by
  induction arePieces generalizing length with
  | nil =>
    rw [List.nil_append, skipStringFrom, if_pos rfl]
    rfl
  | @cons piece others first _ ih =>
    rcases first.cases with ⟨char, rfl, noQuote, noBackslash, noControl⟩ | ⟨tail, rfl⟩
    · have printable : ¬ char < ' ' := Nat.not_lt.mpr noControl
      rw [List.append_assoc, List.singleton_append, skipStringFrom, if_neg noQuote,
        if_neg noBackslash, if_neg printable, ih, List.singleton_append, List.length_cons]
      congr 2
      omega
    · rw [List.append_assoc, List.cons_append, skipStringFrom, if_neg (by decide), if_pos rfl,
        skipEscape_piece first]
      simp only [List.drop_left]
      rw [ih, List.cons_append, List.length_cons, List.length_append]
      congr 2
      omega

theorem settles_skipString {tail : List Char} (isString : StringText ('"' :: tail)) :
    Settles skipString tail (.ok ()) := by
  intro rest _
  cases isString with
  | @quoted pieces arePieces =>
    have skips := skipStringFrom_pieces arePieces 0 rest
    refine verdict_eq_ok_iff.mpr ?_
    rw [skipString, List.append_assoc, List.singleton_append, skips, List.length_append,
      List.length_singleton, Nat.zero_add]

/-! ### Numbers -/

/-- Whether no digit comes next. -/
private def NoDigit (rest : List Char) : Prop :=
  ∀ char, rest.head? = some char → isDigit char = false

private theorem takeWhile_digits {digits rest : List Char}
    (areDigits : ∀ char ∈ digits, isDigit char) (ends : NoDigit rest) :
    (digits ++ rest).takeWhile isDigit = digits := by
  rw [List.takeWhile_append_of_pos areDigits]
  cases rest with
  | nil => rw [List.takeWhile_nil, List.append_nil]
  | cons char rest =>
    rw [List.takeWhile_cons_of_neg (Bool.eq_false_iff.mp (ends char rfl)), List.append_nil]

private theorem dropWhile_digits {digits rest : List Char}
    (areDigits : ∀ char ∈ digits, isDigit char) (ends : NoDigit rest) :
    (digits ++ rest).dropWhile isDigit = rest := by
  rw [List.dropWhile_append_of_pos areDigits]
  cases rest with
  | nil => rfl
  | cons char rest => exact List.dropWhile_cons_of_neg (Bool.eq_false_iff.mp (ends char rfl))

private theorem Digits.cases {digits : List Char} (areDigits : Digits digits) :
    ∃ first more, digits = first :: more ∧ isDigit first ∧ ∀ char ∈ more, isDigit char := by
  obtain ⟨nonempty, all⟩ := areDigits
  obtain ⟨first, more, rfl⟩ := List.exists_cons_of_ne_nil nonempty
  obtain ⟨isFirst, areMore⟩ := List.forall_mem_cons.mp all
  exact ⟨first, more, rfl, isFirst, areMore⟩

private theorem splitWhole_whole {whole rest : List Char} (isWhole : WholeText whole)
    (ends : NoDigit rest) (atEnd : Cause) :
    splitWhole atEnd (whole ++ rest) = .ok (whole, rest) := by
  cases isWhole with
  | zero =>
    have stops : (rest.head?.map isDigit).getD false = false := by
      cases rest with
      | nil => rfl
      | cons char rest => exact ends char rfl
    rw [List.singleton_append, splitWhole, stops]
    rfl
  | digits areDigits noZero =>
    obtain ⟨_, _, ⟨⟩, isFirst, areMore⟩ := areDigits.cases
    rw [List.cons_append, splitWhole, if_pos isFirst, takeWhile_digits areMore ends,
      dropWhile_digits areMore ends]
    exact noZero

private theorem exists_splitFraction {text : List Char} (isFraction : FractionText text)
    (atEnd : Cause) : ∃ fraction, ∀ rest, NoDigit rest → rest.head? ≠ some '.' →
      splitFraction atEnd (text ++ rest) = .ok (fraction, rest) := by
  cases isFraction with
  | none =>
    refine ⟨none, fun rest _ noPoint => ?_⟩
    rw [List.nil_append, splitFraction]
    rintro behind rfl
    exact noPoint rfl
  | @point digits areDigits =>
    obtain ⟨first, more, rfl, isFirst, _⟩ := areDigits.cases
    refine ⟨some (first :: more), fun rest ends _ => ?_⟩
    have taken := takeWhile_digits areDigits.2 ends
    have left := dropWhile_digits areDigits.2 ends
    rw [List.cons_append] at taken left
    simp only [List.cons_append, splitFraction, if_pos isFirst, taken, left]

private theorem splitExponentDigits_digits {digits rest : List Char} (areDigits : Digits digits)
    (ends : NoDigit rest) (atEnd : Cause) (sign : Option Char) :
    splitExponentDigits atEnd sign (digits ++ rest) = .ok (some (sign, digits), rest) := by
  obtain ⟨first, more, rfl, isFirst, areMore⟩ := areDigits.cases
  rw [List.cons_append, splitExponentDigits, if_pos isFirst, takeWhile_digits areMore ends,
    dropWhile_digits areMore ends]

private theorem exists_splitExponent {text : List Char} (isExponent : ExponentText text)
    (atEnd : Cause) : ∃ exponent, ∀ rest, Delimited rest →
      splitExponent atEnd (text ++ rest) = .ok (exponent, rest) := by
  cases isExponent with
  | none =>
    refine ⟨none, fun rest delimited => ?_⟩
    cases rest with
    | nil => rfl
    | cons char rest =>
      obtain ⟨_, _, notSmall, notLarge⟩ := delimited char rfl
      simp only [List.nil_append, splitExponent, notSmall, notLarge, or_self, if_false]
  | @exponent letter sign digits isLetter isSign areDigits =>
    have splits (written : Option Char) (rest : List Char) (delimited : Delimited rest) :
        splitExponentDigits atEnd written (digits ++ rest) = .ok (some (written, digits), rest) :=
      splitExponentDigits_digits areDigits (fun char next => (delimited char next).1) atEnd written
    rcases isSign with rfl | rfl | rfl
    · refine ⟨some (none, digits), fun rest delimited => ?_⟩
      rw [← splits none rest delimited, List.nil_append, List.cons_append]
      obtain ⟨first, more, rfl, isFirst, _⟩ := areDigits.cases
      simp only [splitExponent, if_pos isLetter]
      split
      · rename_i same
        cases (List.cons.inj same).1
        cases isFirst
      · rename_i same
        cases (List.cons.inj same).1
        cases isFirst
      · rfl
    · refine ⟨some (some '+', digits), fun rest delimited => ?_⟩
      rw [← splits (some '+') rest delimited]
      simp only [List.cons_append, List.nil_append, splitExponent, if_pos isLetter]
    · refine ⟨some (some '-', digits), fun rest delimited => ?_⟩
      rw [← splits (some '-') rest delimited]
      simp only [List.cons_append, List.nil_append, splitExponent, if_pos isLetter]

/-- A part of a number is followed by the next one, or by the end of the number. -/
private theorem head?_exponent {text rest : List Char} (isExponent : ExponentText text)
    (delimited : Delimited rest) {char : Char} (next : (text ++ rest).head? = some char) :
    isDigit char = false ∧ char ≠ '.' := by
  cases isExponent with
  | none =>
    obtain ⟨noDigit, noPoint, _⟩ := delimited char next
    exact ⟨noDigit, noPoint⟩
  | exponent isLetter _ _ =>
    cases next
    rcases isLetter with rfl | rfl <;> exact ⟨rfl, by decide⟩

private theorem noDigit_fraction {text more : List Char} (isFraction : FractionText text)
    (ends : NoDigit more) : NoDigit (text ++ more) := by
  cases isFraction with
  | none => exact ends
  | point _ =>
    rintro _ ⟨⟩
    rfl

private theorem exists_splitNumber {whole fraction exponent : List Char}
    (isWhole : WholeText whole) (isFraction : FractionText fraction)
    (isExponent : ExponentText exponent) (atEnd : Cause) (negative : Bool) :
    ∃ parts : NumberParts, ∀ rest, Delimited rest →
      splitNumber atEnd negative (whole ++ (fraction ++ exponent) ++ rest) =
        .ok { parts with rest } := by
  obtain ⟨found, splitsFraction⟩ := exists_splitFraction isFraction atEnd
  obtain ⟨raised, splitsExponent⟩ := exists_splitExponent isExponent atEnd
  refine ⟨{ negative, whole, fraction := found, exponent := raised, rest := [] },
    fun rest delimited => ?_⟩
  have behindFraction : NoDigit (exponent ++ rest) :=
    fun char next => (head?_exponent isExponent delimited next).1
  have noPoint : (exponent ++ rest).head? ≠ some '.' :=
    fun next => (head?_exponent isExponent delimited next).2 rfl
  have behindWhole := noDigit_fraction isFraction behindFraction
  simp only [splitNumber, List.append_assoc, splitWhole_whole isWhole behindWhole,
    splitsFraction _ behindFraction noPoint, splitsExponent rest delimited, bind, Except.bind]
  rfl

/-- A number of which there is only the whole part. -/
theorem splitNumber_whole {whole rest : List Char} (isWhole : WholeText whole)
    (delimited : Delimited rest) (atEnd : Cause) (negative : Bool) :
    splitNumber atEnd negative (whole ++ rest) =
      .ok { negative, whole, fraction := none, exponent := none, rest } := by
  have ends : NoDigit rest := fun char next => (delimited char next).1
  have noFraction : splitFraction atEnd rest = .ok (none, rest) := by
    rw [splitFraction]
    rintro behind rfl
    exact (delimited '.' rfl).2.1 rfl
  have noExponent : splitExponent atEnd rest = .ok (none, rest) := by
    cases rest with
    | nil => rfl
    | cons char rest =>
      obtain ⟨_, _, notSmall, notLarge⟩ := delimited char rfl
      simp only [splitExponent, notSmall, notLarge, or_self, if_false]
  simp only [splitNumber, splitWhole_whole isWhole ends, noFraction, noExponent, bind, Except.bind]
  rfl

theorem length_of_splitNumber {atEnd : Cause} {negative : Bool} {chars : List Char}
    {parts : NumberParts} (splits : splitNumber atEnd negative chars = .ok parts) :
    parts.length + parts.rest.length = chars.length := by
  obtain ⟨whole, fraction, exponent, rfl, _, _, _, size⟩ := splitNumber_sound splits
  simp only [size, List.length_append]
  omega

/-- A number falls into the same parts ahead of every text that is delimited. -/
theorem exists_splitNumberAt {first : Char} {tail : List Char}
    (isNumber : NumberText (first :: tail)) (atEnd : Cause) :
    ∃ parts : NumberParts, ∀ rest, Delimited rest →
      splitNumberAt atEnd first (tail ++ rest) = .ok ⟨{ parts with rest }, tail.length⟩ := by
  generalize split : first :: tail = text at isNumber
  obtain @⟨sign, whole, fraction, exponent, isSign, isWhole, isFraction, isExponent⟩ := isNumber
  have splitsWith := exists_splitNumber isWhole isFraction isExponent atEnd
  rcases isSign with rfl | rfl
  · obtain ⟨parts, splits⟩ := splitsWith false
    have noMinus : first ≠ '-' := by
      rintro rfl
      cases isWhole with
      | zero => cases split
      | digits areDigits _ =>
        obtain ⟨_, _, ⟨⟩, isFirst, _⟩ := areDigits.cases
        cases (List.cons.inj split).1
        cases isFirst
    refine ⟨parts, fun rest delimited => ?_⟩
    have found := splits rest delimited
    have size := length_of_splitNumber found
    rw [List.nil_append] at split
    rw [← split] at found size
    have tailSize : ({ parts with rest } : NumberParts).length - 1 = tail.length := by
      simp only [List.length_append, List.length_cons] at size
      omega
    rw [splitNumberAt, if_neg noMinus, ← List.cons_append, found, ← tailSize]
    rfl
  · obtain ⟨parts, splits⟩ := splitsWith true
    obtain rfl : first = '-' := (List.cons.inj split).1
    obtain rfl : tail = whole ++ (fraction ++ exponent) := (List.cons.inj split).2
    refine ⟨parts, fun rest delimited => ?_⟩
    have found := splits rest delimited
    have size := length_of_splitNumber found
    have tailSize : ({ parts with rest } : NumberParts).length =
        (whole ++ (fraction ++ exponent)).length := by
      simp only [List.length_append] at size ⊢
      omega
    rw [splitNumberAt, if_pos rfl, found, ← tailSize]
    rfl

theorem settles_skipNumber {first : Char} {tail : List Char}
    (isNumber : NumberText (first :: tail)) : Settles (skipNumber first) tail (.ok ()) := by
  obtain ⟨parts, splits⟩ := exists_splitNumberAt isNumber .invalidNumber
  intro rest delimited
  rw [skipNumber, splits rest delimited]
  rfl

/-- What follows a number only tells where a fault is. -/
private theorem verdict_value (parts : NumberParts) (rest : List Char) :
    verdict ({ parts with rest } : NumberParts).value = verdict parts.value := by
  unfold NumberParts.value
  simp only
  split
  · split
    · rfl
    · split <;> rfl
  · split
    · split <;> rfl
    · split <;> rfl

theorem exists_settles_readNumber {first : Char} {tail : List Char}
    (isNumber : NumberText (first :: tail)) : ∃ result, Settles (readNumber first) tail result := by
  obtain ⟨parts, splits⟩ := exists_splitNumberAt isNumber .endInValue
  refine ⟨verdict parts.value, fun rest delimited => ?_⟩
  rw [readNumber, splits rest delimited, ← verdict_value parts rest]
  simp only [bind, Except.bind]
  cases ({ parts with rest } : NumberParts).value <;> rfl

end SealedEnvelope.Json
