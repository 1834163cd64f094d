import SealedEnvelope.Proofs.Json.Verdicts

/-!
The numbers of a text, and the integers that are kept exactly.

A number is what stands outside of strings and starts with a digit or a minus sign, up to the first
character that no number has. Where all numbers of a text are integers in their decimal form, the
reader takes each one for what it says.
-/

namespace SealedEnvelope.Json

/-! ### Integers in decimal form -/

/-- The integers that a value keeps exactly, from -2⁶³ to 2⁶⁴-1. -/
def Exact (value : Int) : Prop := -0x8000000000000000 ≤ value ∧ value ≤ 0xFFFFFFFFFFFFFFFF

/-- The decimal form of an integer that is kept exactly: no sign but a minus, no zero in front, and
no minus zero. -/
def IntegerLiteral (literal : List Char) : Prop :=
  ∃ value, Exact value ∧ literal = (toString value).toList

/-- The decimal form of an integer has the digits of its size, behind a minus sign if it is below
zero. -/
theorem toList_toString_cases (value : Int) :
    (∃ size : Nat, value = size ∧ (toString value).toList = Nat.toDigits 10 size) ∨
      ∃ size : Nat, 0 < size ∧ value = -size ∧
        (toString value).toList = '-' :: Nat.toDigits 10 size := by
  rw [Int.toString_eq_repr, Int.repr_eq_if]
  by_cases natural : 0 ≤ value
  · refine .inl ⟨value.toNat, by omega, ?_⟩
    rw [if_pos natural, Nat.toList_repr]
  · refine .inr ⟨(-value).toNat, by omega, by omega, ?_⟩
    rw [if_neg natural, String.toList_append, Nat.toList_repr]
    rfl

theorem isDigit_of_mem_toDigits {value : Nat} {char : Char}
    (isDigit : char ∈ Nat.toDigits 10 value) : Json.isDigit char :=
  Nat.isDigit_of_mem_toDigits (by decide) (by decide) isDigit

/-- No positive number starts with a zero. -/
private theorem head_toDigits {value : Nat} (positive : 0 < value) :
    ∃ first rest, Nat.toDigits 10 value = first :: rest ∧ first ≠ '0' := by
  induction value using Nat.strongRecOn with
  | ind value ih =>
    rw [Nat.toDigits_eq_if (by decide)]
    split
    · rename_i small
      have noZero : ∀ digit < 10, 0 < digit → digit.digitChar ≠ '0' := by decide
      exact ⟨_, [], rfl, noZero value small positive⟩
    · obtain ⟨first, rest, digits, noZero⟩ := ih (value / 10) (by omega) (by omega)
      exact ⟨first, rest ++ [(value % 10).digitChar], by rw [digits]; rfl, noZero⟩

theorem wholeText_toDigits (value : Nat) : WholeText (Nat.toDigits 10 value) := by
  rcases Nat.eq_zero_or_pos value with rfl | positive
  · exact .zero
  · obtain ⟨first, rest, digits, noZero⟩ := head_toDigits positive
    rw [digits]
    refine .digits ⟨List.cons_ne_nil first rest, fun char isMember => ?_⟩ noZero
    exact isDigit_of_mem_toDigits (digits ▸ isMember)

/-- Digits whose number fits the significand are all taken into it. -/
private theorem extend_digitValues {digits : List Char} {start : Nat}
    (fits : Nat.ofDigitChars 10 digits start ≤ Number.maxSignificand) :
    Number.extend start (digitValues digits) = (Nat.ofDigitChars 10 digits start, 0) ∧
      start ≤ Nat.ofDigitChars 10 digits start := by
  induction digits generalizing start with
  | nil => exact ⟨rfl, Nat.le_refl start⟩
  | cons digit rest ih =>
    rw [Nat.ofDigitChars_cons] at fits ⊢
    obtain ⟨taken, grows⟩ := ih fits
    rw [digitValues, List.map_cons, Number.extend, Nat.mul_comm start, if_pos (grows.trans fits)]
    exact ⟨taken, by omega⟩

private theorem extend_toDigits {value : Nat} (fits : value ≤ Number.maxSignificand) :
    Number.extend 0 (digitValues (Nat.toDigits 10 value)) = (value, 0) := by
  have digits : Nat.ofDigitChars 10 (Nat.toDigits 10 value) 0 = value :=
    Nat.ofDigitChars_ten_toDigits
  rw [(extend_digitValues (by rwa [digits])).1, digits]

/-- What a number without fraction and exponent is read as. -/
private theorem value_toDigits {value : Nat} (fits : value ≤ Number.maxSignificand)
    (negative : Bool) (rest : List Char) :
    ({ negative, whole := Nat.toDigits 10 value, fraction := none, exponent := none, rest } :
      NumberParts).value = .ok (Number.ofWhole negative value) := by
  rw [NumberParts.value, extend_toDigits fits]
  rfl

theorem exists_toString_cons (value : Int) :
    ∃ first tail, (toString value).toList = first :: tail ∧ (first = '-' ∨ isDigit first) := by
  rcases toList_toString_cases value with ⟨size, _, literal⟩ | ⟨size, _, _, literal⟩
  · obtain ⟨first, tail, digits⟩ := List.exists_cons_of_ne_nil (Nat.toDigits_ne_nil (n := size))
    exact ⟨first, tail, literal.trans digits,
      .inr (isDigit_of_mem_toDigits (digits ▸ List.mem_cons_self))⟩
  · exact ⟨_, _, literal, .inl rfl⟩

/-- An integer in its decimal form is read as that integer. -/
theorem readNumber_integer {value : Int} {first : Char} {tail rest : List Char}
    (exact : Exact value) (literal : (toString value).toList = first :: tail)
    (delimited : Delimited rest) :
    readNumber first (tail ++ rest) = .ok ⟨.integer value, tail.length⟩ := by
  obtain ⟨atLeast, atMost⟩ := exact
  rcases toList_toString_cases value with ⟨size, rfl, digits⟩ | ⟨size, positive, rfl, digits⟩
  · have fits : size ≤ Number.maxSignificand := by
      rw [Number.maxSignificand]
      omega
    rw [literal] at digits
    have noMinus : first ≠ '-' := by
      rintro rfl
      have digit : isDigit '-' := isDigit_of_mem_toDigits (digits ▸ List.mem_cons_self)
      cases digit
    have splits := splitNumber_whole (wholeText_toDigits size) delimited .endInValue false
    rw [readNumber, splitNumberAt, if_neg noMinus, ← List.cons_append, digits, splits]
    simp only [Functor.map, Except.map, bind, Except.bind, value_toDigits fits]
    rw [NumberParts.length, ← digits]
    rfl
  · have fits : size ≤ Number.maxSignificand := by
      rw [Number.maxSignificand]
      omega
    rw [literal] at digits
    obtain ⟨rfl, rfl⟩ := List.cons.inj digits
    have splits := splitNumber_whole (wholeText_toDigits size) delimited .endInValue true
    rw [readNumber, splitNumberAt, if_pos rfl, splits]
    simp only [Functor.map, Except.map, bind, Except.bind, value_toDigits fits]
    rw [Number.ofWhole, if_pos rfl, if_neg (by omega)]
    rfl

/-! ### The numbers of a text -/

/-- Where the characters of a text stand. -/
inductive Place where
  | outside
  | string
  /-- Behind a backslash in a string. -/
  | escape
  /-- In a number of which some characters are read, last one first. -/
  | number (read : List Char)

/-- Whether a number starts with a character. -/
def startsNumber (char : Char) : Bool := char == '-' || isDigit char

/-- Whether a character may stand in a number. -/
def inNumber (char : Char) : Bool := isDigit char || ['-', '+', '.', 'e', 'E'].contains char

/-- The numbers of a text, as they are written, from some place on. -/
def numbersFrom : Place → List Char → List (List Char)
  | .number read, [] => [read.reverse]
  | _, [] => []
  | .outside, char :: rest =>
    if char = '"' then numbersFrom .string rest
    else if startsNumber char then numbersFrom (.number [char]) rest
    else numbersFrom .outside rest
  | .string, char :: rest =>
    if char = '"' then numbersFrom .outside rest
    else if char = '\\' then numbersFrom .escape rest
    else numbersFrom .string rest
  | .escape, _ :: rest => numbersFrom .string rest
  | .number read, char :: rest =>
    if inNumber char then numbersFrom (.number (char :: read)) rest
    else read.reverse ::
      (if char = '"' then numbersFrom .string rest else numbersFrom .outside rest)

/-- The numbers of a text, as they are written. -/
def numbers (text : String) : List (List Char) := numbersFrom .outside text.toList

theorem startsNumber_iff {char : Char} : startsNumber char ↔ char = '-' ∨ isDigit char := by
  rw [startsNumber, Bool.or_eq_true, beq_iff_eq]

theorem inNumber_of_startsNumber {char : Char} (starts : startsNumber char) : inNumber char := by
  rcases startsNumber_iff.mp starts with rfl | digit
  · decide
  · rw [inNumber, digit, Bool.true_or]

/-- Outside of strings, a character that starts neither a string nor a number is passed. -/
theorem numbersFrom_plain {char : Char} (noQuote : char ≠ '"')
    (noNumber : startsNumber char = false) (rest : List Char) :
    numbersFrom .outside (char :: rest) = numbersFrom .outside rest := by
  rw [numbersFrom, if_neg noQuote, noNumber, if_neg Bool.false_ne_true]

/-- A number goes on up to the first character that no number has. -/
private theorem numbersFrom_number (read rest : List Char) :
    numbersFrom (.number read) rest =
      (read.reverse ++ rest.takeWhile inNumber) ::
        numbersFrom .outside (rest.dropWhile inNumber) := by
  induction rest generalizing read with
  | nil => rw [List.takeWhile_nil, List.append_nil]; rfl
  | cons char rest ih =>
    by_cases goesOn : inNumber char
    · rw [numbersFrom, if_pos goesOn, ih, List.takeWhile_cons_of_pos goesOn,
        List.dropWhile_cons_of_pos goesOn, List.reverse_cons, List.append_assoc,
        List.singleton_append]
    · have noStart : ¬ startsNumber char := fun starts => goesOn (inNumber_of_startsNumber starts)
      rw [List.takeWhile_cons_of_neg goesOn, List.dropWhile_cons_of_neg goesOn, List.append_nil]
      simp only [numbersFrom, if_neg goesOn, if_neg noStart]

/-- In a string, a character that is neither a quote nor a backslash is passed. -/
private theorem numbersFrom_string_plain {char : Char} (noQuote : char ≠ '"')
    (noBackslash : char ≠ '\\') (rest : List Char) :
    numbersFrom .string (char :: rest) = numbersFrom .string rest := by
  rw [numbersFrom, if_neg noQuote, if_neg noBackslash]

private theorem numbersFrom_escape (letter : Char) (rest : List Char) :
    numbersFrom .string ('\\' :: letter :: rest) = numbersFrom .string rest := by
  rw [numbersFrom, if_neg (by decide), if_pos rfl, numbersFrom]

private theorem plain_of_hexDigit {char : Char} {value : Nat} (digit : HexDigit char value) :
    char ≠ '"' ∧ char ≠ '\\' := by
  have noDigit : ∀ value < 16, ¬ HexDigit '"' value ∧ ¬ HexDigit '\\' value := by decide
  refine ⟨?_, ?_⟩ <;> rintro rfl
  · exact (noDigit value digit.lt).1 digit
  · exact (noDigit value digit.lt).2 digit

private theorem numbersFrom_codeUnit {unit : Nat} {digits : List Char}
    (isUnit : CodeUnit unit digits) (rest : List Char) :
    numbersFrom .string ('\\' :: 'u' :: (digits ++ rest)) = numbersFrom .string rest := by
  obtain ⟨first, second, third, fourth, _⟩ := isUnit
  have pass {char : Char} {value : Nat} (digit : HexDigit char value) (rest : List Char) :
      numbersFrom .string (char :: rest) = numbersFrom .string rest :=
    numbersFrom_string_plain (plain_of_hexDigit digit).1 (plain_of_hexDigit digit).2 rest
  simp only [numbersFrom_escape, List.cons_append, List.nil_append, pass first, pass second,
    pass third, pass fourth]

private theorem numbersFrom_spelling {char : Char} {spelling : List Char}
    (spelled : Spelling char spelling) (rest : List Char) :
    numbersFrom .string (spelling ++ rest) = numbersFrom .string rest := by
  cases spelled with
  | plain noQuote noBackslash _ => exact numbersFrom_string_plain noQuote noBackslash rest
  | short _ => exact numbersFrom_escape _ rest
  | unit isUnit => exact numbersFrom_codeUnit isUnit rest
  | pair _ first second =>
    rw [List.cons_append, List.cons_append, List.append_assoc, numbersFrom_codeUnit first,
      List.cons_append, List.cons_append, numbersFrom_codeUnit second]

/-- A string holds no number. -/
theorem numbersFrom_literal {text : String} {literal : List Char} (denotes : Literal text literal)
    (rest : List Char) : numbersFrom .outside (literal ++ rest) = numbersFrom .outside rest := by
  obtain ⟨spelled⟩ := denotes
  rw [List.cons_append, List.append_assoc, List.singleton_append, numbersFrom, if_pos rfl]
  generalize text.toList = chars at spelled
  induction spelled with
  | nil => rw [List.nil_append, numbersFrom, if_pos rfl]
  | cons first _ ih => rw [List.append_assoc, numbersFrom_spelling first, ih]

/-! ### Texts whose numbers are integers -/

/-- Whether all numbers of a text are integers in their decimal form. -/
def Integral (chars : List Char) : Prop :=
  ∀ literal ∈ numbersFrom .outside chars, IntegerLiteral literal

section Parts

variable {char : Char} {chars rest : List Char}

theorem Integral.behind_plain (integral : Integral (char :: rest)) (noQuote : char ≠ '"')
    (noNumber : startsNumber char = false) : Integral rest := by
  rwa [Integral, numbersFrom_plain noQuote noNumber] at integral

/-- What stands behind characters that start neither a string nor a number. -/
theorem Integral.behind_word {word : List Char} (integral : Integral (word ++ rest))
    (plain : word.all fun char => char != '"' && !startsNumber char) : Integral rest := by
  induction word with
  | nil => exact integral
  | cons char word ih =>
    simp only [List.all_cons, Bool.and_eq_true, bne_iff_ne, Bool.not_eq_true'] at plain
    obtain ⟨⟨noQuote, noNumber⟩, others⟩ := plain
    exact ih (integral.behind_plain noQuote noNumber) others

theorem Integral.behind_spaces {spaces : List Char} (integral : Integral (spaces ++ rest))
    (blank : Spaces spaces) : Integral rest := by
  refine integral.behind_word (List.all_eq_true.mpr fun char isMember => ?_)
  rcases isSpace_cases (blank char isMember) with rfl | rfl | rfl | rfl <;> rfl

theorem Integral.behind_literal {text : String} {literal : List Char}
    (integral : Integral (literal ++ rest)) (denotes : Literal text literal) : Integral rest := by
  rwa [Integral, numbersFrom_literal denotes] at integral

/-- Where a number starts in such a text, the decimal form of an integer stands, and nothing behind
it goes on with it. -/
theorem Integral.exists_integer (integral : Integral (char :: rest)) (starts : startsNumber char) :
    ∃ value tail more, rest = tail ++ more ∧ Exact value ∧
      (toString value).toList = char :: tail ∧ Delimited more ∧ Integral more := by
  have noQuote : char ≠ '"' := by
    rintro rfl
    cases starts
  rw [Integral, numbersFrom, if_neg noQuote, if_pos starts, numbersFrom_number] at integral
  obtain ⟨⟨value, exact, literal⟩, others⟩ := List.forall_mem_cons.mp integral
  refine ⟨value, rest.takeWhile inNumber, rest.dropWhile inNumber,
    List.takeWhile_append_dropWhile.symm, exact, literal.symm, fun next same => ?_, others⟩
  have ends := List.head?_dropWhile_not inNumber rest
  simp only [same, inNumber, Bool.or_eq_false_iff] at ends
  refine ⟨ends.1, ?_, ?_, ?_⟩ <;> rintro rfl <;> cases ends.2

end Parts

end SealedEnvelope.Json
