import Mathlib.Data.List.Forall2
import SealedEnvelope.Json.Printer
import SealedEnvelope.Proofs.Json.Words

/-!
String literals of JSON and the texts they denote.

A character stands for itself, or behind a backslash as a letter or as the hexadecimal digits of
its UTF-16 code units. The reader takes exactly these spellings, and the printer writes one.
-/

namespace SealedEnvelope.Json

/-! ### Spellings -/

/-- The hexadecimal digits in lower case. -/
def hexDigits : List Char :=
  ['0', '1', '2', '3', '4', '5', '6', '7', '8', '9', 'a', 'b', 'c', 'd', 'e', 'f']

/-- A hexadecimal digit in either case. -/
def HexDigit (char : Char) (value : Nat) : Prop :=
  hexDigits[value]? = some char ∨ (hexDigits.map Char.toUpper)[value]? = some char

instance (char : Char) (value : Nat) : Decidable (HexDigit char value) :=
  inferInstanceAs (Decidable (_ ∨ _))

/-- The four digits of a code unit. -/
inductive CodeUnit (unit : Nat) : List Char → Prop where
  | digits {a b c d : Char} {p q r s : Nat} (first : HexDigit a p) (second : HexDigit b q)
      (third : HexDigit c r) (fourth : HexDigit d s)
      (value : unit = ((p * 16 + q) * 16 + r) * 16 + s) : CodeUnit unit [a, b, c, d]

/-- The letters that stand behind a backslash, and what they stand for. -/
def shortEscapes : List (Char × Char) :=
  [('"', '"'), ('\\', '\\'), ('/', '/'), ('b', '\x08'), ('f', '\x0c'), ('n', '\n'), ('r', '\r'),
    ('t', '\t')]

/-- How a character may be spelled in a string. -/
inductive Spelling (char : Char) : List Char → Prop where
  | plain (noQuote : char ≠ '"') (noBackslash : char ≠ '\\') (noControl : ' ' ≤ char) :
      Spelling char [char]
  | short {letter : Char} (listed : (letter, char) ∈ shortEscapes) : Spelling char ['\\', letter]
  | unit {digits : List Char} (unit : CodeUnit char.toNat digits) :
      Spelling char ('\\' :: 'u' :: digits)
  | pair {high low : List Char} (beyond : 0x10000 ≤ char.toNat)
      (first : CodeUnit (0xD800 + (char.toNat - 0x10000) / 0x400) high)
      (second : CodeUnit (0xDC00 + (char.toNat - 0x10000) % 0x400) low) :
      Spelling char ('\\' :: 'u' :: (high ++ '\\' :: 'u' :: low))

/-- How a list of characters may be spelled. -/
inductive Spelled : List Char → List Char → Prop where
  | nil : Spelled [] []
  | cons {char : Char} {chars spelling rest : List Char} (first : Spelling char spelling)
      (others : Spelled chars rest) : Spelled (char :: chars) (spelling ++ rest)

/-- A string literal that denotes a text. -/
inductive Literal (text : String) : List Char → Prop where
  | quoted {spelling : List Char} (spelled : Spelled text.toList spelling) :
      Literal text ('"' :: (spelling ++ ['"']))

/-! ### Digits -/

theorem HexDigit.lt {char : Char} {value : Nat} (digit : HexDigit char value) : value < 16 := by
  rcases digit with lower | upper
  · exact (List.getElem?_eq_some_iff.mp lower).1
  · exact (List.getElem?_eq_some_iff.mp upper).1

private theorem hexDigit_of_digit? {char : Char} {value : Nat}
    (reads : Hex.digit? char = some value) : HexDigit char value := by
  have decimals : ∀ value < 10, hexDigits[value]? = some (Char.ofNat (48 + value)) := by decide
  have lowers : ∀ value < 6, hexDigits[value + 10]? = some (Char.ofNat (97 + value)) := by decide
  have uppers : ∀ value < 6,
      (hexDigits.map Char.toUpper)[value + 10]? = some (Char.ofNat (65 + value)) := by decide
  have range {low high : Char} :
      (low ≤ char ∧ char ≤ high) ↔ low.toNat ≤ char.toNat ∧ char.toNat ≤ high.toNat := Iff.rfl
  have ends : '0'.toNat = 48 ∧ '9'.toNat = 57 ∧ 'a'.toNat = 97 ∧ 'f'.toNat = 102 ∧
    'A'.toNat = 65 ∧ 'F'.toNat = 70 := ⟨rfl, rfl, rfl, rfl, rfl, rfl⟩
  have back {code : Nat} (same : code = char.toNat) : Char.ofNat code = char := by
    rw [same, Char.ofNat_toNat]
  simp only [Hex.digit?, range] at reads
  split at reads
  · obtain rfl := Option.some.inj reads
    left
    rw [decimals _ (by omega), back (by omega)]
  split at reads
  · obtain rfl := Option.some.inj reads
    left
    rw [lowers _ (by omega), back (by omega)]
  split at reads
  · obtain rfl := Option.some.inj reads
    right
    rw [uppers _ (by omega), back (by omega)]
  · cases reads

theorem digit?_eq_some_iff {char : Char} {value : Nat} :
    Hex.digit? char = some value ↔ HexDigit char value := by
  constructor
  · exact hexDigit_of_digit?
  · have lowers : ∀ value < 16, hexDigits[value]?.bind Hex.digit? = some value := by decide
    have uppers : ∀ value < 16,
        (hexDigits.map Char.toUpper)[value]?.bind Hex.digit? = some value := by decide
    intro digit
    have bound := digit.lt
    rcases digit with lower | upper
    · have reads := lowers value bound
      rwa [lower] at reads
    · have reads := uppers value bound
      rwa [upper] at reads

theorem CodeUnit.length_eq {unit : Nat} {digits : List Char} (spelled : CodeUnit unit digits) :
    digits.length = 4 := by
  cases spelled
  rfl

theorem CodeUnit.lt {unit : Nat} {digits : List Char} (spelled : CodeUnit unit digits) :
    unit < 0x10000 := by
  obtain ⟨first, second, third, fourth, rfl⟩ := spelled
  have p := first.lt
  have q := second.lt
  have r := third.lt
  have s := fourth.lt
  omega

private theorem hexDigits_of_mapM {chars : List Char} {values : List Nat}
    (reads : chars.mapM Hex.digit? = some values) : List.Forall₂ HexDigit chars values := by
  induction chars generalizing values with
  | nil =>
    obtain rfl := Option.some.inj reads
    exact .nil
  | cons char rest ih =>
    rw [List.mapM_cons] at reads
    obtain ⟨value, first, reads⟩ := Option.bind_eq_some_iff.mp reads
    obtain ⟨others, readsOthers, reads⟩ := Option.bind_eq_some_iff.mp reads
    obtain rfl := Option.some.inj reads
    exact .cons (digit?_eq_some_iff.mp first) (ih readsOthers)

theorem readHex4_eq_ok_iff {chars : List Char} {unit : Nat} :
    readHex4 chars = .ok unit ↔ ∃ digits rest, chars = digits ++ rest ∧ CodeUnit unit digits := by
  constructor
  · intro reads
    rw [readHex4] at reads
    split at reads
    · rename_i values
      obtain rfl := Except.ok.inj reads
      have whole := (List.take_append_drop 4 chars).symm
      generalize chars.take 4 = digits at *
      rcases hexDigits_of_mapM values with _ | ⟨first, _ | ⟨second, _ | ⟨third, _ | ⟨fourth, ⟨⟩⟩⟩⟩⟩
      exact ⟨_, chars.drop 4, whole, .digits first second third fourth rfl⟩
    · split at reads <;> cases reads
  · rintro ⟨_, rest, rfl, ⟨first, second, third, fourth, rfl⟩⟩
    rw [← digit?_eq_some_iff] at first second third fourth
    simp [readHex4, first, second, third, fourth]

/-! ### Escapes -/

theorem shortEscape?_eq_some_iff {letter char : Char} :
    shortEscape? letter = some char ↔ (letter, char) ∈ shortEscapes := by
  constructor
  · intro reads
    unfold shortEscape? at reads
    split at reads <;> cases reads <;> decide
  · intro listed
    have readable : ∀ escape ∈ shortEscapes, shortEscape? escape.1 = some escape.2 := by decide
    exact readable _ listed

private theorem toNat_ofNat {code : Nat} (valid : code.isValidChar) :
    (Char.ofNat code).toNat = code := by
  rw [Char.ofNat, dif_pos valid]
  rfl

private theorem readSecondHalf_eq_ok_iff {high : Nat} {chars : List Char} {lexeme : Lexeme Char} :
    readSecondHalf high chars = .ok lexeme ↔
      ∃ low unit rest, chars = '\\' :: 'u' :: (low ++ rest) ∧ CodeUnit unit low ∧
        0xDC00 ≤ unit ∧ unit ≤ 0xDFFF ∧
        lexeme = ⟨Char.ofNat (0x10000 + (high - 0xD800) * 0x400 + (unit - 0xDC00)), 6⟩ := by
  constructor
  · intro reads
    unfold readSecondHalf at reads
    split at reads
    · cases reads
    · obtain ⟨unit, hex, reads⟩ := bind_eq_ok_iff.mp reads
      obtain ⟨low, rest, rfl, isUnit⟩ := readHex4_eq_ok_iff.mp hex
      simp only [bind, Except.bind] at reads
      split at reads
      · cases reads
      · obtain rfl := Except.ok.inj reads
        exact ⟨low, unit, rest, rfl, isUnit, by omega, by omega, rfl⟩
    · cases reads
    · cases reads
    · cases reads
  · rintro ⟨low, unit, rest, rfl, isUnit, above, below, rfl⟩
    rw [readSecondHalf, readHex4_eq_ok_iff.mpr ⟨low, rest, rfl, isUnit⟩]
    simp only [bind, Except.bind]
    rw [if_neg (by omega)]
    rfl

/-- A code point beyond sixteen bits and the two surrogates that stand for it. -/
private theorem surrogates_iff {high low code : Nat} (isHigh : 0xD800 ≤ high ∧ high ≤ 0xDBFF)
    (isLow : 0xDC00 ≤ low ∧ low ≤ 0xDFFF) :
    code = 0x10000 + (high - 0xD800) * 0x400 + (low - 0xDC00) ↔
      0x10000 ≤ code ∧ high = 0xD800 + (code - 0x10000) / 0x400 ∧
        low = 0xDC00 + (code - 0x10000) % 0x400 := by
  omega

theorem readUnicode_eq {chars : List Char} {unit : Nat}
    (hex : readHex4 chars = .ok unit) :
    readUnicode chars =
      if 0xDC00 ≤ unit ∧ unit ≤ 0xDFFF then
        .error { cause := .loneSurrogate, rest := chars.drop 4 }
      else if 0xD800 ≤ unit ∧ unit ≤ 0xDBFF then
        (readSecondHalf unit (chars.drop 4)).map fun pair => ⟨pair.value, 4 + pair.length⟩
      else .ok ⟨Char.ofNat unit, 4⟩ := by
  rw [readUnicode, hex]
  by_cases isLow : 0xDC00 ≤ unit ∧ unit ≤ 0xDFFF
  · rw [if_pos isLow]
    simp only [bind, Except.bind, if_pos isLow]
    rfl
  · rw [if_neg isLow]
    simp only [bind, Except.bind, if_neg isLow]
    rfl

/-- A code unit that is no surrogate spells a character. -/
theorem spelling_unit {unit : Nat} {digits : List Char} (isUnit : CodeUnit unit digits)
    (noHigh : ¬ (0xD800 ≤ unit ∧ unit ≤ 0xDBFF)) (noLow : ¬ (0xDC00 ≤ unit ∧ unit ≤ 0xDFFF)) :
    Spelling (Char.ofNat unit) ('\\' :: 'u' :: digits) := by
  have small := isUnit.lt
  have valid : unit.isValidChar := by
    unfold Nat.isValidChar
    omega
  rw [← toNat_ofNat valid] at isUnit
  exact .unit isUnit

/-- Two surrogates spell a character together. -/
theorem spelling_pair {high low : Nat} {digits others : List Char} (isUnit : CodeUnit high digits)
    (isOther : CodeUnit low others) (isHigh : 0xD800 ≤ high ∧ high ≤ 0xDBFF)
    (isLow : 0xDC00 ≤ low ∧ low ≤ 0xDFFF) :
    Spelling (Char.ofNat (0x10000 + (high - 0xD800) * 0x400 + (low - 0xDC00)))
      ('\\' :: 'u' :: (digits ++ '\\' :: 'u' :: others)) := by
  have valid : (0x10000 + (high - 0xD800) * 0x400 + (low - 0xDC00)).isValidChar := by
    unfold Nat.isValidChar
    omega
  have value := toNat_ofNat valid
  generalize Char.ofNat (0x10000 + (high - 0xD800) * 0x400 + (low - 0xDC00)) = char at value
  obtain ⟨beyond, first, last⟩ := (surrogates_iff isHigh isLow).mp value
  rw [first] at isUnit
  rw [last] at isOther
  exact .pair beyond isUnit isOther

private theorem spelling_of_readUnicode {chars : List Char} {lexeme : Lexeme Char}
    (reads : readUnicode chars = .ok lexeme) :
    ∃ digits rest, chars = digits ++ rest ∧
      Spelling lexeme.value ('\\' :: 'u' :: digits) ∧ lexeme.length = digits.length := by
  obtain ⟨unit, hex, _⟩ := bind_eq_ok_iff.mp reads
  rw [readUnicode_eq hex] at reads
  obtain ⟨digits, rest, rfl, isUnit⟩ := readHex4_eq_ok_iff.mp hex
  have four := isUnit.length_eq
  split at reads
  · cases reads
  rename_i noLow
  split at reads
  · rename_i isHigh
    obtain ⟨pair, second, rfl⟩ := map_eq_ok_iff.mp reads
    rw [List.drop_left' four] at second
    obtain ⟨low, other, behind, rfl, isOther, above, below, rfl⟩ :=
      readSecondHalf_eq_ok_iff.mp second
    have spelled := spelling_pair isUnit isOther isHigh ⟨above, below⟩
    generalize Char.ofNat (0x10000 + (unit - 0xD800) * 0x400 + (other - 0xDC00)) = char at spelled
    exact ⟨digits ++ '\\' :: 'u' :: low, behind, by simp, spelled,
      by simp [four, isOther.length_eq]⟩
  · rename_i noHigh
    obtain rfl := Except.ok.inj reads
    exact ⟨digits, rest, rfl, spelling_unit isUnit noHigh noLow, four.symm⟩

private theorem readUnicode_spelled {char : Char} {digits : List Char}
    (spelled : Spelling char ('\\' :: 'u' :: digits)) (rest : List Char) :
    readUnicode (digits ++ rest) = .ok ⟨char, digits.length⟩ := by
  have valid : char.toNat < 0xD800 ∨ (0xDFFF < char.toNat ∧ char.toNat < 0x110000) := char.valid
  cases spelled with
  | short listed => simp [shortEscapes] at listed
  | unit isUnit =>
    have small := isUnit.lt
    rw [readUnicode_eq (readHex4_eq_ok_iff.mpr ⟨digits, rest, rfl, isUnit⟩), if_neg (by omega),
      if_neg (by omega), isUnit.length_eq, Char.ofNat_toNat]
  | @pair high low beyond first second =>
    generalize highIs : 0xD800 + (char.toNat - 0x10000) / 0x400 = unit at first
    generalize lowIs : 0xDC00 + (char.toNat - 0x10000) % 0x400 = other at second
    have isHigh : 0xD800 ≤ unit ∧ unit ≤ 0xDBFF := by omega
    have isLow : 0xDC00 ≤ other ∧ other ≤ 0xDFFF := by omega
    have value := (surrogates_iff isHigh isLow).mpr ⟨beyond, highIs.symm, lowIs.symm⟩
    have reads : readSecondHalf unit ('\\' :: 'u' :: (low ++ rest)) = .ok ⟨char, 6⟩ := by
      refine readSecondHalf_eq_ok_iff.mpr
        ⟨low, other, rest, rfl, second, isLow.1, isLow.2, ?_⟩
      rw [← value, Char.ofNat_toNat]
    rw [List.append_assoc, readUnicode_eq (readHex4_eq_ok_iff.mpr ⟨high, _, rfl, first⟩),
      if_neg (by omega), if_pos isHigh, List.drop_left' first.length_eq, List.cons_append,
      List.cons_append, reads, List.length_append, first.length_eq, List.length_cons,
      List.length_cons, second.length_eq]
    rfl

private theorem spelling_of_readEscape {chars : List Char} {lexeme : Lexeme Char}
    (reads : readEscape chars = .ok lexeme) :
    ∃ spelling rest, chars = spelling ++ rest ∧ Spelling lexeme.value ('\\' :: spelling) ∧
      lexeme.length = spelling.length := by
  unfold readEscape at reads
  split at reads
  · cases reads
  · obtain ⟨character, unicode, reads⟩ := bind_eq_ok_iff.mp reads
    obtain rfl := Except.ok.inj reads
    obtain ⟨spelling, rest, rfl, spelled, length⟩ := spelling_of_readUnicode unicode
    exact ⟨'u' :: spelling, rest, rfl, spelled, by simp [length, Nat.add_comm]⟩
  · rename_i letter rest _
    split at reads
    · rename_i meant short
      obtain rfl := Except.ok.inj reads
      exact ⟨[letter], rest, rfl, .short (shortEscape?_eq_some_iff.mp short), rfl⟩
    · cases reads

private theorem readEscape_unicode {char : Char} {digits : List Char}
    (spelled : Spelling char ('\\' :: 'u' :: digits)) (rest : List Char) :
    readEscape ('u' :: (digits ++ rest)) = .ok ⟨char, digits.length + 1⟩ := by
  rw [readEscape, readUnicode_spelled spelled, Nat.add_comm]
  rfl

/-- A spelling is the character itself or an escape that the reader takes. -/
private theorem Spelling.cases {char : Char} {spelling : List Char}
    (spelled : Spelling char spelling) :
    (spelling = [char] ∧ char ≠ '"' ∧ char ≠ '\\' ∧ ' ' ≤ char) ∨
      ∃ tail, spelling = '\\' :: tail ∧
        ∀ rest, readEscape (tail ++ rest) = .ok ⟨char, tail.length⟩ := by
  cases spelled with
  | plain noQuote noBackslash noControl => exact .inl ⟨rfl, noQuote, noBackslash, noControl⟩
  | @short letter listed =>
    refine .inr ⟨[letter], rfl, fun rest => ?_⟩
    have notUnicode : letter ≠ 'u' := by
      rintro rfl
      simp [shortEscapes] at listed
    rw [List.singleton_append, readEscape, shortEscape?_eq_some_iff.mpr listed]
    · rfl
    · exact notUnicode
  | unit isUnit => exact .inr ⟨_, rfl, readEscape_unicode (.unit isUnit)⟩
  | pair beyond first second =>
    exact .inr ⟨_, rfl, readEscape_unicode (.pair beyond first second)⟩

/-! ### Whole strings -/

/-- What is spelled is put behind the characters already read. -/
theorem readStringOnto_append {meaning spelling : List Char} (spelled : Spelled meaning spelling)
    (read : List Char) (length : Nat) (more : List Char) :
    readStringOnto read length (spelling ++ more) =
      readStringOnto (meaning.reverse ++ read) (length + spelling.length) more := by
  induction spelled generalizing read length with
  | nil => rfl
  | @cons char chars spelling others first _ ih =>
    have onto : chars.reverse ++ char :: read = (char :: chars).reverse ++ read := by
      rw [List.reverse_cons, List.append_assoc, List.singleton_append]
    rcases first.cases with ⟨rfl, noQuote, noBackslash, noControl⟩ | ⟨tail, rfl, reads⟩
    · have printable : ¬ char < ' ' := Nat.not_lt.mpr noControl
      rw [List.append_assoc, List.singleton_append, readStringOnto, if_neg noQuote,
        if_neg noBackslash, if_neg printable, ih, onto, List.singleton_append, List.length_cons]
      congr 1
      omega
    · rw [List.append_assoc, List.cons_append, readStringOnto, if_neg (by decide), if_pos rfl,
        reads]
      simp only [List.drop_left]
      rw [ih, onto, List.cons_append, List.length_cons, List.length_append]
      congr 1
      omega

private theorem readStringOnto_spelled {meaning spelling : List Char}
    (spelled : Spelled meaning spelling) (read : List Char) (length : Nat) (rest : List Char) :
    readStringOnto read length (spelling ++ '"' :: rest) =
      .ok ⟨String.ofList (read.reverse ++ meaning), length + spelling.length + 1⟩ := by
  rw [readStringOnto_append spelled, readStringOnto, if_pos rfl, List.reverse_append,
    List.reverse_reverse]

private theorem spelled_of_readStringOnto {read : List Char} {length : Nat} {chars : List Char}
    {lexeme : Lexeme String} (reads : readStringOnto read length chars = .ok lexeme) :
    ∃ meaning spelling rest, chars = spelling ++ '"' :: rest ∧ Spelled meaning spelling ∧
      lexeme = ⟨String.ofList (read.reverse ++ meaning), length + spelling.length + 1⟩ := by
  fun_induction readStringOnto read length chars with
  | case1 => cases reads
  | case2 read length rest =>
    obtain rfl := Except.ok.inj reads
    exact ⟨[], [], rest, rfl, .nil, by simp⟩
  | case3 read length rest escape escapes _ ih =>
    obtain ⟨tail, behind, rfl, spelled, size⟩ := spelling_of_readEscape escapes
    rw [size, List.drop_left] at ih reads
    obtain ⟨meaning, spelling, rest, rfl, others, rfl⟩ := ih reads
    refine ⟨escape.value :: meaning, '\\' :: tail ++ spelling, rest, by simp,
      .cons spelled others, ?_⟩
    rw [List.reverse_cons, List.append_assoc, List.singleton_append, List.length_append,
      List.length_cons]
    congr 1
    omega
  | case4 => cases reads
  | case5 => cases reads
  | case6 read length char rest noQuote noBackslash noControl ih =>
    obtain ⟨meaning, spelling, rest, rfl, others, rfl⟩ := ih reads
    have spelled : Spelling char [char] := .plain noQuote noBackslash (Nat.not_lt.mp noControl)
    refine ⟨char :: meaning, [char] ++ spelling, rest, by simp, .cons spelled others, ?_⟩
    rw [List.reverse_cons, List.append_assoc, List.singleton_append, List.singleton_append,
      List.length_cons]
    congr 1
    omega

/-- The reader takes a literal, told from behind its opening quote, and nothing else. -/
theorem readString_eq_ok_iff {chars : List Char} {lexeme : Lexeme String} :
    readString chars = .ok lexeme ↔ ∃ tail rest, chars = tail ++ rest ∧
      Literal lexeme.value ('"' :: tail) ∧ lexeme.length = tail.length := by
  constructor
  · intro reads
    obtain ⟨meaning, spelling, rest, rfl, spelled, rfl⟩ := spelled_of_readStringOnto reads
    rw [← String.toList_ofList (l := meaning)] at spelled
    refine ⟨spelling ++ ['"'], rest, by simp, .quoted spelled, by simp⟩
  · rintro ⟨tail, rest, rfl, literal, length⟩
    obtain ⟨text, size⟩ := lexeme
    cases literal with
    | @quoted spelling spelled =>
      obtain rfl : size = (spelling ++ ['"']).length := length
      rw [List.append_assoc, List.singleton_append, readString, readStringOnto_spelled spelled]
      simp

theorem literal_iff_readString {text : String} {tail : List Char} :
    Literal text ('"' :: tail) ↔ readString tail = .ok ⟨text, tail.length⟩ := by
  constructor
  · exact fun denotes => readString_eq_ok_iff.mpr ⟨tail, [], by simp, denotes, rfl⟩
  · intro reads
    obtain ⟨front, rest, rfl, denotes, size⟩ := readString_eq_ok_iff.mp reads
    have none : rest = [] := by
      rw [← List.length_eq_zero_iff]
      simp only [List.length_append] at size
      omega
    rwa [none, List.append_nil]

theorem Literal.exists_tail {text : String} {chars : List Char} (denotes : Literal text chars) :
    ∃ tail, chars = '"' :: tail := by
  cases denotes
  exact ⟨_, rfl⟩

/-- A string denotes one text at most. -/
theorem Literal.unique {one other : String} {chars : List Char} (first : Literal one chars)
    (second : Literal other chars) : one = other := by
  obtain ⟨tail, rfl⟩ := first.exists_tail
  have same := (literal_iff_readString.mp first).symm.trans (literal_iff_readString.mp second)
  rw [Except.ok.injEq, Lexeme.mk.injEq] at same
  exact same.1

/-- Whether a reader took a whole text for a meaning. -/
private def isWhole (text : String) (length : Nat) : Except Fault (Lexeme String) → Bool
  | .ok lexeme => lexeme.value == text && lexeme.length == length
  | .error _ => false

private theorem isWhole_iff {text : String} {length : Nat} {read : Except Fault (Lexeme String)} :
    isWhole text length read = true ↔ read = .ok ⟨text, length⟩ := by
  cases read with
  | error => exact ⟨nofun, nofun⟩
  | ok lexeme =>
    rw [isWhole, Bool.and_eq_true, beq_iff_eq, beq_iff_eq, Except.ok.injEq, Lexeme.mk.injEq]

instance (text : String) : (chars : List Char) → Decidable (Literal text chars)
  | [] => .isFalse nofun
  | first :: tail =>
    if quote : first = '"' then
      decidable_of_iff (isWhole text tail.length (readString tail) = true) <| by
        rw [isWhole_iff, quote, literal_iff_readString]
    else .isFalse fun denotes => by
      cases denotes
      exact quote rfl

/-! ### Printing -/

theorem hexDigit_digit : ∀ value < 16, HexDigit (Hex.digit value) value := by decide

theorem spelling_escapeChar (char : Char) : Spelling char (escapeChar char) := by
  unfold escapeChar
  split
  iterate 7 exact .short (by decide)
  rename_i noQuote noBackslash _ _ _ _ _
  split
  · rename_i control
    have small : char.toNat < 32 := control
    refine .unit (.digits (hexDigit_digit 0 (by decide)) (hexDigit_digit 0 (by decide))
      (hexDigit_digit _ ?_) (hexDigit_digit _ ?_) ?_)
    all_goals omega
  · rename_i noControl
    exact .plain noQuote noBackslash (Nat.not_lt.mp noControl)

theorem literal_stringChars (text : String) : Literal text (stringChars text) := by
  have spelled (chars : List Char) : Spelled chars (chars.flatMap escapeChar) := by
    induction chars with
    | nil => exact .nil
    | cons char rest ih =>
      rw [List.flatMap_cons]
      exact .cons (spelling_escapeChar char) ih
  exact .quoted (spelled text.toList)

end SealedEnvelope.Json
