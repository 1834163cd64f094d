import SealedEnvelope.Proofs.Words
import SealedEnvelope.Text.Utf8

/-!
The decoder reads exactly what the encoder writes.

Between the two stands the table of well-formed byte sequences: the encoder writes one of them for
every character, and the decoder passes over nothing else.
-/

namespace SealedEnvelope.Utf8

/-! ### Well-formed sequences -/

/-- A byte that goes on with a character. -/
def Continues (byte : UInt8) : Prop := 0x80 ≤ byte.toNat ∧ byte.toNat ≤ 0xBF

/-- The well-formed sequences of one to four bytes and the code points they stand for. Overlong
forms, surrogates and code points beyond the last one are left out. -/
inductive Sequence (code : Nat) : Bytes → Prop where
  | one {b0 : UInt8} (value : code = b0.toNat) (first : b0.toNat ≤ 0x7F) : Sequence code [b0]
  | two {b0 b1 : UInt8} (value : code = b0.toNat % 32 * 64 + b1.toNat % 64)
      (low : 0xC2 ≤ b0.toNat) (high : b0.toNat ≤ 0xDF) (last : Continues b1) :
      Sequence code [b0, b1]
  | three {b0 b1 b2 : UInt8}
      (value : code = (b0.toNat % 16 * 64 + b1.toNat % 64) * 64 + b2.toNat % 64)
      (low : 0xE0 ≤ b0.toNat) (high : b0.toNat ≤ 0xEF) (second : Continues b1)
      (notLong : b0.toNat = 0xE0 → 0xA0 ≤ b1.toNat)
      (noSurrogate : b0.toNat = 0xED → b1.toNat ≤ 0x9F) (last : Continues b2) :
      Sequence code [b0, b1, b2]
  | four {b0 b1 b2 b3 : UInt8}
      (value : code =
        ((b0.toNat % 8 * 64 + b1.toNat % 64) * 64 + b2.toNat % 64) * 64 + b3.toNat % 64)
      (low : 0xF0 ≤ b0.toNat) (high : b0.toNat ≤ 0xF4) (second : Continues b1)
      (notLong : b0.toNat = 0xF0 → 0x90 ≤ b1.toNat)
      (inRange : b0.toNat = 0xF4 → b1.toNat ≤ 0x8F) (third : Continues b2)
      (last : Continues b3) :
      Sequence code [b0, b1, b2, b3]

theorem sequence_encodeChar (char : Char) :
    Sequence char.toNat (String.utf8EncodeChar char) := by
  have bounds : char.toNat < 0xD800 ∨ (0xDFFF < char.toNat ∧ char.toNat < 0x110000) := char.valid
  have value : char.val.toNat = char.toNat := rfl
  rw [String.utf8EncodeChar, value]
  generalize char.toNat = code at bounds
  split
  · apply Sequence.one <;> simp only [UInt8.toNat_ofNat'] <;> omega
  split
  · apply Sequence.two <;> simp only [UInt8.toNat_ofNat', Continues] <;> omega
  split
  · apply Sequence.three <;> simp only [UInt8.toNat_ofNat', Continues] <;> omega
  · apply Sequence.four <;> simp only [UInt8.toNat_ofNat', Continues] <;> omega

theorem isValidChar_of_sequence {code : Nat} {bytes : Bytes} (spelled : Sequence code bytes) :
    code.isValidChar := by
  unfold Nat.isValidChar
  cases spelled with
  | one => omega
  | two => simp only [Continues] at *; omega
  | three => simp only [Continues] at *; omega
  | four => simp only [Continues] at *; omega

/-- A code point has one well-formed sequence, the one that the encoder writes. -/
theorem encodeChar_of_sequence {code : Nat} {bytes : Bytes} (spelled : Sequence code bytes) :
    String.utf8EncodeChar (Char.ofNat code) = bytes := by
  have value : (Char.ofNat code).val.toNat = code := by
    rw [Char.ofNat, dif_pos (isValidChar_of_sequence spelled)]
    rfl
  rw [String.utf8EncodeChar, value]
  cases spelled with
  | one value first =>
    rw [if_pos (by omega), value, UInt8.ofNat_toNat]
  | two value low high last =>
    simp only [Continues] at last
    rw [if_neg (by omega), if_pos (by omega)]
    simp only [List.cons.injEq, and_true]
    exact ⟨Bytes.toUInt8_eq (by omega), Bytes.toUInt8_eq (by omega)⟩
  | three value low high second notLong noSurrogate last =>
    simp only [Continues] at second last
    rw [if_neg (by omega), if_neg (by omega), if_pos (by omega)]
    simp only [List.cons.injEq, and_true]
    exact ⟨Bytes.toUInt8_eq (by omega), Bytes.toUInt8_eq (by omega),
      Bytes.toUInt8_eq (by omega)⟩
  | four value low high second notLong inRange third last =>
    simp only [Continues] at second third last
    rw [if_neg (by omega), if_neg (by omega), if_neg (by omega)]
    simp only [List.cons.injEq, and_true]
    exact ⟨Bytes.toUInt8_eq (by omega), Bytes.toUInt8_eq (by omega),
      Bytes.toUInt8_eq (by omega), Bytes.toUInt8_eq (by omega)⟩

/-! ### The first byte -/

private theorem begin?_two {byte : UInt8} (low : 0xC2 ≤ byte.toNat) (high : byte.toNat ≤ 0xDF) :
    begin? byte = some ⟨1, 1, 0x80, 0xBF, byte.toNat % 32⟩ := by
  rw [begin?, if_pos ⟨UInt8.le_iff_toNat_le.mpr low, UInt8.le_iff_toNat_le.mpr high⟩]

private theorem begin?_three {byte : UInt8} (low : 0xE0 ≤ byte.toNat) (high : byte.toNat ≤ 0xEF) :
    begin? byte = some ⟨1, 2, if byte.toNat = 0xE0 then 0xA0 else 0x80,
      if byte.toNat = 0xED then 0x9F else 0xBF, byte.toNat % 16⟩ := by
  simp only [begin?, UInt8.le_iff_toNat_le, ← UInt8.toNat_inj, UInt8.reduceToNat]
  rw [if_neg (by omega)]
  by_cases lowest : byte.toNat = 224
  · simp [lowest]
  by_cases surrogates : byte.toNat = 237
  · simp [surrogates]
  · simp [lowest, surrogates, show 225 ≤ byte.toNat by omega, high]

private theorem begin?_four {byte : UInt8} (low : 0xF0 ≤ byte.toNat) (high : byte.toNat ≤ 0xF4) :
    begin? byte = some ⟨1, 3, if byte.toNat = 0xF0 then 0x90 else 0x80,
      if byte.toNat = 0xF4 then 0x8F else 0xBF, byte.toNat % 8⟩ := by
  simp only [begin?, UInt8.le_iff_toNat_le, ← UInt8.toNat_inj, UInt8.reduceToNat]
  rw [if_neg (by omega), if_neg (by omega), if_neg (by omega), if_neg (by omega)]
  by_cases lowest : byte.toNat = 240
  · simp [lowest]
  by_cases highest : byte.toNat = 244
  · simp [highest]
  · simp [lowest, highest, show 241 ≤ byte.toNat ∧ byte.toNat ≤ 243 by omega]

private theorem begin?_eq_none {byte : UInt8}
    (outside : byte.toNat < 0xC2 ∨ 0xF4 < byte.toNat) : begin? byte = none := by
  simp only [begin?, UInt8.le_iff_toNat_le, ← UInt8.toNat_inj, UInt8.reduceToNat]
  rw [if_neg (by omega), if_neg (by omega), if_neg (by omega), if_neg (by omega),
    if_neg (by omega), if_neg (by omega), if_neg (by omega)]

/-- The bounds of a second byte, where one first byte raises the lower and one the upper. -/
private theorem second_iff {b0 b1 : UInt8} (lowest highest : Nat) (low high : UInt8)
    (raised : 0x80 ≤ low.toNat) (lowered : high.toNat ≤ 0xBF) :
    ((if b0.toNat = lowest then low else 0x80).toNat ≤ b1.toNat ∧
        b1.toNat ≤ (if b0.toNat = highest then high else 0xBF).toNat) ↔
      Continues b1 ∧ (b0.toNat = lowest → low.toNat ≤ b1.toNat) ∧
        (b0.toNat = highest → b1.toNat ≤ high.toNat) := by
  have lower : (0x80 : UInt8).toNat = 0x80 := rfl
  have upper : (0xBF : UInt8).toNat = 0xBF := rfl
  unfold Continues
  split <;> split <;> omega

/-! ### Steps of the decoder -/

section Steps

variable (read : List Char) (index : Nat) (rest : Bytes)

private theorem decodeFrom_ascii {byte : UInt8} (ascii : byte.toNat ≤ 0x7F) :
    decodeFrom read index none (byte :: rest) =
      decodeFrom (Char.ofNat byte.toNat :: read) (index + 1) none rest := by
  have small : byte < 0x80 := UInt8.lt_iff_toNat_lt.mpr (Nat.lt_succ_of_le ascii)
  rw [decodeFrom, if_pos small]

private theorem decodeFrom_begin {byte : UInt8} {begun : Begun}
    (begins : begin? byte = some begun) :
    decodeFrom read index none (byte :: rest) = decodeFrom read index (some begun) rest := by
  have large : ¬ byte < 0x80 := by
    intro small
    have below : byte.toNat < 0xC2 :=
      Nat.lt_of_lt_of_le (UInt8.lt_iff_toNat_lt.mp small) (by decide)
    rw [begin?_eq_none (.inl below)] at begins
    cases begins
  rw [decodeFrom, if_neg large]
  simp only [begins]

variable {count missing bits : Nat} {low high byte : UInt8}

private theorem decodeFrom_last (above : low.toNat ≤ byte.toNat) (below : byte.toNat ≤ high.toNat) :
    decodeFrom read index (some ⟨count, 1, low, high, bits⟩) (byte :: rest) =
      decodeFrom (Char.ofNat (bits * 64 + byte.toNat % 64) :: read) (index + count + 1) none
        rest := by
  have inside : low ≤ byte ∧ byte ≤ high := ⟨above, below⟩
  rw [decodeFrom, if_pos inside]
  rfl

private theorem decodeFrom_onward (above : low.toNat ≤ byte.toNat)
    (below : byte.toNat ≤ high.toNat) :
    decodeFrom read index (some ⟨count, missing + 2, low, high, bits⟩) (byte :: rest) =
      decodeFrom read index
        (some ⟨count + 1, missing + 1, 0x80, 0xBF, bits * 64 + byte.toNat % 64⟩) rest := by
  have inside : low ≤ byte ∧ byte ≤ high := ⟨above, below⟩
  have more : ¬ missing + 2 ≤ 1 := by omega
  rw [decodeFrom, if_pos inside]
  simp only [if_neg more]
  rfl

end Steps

/-- The decoder passes over a well-formed sequence as one character. -/
theorem decodeFrom_sequence {code : Nat} {bytes : Bytes} (spelled : Sequence code bytes)
    (read : List Char) (index : Nat) (rest : Bytes) :
    decodeFrom read index none (bytes ++ rest) =
      decodeFrom (Char.ofNat code :: read) (index + bytes.length) none rest := by
  cases spelled with
  | one value first =>
    rw [List.singleton_append, decodeFrom_ascii _ _ _ first, value]
    rfl
  | two value low high last =>
    rw [List.cons_append, List.singleton_append, decodeFrom_begin _ _ _ (begin?_two low high),
      value]
    exact decodeFrom_last _ _ _ last.1 last.2
  | three value low high second notLong noSurrogate last =>
    obtain ⟨above, below⟩ := (second_iff 0xE0 0xED 0xA0 0x9F (by decide) (by decide)).mpr
      ⟨second, notLong, noSurrogate⟩
    rw [List.cons_append, List.cons_append, List.singleton_append,
      decodeFrom_begin _ _ _ (begin?_three low high), decodeFrom_onward _ _ _ above below, value]
    exact decodeFrom_last _ _ _ last.1 last.2
  | four value low high second notLong inRange third last =>
    obtain ⟨above, below⟩ := (second_iff 0xF0 0xF4 0x90 0x8F (by decide) (by decide)).mpr
      ⟨second, notLong, inRange⟩
    have goesOn : (0x80 : UInt8).toNat ≤ _ ∧ _ ≤ (0xBF : UInt8).toNat := third
    rw [List.cons_append, List.cons_append, List.cons_append, List.singleton_append,
      decodeFrom_begin _ _ _ (begin?_four low high), decodeFrom_onward _ _ _ above below,
      decodeFrom_onward _ _ _ goesOn.1 goesOn.2, value]
    exact decodeFrom_last _ _ _ last.1 last.2

/-! ### Nothing else is read -/

private theorem continuation_of_ok {read chars : List Char} {index count missing bits : Nat}
    {low high : UInt8} {bytes : Bytes}
    (reads : decodeFrom read index (some ⟨count, missing, low, high, bits⟩) bytes = .ok chars) :
    ∃ byte rest, bytes = byte :: rest ∧ low.toNat ≤ byte.toNat ∧ byte.toNat ≤ high.toNat := by
  cases bytes with
  | nil =>
    rw [decodeFrom] at reads
    cases reads
  | cons byte rest =>
    by_cases inside : low ≤ byte ∧ byte ≤ high
    · exact ⟨byte, rest, rfl, inside.1, inside.2⟩
    · rw [decodeFrom, if_neg inside] at reads
      cases reads

/-- What the decoder accepts starts with a well-formed sequence. -/
theorem sequence_of_ok {read chars : List Char} {index : Nat} {byte : UInt8} {bytes : Bytes}
    (reads : decodeFrom read index none (byte :: bytes) = .ok chars) :
    ∃ code spelled rest, byte :: bytes = spelled ++ rest ∧ Sequence code spelled := by
  have ranges : byte.toNat ≤ 0x7F ∨ (0xC2 ≤ byte.toNat ∧ byte.toNat ≤ 0xDF) ∨
      (0xE0 ≤ byte.toNat ∧ byte.toNat ≤ 0xEF) ∨ (0xF0 ≤ byte.toNat ∧ byte.toNat ≤ 0xF4) := by
    by_cases ascii : byte.toNat ≤ 0x7F
    · exact .inl ascii
    have large : ¬ byte < 0x80 := fun small => ascii (Nat.le_of_lt_succ small)
    by_cases outside : byte.toNat < 0xC2 ∨ 0xF4 < byte.toNat
    · rw [decodeFrom, if_neg large, begin?_eq_none outside] at reads
      cases reads
    · omega
  rcases ranges with ascii | ⟨low, high⟩ | ⟨low, high⟩ | ⟨low, high⟩
  · exact ⟨_, [byte], bytes, rfl, .one rfl ascii⟩
  · rw [decodeFrom_begin _ _ _ (begin?_two low high)] at reads
    obtain ⟨b1, rest, rfl, last⟩ := continuation_of_ok reads
    exact ⟨_, [byte, b1], rest, rfl, .two rfl low high last⟩
  · rw [decodeFrom_begin _ _ _ (begin?_three low high)] at reads
    obtain ⟨b1, more, rfl, above, below⟩ := continuation_of_ok reads
    obtain ⟨second, notLong, noSurrogate⟩ :=
      (second_iff 0xE0 0xED 0xA0 0x9F (by decide) (by decide)).mp ⟨above, below⟩
    rw [decodeFrom_onward _ _ _ above below] at reads
    obtain ⟨b2, rest, rfl, last⟩ := continuation_of_ok reads
    exact ⟨_, [byte, b1, b2], rest, rfl, .three rfl low high second notLong noSurrogate last⟩
  · rw [decodeFrom_begin _ _ _ (begin?_four low high)] at reads
    obtain ⟨b1, more, rfl, above, below⟩ := continuation_of_ok reads
    obtain ⟨second, notLong, inRange⟩ :=
      (second_iff 0xF0 0xF4 0x90 0x8F (by decide) (by decide)).mp ⟨above, below⟩
    rw [decodeFrom_onward _ _ _ above below] at reads
    obtain ⟨b2, more, rfl, third⟩ := continuation_of_ok reads
    rw [decodeFrom_onward _ _ _ third.1 third.2] at reads
    obtain ⟨b3, rest, rfl, last⟩ := continuation_of_ok reads
    exact ⟨_, [byte, b1, b2, b3], rest, rfl,
      .four rfl low high second notLong inRange third last⟩

/-! ### Encoding and decoding -/

theorem decodeFrom_encodeChars (read chars : List Char) (index : Nat) :
    decodeFrom read index none (encodeChars chars) = .ok (read.reverse ++ chars) := by
  induction chars generalizing read index with
  | nil =>
    rw [List.append_nil]
    rfl
  | cons char rest ih =>
    have here := decodeFrom_sequence (sequence_encodeChar char) read index (encodeChars rest)
    rw [encodeChars, List.flatMap_cons]
    rw [encodeChars] at here
    rw [here, ← encodeChars, ih, Char.ofNat_toNat, List.reverse_cons, List.append_assoc]
    rfl

/-- The decoder has read the encoding of what it yields beyond what it was given. -/
theorem encodeChars_of_ok {read chars : List Char} {index : Nat} {bytes : Bytes}
    (reads : decodeFrom read index none bytes = .ok chars) :
    ∃ found, bytes = encodeChars found ∧ chars = read.reverse ++ found := by
  -- each sequence takes one to four bytes, so the induction is on how many are left
  induction size : bytes.length using Nat.strongRecOn generalizing bytes read index with
  | ind length ih =>
    subst size
    cases bytes with
    | nil =>
      rw [decodeFrom, Except.ok.injEq] at reads
      exact ⟨[], rfl, by rw [← reads, List.append_nil]⟩
    | cons byte bytes =>
      obtain ⟨code, spelled, rest, split, wellFormed⟩ := sequence_of_ok reads
      rw [split, decodeFrom_sequence wellFormed] at reads
      have nonempty : 0 < spelled.length := by cases wellFormed <;> exact Nat.succ_pos _
      have shorter : rest.length < (byte :: bytes).length := by
        rw [split, List.length_append]
        exact Nat.lt_add_of_pos_left nonempty
      obtain ⟨found, rfl, all⟩ := ih rest.length shorter reads rfl
      refine ⟨Char.ofNat code :: found, ?_, ?_⟩
      · rw [split, encodeChars, encodeChars, List.flatMap_cons, encodeChar_of_sequence wellFormed]
      · rw [all, List.reverse_cons, List.append_assoc]
        rfl

/-- Bytes are the encoding of one text at most, and the decoder finds it. -/
theorem decode_eq_ok_iff {bytes : Bytes} {text : String} :
    decode bytes = .ok text ↔ bytes = encode text := by
  rw [decode, decodeChars, encode]
  constructor
  · intro decodes
    cases reads : decodeFrom [] 0 none bytes with
    | error =>
      rw [reads] at decodes
      cases decodes
    | ok chars =>
      rw [reads] at decodes
      obtain ⟨found, encoded, all⟩ := encodeChars_of_ok reads
      obtain rfl : chars = found := all
      obtain rfl : String.ofList chars = text := Except.ok.inj decodes
      rw [encoded, String.toList_ofList]
  · rintro rfl
    rw [decodeFrom_encodeChars]
    exact congrArg Except.ok String.ofList_toList

theorem exists_error_iff {bytes : Bytes} :
    (∃ error, decode bytes = .error error) ↔ ∀ text, bytes ≠ encode text := by
  simp only [ne_eq, ← decode_eq_ok_iff]
  cases decode bytes with
  | error error => simp
  | ok text => simp

end SealedEnvelope.Utf8
