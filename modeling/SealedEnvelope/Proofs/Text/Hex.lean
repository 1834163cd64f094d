import SealedEnvelope.Proofs.Json.Strings
import SealedEnvelope.Proofs.Text.Blank
import SealedEnvelope.Proofs.Words
import SealedEnvelope.Text.Hex

/-!
A hexadecimal text is read as bytes exactly when its characters are the digits of the bytes, each in
either case.
-/

namespace SealedEnvelope.Hex

open Json

/-- The values of the digits of a byte string: of every byte its high half, then its low one. -/
def halves (bytes : Bytes) : List Nat :=
  bytes.flatMap fun byte => [byte.toNat / 16, byte.toNat % 16]

/-- Whether characters are the digits of a byte string, each in either case. -/
def Spelled (bytes : Bytes) (chars : List Char) : Prop := List.Forall₂ HexDigit chars (halves bytes)

instance (bytes : Bytes) (chars : List Char) : Decidable (Spelled bytes chars) :=
  inferInstanceAs (Decidable (List.Forall₂ _ _ _))

/-- Whether a character is a hexadecimal digit. -/
def IsDigit (char : Char) : Prop := ∃ value, HexDigit char value

theorem length_halves (bytes : Bytes) : (halves bytes).length = 2 * bytes.length := by
  induction bytes with
  | nil => rfl
  | cons byte rest ih =>
    rw [halves, List.flatMap_cons, List.length_append, ← halves, ih, List.length_cons]
    simp only [List.length_cons, List.length_nil]
    omega

theorem Spelled.length {bytes : Bytes} {chars : List Char} (spelled : Spelled bytes chars) :
    chars.length = 2 * bytes.length :=
  (List.Forall₂.length_eq spelled).trans (length_halves bytes)

/-! ### Reading and writing -/

private theorem decodeOnto_eq (read : Bytes) : (chars : List Char) →
    decodeOnto read chars = (decodeOnto [] chars).map (read.reverse ++ ·)
  | [] => by rw [decodeOnto, decodeOnto, Option.map_some, List.reverse_nil, List.append_nil]
  | [_] => rfl
  | high :: low :: rest => by
    rw [decodeOnto, decodeOnto]
    split
    · rw [decodeOnto_eq, decodeOnto_eq [_], Option.map_map]
      congr 1
      funext more
      simp
    · rfl

/-- Two digits stand for a byte. -/
theorem decodeChars_pair (high low : Char) (rest : List Char) :
    decodeChars (high :: low :: rest) =
      (digit? high).bind fun h => (digit? low).bind fun l =>
        (decodeChars rest).map ((16 * h + l).toUInt8 :: ·) := by
  rw [decodeChars, decodeOnto]
  cases digit? high with
  | none => rfl
  | some h =>
    cases digit? low with
    | none => rfl
    | some l => exact decodeOnto_eq [_] rest

private theorem spelled_of_decodeChars : (chars : List Char) → {bytes : Bytes} →
    decodeChars chars = some bytes → Spelled bytes chars
  | [], _, reads => by
    obtain rfl := Option.some.inj reads
    exact .nil
  | [_], _, reads => by cases reads
  | high :: low :: rest, bytes, reads => by
    rw [decodeChars_pair] at reads
    obtain ⟨h, first, reads⟩ := Option.bind_eq_some_iff.mp reads
    obtain ⟨l, second, reads⟩ := Option.bind_eq_some_iff.mp reads
    obtain ⟨behind, others, rfl⟩ := Option.map_eq_some_iff.mp reads
    rw [digit?_eq_some_iff] at first second
    have highBound := first.lt
    have lowBound := second.lt
    have byte : (16 * h + l).toUInt8.toNat = 16 * h + l := by
      rw [Nat.toUInt8_eq, UInt8.toNat_ofNat']
      omega
    have highHalf : h = (16 * h + l).toUInt8.toNat / 16 := by omega
    have lowHalf : l = (16 * h + l).toUInt8.toNat % 16 := by omega
    rw [highHalf] at first
    rw [lowHalf] at second
    exact .cons first (.cons second (spelled_of_decodeChars rest others))

private theorem decodeChars_spelled : (bytes : Bytes) → {chars : List Char} →
    Spelled bytes chars → decodeChars chars = some bytes
  | [], _, .nil => rfl
  | byte :: rest, _, .cons first (.cons second others) => by
    have small := byte.toNat_lt
    rw [decodeChars_pair, digit?_eq_some_iff.mpr first, digit?_eq_some_iff.mpr second,
      decodeChars_spelled rest others]
    simp only [Option.bind_some, Option.map_some, Option.some.injEq, List.cons.injEq, and_true]
    exact Bytes.toUInt8_eq (by omega)

/-- A text is read as bytes just when its characters are their digits. -/
theorem decode_eq_some_iff {text : String} {bytes : Bytes} :
    decode text = some bytes ↔ Spelled bytes text.toList :=
  ⟨spelled_of_decodeChars text.toList, decodeChars_spelled bytes⟩

theorem decode_eq_none_iff {text : String} :
    decode text = none ↔ ∀ bytes, ¬ Spelled bytes text.toList := by
  simp only [Option.eq_none_iff_forall_ne_some, ne_eq, decode_eq_some_iff]

/-! ### Digits -/

theorem Spelled.isDigit {bytes : Bytes} {chars : List Char} (spelled : Spelled bytes chars) :
    ∀ char ∈ chars, IsDigit char := by
  intro char member
  obtain ⟨place, inside, rfl⟩ := List.mem_iff_getElem.mp member
  have paired : place < (halves bytes).length := List.Forall₂.length_eq spelled ▸ inside
  exact ⟨_, List.Forall₂.get spelled inside paired⟩

/-- Digits in an even number are those of bytes. -/
theorem exists_spelled : (chars : List Char) → (∀ char ∈ chars, IsDigit char) →
    chars.length % 2 = 0 → ∃ bytes, Spelled bytes chars
  | [], _, _ => ⟨[], .nil⟩
  | [_], _, odd => by cases odd
  | high :: low :: rest, digits, even => by
    rw [List.forall_mem_cons, List.forall_mem_cons] at digits
    obtain ⟨⟨h, first⟩, ⟨l, second⟩, others⟩ := digits
    have evenRest : rest.length % 2 = 0 := by
      rw [List.length_cons, List.length_cons] at even
      omega
    obtain ⟨behind, spelled⟩ := exists_spelled rest others evenRest
    have decodes : decodeChars (high :: low :: rest) = some ((16 * h + l).toUInt8 :: behind) := by
      rw [decodeChars_pair, digit?_eq_some_iff.mpr first, digit?_eq_some_iff.mpr second,
        decodeChars_spelled behind spelled]
      rfl
    exact ⟨_, spelled_of_decodeChars _ decodes⟩

theorem isBlank_of_isDigit {char : Char} (digit : IsDigit char) : Text.isBlank char = false := by
  have lowers : hexDigits.any Text.isBlank = false := by decide
  have uppers : (hexDigits.map Char.toUpper).any Text.isBlank = false := by decide
  rw [List.any_eq_false] at lowers uppers
  rw [Bool.eq_false_iff]
  obtain ⟨value, lower | upper⟩ := digit
  · exact lowers char (List.mem_of_getElem? lower)
  · exact uppers char (List.mem_of_getElem? upper)

/-- Digits are not blank. -/
theorem Spelled.trim_eq {bytes : Bytes} {text : String} (spelled : Spelled bytes text.toList) :
    Text.trim text = text := by
  have unblank (char : Char) (member : char ∈ text.toList) : Text.isBlank char = false :=
    isBlank_of_isDigit (spelled.isDigit char member)
  rw [Text.trim, Text.trimChars_eq_self, String.ofList_toList]
  · exact fun char first => unblank char (List.mem_of_mem_head? first)
  · exact fun char last => unblank char (List.mem_of_mem_getLast? last)

end SealedEnvelope.Hex
