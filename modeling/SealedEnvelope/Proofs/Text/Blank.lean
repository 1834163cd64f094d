import Mathlib.Data.List.TakeWhile
import SealedEnvelope.Text.Blank

/-!
Trimming looks past blank characters at both ends of a text and leaves the rest as it is.
-/

namespace SealedEnvelope.Text

/-- Whether a text holds blank characters only. -/
def Blank (text : String) : Prop := ∀ char ∈ text.toList, isBlank char

instance (text : String) : Decidable (Blank text) :=
  List.decidableBAll (fun char => isBlank char) text.toList

theorem trimChars_surrounded {before chars after : List Char}
    (blankBefore : ∀ char ∈ before, isBlank char) (blankAfter : ∀ char ∈ after, isBlank char) :
    trimChars (before ++ chars ++ after) = trimChars chars := by
  have blankBehind : ∀ char ∈ after.reverse, isBlank char :=
    fun char member => blankAfter char (List.mem_reverse.mp member)
  rw [trimChars, trimChars, List.append_assoc, List.dropWhile_append_of_pos blankBefore,
    List.dropWhile_append]
  split
  · rename_i allBlank
    rw [List.isEmpty_iff.mp allBlank, List.dropWhile_eq_nil_iff.mpr blankAfter]
  · rw [List.reverse_append, List.dropWhile_append_of_pos blankBehind]

private theorem dropWhile_isBlank {chars : List Char}
    (first : ∀ char, chars.head? = some char → isBlank char = false) :
    chars.dropWhile isBlank = chars := by
  cases chars with
  | nil => rfl
  | cons char rest => exact List.dropWhile_cons_of_neg (Bool.eq_false_iff.mp (first char rfl))

theorem trimChars_eq_self {chars : List Char}
    (first : ∀ char, chars.head? = some char → isBlank char = false)
    (last : ∀ char, chars.getLast? = some char → isBlank char = false) :
    trimChars chars = chars := by
  rw [← List.head?_reverse] at last
  rw [trimChars, dropWhile_isBlank first, dropWhile_isBlank last, List.reverse_reverse]

theorem trimChars_enclosed {opening closing : Char} (first : isBlank opening = false)
    (last : isBlank closing = false) (inner : List Char) :
    trimChars (opening :: (inner ++ [closing])) = opening :: (inner ++ [closing]) := by
  apply trimChars_eq_self
  · rintro _ ⟨⟩
    exact first
  · intro char ends
    rw [← List.cons_append, List.getLast?_concat] at ends
    cases ends
    exact last

private theorem isBlank_of_head?_dropWhile {chars : List Char} {char : Char}
    (first : (chars.dropWhile isBlank).head? = some char) : isBlank char = false := by
  have stopped := List.head?_dropWhile_not isBlank chars
  rw [first] at stopped
  exact stopped

theorem trimChars_trimChars (chars : List Char) :
    trimChars (trimChars chars) = trimChars chars := by
  apply trimChars_eq_self
  · intro char first
    have front : trimChars chars <+: chars.dropWhile isBlank := by
      rw [trimChars, ← List.reverse_suffix, List.reverse_reverse]
      exact List.dropWhile_suffix isBlank
    obtain ⟨behind, whole⟩ := front
    have starts : (chars.dropWhile isBlank).head? = some char := by
      rw [← whole, List.head?_append, first]
      rfl
    exact isBlank_of_head?_dropWhile starts
  · intro char last
    rw [trimChars, List.getLast?_reverse] at last
    exact isBlank_of_head?_dropWhile last

/-- Blank characters around a text do not matter. -/
theorem trim_surrounded {before after : String} (blankBefore : Blank before)
    (blankAfter : Blank after) (text : String) : trim (before ++ text ++ after) = trim text := by
  rw [trim, String.toList_append, String.toList_append,
    trimChars_surrounded blankBefore blankAfter, trim]

end SealedEnvelope.Text
