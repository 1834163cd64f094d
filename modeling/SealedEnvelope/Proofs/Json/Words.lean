import Mathlib.Data.List.TakeWhile
import SealedEnvelope.Json.Reader

/-!
Readers that go on where others stopped, white space between the lexemes of a JSON text, and the
words `null`, `true` and `false`.
-/

namespace SealedEnvelope.Json

/-! ### Readers in steps -/

section Steps

variable {ε α β : Type} {first : Except ε α} {result : β}

theorem bind_eq_ok_iff {next : α → Except ε β} :
    first >>= next = .ok result ↔ ∃ value, first = .ok value ∧ next value = .ok result := by
  cases first with
  | error error => exact ⟨nofun, fun ⟨_, fails, _⟩ => nomatch fails⟩
  | ok value =>
    refine ⟨fun reads => ⟨value, rfl, reads⟩, ?_⟩
    rintro ⟨_, ⟨⟩, reads⟩
    exact reads

theorem map_eq_ok_iff {f : α → β} :
    f <$> first = .ok result ↔ ∃ value, first = .ok value ∧ f value = result := by
  rw [map_eq_pure_bind, bind_eq_ok_iff]
  simp only [pure, Except.pure, Except.ok.injEq]

theorem mapError_eq_ok_iff {ε' : Type} {f : ε → ε'} {value : α} :
    first.mapError f = .ok value ↔ first = .ok value := by
  cases first with
  | error error => exact ⟨nofun, nofun⟩
  | ok found => rw [Except.mapError, Except.ok.injEq, Except.ok.injEq]

end Steps

/-! ### White space -/

theorem isSpace_cases {char : Char} (space : isSpace char) :
    char = ' ' ∨ char = '\n' ∨ char = '\t' ∨ char = '\r' := by
  simpa only [isSpace, Bool.or_eq_true, beq_iff_eq, or_assoc] using space

/-- Whether there is white space only. -/
def Spaces (chars : List Char) : Prop := ∀ char ∈ chars, isSpace char

theorem spaces_nil : Spaces [] := fun _ member => nomatch member

theorem Spaces.cons {char : Char} {chars : List Char} (space : isSpace char)
    (spaces : Spaces chars) : Spaces (char :: chars) :=
  List.forall_mem_cons.mpr ⟨space, spaces⟩

theorem spaces_takeWhile (chars : List Char) : Spaces (chars.takeWhile isSpace) :=
  fun _ member => List.mem_takeWhile_imp member

theorem takeWhile_append_skipSpace (chars : List Char) :
    chars.takeWhile isSpace ++ skipSpace chars = chars := List.takeWhile_append_dropWhile

theorem skipSpace_append_cons {spaces rest : List Char} {char : Char} (blank : Spaces spaces)
    (visible : isSpace char = false) : skipSpace (spaces ++ char :: rest) = char :: rest := by
  rw [skipSpace, List.dropWhile_append_of_pos blank,
    List.dropWhile_cons_of_neg (Bool.eq_false_iff.mp visible)]

theorem takeWhile_append_cons {spaces rest : List Char} {char : Char} (blank : Spaces spaces)
    (visible : isSpace char = false) : (spaces ++ char :: rest).takeWhile isSpace = spaces := by
  have whole := takeWhile_append_skipSpace (spaces ++ char :: rest)
  rw [skipSpace_append_cons blank visible] at whole
  exact List.append_cancel_right whole

theorem skipSpace_eq_nil_iff {chars : List Char} : skipSpace chars = [] ↔ Spaces chars :=
  List.dropWhile_eq_nil_iff

theorem expectEnd_eq_ok_iff {chars : List Char} :
    expectEnd chars = .ok () ↔ Spaces chars := by
  rw [← skipSpace_eq_nil_iff, expectEnd]
  cases skipSpace chars with
  | nil => exact ⟨fun _ => rfl, fun _ => rfl⟩
  | cons => exact ⟨nofun, nofun⟩

/-! ### Words -/

theorem readWord_eq_ok_iff {α : Type} {value : α} {letters chars : List Char}
    {lexeme : Lexeme α} : readWord value letters chars = .ok lexeme ↔
      ∃ rest, chars = letters ++ rest ∧ lexeme = ⟨value, letters.length⟩ := by
  have go (left chars : List Char) : readWord.go value letters left chars = .ok lexeme ↔
      ∃ rest, chars = left ++ rest ∧ lexeme = ⟨value, letters.length⟩ := by
    induction left generalizing chars with
    | nil =>
      rw [readWord.go, Except.ok.injEq]
      exact ⟨fun same => ⟨chars, rfl, same.symm⟩, fun ⟨_, _, same⟩ => same.symm⟩
    | cons letter more ih =>
      cases chars with
      | nil => simp [readWord.go]
      | cons char rest =>
        rw [readWord.go]
        split
        · rename_i same
          rw [ih, same]
          simp
        · rename_i other
          simp [other]
  exact go letters chars

end SealedEnvelope.Json
