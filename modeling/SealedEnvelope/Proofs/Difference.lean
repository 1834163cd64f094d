/-!
Lists of one length that differ in one region only.
-/

namespace SealedEnvelope

/-- Two lists of one length that differ, but at no place before `first` and at none from
`last` on. -/
structure DifferWithin {α : Type} (first last : Nat) (left right : List α) : Prop where
  sameLength : left.length = right.length
  different : left ≠ right
  confined : ∀ place, left[place]? ≠ right[place]? → first ≤ place ∧ place < last

namespace DifferWithin

variable {α : Type} {first last place : Nat} {before after left right others : List α}

theorem outside (apart : DifferWithin first last left right) (place : Nat)
    (beyond : place < first ∨ last ≤ place) : left[place]? = right[place]? := by
  by_cases same : left[place]? = right[place]?
  · exact same
  · have inside := apart.confined place same
    omega

theorem widen (apart : DifferWithin first last left right) (wideFirst wideLast : Nat)
    (lower : wideFirst ≤ first) (upper : last ≤ wideLast) :
    DifferWithin wideFirst wideLast left right where
  sameLength := apart.sameLength
  different := apart.different
  confined place differs := by
    have inside := apart.confined place differs
    omega

/-- Lists that differ behind their beginnings only have the same beginning. -/
theorem behind (apart : DifferWithin first last (before ++ left) (others ++ right))
    (sameLength : before.length = others.length) (later : before.length ≤ first) :
    before = others ∧ DifferWithin (first - before.length) (last - before.length) left right := by
  have sameBeginning : before = others := by
    apply List.ext_getElem? fun place => ?_
    by_cases inside : place < before.length
    · have agree := apart.outside place (.inl (by omega))
      rwa [List.getElem?_append_left inside, List.getElem?_append_left (by omega)] at agree
    · rw [List.getElem?_eq_none (by omega), List.getElem?_eq_none (by omega)]
  subst others
  refine ⟨rfl, ?_, fun same => apart.different (by rw [same]), fun place differs => ?_⟩
  · simpa using apart.sameLength
  · have inside := apart.confined (before.length + place) (by
      rwa [List.getElem?_append_right (Nat.le_add_right _ _),
        List.getElem?_append_right (Nat.le_add_right _ _), Nat.add_sub_cancel_left])
    omega

/-- Lists that differ before their endings only have the same ending. -/
theorem ahead (apart : DifferWithin first last (left ++ after) (right ++ others))
    (sameLength : left.length = right.length) (earlier : last ≤ left.length) :
    after = others ∧ DifferWithin first last left right := by
  have sameEnding : after = others := by
    apply List.ext_getElem? fun place => ?_
    have agree := apart.outside (left.length + place) (.inr (by omega))
    rw [List.getElem?_append_right (by omega), List.getElem?_append_right (by omega)] at agree
    simpa [← sameLength] using agree
  subst others
  refine ⟨rfl, sameLength, fun same => apart.different (by rw [same]), fun place differs => ?_⟩
  by_cases inside : place < left.length
  · apply apart.confined place
    rwa [List.getElem?_append_left inside, List.getElem?_append_left (by omega)]
  · rw [List.getElem?_eq_none (by omega), List.getElem?_eq_none (by omega)] at differs
    exact absurd rfl differs

/-- Lists that differ at a single place are split there. -/
theorem split (apart : DifferWithin place (place + 1) left right) :
    ∃ before one other after, left = before ++ one :: after ∧ right = before ++ other :: after ∧
      one ≠ other := by
  have inside : place < left.length := by
    by_cases inside : place < left.length
    · exact inside
    · refine absurd (List.ext_getElem? fun index => ?_) apart.different
      by_cases here : index = place
      · subst index
        have sameLength := apart.sameLength
        rw [List.getElem?_eq_none (by omega), List.getElem?_eq_none (by omega)]
      · exact apart.outside _ (by omega)
  have insideRight : place < right.length := apart.sameLength ▸ inside
  have sameBefore : right.take place = left.take place := by
    apply List.ext_getElem? fun index => ?_
    by_cases early : index < place
    · rw [List.getElem?_take_of_lt early, List.getElem?_take_of_lt early]
      exact (apart.outside _ (.inl early)).symm
    · rw [List.getElem?_take_eq_none (by omega), List.getElem?_take_eq_none (by omega)]
  have sameAfter : right.drop (place + 1) = left.drop (place + 1) := by
    apply List.ext_getElem? fun index => ?_
    rw [List.getElem?_drop, List.getElem?_drop]
    exact (apart.outside _ (.inr (by omega))).symm
  have leftSplit : left = left.take place ++ left[place] :: left.drop (place + 1) := by
    rw [← List.drop_eq_getElem_cons inside, List.take_append_drop]
  have rightSplit : right = left.take place ++ right[place] :: left.drop (place + 1) := by
    rw [← sameBefore, ← sameAfter, ← List.drop_eq_getElem_cons insideRight, List.take_append_drop]
  refine ⟨_, _, _, _, leftSplit, rightSplit, fun same => apart.different ?_⟩
  rw [leftSplit, rightSplit, same]

/-- A change of one item shows at its place alone. -/
theorem modify {change : α → α} (inside : place < left.length)
    (changes : change left[place] ≠ left[place]) :
    DifferWithin place (place + 1) left (left.modify place change) where
  sameLength := (List.length_modify change left place).symm
  different same := by
    have item := congrArg (·[place]?) same
    simp only [List.getElem?_modify_eq, List.getElem?_eq_getElem inside, Option.map_eq_map,
      Option.map_some, Option.some.injEq] at item
    exact changes item.symm
  confined index differs := by
    by_cases here : place = index
    · omega
    · rw [List.getElem?_modify_ne _ _ here] at differs
      exact absurd rfl differs

end DifferWithin

/-- Flipped bits of a byte show at its place alone. -/
theorem flip_differs (data : List UInt8) (place : Nat) {mask : UInt8} (masks : mask ≠ 0)
    (inside : place < data.length) :
    DifferWithin place (place + 1) data (data.modify place (· ^^^ mask)) :=
  .modify inside fun same =>
    masks ((UInt8.xor_right_inj data[place]).mp (same.trans UInt8.xor_zero.symm))

end SealedEnvelope
