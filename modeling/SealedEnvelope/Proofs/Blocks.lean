import SealedEnvelope.Proofs.Difference
import SealedEnvelope.Proofs.Words

/-!
The blocks of a byte string: how many there are, which bytes each one holds, and that
together with its length they determine the byte string.
-/

namespace SealedEnvelope.Block

theorem length_sequence (data : Bytes) : (sequence data).length = (data.length + 15) / 16 := by
  fun_induction sequence data with
  | case1 => rfl
  | case2 first rest ih =>
    rw [List.length_cons, ih, List.length_drop, List.length_cons]
    simp only [size]
    omega

/-- Each block holds the bytes at its own place and nothing else. -/
theorem getElem?_sequence (data : Bytes) (place : Nat) :
    (sequence data)[place]? =
      if size * place < data.length then some (ofBytes (data.drop (size * place))) else none := by
  fun_induction sequence data generalizing place with
  | case1 => simp
  | case2 first rest ih =>
    cases place with
    | zero => simp
    | succ place =>
      have behind : size * (place + 1) = size - 1 + size * place + 1 := by
        simp only [size]
        omega
      have bound : size * place < (rest.drop (size - 1)).length ↔
          size * (place + 1) < (first :: rest).length := by
        rw [List.length_drop, List.length_cons]
        omega
      rw [List.getElem?_cons_succ, ih, behind, List.drop_succ_cons, List.drop_drop, ← behind]
      simp only [bound]

theorem sequence_eq_map (data : Bytes) :
    sequence data =
      (List.range ((data.length + 15) / 16)).map fun place => ofBytes (data.drop (size * place)) := by
  apply List.ext_getElem? fun place => ?_
  rw [getElem?_sequence, List.getElem?_map]
  by_cases inside : size * place < data.length
  · rw [if_pos inside, List.getElem?_range (by simp only [size] at inside; omega), Option.map_some]
  · rw [if_neg inside, List.getElem?_eq_none (by simp only [size] at inside; simp; omega),
      Option.map_none]

/-- Behind whole blocks the cutting starts afresh. -/
theorem sequence_append {front : Bytes} (whole : size ∣ front.length) (back : Bytes) :
    sequence (front ++ back) = sequence front ++ sequence back := by
  fun_induction sequence front with
  | case1 => rfl
  | case2 first rest ih =>
    obtain ⟨count, length⟩ := whole
    have enough : size - 1 ≤ rest.length := by
      simp only [size, List.length_cons] at length ⊢
      omega
    have restWhole : size ∣ (rest.drop (size - 1)).length := by
      refine ⟨count - 1, ?_⟩
      simp only [size, List.length_cons, List.length_drop] at length ⊢
      omega
    have sameFirst : ofBytes (first :: (rest ++ back)) = ofBytes (first :: rest) := by
      rw [← ofBytes_take, ← ofBytes_take (first :: rest), ← List.cons_append,
        List.take_append_of_le_length (by simp only [size, List.length_cons] at enough ⊢; omega)]
    rw [List.cons_append, sequence, sameFirst, List.drop_append_of_le_length enough, ih restWhole,
      List.cons_append]

theorem sequence_zeros_append {zeros : Nat} (whole : size ∣ zeros) (back : Bytes) :
    sequence (List.replicate zeros 0 ++ back) =
      sequence (List.replicate zeros 0) ++ sequence back :=
  sequence_append (by rwa [List.length_replicate]) back

/-- Zeros that do not open a new block leave the sequence as it is. -/
theorem sequence_append_zeros {data : Bytes} {zeros : Nat}
    (fits : (data.length + zeros + 15) / 16 = (data.length + 15) / 16) :
    sequence (data ++ List.replicate zeros 0) = sequence data := by
  have filled (place : Nat) (inside : size * place < data.length) :
      ofBytes ((data ++ List.replicate zeros 0).drop (size * place)) =
        ofBytes (data.drop (size * place)) := by
    rw [List.drop_append_of_le_length (by omega)]
    exact ofBytes_append_zeros _ _
  apply List.ext_getElem? fun place => ?_
  rw [getElem?_sequence, getElem?_sequence, List.length_append, List.length_replicate]
  by_cases inside : size * place < data.length
  · rw [if_pos inside, if_pos (by omega), filled place inside]
  · rw [if_neg inside, if_neg (by simp only [size] at inside ⊢; omega)]

theorem ofBytes_zeros (zeros : Nat) : ofBytes (List.replicate zeros 0) = 0 :=
  ofBytes_append_zeros [] zeros

/-- Zero bytes are cut into zero blocks. -/
theorem eq_zero_of_mem_sequence_zeros {zeros : Nat} {block : Block}
    (member : block ∈ sequence (List.replicate zeros 0)) : block = 0 := by
  rw [sequence_eq_map, List.mem_map] at member
  obtain ⟨place, _, same⟩ := member
  rw [← same, List.drop_replicate, ofBytes_zeros]

/-- The block that starts at a place depends on the sixteen bytes there. -/
theorem ofBytes_drop_congr {left right : Bytes} {place : Nat}
    (agree : ∀ index, size * place ≤ index → index < size * (place + 1) →
      left[index]? = right[index]?) :
    ofBytes (left.drop (size * place)) = ofBytes (right.drop (size * place)) := by
  rw [← ofBytes_take, ← ofBytes_take (right.drop _)]
  congr 1
  apply List.ext_getElem? fun index => ?_
  by_cases inside : index < size
  · rw [List.getElem?_take_of_lt inside, List.getElem?_take_of_lt inside, List.getElem?_drop,
      List.getElem?_drop]
    exact agree _ (Nat.le_add_right _ _) (by rw [Nat.mul_succ]; omega)
  · rw [List.getElem?_take_eq_none (by omega), List.getElem?_take_eq_none (by omega)]

/-- Filling up loses nothing that the length does not tell. -/
theorem take_eq_of_ofBytes_eq {left right : Bytes} (sameLength : left.length = right.length)
    (same : ofBytes left = ofBytes right) : left.take size = right.take size := by
  have filled := congrArg bytes same
  rw [bytes_ofBytes, bytes_ofBytes, sameLength] at filled
  exact (List.append_inj filled (by simp [sameLength])).1

theorem sequence_injective {left right : Bytes} (sameLength : left.length = right.length)
    (same : sequence left = sequence right) : left = right := by
  fun_induction sequence left generalizing right with
  | case1 => exact (List.length_eq_zero_iff.mp sameLength.symm).symm
  | case2 first rest ih =>
    cases right with
    | nil => simp at sameLength
    | cons other others =>
      rw [sequence, List.cons.injEq] at same
      have restLength : rest.length = others.length := Nat.succ.inj sameLength
      have front := take_eq_of_ofBytes_eq sameLength same.1
      have back := ih (by simp [restLength]) same.2
      calc first :: rest
          = (first :: rest).take size ++ rest.drop (size - 1) :=
            (List.take_append_drop size (first :: rest)).symm
        _ = (other :: others).take size ++ others.drop (size - 1) := by rw [front, back]
        _ = other :: others := List.take_append_drop size (other :: others)

/-- Byte strings that differ inside one aligned block have sequences that differ in that
block alone. -/
theorem sequence_differWithin {left right : Bytes} {place : Nat}
    (apart : DifferWithin (size * place) (size * (place + 1)) left right) :
    DifferWithin place (place + 1) (sequence left) (sequence right) where
  sameLength := by rw [length_sequence, length_sequence, apart.sameLength]
  different same := apart.different (sequence_injective apart.sameLength same)
  confined index differs := by
    by_cases here : index = place
    · omega
    · refine absurd ?_ differs
      rw [getElem?_sequence, getElem?_sequence, apart.sameLength]
      have agree : ofBytes (left.drop (size * index)) = ofBytes (right.drop (size * index)) := by
        apply ofBytes_drop_congr
        intro byte lower upper
        apply apart.outside
        simp only [size] at lower upper ⊢
        omega
      rw [agree]

end SealedEnvelope.Block
