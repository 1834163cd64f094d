import SealedEnvelope.Keystream
import SealedEnvelope.Proofs.Procedure
import SealedEnvelope.Proofs.Words

/-!
What a keystream yields, and the state it is in, after any number of bytes.

The state is given in closed form. One block of a request moves it to the state of as many bytes
more, so a run of any length, cut in any way, is read off from where it starts and where it ends.
-/

namespace SealedEnvelope.Keystream

variable {C : Type} [BlockCipher C]

/-- The block of keystream at a place, counted from the starting counter block. -/
def blockAt (cipher : C) (start : CounterBlock) (place : Nat) : Block :=
  BlockCipher.encrypt cipher (start.advance place).toBlock

/-- The keystream byte at an offset. -/
def byteAt (cipher : C) (start : CounterBlock) (offset : Nat) : UInt8 :=
  (blockAt cipher start (offset / Block.size)).bytes.getD (offset % Block.size) 0

/-- How many blocks have been made once `count` bytes are handed out. -/
def drawn (count : Nat) : Nat := (count + 15) / 16

/-! ### Texts under the keystream -/

/-- A text under the keystream from an offset on. -/
def maskedFrom (cipher : C) (start : CounterBlock) (offset : Nat) (text : Bytes) : Bytes :=
  text.mapIdx fun place byte => byte ^^^ byteAt cipher start (offset + place)

@[simp] theorem maskedFrom_nil (cipher : C) (start : CounterBlock) (offset : Nat) :
    maskedFrom cipher start offset [] = [] := rfl

@[simp] theorem length_maskedFrom (cipher : C) (start : CounterBlock) (offset : Nat)
    (text : Bytes) : (maskedFrom cipher start offset text).length = text.length :=
  List.length_mapIdx

/-- What comes later is under the keystream from where it stands. -/
theorem maskedFrom_append (cipher : C) (start : CounterBlock) (offset : Nat) (front back : Bytes) :
    maskedFrom cipher start offset (front ++ back) =
      maskedFrom cipher start offset front ++
        maskedFrom cipher start (offset + front.length) back := by
  have later (place : Nat) : offset + (place + front.length) = offset + front.length + place := by
    omega
  simp only [maskedFrom, List.mapIdx_append, later]

/-- The same stretch of keystream undoes what it did. -/
theorem maskedFrom_maskedFrom (cipher : C) (start : CounterBlock) (offset : Nat) (text : Bytes) :
    maskedFrom cipher start offset (maskedFrom cipher start offset text) = text := by
  apply List.ext_getElem? fun place => ?_
  simp only [maskedFrom, List.getElem?_mapIdx, Option.map_map]
  cases text[place]? with
  | none => rfl
  | some byte =>
    rw [Option.map_some, Function.comp_apply, UInt8.xor_assoc, UInt8.xor_self, UInt8.xor_zero]

theorem drop_maskedFrom (cipher : C) (start : CounterBlock) (offset skipped : Nat) (text : Bytes) :
    (maskedFrom cipher start offset text).drop skipped =
      maskedFrom cipher start (offset + skipped) (text.drop skipped) := by
  apply List.ext_getElem? fun place => ?_
  simp only [maskedFrom, List.getElem?_drop, List.getElem?_mapIdx, Nat.add_assoc]

theorem take_maskedFrom (cipher : C) (start : CounterBlock) (offset count : Nat) (text : Bytes) :
    (maskedFrom cipher start offset text).take count =
      maskedFrom cipher start offset (text.take count) := by
  apply List.ext_getElem? fun place => ?_
  simp only [maskedFrom, List.getElem?_take, List.getElem?_mapIdx]
  split
  · rfl
  · rfl

/-- A text that stays inside one block is under what is left of that block. -/
theorem maskedFrom_of_inside (cipher : C) (start : CounterBlock) (offset : Nat) {text : Bytes}
    (short : text.length ≤ Block.size - offset % Block.size) :
    maskedFrom cipher start offset text =
      text.xor ((blockAt cipher start (offset / Block.size)).bytes.drop (offset % Block.size)) := by
  have full : (blockAt cipher start (offset / Block.size)).bytes.length = Block.size :=
    Block.length_bytes _
  apply List.ext_getElem? fun index => ?_
  rw [maskedFrom, List.getElem?_mapIdx, Bytes.xor, List.getElem?_zipWith, List.getElem?_drop]
  by_cases inside : index < text.length
  · have samePlace : (offset + index) / Block.size = offset / Block.size := by
      simp only [Block.size] at short ⊢
      omega
    have sameIndex : (offset + index) % Block.size = offset % Block.size + index := by
      simp only [Block.size] at short ⊢
      omega
    have covered : offset % Block.size + index <
        (blockAt cipher start (offset / Block.size)).bytes.length := by
      omega
    rw [List.getElem?_eq_getElem inside, List.getElem?_eq_getElem covered, byteAt, samePlace,
      sameIndex, List.getD_eq_getElem?_getD, List.getElem?_eq_getElem covered]
    rfl
  · rw [List.getElem?_eq_none (by omega)]
    rfl

/-- A text that starts with a block and ends in it is under that block. -/
theorem maskedFrom_of_block (cipher : C) (start : CounterBlock) (place : Nat) {text : Bytes}
    (short : text.length ≤ Block.size) :
    maskedFrom cipher start (Block.size * place) text =
      text.xor (blockAt cipher start place).bytes := by
  have first : Block.size * place % Block.size = 0 := Nat.mul_mod_right _ _
  have samePlace : Block.size * place / Block.size = place :=
    Nat.mul_div_cancel_left place (by decide)
  rw [maskedFrom_of_inside _ _ _ (by omega), first, samePlace, List.drop_zero]

/-! ### States -/

/-- The state of a keystream that has handed out `count` bytes. -/
def stateAfter (cipher : C) (start : CounterBlock) (count : Nat) : State where
  counter := start.advance (drawn count - 1)
  block := if count = 0 then 0 else blockAt cipher start (drawn count - 1)
  position := count
  blocks := drawn count

/-- The blocks that the cipher is given between two numbers of bytes, in order. -/
def inputsBetween (start : CounterBlock) (first last : Nat) : List Block :=
  (List.range' (drawn first) (drawn last - drawn first)).map fun place =>
    (start.advance place).toBlock

theorem inputsBetween_self (start : CounterBlock) (count : Nat) :
    inputsBetween start count count = [] := by
  rw [inputsBetween, Nat.sub_self]
  rfl

theorem inputsBetween_zero (start : CounterBlock) (count : Nat) :
    inputsBetween start 0 count =
      (List.range (drawn count)).map fun place => (start.advance place).toBlock := by
  rw [inputsBetween, List.range_eq_range']
  rfl

theorem drawn_mono {first last : Nat} (later : first ≤ last) : drawn first ≤ drawn last := by
  simp only [drawn]
  omega

/-- A block is made for its first byte, and none for its other bytes. -/
private theorem drawn_inside {count length : Nat} (some : 0 < length)
    (short : length ≤ Block.size - count % Block.size) :
    drawn (count + length) = count / Block.size + 1 := by
  simp only [Block.size, drawn] at short ⊢
  omega

theorem inputsBetween_append (start : CounterBlock) {first middle last : Nat}
    (before : first ≤ middle) (behind : middle ≤ last) :
    inputsBetween start first middle ++ inputsBetween start middle last =
      inputsBetween start first last := by
  have lower := drawn_mono before
  have upper := drawn_mono behind
  have joined : List.range' (drawn first) (drawn middle - drawn first) ++
      List.range' (drawn middle) (drawn last - drawn middle) =
        List.range' (drawn first) (drawn last - drawn first) := by
    have place : drawn middle = drawn first + (drawn middle - drawn first) := by omega
    have whole : drawn last - drawn first =
        (drawn middle - drawn first) + (drawn last - drawn middle) := by omega
    rw [whole, ← List.range'_append_1, ← place]
  rw [inputsBetween, inputsBetween, inputsBetween, ← List.map_append, joined]

section Steps

variable (cipher : C) (start : CounterBlock) {count : Nat}

/-- At the end of a block the next one is made, with the counter that is due. -/
private theorem run_nextBlock (boundary : count % Block.size = 0) :
    (stateAfter cipher start count).nextBlock.run (BlockCipher.encrypt cipher) =
      { result := { stateAfter cipher start (count + 1) with position := count }
        inputs := inputsBetween start count (count + 1)
        events := []
        printed := [] } := by
  have before : drawn count = count / Block.size := by
    simp only [Block.size, drawn] at boundary ⊢
    omega
  have behind : drawn (count + 1) = count / Block.size + 1 :=
    drawn_inside (by decide) (by rw [boundary]; decide)
  have due : (if count / Block.size ≠ 0 then (start.advance (count / Block.size - 1)).increment
      else start.advance (count / Block.size - 1)) = start.advance (count / Block.size) := by
    cases count / Block.size with
    | zero => rfl
    | succ place => exact CounterBlock.increment_advance start place
  have one : count / Block.size + 1 - count / Block.size = 1 := by omega
  rw [State.nextBlock, Procedure.run_bind, Procedure.run_encrypt]
  simp only [stateAfter, inputsBetween, before, behind, due, one, Nat.add_sub_cancel,
    Nat.add_one_ne_zero, if_false, blockAt, List.range'_one, List.map_cons, List.map_nil]
  rfl

/-- A block is made when the last one is used up, and not before. -/
private theorem run_ready :
    (stateAfter cipher start count).ready.run (BlockCipher.encrypt cipher) =
      { result := { stateAfter cipher start (count + 1) with position := count }
        inputs := inputsBetween start count (count + 1)
        events := []
        printed := [] } := by
  have position : (stateAfter cipher start count).position = count := rfl
  rw [State.ready, position]
  by_cases boundary : count % Block.size = 0
  · rw [if_pos boundary, run_nextBlock cipher start boundary]
  · have same : drawn (count + 1) = drawn count := by
      simp only [Block.size, drawn] at boundary ⊢
      omega
    have some : count ≠ 0 := fun none => boundary (by rw [none]; rfl)
    rw [if_neg boundary, Procedure.run_pure, inputsBetween, same, Nat.sub_self]
    simp only [stateAfter, same, some, Nat.add_one_ne_zero, if_false]
    rfl

/-- Inside a block only the position moves. -/
private theorem stateAfter_inside {length : Nat} (some : 0 < length)
    (short : length ≤ Block.size - count % Block.size) :
    (stateAfter cipher start (count + 1)).block = blockAt cipher start (count / Block.size) ∧
      { stateAfter cipher start (count + 1) with position := count + length } =
        stateAfter cipher start (count + length) ∧
      inputsBetween start count (count + 1) = inputsBetween start count (count + length) := by
  have nonzero : count + length ≠ 0 := by omega
  have first : drawn (count + 1) = count / Block.size + 1 :=
    drawn_inside (by decide) (by omega)
  simp only [stateAfter, inputsBetween, first, drawn_inside some short, nonzero,
    Nat.add_one_ne_zero, if_false, Nat.add_sub_cancel, and_self]

/-- One block of a request: what it has bytes left for is masked, and the rest comes behind. -/
private theorem run_applyBehind_of_ne_nil {text head rest : Bytes} (nonempty : text ≠ [])
    (front : text.take (Block.size - count % Block.size) = head)
    (back : text.drop (Block.size - count % Block.size) = rest) (masked : Bytes) :
    ((stateAfter cipher start count).applyBehind masked text).run (BlockCipher.encrypt cipher) =
      { result := (), inputs := inputsBetween start count (count + head.length), events := [],
        printed := [] } >>= fun _ =>
      ((stateAfter cipher start (count + head.length)).applyBehind
        ((maskedFrom cipher start count head).reverse ++ masked) rest).run
          (BlockCipher.encrypt cipher) := by
  have inside : count % Block.size < Block.size := Nat.mod_lt _ (by decide)
  have short : head.length ≤ Block.size - count % Block.size := front ▸ List.length_take_le _ _
  have some : 0 < head.length := by
    have texts := List.length_pos_iff.mpr nonempty
    rw [← front, List.length_take]
    omega
  obtain ⟨block, onward, sameInputs⟩ := stateAfter_inside cipher start some short
  have step : ((stateAfter cipher start count).applyBehind masked text).run
        (BlockCipher.encrypt cipher) =
      (stateAfter cipher start count).ready.run (BlockCipher.encrypt cipher) >>= fun ready =>
        (State.applyBehind
          ((Bytes.xor head (ready.block.bytes.drop (count % Block.size))).reverse ++ masked)
          { ready with position := ready.position + head.length } rest).run
            (BlockCipher.encrypt cipher) := by
    have offset : (stateAfter cipher start count).position % Block.size = count % Block.size := rfl
    rw [State.applyBehind, if_neg nonempty]
    simp only [offset, front, back]
    exact Procedure.run_bind _ _ _
  rw [step, run_ready, maskedFrom_of_inside cipher start count short, ← block, ← onward,
    sameInputs]
  rfl

/-- A run of any length masks the text with the keystream that is due. Every block of it is made
once, in order, and only those that hold a byte of the text. -/
private theorem run_applyBehind (masked text : Bytes) :
    ((stateAfter cipher start count).applyBehind masked text).run (BlockCipher.encrypt cipher) =
      { result := (masked.reverse ++ maskedFrom cipher start count text,
          stateAfter cipher start (count + text.length))
        inputs := inputsBetween start count (count + text.length)
        events := []
        printed := [] } := by
  induction length : text.length using Nat.strongRecOn generalizing count masked text with
  | ind length ih =>
  subst length
  by_cases empty : text = []
  · subst empty
    rw [State.applyBehind, if_pos rfl, List.length_nil, Nat.add_zero, inputsBetween_self,
      maskedFrom_nil, List.append_nil]
    rfl
  obtain ⟨head, front⟩ : ∃ head, text.take (Block.size - count % Block.size) = head := ⟨_, rfl⟩
  obtain ⟨rest, back⟩ : ∃ rest, text.drop (Block.size - count % Block.size) = rest := ⟨_, rfl⟩
  have whole : text = head ++ rest := by rw [← front, ← back, List.take_append_drop]
  have lengths : count + text.length = count + head.length + rest.length := by
    rw [whole, List.length_append, Nat.add_assoc]
  have fewer : rest.length < text.length := by
    have inside : count % Block.size < Block.size := Nat.mod_lt _ (by decide)
    have some := List.length_pos_iff.mpr empty
    rw [← back, List.length_drop]
    omega
  rw [run_applyBehind_of_ne_nil cipher start empty front back, ih _ fewer _ _ rfl, lengths]
  refine Traced.ext ?_ ?_ rfl rfl
  · rw [Traced.result_bind, List.reverse_append, List.reverse_reverse, List.append_assoc,
      ← maskedFrom_append, ← whole]
  · rw [Traced.inputs_bind, inputsBetween_append start (by omega) (by omega)]

theorem run_apply (text : Bytes) :
    ((stateAfter cipher start count).apply text).run (BlockCipher.encrypt cipher) =
      { result := (maskedFrom cipher start count text,
          stateAfter cipher start (count + text.length))
        inputs := inputsBetween start count (count + text.length)
        events := []
        printed := [] } :=
  run_applyBehind cipher start [] text

end Steps

theorem start_eq_stateAfter (cipher : C) (nonce : Nonce) (purpose : Purpose) :
    State.start nonce purpose = stateAfter cipher (CounterBlock.start nonce purpose) 0 := by
  have first : CounterBlock.start nonce purpose =
      (CounterBlock.start nonce purpose).advance (drawn 0 - 1) :=
    (CounterBlock.advance_zero _).symm
  rw [State.start, stateAfter, ← first]
  rfl

/-! ### Requests -/

/-- The stream of a cipher that has handed out `count` bytes. -/
def after (cipher : C) (start : CounterBlock) (count : Nat) : Keystream C where
  toState := stateAfter cipher start count
  cipher
  inputs := inputsBetween start 0 count

theorem after_zero (cipher : C) (start : CounterBlock) :
    after cipher start 0 = ofCounter cipher start := by
  rw [after, ofCounter, inputsBetween_self, stateAfter, drawn, CounterBlock.advance_zero]
  rfl

/-- One request for any number of bytes: the text under the keystream that is due. -/
theorem apply_after (cipher : C) (start : CounterBlock) (count : Nat) (text : Bytes) :
    (after cipher start count).apply text =
      (maskedFrom cipher start count text, after cipher start (count + text.length)) := by
  rw [apply, answer, after, run_apply]
  simp only [inputsBetween_append start (Nat.zero_le count) (Nat.le_add_right count _)]
  rfl

/-- A fill masks zeros. -/
theorem fill_eq_apply_zeros (stream : Keystream C) (count : Nat) :
    stream.fill count = stream.apply (List.replicate count 0) := rfl

end SealedEnvelope.Keystream
