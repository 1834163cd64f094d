import SealedEnvelope.Proofs.Text.Blank
import SealedEnvelope.Proofs.Words
import SealedEnvelope.Text.Base64

/-!
A base64 text is read as bytes exactly when it is what the bytes are written as.
-/

namespace SealedEnvelope.Base64

/-! ### Symbols -/

private theorem symbol?_symbol : ∀ value < 64, symbol? (symbol value) = some value := by decide

private theorem symbol_ne_pad : ∀ value < 64, symbol value ≠ pad := by decide

private theorem symbol_of_symbol? {char : Char} {value : Nat}
    (reads : symbol? char = some value) : value < 64 ∧ char = symbol value := by
  have range {low high : Char} :
      (low ≤ char ∧ char ≤ high) ↔ low.toNat ≤ char.toNat ∧ char.toNat ≤ high.toNat := Iff.rfl
  have upper : 'A'.toNat = 65 ∧ 'Z'.toNat = 90 := ⟨rfl, rfl⟩
  have lower : 'a'.toNat = 97 ∧ 'z'.toNat = 122 := ⟨rfl, rfl⟩
  have digits : '0'.toNat = 48 ∧ '9'.toNat = 57 := ⟨rfl, rfl⟩
  have back {code : Nat} (same : code = char.toNat) : char = Char.ofNat code := by
    rw [same, Char.ofNat_toNat]
  simp only [symbol?, range] at reads
  split at reads
  · obtain rfl := Option.some.inj reads
    rw [symbol, if_pos (by omega)]
    exact ⟨by omega, back (by omega)⟩
  split at reads
  · obtain rfl := Option.some.inj reads
    rw [symbol, if_neg (by omega), if_pos (by omega)]
    exact ⟨by omega, back (by omega)⟩
  split at reads
  · obtain rfl := Option.some.inj reads
    rw [symbol, if_neg (by omega), if_neg (by omega), if_pos (by omega)]
    exact ⟨by omega, back (by omega)⟩
  split at reads
  · obtain rfl := Option.some.inj reads
    exact ⟨by decide, ‹char = '+'›⟩
  split at reads
  · obtain rfl := Option.some.inj reads
    exact ⟨by decide, ‹char = '/'›⟩
  · cases reads

theorem symbol?_eq_some_iff {char : Char} {value : Nat} :
    symbol? char = some value ↔ value < 64 ∧ char = symbol value := by
  constructor
  · exact symbol_of_symbol?
  · rintro ⟨small, rfl⟩
    exact symbol?_symbol value small

/-! ### Groups -/

theorem ungroup_eq_some_iff {a b c d : Char} {bytes : Bytes} :
    ungroup a b c d = some bytes ↔
      ∃ x y z : UInt8, bytes = [x, y, z] ∧ [a, b, c, d] = group x y z := by
  simp only [ungroup, Option.bind_eq_bind, Option.bind_eq_some_iff, symbol?_eq_some_iff,
    Option.pure_def, Option.some.injEq]
  constructor
  · rintro ⟨p, ⟨pSmall, rfl⟩, q, ⟨qSmall, rfl⟩, r, ⟨rSmall, rfl⟩, s, ⟨sSmall, rfl⟩, rfl⟩
    refine ⟨_, _, _, rfl, ?_⟩
    simp only [group, Nat.toUInt8_eq, UInt8.toNat_ofNat', List.cons.injEq, and_true]
    refine ⟨congrArg symbol ?_, congrArg symbol ?_, congrArg symbol ?_, congrArg symbol ?_⟩ <;>
      omega
  · rintro ⟨x, y, z, rfl, same⟩
    simp only [group, List.cons.injEq, and_true] at same
    obtain ⟨rfl, rfl, rfl, rfl⟩ := same
    have xSmall := x.toNat_lt
    have ySmall := y.toNat_lt
    have zSmall := z.toNat_lt
    refine ⟨_, ⟨by omega, rfl⟩, _, ⟨by omega, rfl⟩, _, ⟨by omega, rfl⟩, _, ⟨by omega, rfl⟩, ?_⟩
    simp only [List.cons.injEq, and_true]
    exact ⟨Bytes.toUInt8_eq (by omega), Bytes.toUInt8_eq (by omega), Bytes.toUInt8_eq (by omega)⟩

/-- The symbols of a group that one byte fills. -/
private theorem take_two_group (x : UInt8) :
    (group x 0 0).take 2 = [symbol (x.toNat / 4), symbol (x.toNat % 4 * 16)] := by
  have small := x.toNat_lt
  simp only [group, UInt8.toNat_zero, List.take, List.cons.injEq, and_true]
  exact ⟨congrArg symbol (by omega), congrArg symbol (by omega)⟩

/-- The symbols of a group that two bytes fill. -/
private theorem take_three_group (x y : UInt8) :
    (group x y 0).take 3 =
      [symbol (x.toNat / 4), symbol (x.toNat % 4 * 16 + y.toNat / 16),
        symbol (y.toNat % 16 * 4)] := by
  have xSmall := x.toNat_lt
  have ySmall := y.toNat_lt
  simp only [group, UInt8.toNat_zero, List.take, List.cons.injEq, and_true]
  exact ⟨congrArg symbol (by omega), congrArg symbol (by omega), congrArg symbol (by omega)⟩

theorem ungroupLast_eq_some_iff {a b c : Char} {bytes : Bytes} :
    ungroupLast a b c = some bytes ↔
      (∃ x : UInt8, bytes = [x] ∧ [a, b, c] = (group x 0 0).take 2 ++ [pad]) ∨
      ∃ x y : UInt8, bytes = [x, y] ∧ [a, b, c] = (group x y 0).take 3 := by
  simp only [take_two_group, take_three_group, ungroupLast, Option.bind_eq_bind,
    Option.bind_eq_some_iff, symbol?_eq_some_iff, Option.pure_def, List.cons_append,
    List.nil_append, List.cons.injEq, and_true]
  constructor
  · rintro ⟨p, ⟨pSmall, rfl⟩, q, ⟨qSmall, rfl⟩, reads⟩
    split at reads
    · rename_i padded
      split at reads
      · obtain rfl := Option.some.inj reads
        refine .inl ⟨_, rfl, congrArg symbol ?_, congrArg symbol ?_, padded⟩ <;>
          rw [Nat.toUInt8_eq, UInt8.toNat_ofNat'] <;> omega
      · cases reads
    · obtain ⟨r, third, whole⟩ := Option.bind_eq_some_iff.mp reads
      obtain ⟨rSmall, rfl⟩ := symbol?_eq_some_iff.mp third
      split at whole
      · obtain rfl := Option.some.inj whole
        refine .inr ⟨_, _, rfl, congrArg symbol ?_, congrArg symbol ?_, congrArg symbol ?_⟩ <;>
          simp only [Nat.toUInt8_eq, UInt8.toNat_ofNat'] <;> omega
      · cases whole
  · rintro (⟨x, rfl, rfl, rfl, rfl⟩ | ⟨x, y, rfl, rfl, rfl, rfl⟩)
    · have small := x.toNat_lt
      refine ⟨_, ⟨by omega, rfl⟩, _, ⟨by omega, rfl⟩, ?_⟩
      rw [if_pos rfl, if_pos (by omega)]
      simp only [Option.some.injEq, List.cons.injEq, and_true]
      exact Bytes.toUInt8_eq (by omega)
    · have xSmall := x.toNat_lt
      have ySmall := y.toNat_lt
      refine ⟨_, ⟨by omega, rfl⟩, _, ⟨by omega, rfl⟩, ?_⟩
      rw [if_neg (symbol_ne_pad _ (by omega)), symbol?_symbol _ (by omega), Option.bind_some,
        if_pos (by omega)]
      simp only [Option.some.injEq, List.cons.injEq, and_true]
      exact ⟨Bytes.toUInt8_eq (by omega), Bytes.toUInt8_eq (by omega)⟩

/-! ### Whole texts -/

private theorem encodeOnto_eq (written : List Char) :
    (bytes : Bytes) → encodeOnto written bytes = written.reverse ++ encodeOnto [] bytes
  | [] => (List.append_nil _).symm
  | [_] | [_, _] => by rw [encodeOnto, encodeOnto, List.reverse_nil, List.nil_append]
  | x :: y :: z :: rest => by
    rw [encodeOnto, encodeOnto_eq, encodeOnto, encodeOnto_eq (_ ++ [])]
    simp only [List.reverse_append, List.reverse_reverse, List.append_nil, List.append_assoc]

theorem encodeChars_group (x y z : UInt8) (rest : Bytes) :
    encodeChars (x :: y :: z :: rest) = group x y z ++ encodeChars rest := by
  rw [encodeChars, encodeOnto, encodeOnto_eq, List.append_nil, List.reverse_reverse, encodeChars]

private theorem decodeOnto_eq (read : Bytes) : (chars : List Char) →
    decodeOnto read chars = (decodeOnto [] chars).map (read.reverse ++ ·)
  | [] => by rw [decodeOnto, decodeOnto, Option.map_some, List.reverse_nil, List.append_nil]
  | [_] => rfl
  | [_, _] => rfl
  | [_, _, _] => rfl
  | a :: b :: c :: d :: rest => by
    rw [decodeOnto, decodeOnto]
    by_cases last : d = pad ∧ rest = []
    · rw [if_pos last, if_pos last, Option.map_map]
      rfl
    · rw [if_neg last, if_neg last]
      cases ungroup a b c d with
      | none => rfl
      | some bytes =>
        simp only
        rw [decodeOnto_eq, decodeOnto_eq (_ ++ []), Option.map_map]
        congr 1
        funext more
        simp

/-- A last group that is padded stands for one or two bytes, every other group for three. -/
theorem decodeChars_group (a b c d : Char) (rest : List Char) :
    decodeChars (a :: b :: c :: d :: rest) =
      if d = pad ∧ rest = [] then ungroupLast a b c
      else (ungroup a b c d).bind fun bytes => (decodeChars rest).map (bytes ++ ·) := by
  rw [decodeChars, decodeOnto]
  split
  · exact Option.map_id'
  · cases ungroup a b c d with
    | none => rfl
    | some bytes =>
      simp only [Option.bind_some]
      rw [decodeOnto_eq, decodeChars, List.append_nil, List.reverse_reverse]

private theorem encodeChars_one (x : UInt8) :
    encodeChars [x] = (group x 0 0).take 2 ++ [pad] ++ [pad] := by
  rw [encodeChars, encodeOnto, List.reverse_nil, List.nil_append, List.append_assoc,
    List.singleton_append]

private theorem encodeChars_two (x y : UInt8) :
    encodeChars [x, y] = (group x y 0).take 3 ++ [pad] := by
  rw [encodeChars, encodeOnto, List.reverse_nil, List.nil_append]

private theorem exists_group (x y z : UInt8) :
    ∃ a b c d, group x y z = [a, b, c, d] ∧ d ≠ pad :=
  ⟨_, _, _, _, rfl, symbol_ne_pad _ (Nat.mod_lt _ (by decide))⟩

theorem length_encodeChars : (bytes : Bytes) →
    (encodeChars bytes).length = (bytes.length + 2) / 3 * 4
  | [] => rfl
  | [x] => by simp [encodeChars_one, take_two_group]
  | [x, y] => by simp [encodeChars_two, take_three_group]
  | x :: y :: z :: rest => by
    have symbols : (group x y z).length = 4 := rfl
    rw [encodeChars_group, List.length_append, symbols, length_encodeChars rest]
    simp only [List.length_cons]
    omega

/-- Bytes that leave the last group unfilled are written with padding. -/
theorem pad_mem_encodeChars : (bytes : Bytes) → bytes.length % 3 ≠ 0 → pad ∈ encodeChars bytes
  | [], unfilled => absurd rfl unfilled
  | [x], _ => by
    rw [encodeChars_one]
    exact List.mem_append_right _ (List.mem_singleton_self pad)
  | [x, y], _ => by
    rw [encodeChars_two]
    exact List.mem_append_right _ (List.mem_singleton_self pad)
  | x :: y :: z :: rest, unfilled => by
    have unfilledRest : rest.length % 3 ≠ 0 := by
      simp only [List.length_cons] at unfilled
      omega
    rw [encodeChars_group]
    exact List.mem_append_right _ (pad_mem_encodeChars rest unfilledRest)

theorem decodeChars_encodeChars : (bytes : Bytes) → decodeChars (encodeChars bytes) = some bytes
  | [] => rfl
  | [x] => by
    obtain ⟨a, b, c, d, symbols, -⟩ := exists_group x 0 0
    have group := ungroupLast_eq_some_iff.mpr
      (.inl ⟨x, rfl, congrArg (·.take 2 ++ [pad]) symbols.symm⟩)
    rw [encodeChars_one, symbols]
    exact (decodeChars_group a b pad pad []).trans ((if_pos ⟨rfl, rfl⟩).trans group)
  | [x, y] => by
    obtain ⟨a, b, c, d, symbols, -⟩ := exists_group x y 0
    have group := ungroupLast_eq_some_iff.mpr (.inr ⟨x, y, rfl, congrArg (·.take 3) symbols.symm⟩)
    rw [encodeChars_two, symbols]
    exact (decodeChars_group a b c pad []).trans ((if_pos ⟨rfl, rfl⟩).trans group)
  | x :: y :: z :: rest => by
    obtain ⟨a, b, c, d, symbols, unpadded⟩ := exists_group x y z
    have group := ungroup_eq_some_iff.mpr ⟨x, y, z, rfl, symbols.symm⟩
    rw [encodeChars_group, symbols]
    refine (decodeChars_group a b c d (encodeChars rest)).trans ?_
    rw [if_neg fun last => unpadded last.1, group, Option.bind_some, decodeChars_encodeChars rest]
    rfl

private theorem encodeChars_of_decodeChars : (chars : List Char) → {bytes : Bytes} →
    decodeChars chars = some bytes → chars = encodeChars bytes
  | [], _, reads => by
    obtain rfl := Option.some.inj reads
    rfl
  | [_], _, reads | [_, _], _, reads | [_, _, _], _, reads => by cases reads
  | a :: b :: c :: d :: rest, bytes, reads => by
    rw [decodeChars_group] at reads
    split at reads
    · rename_i last
      obtain ⟨rfl, rfl⟩ := last
      rcases ungroupLast_eq_some_iff.mp reads with ⟨x, rfl, same⟩ | ⟨x, y, rfl, same⟩
      · rw [encodeChars_one, ← same]
        rfl
      · rw [encodeChars_two, ← same]
        rfl
    · obtain ⟨first, group, more⟩ := Option.bind_eq_some_iff.mp reads
      obtain ⟨x, y, z, rfl, same⟩ := ungroup_eq_some_iff.mp group
      obtain ⟨behind, decodes, rfl⟩ := Option.map_eq_some_iff.mp more
      rw [encodeChars_of_decodeChars rest decodes]
      exact (congrArg (· ++ encodeChars behind) same).trans (encodeChars_group x y z behind).symm

/-- A text is read as bytes just when it is what the bytes are written as. -/
theorem decode_eq_some_iff {text : String} {bytes : Bytes} :
    decode text = some bytes ↔ text = encode bytes := by
  rw [decode, encode]
  constructor
  · intro decodes
    rw [← encodeChars_of_decodeChars text.toList decodes, String.ofList_toList]
  · rintro rfl
    rw [String.toList_ofList, decodeChars_encodeChars]

theorem decode_eq_none_iff {text : String} :
    decode text = none ↔ ∀ bytes, text ≠ encode bytes := by
  simp only [Option.eq_none_iff_forall_ne_some, ne_eq, decode_eq_some_iff]

theorem encode_injective {one other : Bytes} (same : encode one = encode other) :
    one = other := by
  have decodes := decode_eq_some_iff.mpr same
  rw [decode_eq_some_iff.mpr rfl, Option.some.injEq] at decodes
  exact decodes

/-! ### No symbol is blank -/

private theorem isBlank_symbol : ∀ value < 64, Text.isBlank (symbol value) = false := by decide

private theorem isBlank_group {x y z : UInt8} :
    ∀ char ∈ group x y z, Text.isBlank char = false := by
  have small (byte : UInt8) : byte.toNat < 256 := byte.toNat_lt
  have xSmall := small x
  have ySmall := small y
  have zSmall := small z
  simp only [group, List.forall_mem_cons]
  refine ⟨?_, ?_, ?_, ?_, List.forall_mem_nil _⟩ <;> exact isBlank_symbol _ (by omega)

private theorem isBlank_padding (count : Nat) :
    ∀ char ∈ List.replicate count pad, Text.isBlank char = false := by
  intro char member
  rw [List.eq_of_mem_replicate member]
  rfl

theorem isBlank_of_mem_encodeChars : (bytes : Bytes) →
    ∀ char ∈ encodeChars bytes, Text.isBlank char = false
  | [] => List.forall_mem_nil _
  | [x] => by
    intro char member
    rw [encodeChars_one, List.append_assoc] at member
    rcases List.mem_append.mp member with symbols | filled
    · exact isBlank_group char (List.mem_of_mem_take symbols)
    · exact isBlank_padding 2 char filled
  | [x, y] => by
    intro char member
    rw [encodeChars_two] at member
    rcases List.mem_append.mp member with symbols | filled
    · exact isBlank_group char (List.mem_of_mem_take symbols)
    · exact isBlank_padding 1 char filled
  | x :: y :: z :: rest => by
    intro char member
    rw [encodeChars_group] at member
    rcases List.mem_append.mp member with symbols | behind
    · exact isBlank_group char symbols
    · exact isBlank_of_mem_encodeChars rest char behind

theorem trim_encode (bytes : Bytes) : Text.trim (encode bytes) = encode bytes := by
  have unblank := isBlank_of_mem_encodeChars bytes
  rw [Text.trim, encode, String.toList_ofList, Text.trimChars_eq_self]
  · exact fun char first => unblank char (List.mem_of_mem_head? first)
  · exact fun char last => unblank char (List.mem_of_mem_getLast? last)

end SealedEnvelope.Base64
