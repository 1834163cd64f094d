import SealedEnvelope.Event.Filter
import SealedEnvelope.Proofs.Json.Words
import SealedEnvelope.Proofs.Text.Utf8

/-!
When reading a filter crashes.

Parts of a directive are cut out at places that are counted without the blanks at its ends, so
blanks in front may bring a cut inside a character. Where every character is a single byte, there is
no such place: each step of the reading keeps the given text, and what is cut out of it is a text.
-/

namespace SealedEnvelope

theorem Utf8.encodeChars_of_ascii {chars : List Char} (ascii : ∀ char ∈ chars, char.toNat < 128) :
    encodeChars chars = chars.map fun char => char.val.toUInt8 := by
  induction chars with
  | nil => rfl
  | cons first rest ih =>
    obtain ⟨single, others⟩ := List.forall_mem_cons.mp ascii
    have byte : String.utf8EncodeChar first = [first.val.toUInt8] :=
      String.utf8EncodeChar_eq_singleton (Char.utf8Size_eq_one_iff.mpr (Nat.le_of_lt_succ single))
    rw [encodeChars, List.flatMap_cons, ← encodeChars, ih others, byte]
    rfl

namespace Directive

/-! ### Texts of single bytes -/

variable {α β : Type}

theorem bind_ne_crash {first : Except Fault α} {next : α → Except Fault β}
    (calm : first ≠ .error .crash)
    (behind : ∀ value, first = .ok value → next value ≠ .error .crash) :
    first >>= next ≠ .error .crash := by
  cases first with
  | error fault =>
    intro crash
    exact calm (congrArg Except.error (Except.error.inj crash))
  | ok value => exact behind value rfl

theorem getDM_ne_crash (value? : Option α) :
    (value?.getDM (throw .unreadable) : Except Fault α) ≠ .error .crash := by
  cases value? <;> nofun

namespace Reading

/-- Whether every character of the given text is a single byte. -/
def Ascii (reading : Reading) : Prop :=
  ∃ chars : List Char, (∀ char ∈ chars, char.toNat < 128) ∧
    reading.given = Utf8.encodeChars chars

variable {reading : Reading}

theorem Ascii.cutsAt (ascii : reading.Ascii) (place : Nat) : reading.cutsAt place = true := by
  obtain ⟨chars, single, given⟩ := ascii
  rw [Reading.cutsAt, given, Utf8.encodeChars_of_ascii single, List.getElem?_map, Option.all_map,
    Option.all_eq_true]
  intro char found
  have low : char.val.toNat < 128 := single char (List.mem_of_getElem? found)
  have value : char.val.toUInt8.toNat = char.val.toNat := by
    rw [UInt32.toNat_toUInt8]
    omega
  simp only [value, decide_eq_true_eq]
  omega

/-- Of single bytes any part can be cut out. -/
theorem Ascii.exists_cut (ascii : reading.Ascii) (length : Nat) :
    ∃ part, reading.cut length = .ok part := by
  rw [cut, ascii.cutsAt, ascii.cutsAt]
  obtain ⟨chars, single, given⟩ := ascii
  have part : (reading.given.drop reading.place).take length =
      Utf8.encodeChars ((chars.drop reading.place).take length) := by
    have within : ∀ char ∈ (chars.drop reading.place).take length, char.toNat < 128 :=
      fun char member => single char (List.mem_of_mem_drop (List.mem_of_mem_take member))
    rw [given, Utf8.encodeChars_of_ascii single, Utf8.encodeChars_of_ascii within, List.map_take,
      List.map_drop]
  have decoded : Utf8.decode ((reading.given.drop reading.place).take length) =
      .ok (String.ofList ((chars.drop reading.place).take length)) := by
    rw [Utf8.decode_eq_ok_iff, Utf8.encode, String.toList_ofList, part]
  exact ⟨_, by rw [decoded]; rfl⟩

theorem Ascii.skip (ascii : reading.Ascii) (count : Nat) : (reading.skip count).Ascii := ascii

theorem Ascii.cut_ne_crash (ascii : reading.Ascii) (length : Nat) :
    reading.cut length ≠ .error .crash := by
  obtain ⟨part, cut⟩ := ascii.exists_cut length
  rw [cut]
  nofun

theorem Ascii.upTo_ne_crash (ascii : reading.Ascii) (marks : List Char) :
    reading.upTo marks ≠ .error .crash := by
  rw [upTo]
  cases reading.next? marks with
  | none => nofun
  | some found => exact bind_ne_crash (ascii.cut_ne_crash _) fun part _ => nofun

theorem Ascii.of_upTo (ascii : reading.Ascii) {marks : List Char} {part : String} {mark : Char}
    {rest : Reading} (read : reading.upTo marks = .ok (part, mark, rest)) : rest.Ascii := by
  rw [upTo] at read
  split at read
  · cases read
  · obtain ⟨_, _, read⟩ := Json.bind_eq_ok_iff.mp read
    cases read
    exact ascii.skip _

theorem Ascii.level_ne_crash (ascii : reading.Ascii) : reading.level ≠ .error .crash := by
  refine bind_ne_crash (ascii.cut_ne_crash _) fun word _ => ?_
  split
  · nofun
  · exact getDM_ne_crash _

theorem behind_ne_crash (mark : Char) : reading.behind mark ≠ .error .crash := by
  rw [behind]
  split
  · split <;> nofun
  · nofun

theorem Ascii.of_behind (ascii : reading.Ascii) {mark : Char} {rest : Reading}
    (read : reading.behind mark = .ok rest) : rest.Ascii := by
  rw [behind] at read
  split at read
  · split at read
    · cases read
      exact ascii.skip 1
    · cases read
  · cases read

theorem Ascii.levelBehind_ne_crash (ascii : reading.Ascii) :
    reading.levelBehind ≠ .error .crash := by
  rw [levelBehind]
  split
  · nofun
  · exact bind_ne_crash (behind_ne_crash '=') fun rest read => (ascii.of_behind read).level_ne_crash

theorem Ascii.field_ne_crash (ascii : reading.Ascii) : reading.field ≠ .error .crash := by
  refine bind_ne_crash (ascii.upTo_ne_crash _) fun (text, _, rest) _ => ?_
  simp only
  split
  · nofun
  · refine bind_ne_crash (getDM_ne_crash _) fun query _ => ?_
    exact bind_ne_crash (behind_ne_crash ']') fun _ _ => nofun

theorem Ascii.of_field (ascii : reading.Ascii) {query : FieldQuery} {rest : Reading}
    (read : reading.field = .ok (query, rest)) : rest.Ascii := by
  obtain ⟨⟨text, mark, behind⟩, cut, read⟩ := Json.bind_eq_ok_iff.mp read
  simp only at read
  split at read
  · cases read
  · obtain ⟨_, _, read⟩ := Json.bind_eq_ok_iff.mp read
    obtain ⟨after, mark, read⟩ := Json.bind_eq_ok_iff.mp read
    cases read
    exact (ascii.of_upTo cut).of_behind mark

theorem Ascii.scope_ne_crash (ascii : reading.Ascii) (source? : Option String) :
    reading.scope source? ≠ .error .crash := by
  refine bind_ne_crash (ascii.upTo_ne_crash _) fun (name, mark, rest) read => ?_
  have behind := ascii.of_upTo read
  simp only
  split
  · exact bind_ne_crash behind.levelBehind_ne_crash fun _ _ => nofun
  · refine bind_ne_crash behind.field_ne_crash fun (query, rest) read => ?_
    exact bind_ne_crash (behind.of_field read).levelBehind_ne_crash fun _ _ => nofun

end Reading

theorem parse_ne_crash {text : String} (ascii : ∀ char ∈ text.toList, char.toNat < 128) :
    parse text ≠ .error .crash := by
  have starts : (Reading.start text).Ascii := ⟨text.toList, ascii, rfl⟩
  rw [parse]
  simp only
  split
  · nofun
  · exact (starts.skip 1).scope_ne_crash none
  · split
    · split
      · nofun
      · refine bind_ne_crash (starts.upTo_ne_crash _) fun (source, mark, rest) read => ?_
        have behind := starts.of_upTo read
        simp only
        split
        · exact bind_ne_crash behind.level_ne_crash fun _ _ => nofun
        · exact behind.scope_ne_crash _
    · nofun

end Directive

theorem mem_of_mem_splitOn {char separator : Char} {chars part : List Char}
    (isPart : part ∈ chars.splitOn separator) (member : char ∈ part) : char ∈ chars := by
  induction chars generalizing part with
  | nil =>
    obtain rfl : part = [] := List.mem_singleton.mp isPart
    exact member
  | cons first rest ih =>
    rw [List.splitOn_cons_eq_if_modifyHead] at isPart
    split at isPart
    · rcases List.mem_cons.mp isPart with rfl | later
      · cases member
      · exact List.mem_cons_of_mem first (ih later member)
    · obtain ⟨head, tail, parts⟩ := List.exists_cons_of_ne_nil (List.splitOn_ne_nil separator rest)
      rw [parts, List.modifyHead_cons] at isPart
      rw [parts] at ih
      rcases List.mem_cons.mp isPart with rfl | later
      · rcases List.mem_cons.mp member with rfl | inside
        · exact List.mem_cons_self
        · exact List.mem_cons_of_mem first (ih List.mem_cons_self inside)
      · exact List.mem_cons_of_mem first (ih (List.mem_cons_of_mem head later) member)

/-- A filter in ASCII is read without a crash. -/
theorem Filter.parse_ne_crash {text : String} (ascii : ∀ char ∈ text.toList, char.toNat < 128) :
    parse text ≠ .error .crash := by
  have mapped (parts : List (List Char)) (inAll : ∀ part ∈ parts, ∀ char ∈ part, char.toNat < 128) :
      parts.mapM (fun part => Directive.parse (String.ofList part)) ≠ .error .crash := by
    induction parts with
    | nil => nofun
    | cons first rest ih =>
      obtain ⟨here, behind⟩ := List.forall_mem_cons.mp inAll
      rw [← String.toList_ofList (l := first)] at here
      rw [List.mapM_cons]
      refine Directive.bind_ne_crash (Directive.parse_ne_crash here) fun _ _ => ?_
      exact Directive.bind_ne_crash (ih behind) fun _ _ => nofun
  rw [parse]
  split
  · nofun
  · refine mapped _ fun part isPart char member => ?_
    exact ascii char (mem_of_mem_splitOn (List.mem_filter.mp isPart).1 member)

/-- The equals sign is at the third byte of the directive, and at the fourth with the blank. -/
example : Filter.parse "info, é=debug" = .error .crash := by rfl

end SealedEnvelope
