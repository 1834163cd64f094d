import Mathlib.Data.List.Sort
import Mathlib.Data.String.Basic
import SealedEnvelope.Json.Value

/-!
The members of an object.

An object may be written with a key more than once, and in any order. Its members are in the order
of their keys, each key with the last of the values that were written for it, and these two
properties determine them.
-/

namespace SealedEnvelope.Json

variable {α : Type} {written members others : List (String × α)}

/-- Members in the order of their keys, each key once. -/
def Sorted (members : List (String × α)) : Prop :=
  members.Pairwise fun one other => one.1 < other.1

/-- The members of an object that is written with some members, first one first. -/
structure LastWins (written members : List (String × α)) : Prop where
  sorted : Sorted members
  last : ∀ key, members.lookup key = written.reverse.lookup key

/-! ### Looking up -/

theorem mem_of_lookup {key : String} {value : α} (found : members.lookup key = some value) :
    (key, value) ∈ members := by
  obtain ⟨front, rest, rfl, _⟩ := List.lookup_eq_some_iff.mp found
  exact List.mem_append_right front List.mem_cons_self

theorem lookup_eq_some_iff_mem (distinct : (members.map Prod.fst).Nodup) {key : String}
    {value : α} : members.lookup key = some value ↔ (key, value) ∈ members := by
  refine ⟨mem_of_lookup, fun member => ?_⟩
  obtain ⟨front, rest, rfl⟩ := List.append_of_mem member
  refine List.lookup_eq_some_iff.mpr ⟨front, rest, rfl, fun other before => ?_⟩
  rw [List.map_append, List.map_cons, List.nodup_append'] at distinct
  have apart := distinct.2.2 (List.mem_map_of_mem before)
  exact bne_iff_ne.mpr fun same => apart (same ▸ List.mem_cons_self)

theorem Sorted.distinct (sorted : Sorted members) : (members.map Prod.fst).Nodup :=
  List.Pairwise.map _ (fun _ _ before => ne_of_lt before) sorted

/-- Members that are sorted and found alike are the same. -/
theorem Sorted.eq_of_lookup (sorted : Sorted members) (sortedOthers : Sorted others)
    (same : ∀ key, members.lookup key = others.lookup key) : members = others := by
  have irreflexive : Std.Irrefl fun one other : String × α => one.1 < other.1 :=
    ⟨fun one => lt_irrefl one.1⟩
  have antisymmetric : Std.Antisymm fun one other : String × α => one.1 < other.1 :=
    ⟨fun one other before behind => absurd behind (lt_asymm before)⟩
  refine List.Pairwise.eq_of_mem_iff sorted sortedOthers fun (key, value) => ?_
  rw [← lookup_eq_some_iff_mem sorted.distinct, same,
    lookup_eq_some_iff_mem sortedOthers.distinct]

theorem LastWins.unique (one : LastWins written members) (other : LastWins written others) :
    members = others :=
  one.sorted.eq_of_lookup other.sorted fun key => (one.last key).trans (other.last key).symm

/-- Every member was written. -/
theorem LastWins.mem_written (lastWins : LastWins written members) {member : String × α}
    (isMember : member ∈ members) : member ∈ written := by
  have found := (lookup_eq_some_iff_mem lastWins.sorted.distinct).mpr isMember
  rw [lastWins.last] at found
  exact List.mem_reverse.mp (mem_of_lookup found)

/-- Members that are written in order are the members. -/
theorem Sorted.lastWins (sorted : Sorted members) : LastWins members members := by
  refine ⟨sorted, fun key => ?_⟩
  have distinct : (members.reverse.map Prod.fst).Nodup := by
    rw [List.map_reverse, List.nodup_reverse]
    exact sorted.distinct
  apply Option.ext fun value => ?_
  rw [lookup_eq_some_iff_mem sorted.distinct, lookup_eq_some_iff_mem distinct, List.mem_reverse]

/-! ### Gathering -/

theorem eq_or_mem_of_mem_insertAbsent {member other : String × α}
    (isMember : other ∈ insertAbsent member members) : other = member ∨ other ∈ members := by
  induction members with
  | nil => exact .inl (List.mem_singleton.mp isMember)
  | cons head rest ih =>
    rw [insertAbsent] at isMember
    split at isMember
    · exact List.mem_cons.mp isMember
    split at isMember
    · exact .inr isMember
    · rcases List.mem_cons.mp isMember with rfl | behind
      · exact .inr List.mem_cons_self
      · exact (ih behind).imp_right (List.mem_cons_of_mem head)

theorem sorted_insertAbsent (sorted : Sorted members) (member : String × α) :
    Sorted (insertAbsent member members) := by
  induction members with
  | nil => exact List.pairwise_singleton _ _
  | cons head rest ih =>
    obtain ⟨ahead, sortedRest⟩ := List.pairwise_cons.mp sorted
    rw [insertAbsent]
    split
    · rename_i before
      refine List.pairwise_cons.mpr ⟨List.forall_mem_cons.mpr ⟨before, ?_⟩, sorted⟩
      exact fun other isMember => before.trans (ahead other isMember)
    split
    · exact sorted
    · rename_i notBefore other
      have behind : head.1 < member.1 := lt_of_le_of_ne (not_lt.mp notBefore) (Ne.symm other)
      refine List.pairwise_cons.mpr ⟨fun next isMember => ?_, ih sortedRest⟩
      rcases eq_or_mem_of_mem_insertAbsent isMember with rfl | isMember
      · exact behind
      · exact ahead next isMember

/-- A member is put in as if behind all others: where its key is there, nothing changes. -/
theorem lookup_insertAbsent (sorted : Sorted members) (member : String × α) (key : String) :
    (insertAbsent member members).lookup key = (members ++ [member]).lookup key := by
  obtain ⟨name, value⟩ := member
  induction members with
  | nil => rfl
  | cons head rest ih =>
    obtain ⟨ahead, sortedRest⟩ := List.pairwise_cons.mp sorted
    rw [insertAbsent]
    split
    · rename_i before
      have absent : (head :: rest).lookup name = none := by
        refine List.lookup_eq_none_iff.mpr (List.forall_mem_cons.mpr ⟨?_, fun other isMember => ?_⟩)
        · exact bne_iff_ne.mpr (ne_of_lt before)
        · exact bne_iff_ne.mpr (ne_of_lt (before.trans (ahead other isMember)))
      generalize head :: rest = others at absent ⊢
      cases sought : key == name with
      | true =>
        obtain rfl := eq_of_beq sought
        simp only [List.lookup_append, List.lookup_cons, sought, absent, Option.none_or]
      | false =>
        simp only [List.lookup_append, List.lookup_cons, List.lookup_nil, sought, Option.or_none]
    split
    · rename_i same
      obtain ⟨headName, headValue⟩ := head
      obtain rfl : name = headName := same
      cases sought : key == name with
      | true => simp only [List.lookup_append, List.lookup_cons, sought, Option.some_or]
      | false =>
        simp only [List.lookup_append, List.lookup_cons, List.lookup_nil, sought, Option.or_none]
    · rw [List.lookup_cons, List.cons_append, List.lookup_cons, ih sortedRest]

private theorem foldl_insertAbsent (sorted : Sorted members) (written : List (String × α)) :
    Sorted (written.foldl (fun members member => insertAbsent member members) members) ∧
      ∀ key, (written.foldl (fun members member => insertAbsent member members) members).lookup
        key = (members ++ written).lookup key := by
  induction written generalizing members with
  | nil => exact ⟨sorted, fun key => by rw [List.foldl_nil, List.append_nil]⟩
  | cons member rest ih =>
    obtain ⟨sortedAll, found⟩ := ih (sorted_insertAbsent sorted member)
    refine ⟨sortedAll, fun key => ?_⟩
    rw [List.foldl_cons, found, List.lookup_append, lookup_insertAbsent sorted,
      ← List.lookup_append, List.append_assoc, List.singleton_append]

/-- What is gathered from all that was written are the members. -/
theorem lastWins_ofLastFirst (written : List (String × α)) :
    LastWins written (ofLastFirst written.reverse) := by
  obtain ⟨sorted, found⟩ := foldl_insertAbsent (α := α) List.Pairwise.nil written.reverse
  exact ⟨sorted, found⟩

end SealedEnvelope.Json
