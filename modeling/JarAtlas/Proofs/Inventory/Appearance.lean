/-
Names in order of appearance.

Names are met one after another and may be met again.  Two views of such a list
are kept while it grows: its names, each once, in the order in which they first
appeared, and the position at which a name appeared last.
-/
import JarAtlas.Inventory
import Mathlib.Data.List.Induction
import Mathlib.Data.List.Nodup

namespace JarAtlas

/-- The names of a list, each once, in the order in which they first appear
in it. -/
structure ListsOnce (names listed : List String) : Prop where
  distinct : listed.Nodup
  mem_iff : ∀ name, name ∈ listed ↔ name ∈ names
  ordered : listed.Pairwise fun a b => names.idxOf a < names.idxOf b

theorem listsOnce_nil : ListsOnce [] [] :=
  ⟨List.nodup_nil, fun _ => Iff.rfl, List.Pairwise.nil⟩

theorem nodup_addName {names : List String} (distinct : names.Nodup) (name : String) :
    (addName name names).Nodup := by
  unfold addName
  split
  · exact distinct
  · rename_i absent
    rw [List.nodup_append]
    refine ⟨distinct, List.nodup_singleton name, ?_⟩
    intro other member last isLast same
    rw [List.mem_singleton.mp isLast] at same
    exact absent (same ▸ member)

theorem ListsOnce.addName {names listed : List String} (lists : ListsOnce names listed)
    (name : String) : ListsOnce (names ++ [name]) (addName name listed) := by
  have earlier {a b : String} (first : a ∈ listed) (second : b ∈ listed)
      (before : names.idxOf a < names.idxOf b) :
      (names ++ [name]).idxOf a < (names ++ [name]).idxOf b := by
    rw [List.idxOf_append_of_mem ((lists.mem_iff a).mp first),
      List.idxOf_append_of_mem ((lists.mem_iff b).mp second)]
    exact before
  have kept : listed.Pairwise fun a b =>
      (names ++ [name]).idxOf a < (names ++ [name]).idxOf b :=
    lists.ordered.imp_of_mem fun first second before => earlier first second before
  refine ⟨nodup_addName lists.distinct name, ?_, ?_⟩
  · intro other
    unfold JarAtlas.addName
    split
    · rename_i present
      rw [List.mem_append, List.mem_singleton, lists.mem_iff]
      constructor
      · exact Or.inl
      · rintro (member | rfl)
        · exact member
        · exact (lists.mem_iff other).mp present
    · rw [List.mem_append, List.mem_append, lists.mem_iff]
  · unfold JarAtlas.addName
    split
    · exact kept
    · rename_i absent
      rw [List.pairwise_append]
      refine ⟨kept, List.pairwise_singleton _ _, ?_⟩
      intro other member last isLast
      rw [List.mem_singleton.mp isLast]
      have present : other ∈ names := (lists.mem_iff other).mp member
      have new : name ∉ names := fun found => absent ((lists.mem_iff name).mpr found)
      rw [List.idxOf_append_of_mem present, List.idxOf_append_of_notMem new]
      exact Nat.lt_of_lt_of_le (List.idxOf_lt_length_of_mem present) (Nat.le_add_right _ _)

theorem listsOnce_firstOccurrences (names : List String) :
    ListsOnce names (firstOccurrences names) := by
  induction names using List.reverseRecOn with
  | nil => exact listsOnce_nil
  | append_singleton names name ih =>
      have step : firstOccurrences (names ++ [name]) =
          JarAtlas.addName name (firstOccurrences names) := by
        rw [firstOccurrences, List.foldl_append]
        rfl
      rw [step]
      exact ih.addName name

def LastAt (names : List String) (name : String) (position : Nat) : Prop :=
  names[position]? = some name ∧ ∀ later, position < later → names[later]? ≠ some name

theorem lastAt_append_self (names : List String) (name : String) (position : Nat) :
    LastAt (names ++ [name]) name position ↔ position = names.length := by
  constructor
  · rintro ⟨here, after⟩
    have within : position < (names ++ [name]).length := (List.getElem?_eq_some_iff.mp here).1
    rw [List.length_append, List.length_singleton] at within
    by_contra different
    exact after names.length (by omega) List.getElem?_concat_length
  · rintro rfl
    refine ⟨List.getElem?_concat_length, ?_⟩
    intro later after
    rw [List.getElem?_eq_none (by rw [List.length_append, List.length_singleton]; omega)]
    exact nofun

theorem lastAt_append_of_ne {name last : String} (different : name ≠ last)
    (names : List String) (position : Nat) :
    LastAt (names ++ [last]) name position ↔ LastAt names name position := by
  have same (index : Nat) :
      (names ++ [last])[index]? = some name ↔ names[index]? = some name := by
    rw [List.getElem?_append]
    split
    · exact Iff.rfl
    · rename_i outside
      rw [List.getElem?_eq_none (Nat.le_of_not_lt outside), List.getElem?_singleton]
      split
      · simp [Ne.symm different]
      · rfl
  unfold LastAt
  simp only [same, ne_eq]

theorem LastAt.unique {names : List String} {name : String} {position other : Nat}
    (last : LastAt names name position) (otherLast : LastAt names name other) :
    position = other := by
  by_contra different
  rcases Nat.lt_or_gt_of_ne different with before | after
  · exact last.2 other before otherLast.1
  · exact otherLast.2 position after last.1

theorem exists_lastAt {names : List String} {name : String} (member : name ∈ names) :
    ∃ position, LastAt names name position := by
  induction names using List.reverseRecOn with
  | nil => exact (List.not_mem_nil member).elim
  | append_singleton names last ih =>
      by_cases same : name = last
      · rw [same]
        exact ⟨names.length, (lastAt_append_self names last _).mpr rfl⟩
      · have earlier : name ∈ names :=
          (List.mem_append.mp member).resolve_right fun found => same (List.mem_singleton.mp found)
        obtain ⟨position, here⟩ := ih earlier
        exact ⟨position, (lastAt_append_of_ne same names position).mpr here⟩

end JarAtlas
