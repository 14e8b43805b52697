/-
Segments of names.

The segments of a name stand between its separators.  A name is its segments with
separators between them, and the dotted form of a name with slashes has the same
segments.
-/
import JarAtlas.Name.Qualified
import Mathlib.Data.List.Basic

namespace JarAtlas

theorem dotted_append (front back : String) :
    dotted (front ++ back) = dotted front ++ dotted back := by
  apply String.toList_injective
  rw [dotted, dotted, dotted, String.toList_map, String.toList_append, String.toList_append,
    String.toList_map, String.toList_map, List.map_append]

theorem dotted_of_slash_free {name : String} (free : '/' ∉ name.toList) : dotted name = name := by
  apply String.toList_injective
  rw [dotted, String.toList_map]
  refine (List.map_congr_left fun c member => ?_).trans (List.map_id _)
  have kept : c ≠ '/' := fun same => free (same ▸ member)
  rw [if_neg kept, id]

theorem dotted_intercalate {segments : List String}
    (free : ∀ segment ∈ segments, '/' ∉ segment.toList) :
    dotted ("/".intercalate segments) = ".".intercalate segments := by
  induction segments with
  | nil => decide +kernel
  | cons segment segments ih =>
      have here := dotted_of_slash_free (free segment List.mem_cons_self)
      have later := ih fun other member => free other (List.mem_cons_of_mem segment member)
      have mark : dotted "/" = "." := by decide +kernel
      cases segments with
      | nil => rw [String.intercalate_singleton, String.intercalate_singleton, here]
      | cons next segments =>
          rw [String.intercalate_cons_cons, String.intercalate_cons_cons, dotted_append,
            dotted_append, here, mark, later]

theorem not_mem_intercalate {mark : Char} {separator : String} {segments : List String}
    (other : mark ∉ separator.toList) (free : ∀ segment ∈ segments, mark ∉ segment.toList) :
    mark ∉ (separator.intercalate segments).toList := by
  induction segments with
  | nil =>
      rw [String.intercalate_nil]
      exact List.not_mem_nil
  | cons segment segments ih =>
      have here := free segment List.mem_cons_self
      have later := ih fun next member => free next (List.mem_cons_of_mem segment member)
      cases segments with
      | nil => rwa [String.intercalate_singleton]
      | cons next segments =>
          rw [String.intercalate_cons_cons, String.toList_append, String.toList_append]
          exact List.not_mem_append (List.not_mem_append here other) later

theorem not_mem_of_mem_splitOn {separator : Char} {text part : List Char}
    (member : part ∈ text.splitOn separator) : separator ∉ part := by
  induction text generalizing part with
  | nil =>
      rw [List.splitOn_nil, List.mem_singleton] at member
      rw [member]
      exact List.not_mem_nil
  | cons c text ih =>
      rw [List.splitOn_cons_eq_if_modifyHead] at member
      split at member
      · rcases List.mem_cons.mp member with rfl | later
        · exact List.not_mem_nil
        · exact ih later
      · rename_i different
        have kept : separator ≠ c := fun same => different (beq_iff_eq.mpr same.symm)
        cases parts : text.splitOn separator with
        | nil => exact absurd parts (List.splitOn_ne_nil separator text)
        | cons first rest =>
            rw [parts, List.modifyHead_cons] at member
            rw [parts] at ih
            rcases List.mem_cons.mp member with rfl | later
            · exact List.not_mem_cons_of_ne_of_not_mem kept (ih List.mem_cons_self)
            · exact ih (List.mem_cons_of_mem first later)

def segmentsBy (separator : Char) (name : String) : List String :=
  (name.toList.splitOn separator).map String.ofList

theorem segmentsBy_of_free {separator : Char} {name : String} (free : separator ∉ name.toList) :
    segmentsBy separator name = [name] := by
  rw [segmentsBy, List.splitOn_eq_singleton free, List.map_singleton, String.ofList_toList]

theorem segmentsBy_intercalate {separator : Char} {segments : List String}
    (named : segments ≠ []) (free : ∀ segment ∈ segments, separator ∉ segment.toList) :
    segmentsBy separator ((String.singleton separator).intercalate segments) = segments := by
  have parts : ∀ part ∈ segments.map String.toList, separator ∉ part := by
    intro part member
    obtain ⟨segment, listed, rfl⟩ := List.mem_map.mp member
    exact free segment listed
  rw [segmentsBy, String.toList_intercalate, String.toList_singleton,
    List.splitOn_intercalate separator parts (by simpa using named), List.map_map]
  simp

end JarAtlas
