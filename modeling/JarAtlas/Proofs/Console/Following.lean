/-
Following paths.

A path that can be followed leads to the place that its segments tell.  It is
followed segment by segment, so a path with a parent leads on from where its
parent leads.
-/
import JarAtlas.Proofs.Console.Places

namespace JarAtlas
namespace Console

open JarAtlas.Path (reach IsPlain AreBlank)

namespace FileTree

variable {tree : FileTree} {place target : List String}

theorem follow?_append (tree : FileTree) (place front back : List String) :
    tree.follow? place (front ++ back) =
      (tree.follow? place front).bind fun middle => tree.follow? middle back := by
  induction front generalizing place with
  | nil => rfl
  | cons segment front ih =>
      rw [List.cons_append, follow?, follow?]
      split
      · split
        · exact ih place
        · split
          · exact ih place.dropLast
          · split
            · exact ih _
            · rfl
      · rfl

theorem follow?_blank {blank : List String} (isDirectory : tree.isDirectory place = true)
    (areBlank : AreBlank blank) : tree.follow? place blank = some place := by
  induction blank with
  | nil => rfl
  | cons segment blank ih =>
      rw [follow?, if_pos isDirectory, if_pos (areBlank segment List.mem_cons_self)]
      exact ih fun other member => areBlank other (List.mem_cons_of_mem segment member)

theorem follow?_name {name : String} (plain : IsPlain name) :
    tree.follow? place [name] =
      if tree.isDirectory place = true ∧ isName name = true then some (place ++ [name])
      else none := by
  rw [follow?, if_neg (not_or.mpr ⟨plain.notEmpty, plain.notDot⟩), if_neg plain.notUp, follow?]
  by_cases isDirectory : tree.isDirectory place = true
  · rw [if_pos isDirectory]
    exact if_congr (by simp [isDirectory]) rfl rfl
  · rw [if_neg isDirectory, if_neg fun both => isDirectory both.1]

theorem reach_of_follow? {segments : List String}
    (found : tree.follow? place segments = some target) : reach place segments = target := by
  induction segments generalizing place with
  | nil => exact Option.some.inj found
  | cons segment segments ih =>
      rw [follow?] at found
      rw [reach, List.foldl_cons, ← reach, Path.advance]
      split at found
      · split at found
        · rename_i blank
          rw [if_pos blank]
          exact ih found
        · rename_i notBlank
          rw [if_neg notBlank]
          split at found
          · rename_i up
            rw [if_pos up]
            exact ih found
          · rename_i notUp
            rw [if_neg notUp]
            split at found
            · exact ih found
            · cases found
      · cases found

end FileTree

namespace Memory

variable {memory : Memory} {path : String} {place : List String}

def target (memory : Memory) (path : String) : List String :=
  reach (memory.origin path) (Path.segments path)

theorem follow?_of_place? (found : memory.place? path = some place) :
    isPath path = true ∧
      memory.tree.follow? (memory.origin path) (Path.segments path) = some place := by
  rw [place?] at found
  split at found
  · rename_i isPath
    exact ⟨isPath, found⟩
  · cases found

theorem look_of_place? (found : memory.place? path = some place) :
    memory.look path = memory.tree.standing place := by
  rw [look, found]

theorem exists_place_of_look {content : ByteArray} (file : memory.look path = .file content) :
    ∃ place, memory.place? path = some place ∧ memory.tree.standing place = .file content := by
  rw [look] at file
  split at file
  · rename_i place leads
    exact ⟨place, leads, file⟩
  · cases file

theorem target_of_place? (found : memory.place? path = some place) :
    memory.target path = place :=
  FileTree.reach_of_follow? (follow?_of_place? found).2

/-- Whether the working directory of a machine is a place that names lead to. -/
def WorksAtPlace (memory : Memory) : Prop :=
  ∀ name ∈ memory.directory, IsPlain name

theorem plain_target (works : memory.WorksAtPlace) (path : String) :
    ∀ name ∈ memory.target path, IsPlain name := by
  apply Path.plain_reach fun segment member => Path.noSlash_of_mem_segments member
  rw [origin]
  split
  · exact fun _ member => absurd member List.not_mem_nil
  · exact works

theorem origin_ofSegments (memory : Memory) (place : List String) :
    memory.origin (Path.ofSegments place) = [] := by
  rw [origin, if_pos]
  rw [Path.ofSegments, String.toList_append]
  rfl

theorem target_ofSegments (memory : Memory) (plain : ∀ name ∈ place, IsPlain name) :
    memory.target (Path.ofSegments place) = place := by
  rw [target, origin_ofSegments, Path.reach_segments_ofSegments plain]

theorem eq_of_place?_ofSegments {found : List String} (plain : ∀ name ∈ place, IsPlain name)
    (leads : memory.place? (Path.ofSegments place) = some found) : found = place := by
  rw [← target_of_place? leads, target_ofSegments memory plain]

theorem exists_place_of_resolve? {text : String} (resolves : memory.resolve? path = some text) :
    ∃ place, memory.place? path = some place ∧ text = Path.ofSegments place := by
  rw [resolve?] at resolves
  split at resolves
  · cases resolves
  · rename_i place leads
    split at resolves
    · cases resolves
    · cases resolves
      exact ⟨place, leads, rfl⟩

theorem origin_of_parts {parent name : String} {way blank tail : List String}
    (parts : Path.Parts path parent name way blank tail) :
    memory.origin path = memory.origin parent := by
  rw [origin, origin, parts.head]

theorem target_of_parts {parent name : String} {way blank tail : List String}
    (parts : Path.Parts path parent name way blank tail) :
    memory.target path = memory.target parent ++ [name] := by
  rw [target, target, parts.segments_path, parts.segments_parent, origin_of_parts parts, reach,
    reach, List.foldl_append, List.foldl_append, List.foldl_append, ← reach, ← reach, ← reach,
    ← reach, Path.reach_blank parts.areBlank, Path.reach_blank parts.tailBlank]
  exact Path.advance_of_plain parts.plain _

theorem place?_of_parts {parent name : String} {way blank tail directory : List String}
    (parts : Path.Parts path parent name way blank tail) (pathSound : isPath path = true)
    (found : memory.place? parent = some directory)
    (isDirectory : memory.tree.isDirectory directory = true)
    (fits : FileTree.isName name = true) :
    memory.place? path = some (directory ++ [name]) := by
  have wayLeads : memory.tree.follow? (memory.origin parent) way = some directory := by
    have followed := (follow?_of_place? found).2
    rw [parts.segments_parent, FileTree.follow?_append] at followed
    obtain ⟨middle, first, last⟩ := Option.bind_eq_some_iff.mp followed
    rw [first, ← FileTree.reach_of_follow? last, Path.reach_blank parts.tailBlank]
  rw [place?, if_pos pathSound, parts.segments_path, origin_of_parts parts,
    FileTree.follow?_append, FileTree.follow?_append, wayLeads, Option.bind_some,
    FileTree.follow?_blank isDirectory parts.areBlank, Option.bind_some,
    FileTree.follow?_name parts.plain, if_pos ⟨isDirectory, fits⟩]

theorem isDirectory_of_place? {name : String} (plain : ∀ other ∈ place, IsPlain other)
    (namePlain : IsPlain name) {found : List String}
    (leads : memory.place? (Path.ofSegments (place ++ [name])) = some found) :
    memory.tree.isDirectory place = true ∧ FileTree.isName name = true := by
  have allPlain := Path.plain_concat plain namePlain
  have followed := (follow?_of_place? leads).2
  rw [origin_ofSegments, Path.segments_ofSegments allPlain (by simp), ← List.cons_append,
    FileTree.follow?_append] at followed
  obtain ⟨middle, first, last⟩ := Option.bind_eq_some_iff.mp followed
  have arrived : middle = place := by
    rw [← FileTree.reach_of_follow? first, reach, List.foldl_cons, ← reach]
    exact Path.reach_of_plain plain []
  rw [arrived, FileTree.follow?_name namePlain] at last
  split at last
  · rename_i both
    exact both
  · cases last

end Memory

end Console
end JarAtlas
