/-
Paths and the places they lead to.

A path that can be followed leads to a place that is told by its text alone.
The full path of a place leads back to it, and a path whose parent leads to a
directory leads to the place of its name in there.
-/
import JarAtlas.Console.Memory
import JarAtlas.Proofs.Name.Segments

namespace JarAtlas
namespace Path

structure IsPlain (segment : String) : Prop where
  noSlash : '/' ∉ segment.toList
  notEmpty : segment ≠ ""
  notDot : segment ≠ "."
  notUp : segment ≠ ".."

theorem plain_concat {place : List String} {name : String}
    (plain : ∀ other ∈ place, IsPlain other) (namePlain : IsPlain name) :
    ∀ other ∈ place ++ [name], IsPlain other := by
  intro other member
  rcases List.mem_append.mp member with earlier | here
  · exact plain other earlier
  · rw [List.mem_singleton.mp here]
    exact namePlain

def advance (place : List String) (segment : String) : List String :=
  if segment = "" ∨ segment = "." then place
  else if segment = ".." then place.dropLast
  else place ++ [segment]

def reach (place segments : List String) : List String :=
  segments.foldl advance place

theorem advance_of_plain {name : String} (plain : IsPlain name) (place : List String) :
    advance place name = place ++ [name] := by
  rw [advance, if_neg (not_or.mpr ⟨plain.notEmpty, plain.notDot⟩), if_neg plain.notUp]

theorem reach_of_plain {names : List String} (plain : ∀ name ∈ names, IsPlain name)
    (place : List String) : reach place names = place ++ names := by
  induction names generalizing place with
  | nil => exact (List.append_nil place).symm
  | cons name names ih =>
      rw [reach, List.foldl_cons, ← reach, advance_of_plain (plain name List.mem_cons_self),
        ih fun other member => plain other (List.mem_cons_of_mem name member), List.append_assoc]
      rfl

theorem plain_reach {segments place : List String}
    (noSlash : ∀ segment ∈ segments, '/' ∉ segment.toList)
    (plain : ∀ name ∈ place, IsPlain name) : ∀ name ∈ reach place segments, IsPlain name := by
  induction segments generalizing place with
  | nil => exact plain
  | cons segment segments ih =>
      apply ih fun other member => noSlash other (List.mem_cons_of_mem segment member)
      rw [advance]
      split
      · exact plain
      · rename_i notBlank
        obtain ⟨notEmpty, notDot⟩ := not_or.mp notBlank
        split
        · exact fun name member => plain name (List.dropLast_subset place member)
        · rename_i notUp
          exact plain_concat plain
            ⟨noSlash segment List.mem_cons_self, notEmpty, notDot, notUp⟩

theorem noSlash_of_mem_segments {path segment : String} (member : segment ∈ segments path) :
    '/' ∉ segment.toList := by
  obtain ⟨part, inText, rfl⟩ := List.mem_map.mp member
  rw [String.toList_ofList]
  exact not_mem_of_mem_splitOn inText

theorem map_ofList_splitOn_append (front back : List Char) :
    ((front ++ '/' :: back).splitOn '/').map String.ofList =
      (front.splitOn '/').map String.ofList ++ (back.splitOn '/').map String.ofList := by
  rw [List.splitOn_append_cons_self, List.map_append]

/-! ### Full paths -/

theorem toList_ofSegments {place : List String} (notRoot : place ≠ []) :
    (ofSegments place).toList = place.flatMap fun name => '/' :: name.toList := by
  rw [ofSegments, String.toList_append, String.toList_intercalate]
  induction place with
  | nil => exact absurd rfl notRoot
  | cons name rest ih =>
      cases rest with
      | nil => simp
      | cons next rest =>
          have later := ih (List.cons_ne_nil next rest)
          rw [List.flatMap_cons, ← later]
          simp [List.intercalate]

theorem segments_ofSegments {place : List String} (plain : ∀ name ∈ place, IsPlain name)
    (notRoot : place ≠ []) : segments (ofSegments place) = "" :: place := by
  have parts : ∀ part ∈ place.map String.toList, '/' ∉ part := by
    intro part member
    obtain ⟨name, inPlace, rfl⟩ := List.mem_map.mp member
    exact (plain name inPlace).noSlash
  have written : (ofSegments place).toList =
      [] ++ '/' :: ['/'].intercalate (place.map String.toList) := by
    rw [ofSegments, String.toList_append, String.toList_intercalate]
    rfl
  rw [segments, written, map_ofList_splitOn_append, List.splitOn_nil,
    List.splitOn_intercalate '/' parts (by simpa using notRoot), List.map_map]
  simp

theorem reach_segments_ofSegments {place : List String}
    (plain : ∀ name ∈ place, IsPlain name) : reach [] (segments (ofSegments place)) = place := by
  by_cases root : place = []
  · subst root
    rfl
  · rw [segments_ofSegments plain root, reach, List.foldl_cons, ← reach]
    exact reach_of_plain plain []

theorem ofSegments_concat {place : List String} (notRoot : place ≠ []) (name : String) :
    ofSegments (place ++ [name]) = ofSegments place ++ "/" ++ name := by
  apply String.toList_inj.mp
  rw [toList_ofSegments (by simp), String.toList_append, String.toList_append,
    toList_ofSegments notRoot, List.flatMap_append]
  simp

theorem ofSegments_ne_empty (place : List String) : ofSegments place ≠ "" := by
  intro empty
  have lists := congrArg String.toList empty
  rw [ofSegments, String.toList_append] at lists
  exact List.cons_ne_nil _ _ lists

theorem getLast?_ofSegments_ne {place : List String} (plain : ∀ name ∈ place, IsPlain name)
    (notRoot : place ≠ []) : (ofSegments place).toList.getLast? ≠ some '/' := by
  obtain ⟨front, last, rfl⟩ := (List.eq_nil_or_concat place).resolve_left notRoot
  have lastPlain := plain last (by simp)
  have letters : last.toList ≠ [] := fun empty =>
    lastPlain.notEmpty (String.toList_eq_nil_iff.mp empty)
  rw [List.concat_eq_append, toList_ofSegments (by simp), List.flatMap_append,
    List.flatMap_singleton, List.getLast?_append_of_ne_nil _ (List.cons_ne_nil _ _),
    List.getLast?_cons_of_ne_nil letters]
  exact fun slash => lastPlain.noSlash (List.mem_of_getLast? slash)

theorem join_ofSegments {place : List String} {name : String}
    (plain : ∀ other ∈ place, IsPlain other) (namePlain : IsPlain name) :
    join (ofSegments place) name = ofSegments (place ++ [name]) := by
  have relative : ¬(ofSegments place = "" ∨ name.toList.head? = some '/') := by
    rw [not_or]
    exact ⟨ofSegments_ne_empty place, fun slash => namePlain.noSlash (List.mem_of_head? slash)⟩
  rw [join, if_neg (by simpa using relative)]
  by_cases root : place = []
  · subst root
    rfl
  · rw [if_neg (getLast?_ofSegments_ne plain root), ofSegments_concat root]

/-! ### Parents -/

/-- Segments that stay where they are. -/
def AreBlank (segments : List String) : Prop :=
  ∀ segment ∈ segments, segment = "" ∨ segment = "."

theorem reach_blank {blank : List String} (areBlank : AreBlank blank) (place : List String) :
    reach place blank = place := by
  induction blank with
  | nil => rfl
  | cons segment blank ih =>
      rw [reach, List.foldl_cons, ← reach, advance, if_pos (areBlank segment List.mem_cons_self)]
      exact ih fun other member => areBlank other (List.mem_cons_of_mem segment member)

theorem trimmedBack_slash (back : List Char) : trimmedBack ('/' :: back) = trimmedBack back := by
  rw [trimmedBack]

theorem exists_blank_of_trimmedBack (back : List Char) :
    ∃ blank, AreBlank blank ∧
      (back.reverse.splitOn '/').map String.ofList =
        ((trimmedBack back).reverse.splitOn '/').map String.ofList ++ blank := by
  -- A dot goes together with the slash before it, so the induction is on the length.
  induction size : back.length using Nat.strongRecOn generalizing back with
  | ind length ih =>
      have shorter {rest : List Char} (less : rest.length < back.length) (last : List Char)
          (stays : String.ofList last = "" ∨ String.ofList last = ".") (noSlash : '/' ∉ last) :
          ∃ blank, AreBlank blank ∧
            ((rest.reverse ++ '/' :: last).splitOn '/').map String.ofList =
              ((trimmedBack rest).reverse.splitOn '/').map String.ofList ++ blank := by
        obtain ⟨blank, areBlank, told⟩ := ih rest.length (size ▸ less) rest rfl
        refine ⟨blank ++ [String.ofList last], ?_, ?_⟩
        · intro segment member
          rcases List.mem_append.mp member with earlier | here
          · exact areBlank segment earlier
          · rw [List.mem_singleton.mp here]
            exact stays
        · rw [map_ofList_splitOn_append, told, List.splitOn_eq_singleton noSlash, List.append_assoc]
          rfl
      fun_cases trimmedBack back with
      | case1 rest =>
          rw [List.reverse_cons]
          exact shorter (by simp) [] (Or.inl rfl) List.not_mem_nil
      | case2 rest =>
          have spelled : ('.' :: '/' :: rest).reverse = rest.reverse ++ '/' :: ['.'] := by simp
          rw [trimmedBack_slash, spelled]
          exact shorter (by simp +arith) ['.'] (Or.inr rfl) (by simp)
      | case3 =>
          exact ⟨[], fun _ member => absurd member List.not_mem_nil, (List.append_nil _).symm⟩

theorem exists_blank_of_trimmed (text : List Char) :
    ∃ blank, AreBlank blank ∧
      (text.splitOn '/').map String.ofList =
        ((trimmed text).splitOn '/').map String.ofList ++ blank := by
  obtain ⟨blank, areBlank, told⟩ := exists_blank_of_trimmedBack text.reverse
  rw [List.reverse_reverse] at told
  exact ⟨blank, areBlank, told⟩

theorem trimmedBack_suffix (back : List Char) : trimmedBack back <:+ back := by
  fun_induction trimmedBack back with
  | case1 rest ih => exact ih.trans (List.suffix_cons '/' rest)
  | case2 rest ih => exact ih.trans (List.suffix_cons '.' _)
  | case3 => exact List.suffix_refl _

theorem trimmed_prefix (text : List Char) : trimmed text <+: text := by
  rw [trimmed, ← List.reverse_suffix, List.reverse_reverse]
  exact trimmedBack_suffix text.reverse

theorem noSlash_afterLast (text : List Char) : '/' ∉ afterLast '/' text := by
  rw [afterLast]
  split
  · rename_i cut
    exact cutAtLast?_after_free cut
  · rename_i uncut
    exact cutAtLast?_eq_none_iff.mp uncut

theorem plain_of_fileName? {path name : String} (told : fileName? path = some name) :
    IsPlain name ∧ name.toList = afterLast '/' (trimmed path.toList) := by
  have noSlash := noSlash_afterLast (trimmed path.toList)
  rw [fileName?] at told
  split at told
  · cases told
  · rename_i stays
    simp only [Bool.or_eq_true, List.isEmpty_iff, decide_eq_true_eq, not_or] at stays
    obtain ⟨⟨notEmpty, notDot⟩, notUp⟩ := stays
    cases told
    rw [String.toList_ofList]
    refine ⟨⟨?_, ?_, ?_, ?_⟩, rfl⟩
    · rw [String.toList_ofList]
      exact noSlash
    · exact fun same => notEmpty (String.ofList_inj.mp same)
    · exact fun same => notDot (String.ofList_inj.mp same)
    · exact fun same => notUp (String.ofList_inj.mp same)

/-- How a path is made of the way to its parent and a name there. -/
structure Parts (path parent name : String) (way blank tail : List String) : Prop where
  areBlank : AreBlank blank
  tailBlank : AreBlank tail
  segments_path : segments path = way ++ blank ++ [name]
  segments_parent : segments parent = way ++ tail
  head : path.toList.head? = parent.toList.head?
  plain : IsPlain name

section

variable {path name : String} {front after : List Char} {blank : List String}

theorem exists_segments_of_cut (cut : cutAtLast? '/' path.toList = some (front, after))
    (letters : name.toList = after) :
    ∃ blank, AreBlank blank ∧
      segments path = ((trimmed front).splitOn '/').map String.ofList ++ blank ++ [name] := by
  obtain ⟨blank, areBlank, frontTold⟩ := exists_blank_of_trimmed front
  refine ⟨blank, areBlank, ?_⟩
  rw [segments, cutAtLast?_eq_append cut, map_ofList_splitOn_append, frontTold,
    List.splitOn_eq_singleton (cutAtLast?_after_free cut), ← letters]
  simp

variable (spelled : path.toList = front ++ '/' :: after) (areBlank : AreBlank blank)
  (told : segments path = ((trimmed front).splitOn '/').map String.ofList ++ blank ++ [name])
  (plain : IsPlain name)

include spelled areBlank told plain

theorem parts_below_root (root : trimmed front = [] ∧ front.head? = some '/' ∨ front = []) :
    Parts path "/" name [""] blank [""] where
  areBlank := areBlank
  tailBlank segment member := Or.inl (List.mem_singleton.mp member)
  segments_path := by
    have empty : trimmed front = [] := by
      rcases root with ⟨empty, -⟩ | rfl
      · exact empty
      · rfl
    rw [told, empty]
    rfl
  segments_parent := rfl
  head := by
    rw [spelled]
    rcases root with ⟨-, slash⟩ | rfl
    · rw [List.head?_append, slash]
      rfl
    · rfl
  plain := plain

theorem parts_below (notEmpty : trimmed front ≠ []) :
    Parts path (String.ofList (trimmed front)) name
      (((trimmed front).splitOn '/').map String.ofList) blank [] where
  areBlank := areBlank
  tailBlank _ member := absurd member List.not_mem_nil
  segments_path := told
  segments_parent := by
    rw [segments, String.toList_ofList, List.append_nil]
  head := by
    obtain ⟨later, rejoined⟩ := trimmed_prefix front
    have whole : path.toList = trimmed front ++ (later ++ '/' :: after) := by
      rw [← List.append_assoc, rejoined, spelled]
    rw [whole, List.head?_append_of_ne_nil _ notEmpty, String.toList_ofList]
  plain := plain

end

theorem exists_parts {path parent name : String}
    (untrimmed : trimmed path.toList = path.toList) (above : parent? path = some parent)
    (named : fileName? path = some name) (notEmpty : parent ≠ "") :
    ∃ way blank tail, Parts path parent name way blank tail := by
  obtain ⟨plain, letters⟩ := plain_of_fileName? named
  rw [untrimmed, afterLast] at letters
  rw [parent?] at above
  dsimp only at above
  rw [untrimmed] at above
  cases cut : cutAtLast? '/' path.toList with
  | none =>
      rw [cut] at above
      dsimp only at above
      split at above
      · cases above
      · cases above
        exact absurd rfl notEmpty
  | some parts =>
      obtain ⟨front, after⟩ := parts
      rw [cut] at above letters
      dsimp only at above letters
      have spelled := cutAtLast?_eq_append cut
      obtain ⟨blank, areBlank, told⟩ := exists_segments_of_cut cut letters
      split at above
      · rename_i root
        cases above
        simp only [Bool.or_eq_true, Bool.and_eq_true, List.isEmpty_iff, decide_eq_true_eq] at root
        exact ⟨_, _, _, parts_below_root spelled areBlank told plain root⟩
      · cases above
        have left : trimmed front ≠ [] := fun empty => notEmpty (by rw [empty])
        exact ⟨_, _, _, parts_below spelled areBlank told plain left⟩

end Path
end JarAtlas
