/-
Namespaces and the segments of names.

A namespace holds a name exactly if the segments of the namespace are the first
segments of the name.  This is said of both spellings: the segments of a path stand
between slashes, and they are compared with the segments of the dotted namespace.
So a name and its other spelling are held by the same namespaces.
-/
import JarAtlas.Proofs.Name.Admission
import JarAtlas.Proofs.Name.Segments

namespace JarAtlas

theorem intercalate_append_cons {α : Type} (separator : α) {front : List (List α)}
    (nonempty : front ≠ []) (part : List α) (back : List (List α)) :
    [separator].intercalate (front ++ part :: back) =
      [separator].intercalate front ++ separator :: [separator].intercalate (part :: back) := by
  induction front with
  | nil => exact absurd rfl nonempty
  | cons first front ih =>
      cases front with
      | nil => simp [List.intercalate]
      | cons next front =>
          have later := ih (List.cons_ne_nil next front)
          rw [List.cons_append] at later
          rw [List.cons_append, List.cons_append, List.intercalate_cons_cons, later,
            List.intercalate_cons_cons]
          simp only [List.append_assoc]

theorem splitOn_prefix_iff {separator : Char} {front text : List Char} :
    front.splitOn separator <+: text.splitOn separator ↔
      ∃ rest, text = front ++ rest ∧ Namespace.IsBoundary separator rest := by
  constructor
  · rintro ⟨more, parts⟩
    have whole : text = [separator].intercalate (front.splitOn separator ++ more) := by
      rw [parts, List.intercalate_splitOn]
    cases more with
    | nil =>
        refine ⟨[], ?_, Or.inl rfl⟩
        rw [whole, List.append_nil, List.intercalate_splitOn, List.append_nil]
    | cons part more =>
        rw [intercalate_append_cons separator (List.splitOn_ne_nil separator front),
          List.intercalate_splitOn] at whole
        exact ⟨_, whole, Or.inr ⟨_, rfl⟩⟩
  · rintro ⟨rest, rfl, boundary⟩
    rcases boundary with rfl | ⟨later, rfl⟩
    · exact ⟨[], by rw [List.append_nil, List.append_nil]⟩
    · rw [List.splitOn_append_cons_self]
      exact List.prefix_append _ _

theorem segmentsBy_prefix_iff {separator : Char} {front name : String} :
    segmentsBy separator front <+: segmentsBy separator name ↔
      ∃ rest, name.toList = front.toList ++ rest ∧ Namespace.IsBoundary separator rest := by
  rw [segmentsBy, segmentsBy,
    List.prefix_map_iff_of_injective fun _ _ => String.ofList_injective, splitOn_prefix_iff]

theorem splitOn_replace {old new : Char} {text : List Char} (free : new ∉ text) :
    (text.map fun c => if c = old then new else c).splitOn new = text.splitOn old := by
  induction text with
  | nil => rw [List.map_nil, List.splitOn_nil, List.splitOn_nil]
  | cons c text ih =>
      rw [List.mem_cons, not_or] at free
      rw [List.map_cons, List.splitOn_cons_eq_if_modifyHead, List.splitOn_cons_eq_if_modifyHead,
        ih free.2]
      by_cases separates : c = old
      · rw [if_pos separates, if_pos (beq_self_eq_true new), if_pos (beq_iff_eq.mpr separates)]
      · have other : ¬(c == new) = true := fun same => free.1 (beq_iff_eq.mp same).symm
        have kept : ¬(c == old) = true := fun same => separates (beq_iff_eq.mp same)
        rw [if_neg separates, if_neg other, if_neg kept]

theorem segmentsBy_slashed {name : String} (free : '/' ∉ name.toList) :
    segmentsBy '/' (slashed name) = segmentsBy '.' name := by
  rw [segmentsBy, slashed, String.toList_map, splitOn_replace free, segmentsBy]

namespace Namespace

variable {ns : Namespace}

theorem contains_of_unnamed (unnamed : ns.name = "") (name : String) :
    ns.contains name = true := by
  rw [contains, covers_iff, unnamed]
  exact Or.inl String.toList_empty

theorem containsPath_of_unnamed (unnamed : ns.name = "") (path : String) :
    ns.containsPath path = true := by
  rw [containsPath, covers_iff, Namespace.path, unnamed, slashed, String.toList_map,
    String.toList_empty]
  exact Or.inl rfl

theorem contains_iff_segments (named : ns.name ≠ "") (name : String) :
    ns.contains name = true ↔ segmentsBy '.' ns.name <+: segmentsBy '.' name := by
  have letters : ns.name.toList ≠ [] := mt String.toList_eq_nil_iff.mp named
  rw [contains, covers_iff, or_iff_right letters, segmentsBy_prefix_iff]

theorem containsPath_iff_segments (named : ns.name ≠ "") (slashFree : '/' ∉ ns.name.toList)
    (path : String) :
    ns.containsPath path = true ↔ segmentsBy '.' ns.name <+: segmentsBy '/' path := by
  have letters : ns.path.toList ≠ [] := by
    rw [Namespace.path, slashed, String.toList_map, ne_eq, List.map_eq_nil_iff,
      String.toList_eq_nil_iff]
    exact named
  rw [containsPath, covers_iff, or_iff_right letters, ← segmentsBy_prefix_iff, Namespace.path,
    segmentsBy_slashed slashFree]

theorem containsPath_slashed (slashFree : '/' ∉ ns.name.toList) {name : String}
    (free : '/' ∉ name.toList) : ns.containsPath (slashed name) = ns.contains name := by
  by_cases named : ns.name = ""
  · rw [contains_of_unnamed named, containsPath_of_unnamed named]
  · rw [Bool.eq_iff_iff, containsPath_iff_segments named slashFree, contains_iff_segments named,
      segmentsBy_slashed free]

theorem contains_dotted (slashFree : '/' ∉ ns.name.toList) {path : String}
    (free : '.' ∉ path.toList) : ns.contains (dotted path) = ns.containsPath path := by
  rw [← containsPath_slashed slashFree (dotted_slash_free path), slashed_dotted free]

/-- A namespace with a name holds the names that start with its segments, and the
paths that do.  So names and paths that are two spellings of one another are held by
the same namespaces. -/
theorem holds_iff_segments (text : String) :
    let ns := ofText text
    (ns.name ≠ "" →
        (∀ name, ns.contains name = true ↔ segmentsBy '.' ns.name <+: segmentsBy '.' name) ∧
          ∀ path, ns.containsPath path = true ↔
            segmentsBy '.' ns.name <+: segmentsBy '/' path) ∧
      (∀ name, '/' ∉ name.toList → ns.containsPath (slashed name) = ns.contains name) ∧
      ∀ path, '.' ∉ path.toList → ns.contains (dotted path) = ns.containsPath path := by
  intro ns
  have slashFree : '/' ∉ ns.name.toList := ofText_slash_free text
  refine ⟨fun named => ⟨contains_iff_segments named, ?_⟩, fun name free => ?_, fun path free => ?_⟩
  · exact containsPath_iff_segments named slashFree
  · exact containsPath_slashed slashFree free
  · exact contains_dotted slashFree free

/-- Of two names that start with the text of the namespace, only the one that has
its segments is held, in either spelling. -/
theorem holds_by_whole_segments :
    let ns := ofText " com/example. "
    ns.name ≠ "" ∧ '/' ∉ "com.example.Shop".toList ∧ '.' ∉ "com/examples/Shop".toList ∧
      segmentsBy '.' ns.name <+: segmentsBy '.' "com.example.Shop" ∧
      ns.containsPath "com/example/Shop" = true ∧
      ¬segmentsBy '.' ns.name <+: segmentsBy '/' "com/examples/Shop" ∧
      ns.contains "com.examples.Shop" = false := by
  intro ns
  have named : ns.name ≠ "" := by decide +kernel
  have free : '/' ∉ "com.example.Shop".toList := by decide +kernel
  have otherFree : '.' ∉ "com/examples/Shop".toList := by decide +kernel
  have path : slashed "com.example.Shop" = "com/example/Shop" := by decide +kernel
  have name : dotted "com/examples/Shop" = "com.examples.Shop" := by decide +kernel
  obtain ⟨bySegments, bySlashes, byDots⟩ := holds_iff_segments " com/example. "
  have held : ns.contains "com.example.Shop" = true := by decide +kernel
  have outside : ns.containsPath "com/examples/Shop" = false := by decide +kernel
  refine ⟨named, free, otherFree, ((bySegments named).1 _).mp held, ?_, ?_, ?_⟩
  · rw [← path, bySlashes _ free, held]
  · intro starts
    have inside := ((bySegments named).2 _).mpr starts
    exact absurd (outside.symm.trans inside) Bool.false_ne_true
  · rw [← name, byDots _ otherFree, outside]

end Namespace
end JarAtlas
