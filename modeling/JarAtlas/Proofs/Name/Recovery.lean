/-
Names told by their records.

Recording a nested class moves the part of its last segment before the first dollar
sign into the name of the parent.  Nothing is lost by this: the dotted name of a
class is told by its recorded name and its parent, so two classes are recorded
alike only if their dotted names are equal.
-/
import JarAtlas.Proofs.Name.Nesting
import JarAtlas.Proofs.Name.Segments

namespace JarAtlas

/-- The segments before the last one; there are none where a name has no dot. -/
def packageSegments (name : String) : List String :=
  (segmentsBy '.' name).dropLast

def lastSegment (name : String) : String :=
  (segmentsBy '.' name).getLastD ""

namespace RecordedName

theorem segmentsBy_package_append {package segment : List Char} (isPackage : IsPackage package)
    (free : '.' ∉ segment) :
    segmentsBy '.' (String.ofList (package ++ segment)) =
      packageSegments (String.ofList package) ++ [String.ofList segment] := by
  have last : segment.splitOn '.' = [segment] := List.splitOn_eq_singleton free
  rw [packageSegments, segmentsBy, segmentsBy, String.toList_ofList, String.toList_ofList]
  rcases isPackage with rfl | ⟨front, rfl⟩
  · rw [List.nil_append, last, List.splitOn_nil]
    rfl
  · rw [List.append_assoc, List.singleton_append, List.splitOn_append_cons_self,
      List.splitOn_append_cons_self, last, List.splitOn_nil, List.map_append, List.map_append,
      List.map_singleton, List.map_singleton, List.dropLast_concat]

theorem packageSegments_append {package segment : List Char} (isPackage : IsPackage package)
    (free : '.' ∉ segment) :
    packageSegments (String.ofList (package ++ segment)) =
      packageSegments (String.ofList package) := by
  rw [packageSegments, segmentsBy_package_append isPackage free, List.dropLast_concat]

theorem lastSegment_append {package segment : List Char} (isPackage : IsPackage package)
    (free : '.' ∉ segment) :
    lastSegment (String.ofList (package ++ segment)) = String.ofList segment := by
  rw [lastSegment, segmentsBy_package_append isPackage free, List.getLastD_concat]

/-- Whether the first dollar sign of a segment stands between two texts and neither
is empty. -/
structure IsParted (segment outer own : String) : Prop where
  whole : segment = outer ++ "$" ++ own
  first : '$' ∉ outer.toList
  outerNonempty : outer ≠ ""
  ownNonempty : own ≠ ""

theorem exists_isParted_iff {segment : List Char} :
    (∃ outer own, IsParted (String.ofList segment) outer own) ↔
      ∃ before after, cutAtFirst? '$' segment = some (before, after) ∧
        before ≠ [] ∧ after ≠ [] := by
  constructor
  · rintro ⟨outer, own, parted⟩
    have letters : segment = outer.toList ++ '$' :: own.toList := by
      have whole := congrArg String.toList parted.whole
      rw [String.toList_ofList, String.toList_append, String.toList_append,
        List.append_assoc] at whole
      exact whole
    refine ⟨outer.toList, own.toList, ?_, ?_, ?_⟩
    · rw [letters, cutAtFirst?_append parted.first]
    · exact fun blank => parted.outerNonempty (String.toList_eq_nil_iff.mp blank)
    · exact fun blank => parted.ownNonempty (String.toList_eq_nil_iff.mp blank)
  · rintro ⟨before, after, found, beforeNonempty, afterNonempty⟩
    refine ⟨String.ofList before, String.ofList after, ?_, ?_, ?_, ?_⟩
    · apply String.toList_injective
      rw [cutAtFirst?_eq_append found]
      simp
    · rw [String.toList_ofList]
      exact cutAtFirst?_before_free found
    · exact fun blank => beforeNonempty (String.ofList_eq_empty_iff.mp blank)
    · exact fun blank => afterNonempty (String.ofList_eq_empty_iff.mp blank)

theorem isSome_parent_of_cut {internalName : String} {package segment : List Char}
    (cut : packageAndSegment (dotted internalName).toList = (package, segment)) :
    (ofInternal internalName).parent.isSome = true ↔
      ∃ before after, cutAtFirst? '$' segment = some (before, after) ∧
        before ≠ [] ∧ after ≠ [] := by
  unfold ofInternal
  simp only [cut]
  cases cutAtFirst? '$' segment with
  | none => simp
  | some parts =>
      obtain ⟨before, after⟩ := parts
      simp only [Option.some.injEq, Prod.mk.injEq]
      constructor
      · intro nested
        split at nested
        · cases nested
        · next nonempty =>
            rw [Bool.or_eq_true, List.isEmpty_iff, List.isEmpty_iff, not_or] at nonempty
            exact ⟨before, after, ⟨rfl, rfl⟩, nonempty⟩
      · rintro ⟨_, _, ⟨rfl, rfl⟩, nonempty⟩
        rw [if_neg (by rwa [Bool.or_eq_true, List.isEmpty_iff, List.isEmpty_iff, not_or])]
        rfl

theorem isSome_parent_iff (internalName : String) :
    (ofInternal internalName).parent.isSome = true ↔
      ∃ outer own, IsParted (lastSegment (dotted internalName)) outer own := by
  cases cut : packageAndSegment (dotted internalName).toList with
  | mk package segment =>
      obtain ⟨whole, isPackage, noDot⟩ := packageAndSegment_parts cut
      have name : dotted internalName = String.ofList (package ++ segment) := by
        rw [← whole, String.ofList_toList]
      rw [isSome_parent_of_cut cut, name, lastSegment_append isPackage noDot,
        exists_isParted_iff]

theorem parts_of_parent {internalName parent : String}
    (nested : (ofInternal internalName).parent = some parent) :
    packageSegments parent = packageSegments (ofInternal internalName).name ∧
      dotted internalName = parent ++ "$" ++ lastSegment (ofInternal internalName).name := by
  rcases ofInternal_eq_or internalName with
    top | ⟨package, outer, own, isPackage, noDot, _, whole, recorded⟩
  · rw [top] at nested
    cases nested
  · have outerFree : '.' ∉ outer := fun member => noDot (List.mem_append_left _ member)
    have ownFree : '.' ∉ own := fun member =>
      noDot (List.mem_append_right _ (List.mem_cons_of_mem _ member))
    rw [recorded] at nested ⊢
    obtain rfl := Option.some.inj nested
    refine ⟨?_, ?_⟩
    · rw [packageSegments_append isPackage outerFree, packageSegments_append isPackage ownFree]
    · rw [lastSegment_append isPackage ownFree]
      apply String.toList_injective
      rw [whole]
      simp

theorem ofInternal_parent {internalName parent : String}
    (nested : (ofInternal internalName).parent = some parent) :
    ofInternal parent = ⟨parent, none⟩ := by
  apply ofInternal_of_parent nested
  apply dotted_of_slash_free
  intro member
  apply dotted_slash_free internalName
  rw [(parts_of_parent nested).2, String.toList_append, String.toList_append, List.append_assoc]
  exact List.mem_append_left _ member

/-- The dotted name of the class of which a name and a parent are recorded. -/
def whole (recorded : RecordedName) : String :=
  match recorded.parent with
  | none => recorded.name
  | some parent => parent ++ "$" ++ lastSegment recorded.name

theorem whole_ofInternal (internalName : String) :
    (ofInternal internalName).whole = dotted internalName := by
  unfold whole
  split
  · next top => exact (name_eq_dotted_iff internalName).mpr top
  · next parent nested => exact (parts_of_parent nested).2.symm

theorem ofInternal_eq_iff (internalName other : String) :
    ofInternal internalName = ofInternal other ↔ dotted internalName = dotted other := by
  constructor
  · intro same
    rw [← whole_ofInternal, same, whole_ofInternal]
  · intro same
    unfold ofInternal
    rw [same]

/-- A class has a parent exactly if there is something on both sides of the first
dollar sign in the last segment of its dotted name.  Without a parent the dotted
name is recorded.  Otherwise the recorded name and the parent have the same package
and make up the dotted name, and the parent has no parent itself.  So the dotted
name is always told by what is recorded, and no two dotted names are recorded
alike. -/
theorem ofInternal_loses_nothing (internalName : String) :
    ((ofInternal internalName).parent.isSome = true ↔
        ∃ outer own, IsParted (lastSegment (dotted internalName)) outer own) ∧
      (match ofInternal internalName with
        | ⟨name, none⟩ => name = dotted internalName
        | ⟨name, some parent⟩ =>
          packageSegments parent = packageSegments name ∧
            dotted internalName = parent ++ "$" ++ lastSegment name ∧
            ofInternal parent = ⟨parent, none⟩) ∧
      (ofInternal internalName).whole = dotted internalName ∧
      ∀ other, ofInternal other = ofInternal internalName ↔
        dotted other = dotted internalName := by
  refine ⟨isSome_parent_iff internalName, ?_, whole_ofInternal internalName,
    fun other => ofInternal_eq_iff other internalName⟩
  split
  · next name recorded =>
      have top := (name_eq_dotted_iff internalName).mpr (congrArg RecordedName.parent recorded)
      rwa [recorded] at top
  · next name parent recorded =>
      have nested := congrArg RecordedName.parent recorded
      have parts := parts_of_parent nested
      rw [recorded] at parts
      exact ⟨parts.1, parts.2, ofInternal_parent nested⟩

end RecordedName
end JarAtlas
