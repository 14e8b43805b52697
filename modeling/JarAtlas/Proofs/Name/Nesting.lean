/-
Parents of nested names.

A name is a package, which ends with a dot unless it is empty, and a last
segment without dots.  The name of a parent has no dollar sign in its last
segment, so a class of this name is recorded under the name itself and has no
parent.
-/
import JarAtlas.Name.Qualified

namespace JarAtlas
namespace RecordedName

def IsPackage (package : List Char) : Prop :=
  package = [] ∨ ∃ front, package = front ++ ['.']

theorem packageAndSegment_parts {name package segment : List Char}
    (cut : packageAndSegment name = (package, segment)) :
    name = package ++ segment ∧ IsPackage package ∧ '.' ∉ segment := by
  unfold packageAndSegment at cut
  split at cut
  · rename_i front last found
    obtain ⟨rfl, rfl⟩ := Prod.mk.inj cut
    refine ⟨?_, Or.inr ⟨front, rfl⟩, cutAtLast?_after_free found⟩
    rw [List.append_assoc]
    exact cutAtLast?_eq_append found
  · rename_i missing
    obtain ⟨rfl, rfl⟩ := Prod.mk.inj cut
    exact ⟨rfl, Or.inl rfl, cutAtLast?_eq_none_iff.mp missing⟩

theorem packageAndSegment_append {package segment : List Char} (isPackage : IsPackage package)
    (free : '.' ∉ segment) : packageAndSegment (package ++ segment) = (package, segment) := by
  unfold packageAndSegment
  rcases isPackage with rfl | ⟨front, rfl⟩
  · rw [List.nil_append, cutAtLast?_eq_none_iff.mpr free]
  · rw [List.append_assoc, List.singleton_append, cutAtLast?_append free]

theorem ofInternal_eq_or (internalName : String) :
    ofInternal internalName = ⟨dotted internalName, none⟩ ∨
      ∃ package outer own, IsPackage package ∧ '.' ∉ outer ++ '$' :: own ∧ '$' ∉ outer ∧
        (dotted internalName).toList = package ++ (outer ++ '$' :: own) ∧
        ofInternal internalName =
          ⟨String.ofList (package ++ own), some (String.ofList (package ++ outer))⟩ := by
  unfold ofInternal
  cases cut : packageAndSegment (dotted internalName).toList with
  | mk package segment =>
      obtain ⟨whole, isPackage, noDot⟩ := packageAndSegment_parts cut
      simp only [cut]
      cases split : cutAtFirst? '$' segment with
      | none => exact Or.inl rfl
      | some parts =>
          obtain ⟨outer, own⟩ := parts
          have parted := cutAtFirst?_eq_append split
          dsimp only
          split
          · exact Or.inl rfl
          · exact Or.inr ⟨package, outer, own, isPackage, parted ▸ noDot,
              cutAtFirst?_before_free split, by rw [whole, parted], rfl⟩

theorem name_eq_dotted_iff (internalName : String) :
    (ofInternal internalName).name = dotted internalName ↔
      (ofInternal internalName).parent = none := by
  rcases ofInternal_eq_or internalName with
    top | ⟨package, outer, own, _, _, _, whole, nested⟩
  · rw [top]
    exact ⟨fun _ => rfl, fun _ => rfl⟩
  · rw [nested]
    constructor
    · intro same
      have lengths := congrArg (fun name => name.toList.length) same
      simp only [String.toList_ofList, whole, List.length_append, List.length_cons] at lengths
      omega
    · intro impossible
      cases impossible

theorem ofInternal_of_parent {internalName parent other : String}
    (nested : (ofInternal internalName).parent = some parent) (same : dotted other = parent) :
    ofInternal other = ⟨parent, none⟩ := by
  rcases ofInternal_eq_or internalName with
    top | ⟨package, outer, own, isPackage, noDot, noDollar, _, recorded⟩
  · rw [top] at nested
    cases nested
  · rw [recorded] at nested
    have parentName := Option.some.inj nested
    have outerFree : '.' ∉ outer := fun found => noDot (List.mem_append_left _ found)
    unfold ofInternal
    rw [same, ← parentName]
    simp only [String.toList_ofList, packageAndSegment_append isPackage outerFree,
      cutAtFirst?_eq_none_iff.mpr noDollar]

end RecordedName
end JarAtlas
