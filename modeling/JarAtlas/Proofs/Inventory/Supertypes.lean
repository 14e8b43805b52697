/-
Edges to supertypes.

The record of a class names its superclass and its interfaces by their full
names where these lie in the namespace.  A class that is not nested is recorded
under its full name, so an edge to it leads to one of the recorded names.  A
nested class is recorded without the classes around it, and an edge to it does
not carry this name.
-/
import JarAtlas.Proofs.Inventory.Enclosing

namespace JarAtlas

theorem Supertype.insideName?_resolve {ns : Namespace} {raw : String}
    (inside : ns.contains (dotted raw) = true) (notRoot : raw ≠ rootName) :
    (resolve ns (some raw)).insideName?.getD "" = dotted raw := by
  by_cases unnamed : raw = ""
  · have empty : dotted "" = "" := by decide +kernel
    rw [resolve, if_pos (Or.inl unnamed), unnamed, empty]
    rfl
  · have named : ¬(raw = "" ∨ raw = rootName) := not_or.mpr ⟨unnamed, notRoot⟩
    rw [resolve, if_neg named, if_pos inside]
    rfl

namespace ClassStream

def Extends (sub super : ClassStream) : Prop :=
  sub.header.superName = some super.header.name ∧ super.header.name ≠ Supertype.rootName

def Implements (sub super : ClassStream) : Prop :=
  super.header.name ∈ sub.header.interfaces

theorem superclass_extracted {ns : Namespace} {sub super : ClassStream}
    (inside : ns.contains super.fullName = true) (edge : sub.Extends super) :
    (sub.extracted ns).record.superclass = super.fullName := by
  have resolved := Supertype.insideName?_resolve inside edge.2
  rw [← edge.1] at resolved
  exact resolved

theorem mem_interfaces_extracted {ns : Namespace} {sub super : ClassStream}
    (inside : ns.contains super.fullName = true) (edge : sub.Implements super) :
    super.fullName ∈ (sub.extracted ns).record.interfaces :=
  ((listsOnce_firstOccurrences _).mem_iff _).mpr
    (List.mem_filter.mpr ⟨List.mem_map_of_mem edge, inside⟩)

end ClassStream

namespace Inventory

/-- Whether each class that was added names those of its supertypes that lie in
the namespace and were added as well, all of them by the given names. -/
def EdgesNamed (nameOf : ClassStream → String) (ns : Namespace) (additions : List Addition) :
    Prop :=
  ∀ (position : Nat) (sub super : ClassStream),
    (additions.filterMap Addition.class?)[position]? = some (sub.extracted ns) →
      super.extracted ns ∈ additions.filterMap Addition.class? →
      ns.contains super.fullName = true →
      ∃ record, (after additions).finish.classes[position]? = some record ∧
        (sub.Extends super → record.superclass = nameOf super) ∧
        (sub.Implements super → nameOf super ∈ record.interfaces)

/-- Every edge to a class that was added, lies in the namespace and is not the
root carries the full name of this class.  If the class is not nested this is a
recorded name, its own; if it is nested, its recorded name is another. -/
theorem edges_carry_full_names (ns : Namespace) (additions : List Addition) :
    EdgesNamed ClassStream.fullName ns additions ∧
      ∀ super : ClassStream, super.extracted ns ∈ additions.filterMap Addition.class? →
        (super.recorded.parent = none →
          super.recorded.name = super.fullName ∧
            super.fullName ∈ (after additions).finish.classNames) ∧
        (super.recorded.parent ≠ none → super.recorded.name ≠ super.fullName) := by
  constructor
  · intro position sub super here _ inside
    obtain ⟨record, atPosition, bare⟩ := exists_record_of_addition here
    refine ⟨record, atPosition, ?_, ?_⟩
    · intro edge
      rw [← ClassStream.superclass_extracted inside edge, ← bare]
      rfl
    · intro edge
      have listed := ClassStream.mem_interfaces_extracted inside edge
      rw [← bare] at listed
      exact listed
  · intro super member
    have recorded := RecordedName.name_eq_dotted_iff super.header.name
    constructor
    · intro outermost
      have known : super.fullName ∈ recordedNames (additions.filterMap Addition.class?) :=
        List.mem_map.mpr ⟨super.extracted ns, member, recorded.mpr outermost⟩
      exact ⟨recorded.mpr outermost, ((holds_after additions).names.mem_iff _).mpr known⟩
    · intro nested same
      exact nested (recorded.mp same)

/-- A class that extends one class of its package and implements one that is
nested in another. -/
def subOfBaseAndPort : ClassStream :=
  ⟨⟨"a/Sub", ⟨1⟩, some "a/Base", ["a/Outer$Port"]⟩, ⟨[], []⟩⟩

theorem edges_of_sub_carry_full_names :
    let base := ClassStream.ofName "a/Base"
    let port := ClassStream.ofName "a/Outer$Port"
    let model := (after [base.addition ⟨"a"⟩, port.addition ⟨"a"⟩,
      subOfBaseAndPort.addition ⟨"a"⟩]).finish
    ∃ record, model.classes[2]? = some record ∧
      record.superclass = "a.Base" ∧ "a.Base" ∈ model.classNames ∧
      "a.Outer$Port" ∈ record.interfaces ∧ port.recorded.name ≠ "a.Outer$Port" := by
  intro base port model
  have baseName : base.fullName = "a.Base" := by decide +kernel
  have portName : port.fullName = "a.Outer$Port" := by decide +kernel
  obtain ⟨named, targets⟩ := edges_carry_full_names ⟨"a"⟩
    [base.addition ⟨"a"⟩, port.addition ⟨"a"⟩, subOfBaseAndPort.addition ⟨"a"⟩]
  let added : List ExtractedClass :=
    [base.extracted ⟨"a"⟩, port.extracted ⟨"a"⟩, subOfBaseAndPort.extracted ⟨"a"⟩]
  have baseAdded : base.extracted ⟨"a"⟩ ∈ added := List.mem_cons_self
  have portAdded : port.extracted ⟨"a"⟩ ∈ added := List.mem_cons_of_mem _ List.mem_cons_self
  obtain ⟨record, here, extending, _⟩ :=
    named 2 subOfBaseAndPort base rfl baseAdded (by decide +kernel)
  obtain ⟨same, sameHere, _, implementing⟩ :=
    named 2 subOfBaseAndPort port rfl portAdded (by decide +kernel)
  cases Option.some.inj (here.symm.trans sameHere)
  have superclass := extending ⟨rfl, by decide⟩
  have interfaces := implementing (List.mem_singleton_self _)
  have followed := ((targets base baseAdded).1 (by decide +kernel)).2
  have renamed := (targets port portAdded).2 (by decide +kernel)
  rw [baseName] at superclass followed
  rw [portName] at interfaces renamed
  exact ⟨record, here, superclass, followed, interfaces, renamed⟩

/-- `Base` in `a.Outer` is recorded as `a.Base`, but the class that extends it
names it `a.Outer$Base`. -/
theorem not_edgesNamed_recorded_of_nested :
    let base := ClassStream.ofName "a/Outer$Base"
    let sub : ClassStream := ⟨⟨"a/Sub", ⟨1⟩, some "a/Outer$Base", []⟩, ⟨[], []⟩⟩
    ¬EdgesNamed (fun super => super.recorded.name) ⟨"a"⟩
      [base.addition ⟨"a"⟩, sub.addition ⟨"a"⟩] := by
  intro base sub named
  have inside : Namespace.contains ⟨"a"⟩ base.fullName = true := by decide +kernel
  have edge : sub.Extends base := ⟨rfl, by decide⟩
  obtain ⟨record, here, extending, _⟩ := named 1 sub base rfl List.mem_cons_self inside
  have added : ([base.addition ⟨"a"⟩, sub.addition ⟨"a"⟩].filterMap Addition.class?)[1]? =
      some (sub.extracted ⟨"a"⟩) := rfl
  obtain ⟨same, sameHere, bare⟩ := exists_record_of_addition added
  cases Option.some.inj (here.symm.trans sameHere)
  have full : record.superclass = base.fullName := by
    rw [← ClassStream.superclass_extracted inside edge, ← bare]
    rfl
  have different : base.recorded.name ≠ base.fullName := by decide +kernel
  exact different ((extending edge).symm.trans full)

end Inventory
end JarAtlas
