/-
The outcome of a run.

The model of a finished inventory is told by what was added: its records and
dependencies stand in the order of addition, its names as they first appeared,
and the children of a parent at the last record of the parent's name.
-/
import JarAtlas.Proofs.Extraction.Grammar
import JarAtlas.Proofs.Extraction.Record
import JarAtlas.Proofs.Inventory.Attachment
import JarAtlas.Proofs.Inventory.Run

namespace JarAtlas
namespace Inventory

theorem nestedClasses_of_told {extracted : ExtractedClass}
    (told : ∃ ns events, extractClass ns events = .ok extracted) :
    extracted.record.nestedClasses = [] := by
  obtain ⟨ns, events, told⟩ := told
  obtain ⟨header, body, inner, rfl⟩ := (exists_extractClass_ok_iff ns events).mp ⟨_, told⟩
  rw [← ClassBody.events_cut inner, ClassBody.extractClass_events] at told
  rw [← Except.ok.inj told]
  rfl

theorem nestedClasses_of_mem_additions {additions : List Addition} {extracted : ExtractedClass}
    (member : extracted ∈ additions.filterMap Addition.class?) :
    extracted.record.nestedClasses = [] := by
  obtain ⟨addition, _, isClass⟩ := List.mem_filterMap.mp member
  cases addition with
  | ofClass other told =>
      rw [← Option.some.inj isClass]
      exact nestedClasses_of_told told
  | ofDependencies dependencies => cases isClass

section Finished

variable {added : List ExtractedClass} {declared : List DeclaredDependency}
  {inventory : Inventory}

theorem Holds.classes_finish (holds : Holds added declared inventory)
    (fresh : ∀ extracted ∈ added, extracted.record.nestedClasses = []) :
    inventory.finish.classes.map ClassRecord.withoutNested = added.map ExtractedClass.record := by
  unfold finish
  rw [attach_withoutNested, holds.classes, List.map_map]
  refine List.map_congr_left fun extracted member => ?_
  have none := fresh extracted member
  unfold Function.comp ClassRecord.withoutNested
  rw [← none]

/-- The children of a record are those of its name where it is the last record
of this name; an earlier one gets none. -/
theorem Holds.nestedClasses_finish (holds : Holds added declared inventory)
    (fresh : ∀ extracted ∈ added, extracted.record.nestedClasses = []) {position : Nat}
    {record : ClassRecord} (here : inventory.finish.classes[position]? = some record) :
    (LastAt (recordedNames added) record.name position →
        ListsOnce (childNames added record.name) record.nestedClasses) ∧
      (¬LastAt (recordedNames added) record.name position → record.nestedClasses = []) := by
  have shown := congrArg (·[position]?) (holds.classes_finish fresh)
  simp only [List.getElem?_map, here, Option.map_some] at shown
  obtain ⟨extracted, atPosition, bare⟩ := Option.map_eq_some_iff.mp shown.symm
  have none : extracted.record.nestedClasses = [] :=
    fresh extracted (List.mem_of_getElem? atPosition)
  have name : record.name = extracted.record.name :=
    record.name_withoutNested.symm.trans (congrArg ClassRecord.name bare.symm)
  have named : (recordedNames added)[position]? = some record.name := by
    rw [recordedNames, List.getElem?_map, atPosition, name]
    rfl
  have stored : inventory.classes[position]? = some extracted.record := by
    rw [holds.classes, List.getElem?_map, atPosition]
    rfl
  unfold finish at here
  dsimp only at here
  constructor
  · intro last
    have known : ∀ other, inventory.latest.lookup other = some position ↔ other = record.name := by
      intro other
      rw [holds.latest]
      constructor
      · rintro ⟨standing, _⟩
        exact Option.some.inj (standing.symm.trans named)
      · rintro rfl
        exact last
    rw [getElem?_attach holds.parents known, stored, Option.map_some] at here
    have children := congrArg ClassRecord.nestedClasses (Option.some.inj here)
    dsimp only at children
    rw [← children, none]
    exact holds.children record.name
  · intro notLast
    have elsewhere : ∀ family ∈ inventory.nesting.families,
        inventory.latest.lookup family.1 ≠ some position := by
      intro family _ found
      have last := (holds.latest family.1 position).mp found
      have same : family.1 = record.name := Option.some.inj (last.1.symm.trans named)
      exact notLast (same ▸ last)
    rw [getElem?_attach_of_unknown elsewhere, stored] at here
    rw [← Option.some.inj here]
    exact none

theorem Holds.exists_child_of_mem_nestedClasses (holds : Holds added declared inventory)
    (fresh : ∀ extracted ∈ added, extracted.record.nestedClasses = []) {record : ClassRecord}
    (member : record ∈ inventory.finish.classes) {name : String}
    (isChild : name ∈ record.nestedClasses) :
    ∃ child ∈ added, child.record.name = name ∧ child.parent = some record.name := by
  obtain ⟨position, here⟩ := List.mem_iff_getElem?.mp member
  obtain ⟨listed, empty⟩ := holds.nestedClasses_finish fresh here
  by_cases last : LastAt (recordedNames added) record.name position
  · obtain ⟨child, isAdded, ofParent, same⟩ :=
      mem_childNames.mp (((listed last).mem_iff name).mp isChild)
    exact ⟨child, isAdded, same, ofParent⟩
  · rw [empty last] at isChild
    exact (List.not_mem_nil isChild).elim

theorem Holds.name_mem_recordedNames (holds : Holds added declared inventory)
    (fresh : ∀ extracted ∈ added, extracted.record.nestedClasses = []) {record : ClassRecord}
    (member : record ∈ inventory.finish.classes) : record.name ∈ recordedNames added := by
  have bare : record.withoutNested ∈ added.map ExtractedClass.record := by
    rw [← holds.classes_finish fresh]
    exact List.mem_map_of_mem member
  obtain ⟨extracted, isAdded, same⟩ := List.mem_map.mp bare
  have name : extracted.record.name = record.name :=
    (congrArg ClassRecord.name same).trans record.name_withoutNested
  rw [← name]
  exact List.mem_map.mpr ⟨extracted, isAdded, rfl⟩

theorem Holds.latest_within (holds : Holds added declared inventory) {name : String}
    {position : Nat} (found : inventory.latest.lookup name = some position) :
    ∃ within : position < inventory.classes.length,
      inventory.classes[position].name = name := by
  obtain ⟨standing, _⟩ := (holds.latest name position).mp found
  have shown := congrArg (·[position]?) holds.classes
  rw [recordedNames, List.getElem?_map] at standing
  obtain ⟨extracted, atPosition, same⟩ := Option.map_eq_some_iff.mp standing
  simp only [List.getElem?_map, atPosition, Option.map_some] at shown
  obtain ⟨within, is⟩ := List.getElem?_eq_some_iff.mp shown
  exact ⟨within, by rw [is]; exact same⟩

end Finished

theorem exists_record_of_addition {additions : List Addition} {position : Nat}
    {extracted : ExtractedClass}
    (added : (additions.filterMap Addition.class?)[position]? = some extracted) :
    ∃ record, (after additions).finish.classes[position]? = some record ∧
      record.withoutNested = extracted.record := by
  have fresh : ∀ other ∈ additions.filterMap Addition.class?, other.record.nestedClasses = [] :=
    fun other member => nestedClasses_of_mem_additions member
  have shown := congrArg (·[position]?) ((holds_after additions).classes_finish fresh)
  simp only [List.getElem?_map, added, Option.map_some] at shown
  exact Option.map_eq_some_iff.mp shown

/-- Whatever is added in a run, the finished model holds the records in the order
of addition, their names as they first appeared, each once, and all dependencies
in order.  The last record of a name lists the classes that were added with this
name as their parent, as they first appeared, each once; an earlier record of
the name lists none.  So every child in a list is the name of a class that was
added under this very parent, a child whose parent was never added is in no
list, and every position by which a parent is found is that of a record of its
name. -/
theorem finish_after_additions (additions : List Addition) :
    let added := additions.filterMap Addition.class?
    let names := recordedNames added
    let inventory := after additions
    let model := inventory.finish
    model.classes.map ClassRecord.withoutNested = added.map ExtractedClass.record ∧
      ListsOnce names model.classNames ∧
      model.externalDependencies = additions.flatMap Addition.dependencies ∧
      (∀ position record, model.classes[position]? = some record →
        (LastAt names record.name position →
          ListsOnce (childNames added record.name) record.nestedClasses) ∧
        (¬LastAt names record.name position → record.nestedClasses = []) ∧
        ((∀ child ∈ added, child.parent ≠ some record.name) → record.nestedClasses = [])) ∧
      (∀ record ∈ model.classes, ∀ name ∈ record.nestedClasses,
        name ∈ model.classNames ∧
          ∃ child ∈ added, child.record.name = name ∧ child.parent = some record.name) ∧
      (∀ name,
        (∀ child ∈ added, child.record.name = name →
          ∀ parent, child.parent = some parent → parent ∉ names) →
        ∀ record ∈ model.classes, name ∉ record.nestedClasses) ∧
      (∀ name position, inventory.latest.lookup name = some position →
        ∃ within : position < inventory.classes.length,
          inventory.classes[position].name = name) := by
  intro added names inventory model
  have holds : Holds added (additions.flatMap Addition.dependencies) inventory :=
    holds_after additions
  have fresh : ∀ extracted ∈ added, extracted.record.nestedClasses = [] :=
    fun extracted member => nestedClasses_of_mem_additions member
  have listed {record : ClassRecord} (member : record ∈ model.classes) {name : String}
      (isChild : name ∈ record.nestedClasses) :
      ∃ child ∈ added, child.record.name = name ∧ child.parent = some record.name :=
    holds.exists_child_of_mem_nestedClasses fresh member isChild
  refine ⟨holds.classes_finish fresh, holds.names, holds.external, ?_, ?_, ?_, ?_⟩
  · intro position record here
    obtain ⟨atLast, earlier⟩ := holds.nestedClasses_finish fresh here
    refine ⟨atLast, earlier, fun childless => ?_⟩
    rw [List.eq_nil_iff_forall_not_mem]
    intro name isChild
    obtain ⟨child, isAdded, _, parent⟩ := listed (List.mem_of_getElem? here) isChild
    exact childless child isAdded parent
  · intro record member name isChild
    obtain ⟨child, isAdded, same, parent⟩ := listed member isChild
    refine ⟨(holds.names.mem_iff name).mpr ?_, child, isAdded, same, parent⟩
    exact List.mem_map.mpr ⟨child, isAdded, same⟩
  · intro name orphaned record member isChild
    obtain ⟨child, isAdded, same, parent⟩ := listed member isChild
    exact orphaned child isAdded same record.name parent
      (holds.name_mem_recordedNames fresh member)
  · intro name position found
    exact holds.latest_within found

end Inventory
end JarAtlas
