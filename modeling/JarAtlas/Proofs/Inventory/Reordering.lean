/-
Orders of addition.

Where no two classes share a recorded name, it does not matter in which order
they are added, nor where dependencies are added between them.  Every class gets
the same record at its new place, but for the order of its children, and its
name moves along; so a child that comes before its parent is attached as one that
comes after it.
-/
import JarAtlas.Proofs.Inventory.Enclosing
import Mathlib.Logic.Equiv.Fin.Basic

namespace JarAtlas

section

variable {names : List String}

theorem lastAt_of_nodup (distinct : names.Nodup) {name : String} {position : Nat}
    (here : names[position]? = some name) : LastAt names name position := by
  refine ⟨here, fun later after again => ?_⟩
  have within : later < names.length := (List.getElem?_eq_some_iff.mp again).1
  exact List.nodup_iff_getElem?_ne_getElem?.mp distinct position later after within
    (here.trans again.symm)

theorem pairwise_idxOf_of_nodup (distinct : names.Nodup) :
    names.Pairwise fun a b => names.idxOf a < names.idxOf b := by
  rw [List.pairwise_iff_getElem]
  intro earlier later _ _ before
  rw [distinct.idxOf_getElem, distinct.idxOf_getElem]
  exact before

theorem ListsOnce.perm {listed others otherListed : List String} (lists : ListsOnce names listed)
    (otherLists : ListsOnce others otherListed) (same : ∀ name, name ∈ names ↔ name ∈ others) :
    listed.Perm otherListed := by
  rw [List.perm_ext_iff_of_nodup lists.distinct otherLists.distinct]
  intro name
  rw [lists.mem_iff, same, otherLists.mem_iff]

theorem ListsOnce.eq_of_nodup {listed : List String} (lists : ListsOnce names listed)
    (distinct : names.Nodup) : listed = names := by
  have whole : ListsOnce names names :=
    ⟨distinct, fun _ => Iff.rfl, pairwise_idxOf_of_nodup distinct⟩
  refine List.Perm.eq_of_pairwise ?_ lists.ordered whole.ordered
    (lists.perm whole fun _ => Iff.rfl)
  intro a b _ _ before after
  exact absurd before (Nat.lt_asymm after)

end

theorem perm_of_moved {α : Type} {items others : List α}
    (place : Fin items.length ≃ Fin others.length)
    (moved : ∀ position, others.get (place position) = items.get position) :
    items.Perm others := by
  have places : ((List.finRange items.length).map place).Perm (List.finRange others.length) := by
    rw [List.perm_ext_iff_of_nodup ((List.nodup_finRange _).map place.injective)
      (List.nodup_finRange _)]
    intro position
    simp only [List.mem_map, List.mem_finRange, true_and, iff_true]
    exact place.surjective position
  calc
    items = (List.finRange items.length).map items.get := (List.map_get_finRange items).symm
    _ = ((List.finRange items.length).map place).map others.get := by
      rw [List.map_map]
      exact List.map_congr_left fun position _ => (moved position).symm
    List.Perm _ ((List.finRange others.length).map others.get) := places.map others.get
    _ = others := List.map_get_finRange others

/-- Whether two records differ in nothing but the order of their children. -/
structure ClassRecord.SameButOrder (record other : ClassRecord) : Prop where
  bare : record.withoutNested = other.withoutNested
  nestedClasses : record.nestedClasses.Perm other.nestedClasses

namespace Inventory

theorem length_classes_finish (additions : List Addition) :
    (after additions).finish.classes.length = (additions.filterMap Addition.class?).length := by
  have fresh : ∀ other ∈ additions.filterMap Addition.class?, other.record.nestedClasses = [] :=
    fun other member => nestedClasses_of_mem_additions member
  have records := congrArg List.length ((holds_after additions).classes_finish fresh)
  rwa [List.length_map, List.length_map] at records

theorem exists_record_of_distinct {additions : List Addition}
    (distinct : (recordedNames (additions.filterMap Addition.class?)).Nodup) {position : Nat}
    {extracted : ExtractedClass}
    (added : (additions.filterMap Addition.class?)[position]? = some extracted) :
    ∃ record, (after additions).finish.classes[position]? = some record ∧
      record.withoutNested = extracted.record ∧
      ListsOnce (childNames (additions.filterMap Addition.class?) record.name)
        record.nestedClasses := by
  have fresh : ∀ other ∈ additions.filterMap Addition.class?, other.record.nestedClasses = [] :=
    fun other member => nestedClasses_of_mem_additions member
  obtain ⟨record, here, bare⟩ := exists_record_of_addition added
  have name : record.name = extracted.record.name :=
    record.name_withoutNested.symm.trans (congrArg ClassRecord.name bare)
  have named : (recordedNames (additions.filterMap Addition.class?))[position]? =
      some record.name := by
    rw [recordedNames, List.getElem?_map, added, name]
    rfl
  have last := lastAt_of_nodup distinct named
  exact ⟨record, here, bare,
    ((holds_after additions).nestedClasses_finish fresh here).1 last⟩

/-- Two runs that add the same classes in different orders, and dependencies
wherever they like.  If no two of the classes share a recorded name, both models
name the classes in the order of their addition and hold one record for each of
them; the records of a class differ at most in the order of its children, which
are the classes that were added with this parent, before it or after it. -/
theorem finish_of_reordered {additions others : List Addition}
    (distinct : (recordedNames (additions.filterMap Addition.class?)).Nodup)
    (place : Fin (additions.filterMap Addition.class?).length ≃
      Fin (others.filterMap Addition.class?).length)
    (moved : ∀ position, (others.filterMap Addition.class?).get (place position) =
      (additions.filterMap Addition.class?).get position) :
    let added := additions.filterMap Addition.class?
    let model := (after additions).finish
    let otherModel := (after others).finish
    model.classNames = recordedNames added ∧
      otherModel.classNames = recordedNames (others.filterMap Addition.class?) ∧
      model.classes.length = added.length ∧ otherModel.classes.length = added.length ∧
      ∀ position : Fin added.length, ∃ record other,
        model.classes[position.val]? = some record ∧
        otherModel.classes[(place position).val]? = some other ∧
        record.withoutNested = (added.get position).record ∧ record.SameButOrder other ∧
        model.classNames[position.val]? = some record.name ∧
        otherModel.classNames[(place position).val]? = some record.name ∧
        ∀ name, name ∈ record.nestedClasses ↔
          ∃ child ∈ added, child.parent = some record.name ∧ child.record.name = name := by
  intro added model otherModel
  have perm : added.Perm (others.filterMap Addition.class?) := perm_of_moved place moved
  have otherDistinct : (recordedNames (others.filterMap Addition.class?)).Nodup :=
    (perm.map _).nodup_iff.mp distinct
  have names := (holds_after additions).names.eq_of_nodup distinct
  have otherNames := (holds_after others).names.eq_of_nodup otherDistinct
  refine ⟨names, otherNames, length_classes_finish additions, ?_, fun position => ?_⟩
  · rw [length_classes_finish others, perm.length_eq]
  · have here : added[position.val]? = some (added.get position) :=
      List.getElem?_eq_getElem position.isLt
    have there : (others.filterMap Addition.class?)[(place position).val]? =
        some (added.get position) := by
      rw [← moved position]
      exact List.getElem?_eq_getElem (place position).isLt
    obtain ⟨record, atPosition, bare, children⟩ := exists_record_of_distinct distinct here
    obtain ⟨other, atPlace, otherBare, otherChildren⟩ :=
      exists_record_of_distinct otherDistinct there
    have name : record.name = (added.get position).record.name :=
      record.name_withoutNested.symm.trans (congrArg ClassRecord.name bare)
    have otherName : other.name = record.name :=
      (other.name_withoutNested.symm.trans (congrArg ClassRecord.name otherBare)).trans name.symm
    rw [otherName] at otherChildren
    refine ⟨record, other, atPosition, atPlace, bare, ⟨bare.trans otherBare.symm, ?_⟩, ?_, ?_, ?_⟩
    · apply children.perm otherChildren
      intro child
      rw [mem_childNames, mem_childNames]
      exact exists_congr fun extracted => and_congr_left' perm.mem_iff
    · rw [show model.classNames = _ from names, recordedNames, List.getElem?_map, here, name]
      rfl
    · rw [show otherModel.classNames = _ from otherNames, recordedNames, List.getElem?_map,
        there, name]
      rfl
    · intro child
      rw [children.mem_iff, mem_childNames]

/-- One child of `a.Outer` comes before it and another after it, in this order
and the other way round. -/
theorem finish_of_reordered_family :
    let outer := ClassStream.ofName "a/Outer"
    let inner := ClassStream.ofName "a/Outer$Inner"
    let other := ClassStream.ofName "a/Outer$Other"
    let additions : List Addition :=
      [inner.addition ⟨"a"⟩, outer.addition ⟨"a"⟩, .ofDependencies [⟨"g", "a", "1", ""⟩],
        other.addition ⟨"a"⟩]
    (recordedNames (additions.filterMap Addition.class?)).Nodup ∧
      ∃ record otherRecord, (after additions).finish.classes[1]? = some record ∧
        (after additions.reverse).finish.classes[1]? = some otherRecord ∧
        record.SameButOrder otherRecord ∧
        "a.Inner" ∈ record.nestedClasses ∧ "a.Other" ∈ record.nestedClasses := by
  intro outer inner other additions
  have outerRecorded : outer.recorded = ⟨"a.Outer", none⟩ := by decide +kernel
  have innerRecorded : inner.recorded = ⟨"a.Inner", some "a.Outer"⟩ := by decide +kernel
  have otherRecorded : other.recorded = ⟨"a.Other", some "a.Outer"⟩ := by decide +kernel
  have names : recordedNames (additions.filterMap Addition.class?) =
      [inner.recorded.name, outer.recorded.name, other.recorded.name] := rfl
  have distinct : (recordedNames (additions.filterMap Addition.class?)).Nodup := by
    rw [names, outerRecorded, innerRecorded, otherRecorded]
    decide
  let place : Fin 3 ≃ Fin 3 := Fin.revPerm
  have moved : ∀ position : Fin 3,
      (additions.reverse.filterMap Addition.class?).get (place position) =
        (additions.filterMap Addition.class?).get position
    | 0 => Eq.trans (b := inner.extracted ⟨"a"⟩) rfl rfl
    | 1 => Eq.trans (b := outer.extracted ⟨"a"⟩) rfl rfl
    | 2 => Eq.trans (b := other.extracted ⟨"a"⟩) rfl rfl
  obtain ⟨-, -, -, -, moves⟩ :=
    @finish_of_reordered additions additions.reverse distinct place moved
  obtain ⟨record, otherRecord, here, there, bare, same, -, -, children⟩ := moves (1 : Fin 3)
  have ofOuter : record.withoutNested = (outer.extracted ⟨"a"⟩).record := bare
  have recorded : (outer.extracted ⟨"a"⟩).record.name = outer.recorded.name := rfl
  have name : record.name = "a.Outer" := by
    rw [← record.name_withoutNested, ofOuter, recorded, outerRecorded]
  refine ⟨distinct, record, otherRecord, here, there, same, ?_, ?_⟩
  · refine (children _).mpr ⟨inner.extracted ⟨"a"⟩, List.mem_cons_self, ?_, ?_⟩
    · rw [name]
      exact congrArg RecordedName.parent innerRecorded
    · exact congrArg RecordedName.name innerRecorded
  · refine (children _).mpr ⟨other.extracted ⟨"a"⟩, ?_, ?_, ?_⟩
    · exact List.mem_cons_of_mem _ (List.mem_cons_of_mem _ List.mem_cons_self)
    · rw [name]
      exact congrArg RecordedName.parent otherRecorded
    · exact congrArg RecordedName.name otherRecorded

end Inventory
end JarAtlas
