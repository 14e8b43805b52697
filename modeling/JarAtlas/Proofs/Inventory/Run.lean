/-
The inventory over a run.

Records, latest positions, names and families are kept apart in an inventory
and must fit together when the run is over.  What each of them holds is told by
the classes added so far; one addition preserves this, and so does a whole run,
whatever names are repeated and whether children come before their parents.
-/
import JarAtlas.Proofs.Inventory.Appearance

namespace JarAtlas

namespace NestingIndex

theorem lookup_addChild_self (parent child : String) (families : List (String × List String)) :
    (addChild parent child families).lookup parent =
      some (addName child ((families.lookup parent).getD [])) := by
  induction families with
  | nil => simp [addChild, addName]
  | cons family families ih =>
      obtain ⟨known, children⟩ := family
      unfold addChild
      split
      · rename_i same
        simp [same]
      · rename_i different
        rw [List.lookup_cons, List.lookup_cons, beq_false_of_ne (Ne.symm different)]
        exact ih

theorem lookup_addChild_of_ne {parent other : String} (different : other ≠ parent)
    (child : String) (families : List (String × List String)) :
    (addChild parent child families).lookup other = families.lookup other := by
  induction families with
  | nil => simp [addChild, List.lookup_cons, beq_false_of_ne different]
  | cons family families ih =>
      obtain ⟨known, children⟩ := family
      unfold addChild
      split
      · rename_i same
        rw [List.lookup_cons, List.lookup_cons, same, beq_false_of_ne different]
      · rw [List.lookup_cons, List.lookup_cons, ih]

theorem parents_addChild (parent child : String) (families : List (String × List String)) :
    (addChild parent child families).map Prod.fst = addName parent (families.map Prod.fst) := by
  induction families with
  | nil => simp [addChild, addName]
  | cons family families ih =>
      obtain ⟨known, children⟩ := family
      unfold addChild
      split
      · rename_i same
        simp [addName, same]
      · rename_i different
        rw [List.map_cons, ih, List.map_cons]
        unfold addName
        simp only [List.mem_cons, Ne.symm different, false_or]
        split <;> rfl

end NestingIndex

namespace Inventory

inductive Addition where
  | ofClass (extracted : ExtractedClass)
      (told : ∃ ns events, extractClass ns events = .ok extracted)
  | ofDependencies (dependencies : List DeclaredDependency)

def Addition.class? : Addition → Option ExtractedClass
  | ofClass extracted _ => some extracted
  | ofDependencies _ => none

def Addition.dependencies : Addition → List DeclaredDependency
  | ofClass _ _ => []
  | ofDependencies dependencies => dependencies

def add (inventory : Inventory) : Addition → Inventory
  | .ofClass extracted _ => inventory.addClass extracted
  | .ofDependencies dependencies => inventory.addExternal dependencies

def after (additions : List Addition) : Inventory :=
  additions.foldl add empty

def recordedNames (added : List ExtractedClass) : List String :=
  added.map fun extracted => extracted.record.name

def childNames (added : List ExtractedClass) (parent : String) : List String :=
  (added.filter fun extracted => extracted.parent = some parent).map fun extracted =>
    extracted.record.name

theorem mem_childNames {added : List ExtractedClass} {parent name : String} :
    name ∈ childNames added parent ↔
      ∃ child ∈ added, child.parent = some parent ∧ child.record.name = name := by
  rw [childNames, List.mem_map]
  constructor
  · rintro ⟨child, found, same⟩
    obtain ⟨member, ofParent⟩ := List.mem_filter.mp found
    exact ⟨child, member, of_decide_eq_true ofParent, same⟩
  · rintro ⟨child, member, ofParent, same⟩
    exact ⟨child, List.mem_filter.mpr ⟨member, decide_eq_true ofParent⟩, same⟩

/-- What an inventory holds once some classes and dependencies were added. -/
structure Holds (added : List ExtractedClass) (declared : List DeclaredDependency)
    (inventory : Inventory) : Prop where
  classes : inventory.classes = added.map ExtractedClass.record
  latest : ∀ name position,
    inventory.latest.lookup name = some position ↔ LastAt (recordedNames added) name position
  names : ListsOnce (recordedNames added) inventory.names
  parents : (inventory.nesting.families.map Prod.fst).Nodup
  children : ∀ parent,
    ListsOnce (childNames added parent) ((inventory.nesting.childrenOf? parent).getD [])
  external : inventory.external = declared

theorem holds_empty : Holds [] [] empty where
  classes := rfl
  latest _ _ := ⟨nofun, fun last => nomatch last.1⟩
  names := listsOnce_nil
  parents := List.nodup_nil
  children _ := listsOnce_nil
  external := rfl

section Additions

variable {added : List ExtractedClass} {declared : List DeclaredDependency}
  {inventory : Inventory}

theorem recordedNames_concat (added : List ExtractedClass) (extracted : ExtractedClass) :
    recordedNames (added ++ [extracted]) = recordedNames added ++ [extracted.record.name] := by
  rw [recordedNames, List.map_append]
  rfl

theorem childNames_concat (added : List ExtractedClass) (extracted : ExtractedClass)
    (parent : String) :
    childNames (added ++ [extracted]) parent =
      childNames added parent ++
        if extracted.parent = some parent then [extracted.record.name] else [] := by
  unfold childNames
  rw [List.filter_append, List.map_append, List.filter_cons, List.filter_nil]
  congr 1
  by_cases isChild : extracted.parent = some parent <;> simp [isChild]

private theorem children_addClass (holds : Holds added declared inventory)
    (extracted : ExtractedClass) (parent : String) :
    ListsOnce (childNames (added ++ [extracted]) parent)
      (((inventory.addClass extracted).nesting.childrenOf? parent).getD []) := by
  have before := holds.children parent
  rw [childNames_concat]
  unfold addClass NestingIndex.childrenOf? at *
  cases ofParent : extracted.parent with
  | none => simpa using before
  | some registered =>
      by_cases same : parent = registered
      · rw [same] at before ⊢
        simp only [NestingIndex.register, NestingIndex.lookup_addChild_self, if_true,
          Option.getD_some]
        exact before.addName extracted.record.name
      · have notChild : ¬some registered = some parent :=
          fun found => same (Option.some.inj found).symm
        simp only [NestingIndex.register, NestingIndex.lookup_addChild_of_ne same,
          if_neg notChild, List.append_nil]
        exact before

theorem Holds.addClass (holds : Holds added declared inventory) (extracted : ExtractedClass) :
    Holds (added ++ [extracted]) declared (inventory.addClass extracted) where
  classes := by
    rw [List.map_append, ← holds.classes]
    rfl
  latest name position := by
    have length : inventory.classes.length = (recordedNames added).length := by
      rw [holds.classes, recordedNames, List.length_map, List.length_map]
    rw [recordedNames_concat]
    unfold Inventory.addClass
    rw [List.lookup_cons]
    by_cases same : name = extracted.record.name
    · rw [same, lastAt_append_self, beq_self_eq_true, length]
      simp [eq_comm]
    · rw [lastAt_append_of_ne same, beq_false_of_ne same]
      exact holds.latest name position
  names := by
    rw [recordedNames_concat]
    exact holds.names.addName extracted.record.name
  parents := by
    have before := holds.parents
    unfold Inventory.addClass
    cases extracted.parent with
    | none => exact before
    | some parent =>
        simp only [NestingIndex.register, NestingIndex.parents_addChild]
        exact nodup_addName before parent
  children := children_addClass holds extracted
  external := holds.external

theorem Holds.addExternal (holds : Holds added declared inventory)
    (dependencies : List DeclaredDependency) :
    Holds added (declared ++ dependencies) (inventory.addExternal dependencies) :=
  { holds with external := by rw [← holds.external]; rfl }

theorem Holds.foldl_add (holds : Holds added declared inventory) (additions : List Addition) :
    Holds (added ++ additions.filterMap Addition.class?)
      (declared ++ additions.flatMap Addition.dependencies) (additions.foldl add inventory) := by
  induction additions generalizing added declared inventory with
  | nil => simpa using holds
  | cons addition additions ih =>
      cases addition with
      | ofClass extracted told =>
          have next := ih (holds.addClass extracted)
          rw [List.append_assoc] at next
          exact next
      | ofDependencies dependencies =>
          have next := ih (holds.addExternal dependencies)
          rw [List.append_assoc] at next
          exact next

end Additions

theorem holds_after (additions : List Addition) :
    Holds (additions.filterMap Addition.class?) (additions.flatMap Addition.dependencies)
      (after additions) :=
  holds_empty.foldl_add additions

end Inventory
end JarAtlas
