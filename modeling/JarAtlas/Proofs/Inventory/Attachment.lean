/-
Children and their records.

When a run is over the families of nested classes are attached to records, each
at the position that is known for its parent.  Nothing but the children of a
record changes.  A position that is known for one name gets the children
registered under this name, and one that is known for none keeps its record.
-/
import JarAtlas.Inventory

namespace JarAtlas

/-- A record before the children of its class are attached to it. -/
def ClassRecord.withoutNested (record : ClassRecord) : ClassRecord :=
  { record with nestedClasses := [] }

@[simp] theorem ClassRecord.name_withoutNested (record : ClassRecord) :
    record.withoutNested.name = record.name := rfl

namespace Inventory

variable {latest : List (String × Nat)}

theorem attach_cons (family : String × List String) (families : List (String × List String))
    (records : List ClassRecord) :
    attach latest (family :: families) records =
      attach latest families (attachFamily latest records family) :=
  List.foldl_cons

theorem attach_withoutNested (families : List (String × List String))
    (records : List ClassRecord) :
    (attach latest families records).map ClassRecord.withoutNested =
      records.map ClassRecord.withoutNested := by
  induction families generalizing records with
  | nil => rfl
  | cons family families ih =>
      rw [attach_cons, ih]
      unfold attachFamily
      split
      · apply List.ext_getElem?
        intro index
        rw [List.getElem?_map, List.getElem?_map, List.getElem?_modify]
        split <;> cases records[index]? <;> rfl
      · rfl

theorem getElem?_attachFamily_of_ne {family : String × List String} {position : Nat}
    (elsewhere : latest.lookup family.1 ≠ some position) (records : List ClassRecord) :
    (attachFamily latest records family)[position]? = records[position]? := by
  unfold attachFamily
  split
  · rename_i known found
    have different : known ≠ position := by
      intro same
      exact elsewhere (by rw [found, same])
    rw [List.getElem?_modify_ne _ records different]
  · rfl

theorem getElem?_attachFamily {family : String × List String} {position : Nat}
    (here : latest.lookup family.1 = some position) (records : List ClassRecord) :
    (attachFamily latest records family)[position]? =
      records[position]?.map fun record => { record with nestedClasses := family.2 } := by
  unfold attachFamily
  rw [here]
  exact List.getElem?_modify_eq _ position records

theorem getElem?_attach_of_unknown {families : List (String × List String)} {position : Nat}
    (elsewhere : ∀ family ∈ families, latest.lookup family.1 ≠ some position)
    (records : List ClassRecord) :
    (attach latest families records)[position]? = records[position]? := by
  induction families generalizing records with
  | nil => rfl
  | cons family families ih =>
      rw [attach_cons, ih fun other member => elsewhere other (List.mem_cons_of_mem family member),
        getElem?_attachFamily_of_ne (elsewhere family List.mem_cons_self)]

theorem getElem?_attach {families : List (String × List String)} {position : Nat}
    {name : String} (distinct : (families.map Prod.fst).Nodup)
    (known : ∀ other, latest.lookup other = some position ↔ other = name)
    (records : List ClassRecord) :
    (attach latest families records)[position]? =
      records[position]?.map fun record =>
        { record with nestedClasses := (families.lookup name).getD record.nestedClasses } := by
  induction families generalizing records with
  | nil => exact Option.map_id'.symm
  | cons family families ih =>
      obtain ⟨parent, children⟩ := family
      rw [List.map_cons, List.nodup_cons] at distinct
      rw [attach_cons, List.lookup_cons]
      by_cases same : name = parent
      · have elsewhere : ∀ other ∈ families, latest.lookup other.1 ≠ some position := by
          intro other member found
          apply distinct.1
          rw [← same, ← (known other.1).mp found]
          exact List.mem_map.mpr ⟨other, member, rfl⟩
        rw [getElem?_attach_of_unknown elsewhere,
          getElem?_attachFamily ((known parent).mpr same.symm), beq_iff_eq.mpr same]
        rfl
      · have elsewhere : latest.lookup parent ≠ some position := by
          intro found
          exact same ((known parent).mp found).symm
        rw [ih distinct.2, getElem?_attachFamily_of_ne elsewhere, beq_false_of_ne same]

end Inventory
end JarAtlas
