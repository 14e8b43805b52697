/-
The two tables of a store.

Models and summaries are kept apart and written by the same saves.  After any
history they stand under the same keys, the listing tells each project once in
the order of the bytes of the ids, and the numbers in a summary are those of the
model beside it.
-/
import JarAtlas.Proofs.Store.Refinement
import JarAtlas.Proofs.Text.Utf8Order
import Mathlib.Data.List.Sort

namespace JarAtlas

namespace Table

theorem mem_keys_iff {table : Table} {key : String} :
    key ∈ table.keys ↔ (table.get? key).isSome := by
  rw [keys, get?, List.mem_map, List.lookup_isSome_iff]
  constructor
  · rintro ⟨row, member, rfl⟩
    exact ⟨row, member, beq_self_eq_true _⟩
  · rintro ⟨row, member, same⟩
    exact ⟨row, member, (beq_iff_eq.mp same).symm⟩

theorem ordered_keys (table : Table) : table.keys.Pairwise (· < ·) :=
  List.pairwise_map.mpr table.ordered

theorem keys_eq_of_isSome_get? {table other : Table}
    (same : ∀ key, (table.get? key).isSome = (other.get? key).isSome) :
    table.keys = other.keys := by
  apply List.Pairwise.eq_of_mem_iff table.ordered_keys other.ordered_keys
  intro key
  rw [mem_keys_iff, mem_keys_iff, same key]

end Table

namespace Store

theorem Holds.keys_eq {store : Store} {saves : String → Option (Nat × Report)}
    (holds : Holds store saves) : store.models.keys = store.summaries.keys := by
  apply Table.keys_eq_of_isSome_get?
  intro id
  rw [holds.models, holds.summaries, Option.isSome_map, Option.isSome_map]

theorem map_projectId_of_rows {table : Table} {summaries : List Summary}
    (rows : table.rows = summaries.map summaryRow) :
    summaries.map (·.projectId) = table.keys := by
  rw [Table.keys, rows, List.map_map]
  rfl

theorem exists_lastSave?_of_mem {requests : List Request} {summaries : List Summary}
    (rows : (after requests).summaries.rows = summaries.map summaryRow) {summary : Summary}
    (member : summary ∈ summaries) :
    ∃ now report, lastSave? summary.projectId requests = some (now, report) ∧
      report.summary now = summary := by
  have row : summaryRow summary ∈ (after requests).summaries.rows :=
    rows ▸ List.mem_map_of_mem member
  have stored : (after requests).summaries.get? summary.projectId = some summary.toJson.compact :=
    Table.lookup_of_mem (after requests).summaries.ordered row
  rw [(holds_after requests).summaries] at stored
  obtain ⟨⟨now, report⟩, last, text⟩ := Option.map_eq_some_iff.mp stored
  exact ⟨now, report, last, compact_summary_injective text⟩

theorem Holds.mem_keys_iff {store : Store} {saves : String → Option (Nat × Report)}
    (holds : Holds store saves) (id : String) :
    id ∈ store.models.keys ↔ (saves id).isSome = true := by
  rw [Table.mem_keys_iff, holds.models, Option.isSome_map]

/-- Summaries and models agree at the end of every history, whether its saves
succeeded or not:

* both tables hold the same keys, which are the ids with a save since the store
  was last cleared;
* the listing tells one summary for each key, in strictly increasing order of
  the bytes of the ids, and as many as are counted;
* the id of a summary is the key under which it is stored, it is the summary of
  the report that was last saved there, and its numbers of classes and of
  dependencies are the lengths of the lists that are told of the id, which are
  those of this report. -/
theorem tables_agree (requests : List Request) :
    (after requests).models.keys = (after requests).summaries.keys ∧
    (∀ id, id ∈ (after requests).models.keys ↔ (lastSave? id requests).isSome = true) ∧
    ∃ summaries, (after requests).projects = .ok summaries ∧
      summaries.map (·.projectId) = (after requests).models.keys ∧
      summaries.Pairwise (fun a b => Utf8.encode a.projectId < Utf8.encode b.projectId) ∧
      (after requests).projectCount = summaries.length ∧
      ∀ summary ∈ summaries,
        (after requests).summaries.get? summary.projectId = some summary.toJson.compact ∧
        ∃ now report,
          lastSave? summary.projectId requests = some (now, report) ∧
          summary = report.summary now ∧
          (after requests).classNames? summary.projectId = .ok (some report.model.classNames) ∧
          summary.classCount = report.model.classNames.length ∧
          (after requests).externalDependencies? summary.projectId =
            .ok (some report.model.externalDependencies) ∧
          summary.externalCount = report.model.externalDependencies.length := by
  have holds := holds_after requests
  obtain ⟨summaries, listed, rows⟩ := exists_projects_after requests
  have ids := map_projectId_of_rows rows
  refine ⟨holds.keys_eq, holds.mem_keys_iff, summaries, listed, ids.trans holds.keys_eq.symm,
    ?order, ?count, ?each⟩
  case order =>
    have ordered : (summaries.map (·.projectId)).Pairwise (· < ·) := ids ▸ Table.ordered_keys _
    exact (List.pairwise_map.mp ordered).imp Utf8.encode_lt
  case count =>
    rw [projectCount, Table.size, rows, List.length_map]
  case each =>
    intro summary member
    obtain ⟨now, report, last, rfl⟩ := exists_lastSave?_of_mem rows member
    have sound := lastSave?_sound last
    have notEmpty : report.projectId ≠ "" := fun empty => isKey_iff.mp sound.2.1 (Or.inl empty)
    have told : (after requests).model? report.projectId = .ok (some report.model) := by
      have saved : lastSave? report.projectId requests = some (now, report) := last
      rw [model?_after requests notEmpty, lastModel?, saved]
      rfl
    refine ⟨?_, now, report, last, rfl, ?_, rfl, ?_, rfl⟩
    · rw [holds.summaries, last]
      rfl
    · show (after requests).classNames? report.projectId = _
      rw [classNames?, told]
      rfl
    · show (after requests).externalDependencies? report.projectId = _
      rw [externalDependencies?, told]
      rfl

end Store
end JarAtlas
