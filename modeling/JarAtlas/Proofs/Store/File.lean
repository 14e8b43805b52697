/-
The file of a store, read after writing.

Whatever a store holds, its file gives it back: the rows of a table come in
order, so that putting them into an empty table one after another adds each of
them at the end.
-/
import JarAtlas.Proofs.Json.RoundTrip
import JarAtlas.Proofs.Model.Document
import JarAtlas.Proofs.Text.Utf8
import JarAtlas.Store.File

namespace JarAtlas
namespace Table

theorem eq_of_rows_eq {table other : Table} (same : table.rows = other.rows) : table = other := by
  cases table
  cases other
  cases same
  rfl

theorem lookup_of_mem {rows : List (String × String)}
    (ordered : rows.Pairwise fun a b => a.1 < b.1) {row : String × String} (member : row ∈ rows) :
    rows.lookup row.1 = some row.2 := by
  induction rows with
  | nil => cases member
  | cons first rest ih =>
      obtain ⟨below, restOrdered⟩ := List.pairwise_cons.mp ordered
      rw [List.lookup_cons]
      rcases List.mem_cons.mp member with rfl | later
      · rw [beq_self_eq_true]
      · rw [beq_false_of_ne (Std.ne_of_lt (below row later)).symm]
        exact ih restOrdered later

theorem insertRow_of_above {key text : String} {rows : List (String × String)}
    (above : ∀ row ∈ rows, row.1 < key) : insertRow key text rows = rows ++ [(key, text)] := by
  induction rows with
  | nil => rfl
  | cons row rows ih =>
      have smaller : row.1 < key := above row List.mem_cons_self
      rw [insertRow, if_neg (String.lt_asymm smaller), if_neg (Std.ne_of_lt smaller).symm,
        ih fun other member => above other (List.mem_cons_of_mem row member)]
      rfl

theorem rows_foldl_insert {rows : List (String × String)} {table : Table}
    (ordered : (table.rows ++ rows).Pairwise fun a b => a.1 < b.1) :
    (rows.foldl (fun table (key, text) => table.insert key text) table).rows =
      table.rows ++ rows := by
  induction rows generalizing table with
  | nil => exact (List.append_nil _).symm
  | cons row rows ih =>
      have above : ∀ known ∈ table.rows, known.1 < row.1 := fun known member =>
        (List.pairwise_append.mp ordered).2.2 known member row List.mem_cons_self
      have inserted : (table.insert row.1 row.2).rows = table.rows ++ [row] :=
        insertRow_of_above above
      rw [List.foldl_cons, ih, inserted, List.append_assoc, List.singleton_append]
      rw [inserted, List.append_assoc, List.singleton_append]
      exact ordered

@[simp] theorem ofRows_rows (table : Table) : ofRows table.rows = table :=
  eq_of_rows_eq (rows_foldl_insert table.ordered)

theorem ofJson?_toJson (table : Table) : ofJson? table.toJson = some table := by
  have read : (table.rows.map fun (key, text) => (key, Json.string text)).mapM
      (fun (field : String × Json) => field.2.string?.map fun text => (field.1, text)) =
        some table.rows :=
    mapM_map_eq_pure fun _ _ => rfl
  rw [toJson, ofJson?, read, Option.map_some, ofRows_rows]

end Table

namespace Store

theorem ofJson?_toJson (store : Store) : ofJson? store.toJson = some store := by
  simp [ofJson?, toJson, Table.ofJson?_toJson]

theorem isEmpty_encode (store : Store) : store.encode.isEmpty = false := by
  obtain ⟨c, rest, written, _⟩ := Json.exists_compactChars_eq_cons store.toJson
  have notEmpty : store.toJson.compact ≠ "" := by
    intro empty
    rw [Json.compact, written] at empty
    exact List.cons_ne_nil c rest (by simpa using congrArg String.toList empty)
  rw [ByteArray.isEmpty, beq_eq_false_iff_ne]
  exact fun size => notEmpty (String.utf8ByteSize_eq_zero_iff.mp size)

theorem decode?_encode (store : Store) : decode? store.encode = some store := by
  rw [decode?, isEmpty_encode, if_neg Bool.false_ne_true, encode, Utf8.decode_toUTF8]
  simp only [Json.ofText?_compact, Option.bind_some, ofJson?_toJson]

end Store
end JarAtlas
