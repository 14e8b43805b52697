/-
Stores through histories of requests.

A history starts with an empty store.  Saves, lookups, listings, reopenings and
clearings come in any order, and a save may be refused.  What counts at the end
is told by the history alone: under each id the last save since the store was
last cleared.  Both tables of the store agree with it after every request.
-/
import JarAtlas.Proofs.Store.File
import Mathlib.Data.List.Induction

namespace JarAtlas
namespace Store

/-- A request to a store.  A report that is saved lists no interface of a class
twice, since the interfaces of a class are a set. -/
inductive Request where
  | save (now : Nat) (report : Report) (distinct : report.model.HasDistinctInterfaces)
  | model (id : String)
  | classes (id : String)
  | externalDependencies (id : String)
  | classNames (id : String)
  | projects
  | projectCount
  | reopen
  | clear

inductive Answer where
  | saved (outcome : Except StoreFault Summary)
  | model (found : Except StoreFault (Option Model))
  | classes (found : Except StoreFault (Option (List ClassRecord)))
  | externalDependencies (found : Except StoreFault (Option (List DeclaredDependency)))
  | classNames (found : Except StoreFault (Option (List String)))
  | projects (found : Except StoreFault (List Summary))
  | projectCount (count : Nat)
  | reopened (readable : Bool)
  | cleared

/-- The answer to a request and the store after it.  Reopening reads the store
from its file; clearing removes the file, and the next store starts empty. -/
def answer (store : Store) : Request → Answer × Store
  | .save now report _ =>
    match store.save now report with
    | .ok (changed, summary) => (.saved (.ok summary), changed)
    | .error fault => (.saved (.error fault), store)
  | .model id => (.model (store.model? id), store)
  | .classes id => (.classes (store.classes? id), store)
  | .externalDependencies id => (.externalDependencies (store.externalDependencies? id), store)
  | .classNames id => (.classNames (store.classNames? id), store)
  | .projects => (.projects store.projects, store)
  | .projectCount => (.projectCount store.projectCount, store)
  | .reopen =>
    match decode? store.encode with
    | some read => (.reopened true, read)
    | none => (.reopened false, store)
  | .clear => (.cleared, empty)

def answers (store : Store) : List Request → List Answer
  | [] => []
  | request :: later => (store.answer request).1 :: (store.answer request).2.answers later

def after (requests : List Request) : Store :=
  requests.foldl (fun store request => (store.answer request).2) empty

theorem after_concat (requests : List Request) (request : Request) :
    after (requests ++ [request]) = ((after requests).answer request).2 := by
  rw [after, List.foldl_append]
  rfl

theorem save_of_isKey {report : Report} (key : isKey report.projectId = true) (store : Store)
    (now : Nat) :
    store.save now report =
      .ok (⟨store.models.insert report.projectId report.model.toJson.compact,
        store.summaries.insert report.projectId (report.summary now).toJson.compact⟩,
        report.summary now) := by
  have putKey (table : Table) (text : String) :
      put table (report.summary now).projectId text = .ok (table.insert report.projectId text) :=
    if_pos key
  rw [save, putKey, putKey]
  rfl

theorem save_of_not_isKey {report : Report} (noKey : ¬isKey report.projectId = true)
    (store : Store) (now : Nat) : store.save now report = .error .keySize := by
  have refused (table : Table) (text : String) :
      put table (report.summary now).projectId text = .error .keySize :=
    if_neg noKey
  rw [save, refused]
  rfl

theorem answer_reopen (store : Store) : store.answer .reopen = (.reopened true, store) := by
  rw [answer, decode?_encode]

theorem answer_save_of_isKey {report : Report} (key : isKey report.projectId = true)
    (store : Store) (now : Nat) (distinct : report.model.HasDistinctInterfaces) :
    store.answer (.save now report distinct) =
      (.saved (.ok (report.summary now)),
        ⟨store.models.insert report.projectId report.model.toJson.compact,
          store.summaries.insert report.projectId (report.summary now).toJson.compact⟩) := by
  rw [answer, save_of_isKey key]

theorem answer_save_of_not_isKey {report : Report} (noKey : ¬isKey report.projectId = true)
    (store : Store) (now : Nat) (distinct : report.model.HasDistinctInterfaces) :
    store.answer (.save now report distinct) = (.saved (.error .keySize), store) := by
  rw [answer, save_of_not_isKey noKey]

theorem isKey_iff {id : String} :
    isKey id = true ↔ ¬(id = "" ∨ 511 < id.utf8ByteSize) := by
  rw [isKey, Bool.and_eq_true, decide_eq_true_eq, decide_eq_true_eq, maxKeySize,
    ← String.utf8ByteSize_eq_zero_iff]
  omega

/-! ### Saves that count -/

/-- The time and the report of a save under an id.  A save under an id that is
no key is refused. -/
def Request.savedUnder? (id : String) : Request → Option (Nat × Report)
  | .save now report _ => if report.projectId = id ∧ isKey id then some (now, report) else none
  | _ => none

def Request.isClear : Request → Bool
  | .clear => true
  | _ => false

/-- The last save under an id since the store was last cleared. -/
def lastSave? (id : String) (requests : List Request) : Option (Nat × Report) :=
  (requests.reverse.takeWhile fun request => !request.isClear).findSome? (·.savedUnder? id)

theorem lastSave?_concat (id : String) (requests : List Request) (request : Request) :
    lastSave? id (requests ++ [request]) =
      if request.isClear then none else (request.savedUnder? id).or (lastSave? id requests) := by
  rw [lastSave?, List.reverse_concat]
  cases clears : request.isClear with
  | true =>
      rw [List.takeWhile_cons_of_neg (by simp [clears])]
      rfl
  | false =>
      rw [List.takeWhile_cons_of_pos (by simp [clears]), List.findSome?_cons]
      cases request.savedUnder? id <;> rfl

/-- A request that neither clears the store nor saves under an id does not
count for the id, whatever comes later. -/
theorem lastSave?_append_cons {id : String} {request : Request}
    (keeps : request.isClear = false) (silent : request.savedUnder? id = none)
    (requests later : List Request) :
    lastSave? id (requests ++ request :: later) = lastSave? id (requests ++ later) := by
  induction later using List.reverseRecOn with
  | nil =>
      rw [lastSave?_concat, keeps, silent, List.append_nil]
      rfl
  | append_singleton later last ih =>
      rw [← List.cons_append, ← List.append_assoc, lastSave?_concat, ih, ← List.append_assoc,
        lastSave?_concat]

theorem lastSave?_sound {id : String} {requests : List Request} {now : Nat} {report : Report}
    (last : lastSave? id requests = some (now, report)) :
    report.projectId = id ∧ isKey id ∧ report.model.HasDistinctInterfaces := by
  obtain ⟨request, -, saved⟩ := List.exists_of_findSome?_eq_some last
  cases request with
  | save time saving distinct =>
      rw [Request.savedUnder?] at saved
      split at saved
      · rename_i under
        cases saved
        exact ⟨under.1, under.2, distinct⟩
      · cases saved
  | _ => cases saved

structure Holds (store : Store) (saves : String → Option (Nat × Report)) : Prop where
  models : ∀ id, store.models.get? id =
    (saves id).map fun (_, report) => report.model.toJson.compact
  summaries : ∀ id, store.summaries.get? id =
    (saves id).map fun (now, report) => (report.summary now).toJson.compact

theorem holds_empty : Holds empty fun _ => none :=
  ⟨fun _ => rfl, fun _ => rfl⟩

theorem get?_insert_saved {table : Table} {saves : String → Option (Nat × Report)}
    {text : Nat × Report → String} (holds : ∀ id, table.get? id = (saves id).map text)
    {report : Report} (key : isKey report.projectId = true) (now : Nat)
    (distinct : report.model.HasDistinctInterfaces) (id : String) :
    (table.insert report.projectId (text (now, report))).get? id =
      (((Request.save now report distinct).savedUnder? id).or (saves id)).map text := by
  rw [Request.savedUnder?]
  by_cases same : report.projectId = id
  · subst same
    rw [if_pos ⟨rfl, key⟩, Table.get?_insert_self]
    rfl
  · rw [if_neg fun under => same under.1, Table.get?_insert_of_ne _ (Ne.symm same), holds id]
    rfl

theorem Holds.answer {store : Store} {saves : String → Option (Nat × Report)}
    (holds : Holds store saves) (request : Request) :
    Holds (store.answer request).2 fun id =>
      if request.isClear then none else (request.savedUnder? id).or (saves id) := by
  cases request with
  | save now report distinct =>
      by_cases key : isKey report.projectId = true
      · rw [answer_save_of_isKey key]
        exact ⟨get?_insert_saved holds.models key now distinct,
          get?_insert_saved holds.summaries key now distinct⟩
      · rw [answer_save_of_not_isKey key]
        have silent (id : String) : (Request.save now report distinct).savedUnder? id = none :=
          if_neg fun (under : report.projectId = id ∧ isKey id = true) =>
            key (under.1 ▸ under.2)
        simp only [silent, Option.none_or]
        exact holds
  | reopen =>
      rw [answer_reopen]
      exact holds
  | clear => exact holds_empty
  | _ => exact holds

theorem holds_after (requests : List Request) : Holds (after requests) (lastSave? · requests) := by
  induction requests using List.reverseRecOn with
  | nil => exact holds_empty
  | append_singleton requests request ih =>
      rw [after_concat]
      simp only [lastSave?_concat]
      exact ih.answer request

end Store
end JarAtlas
