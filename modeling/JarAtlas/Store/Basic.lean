/-
The store of projects.

A store keeps the model of each surveyed project in one table and a summary of
its report in another, both under the project's identifier and both as JSON
text on one line.  Listing the projects reads only the summaries.
-/
import JarAtlas.Json.Reader
import JarAtlas.Model.Part
import JarAtlas.Store.Table

namespace JarAtlas

structure Store where
  models : Table
  summaries : Table

inductive StoreFault where
  | keySize
  | brokenModel (id : String)
  | brokenSummary (id : String)
  deriving DecidableEq, Repr

def StoreFault.message : StoreFault → String
  | keySize =>
    "MDB_BAD_VALSIZE: Unsupported size of key/DB name/data, or wrong DUPFIXED size"
  | brokenModel id => "Failed to parse stored model for project: " ++ id
  | brokenSummary id => "Failed to parse summary for project: " ++ id

namespace Store

def empty : Store := ⟨.empty, .empty⟩

def maxKeySize : Nat := 511

def isKey (id : String) : Bool :=
  0 < id.utf8ByteSize && id.utf8ByteSize ≤ maxKeySize

/-- Puts a text into one of the tables.  A key of no sound size is refused. -/
def put (table : Table) (key text : String) : Except StoreFault Table :=
  if isKey key then .ok (table.insert key text) else .error .keySize

/-- Looks for a text in one of the tables.  No text stands under an empty key,
and asking for one is a fault. -/
def find (table : Table) (key : String) : Except StoreFault (Option String) :=
  if key = "" then .error .keySize else .ok (table.get? key)

/-- Saves the model of a report and its summary.  Either both are put into the
store or it stays as it was. -/
def save (store : Store) (now : Nat) (report : Report) : Except StoreFault (Store × Summary) := do
  let summary := report.summary now
  let models ← put store.models summary.projectId report.model.toJson.compact
  let summaries ← put store.summaries summary.projectId summary.toJson.compact
  return ({ models, summaries }, summary)

def model? (store : Store) (id : String) : Except StoreFault (Option Model) := do
  match ← find store.models id with
  | none => return none
  | some text =>
    match (Json.ofText? text).bind Model.ofJson? with
    | some model => return some model
    | none => throw (.brokenModel id)

def classes? (store : Store) (id : String) : Except StoreFault (Option (List ClassRecord)) :=
  (store.model? id).map fun model => model.map (·.classes)

def externalDependencies? (store : Store) (id : String) :
    Except StoreFault (Option (List DeclaredDependency)) :=
  (store.model? id).map fun model => model.map (·.externalDependencies)

def classNames? (store : Store) (id : String) : Except StoreFault (Option (List String)) :=
  (store.model? id).map fun model => model.map (·.classNames)

def summaryOf (row : String × String) : Except StoreFault Summary :=
  match (Json.ofText? row.2).bind Summary.ofJson? with
  | some summary => .ok summary
  | none => .error (.brokenSummary row.1)

def projects (store : Store) : Except StoreFault (List Summary) :=
  store.summaries.rows.mapM summaryOf

def projectCount (store : Store) : Nat :=
  store.summaries.size

end Store
end JarAtlas
