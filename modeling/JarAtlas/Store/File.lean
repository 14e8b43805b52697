/-
The file of a store.

A store is kept in a file as one JSON object with its two tables.  An empty
file is an empty store.
-/
import JarAtlas.Store.Basic
import JarAtlas.Text.Utf8

namespace JarAtlas

def Table.toJson (table : Table) : Json :=
  .object (table.rows.map fun (key, text) => (key, .string text))

def Table.ofJson? : Json → Option Table
  | .object fields =>
    (fields.mapM fun (field : String × Json) =>
      field.2.string?.map fun text => (field.1, text)).map Table.ofRows
  | _ => none

namespace Store

def toJson (store : Store) : Json :=
  .object [("projects", store.models.toJson), ("project_summaries", store.summaries.toJson)]

def ofJson? (value : Json) : Option Store := do
  let models ← (value.field? "projects").bind Table.ofJson?
  let summaries ← (value.field? "project_summaries").bind Table.ofJson?
  return { models, summaries }

def encode (store : Store) : ByteArray :=
  store.toJson.compact.toUTF8

def decode? (content : ByteArray) : Option Store :=
  if content.isEmpty then some empty
  else
    match Utf8.decode content.data.toList with
    | .ok text => (Json.ofText? text).bind ofJson?
    | .error _ => none

end Store
end JarAtlas
