/-
The JSON documents of models, reports and summaries.

Each record becomes an object with its fields in a fixed order.  Reading looks
the fields up by name and refuses a document in which one is missing or of the
wrong kind; interfaces that are listed twice are read once.
-/
import JarAtlas.Json.Value
import JarAtlas.Report

namespace JarAtlas

def ClassKind.toJson (kind : ClassKind) : Json :=
  .string kind.word

def Routes.toJson (routes : Routes) : Json :=
  .object
    [("base_path", .string routes.basePath), ("endpoints", .ofStrings routes.endpoints)]

def ClassRole.toJson : ClassRole → Json
  | plain => .string "plain"
  | controller routes => .object [("controller", routes.toJson)]

def FieldRecord.toJson (field : FieldRecord) : Json :=
  .object
    [("identifier", .string field.identifier), ("datatype", .string field.datatype),
     ("is_static", .bool field.isStatic), ("is_annotated", .bool field.isAnnotated),
     ("annotations", .ofStrings field.annotations)]

def MethodRecord.toJson (method : MethodRecord) : Json :=
  .object
    [("name", .string method.name), ("is_static", .bool method.isStatic),
     ("annotations", .ofStrings method.annotations)]

def ClassRecord.toJson (record : ClassRecord) : Json :=
  .object
    [("name", .string record.name), ("kind", record.kind.toJson),
     ("superclass", .string record.superclass), ("interfaces", .ofStrings record.interfaces),
     ("fields", .array (record.fields.map FieldRecord.toJson)),
     ("methods", .array (record.methods.map MethodRecord.toJson)),
     ("annotations", .ofStrings record.annotations), ("is_nested", .bool record.isNested),
     ("role", record.role.toJson), ("nested_classes", .ofStrings record.nestedClasses)]

def DeclaredDependency.toJson (dependency : DeclaredDependency) : Json :=
  .object
    [("group_id", .string dependency.groupId), ("artifact_id", .string dependency.artifactId),
     ("version", .string dependency.version), ("scope", .string dependency.scope)]

def classesToJson (classes : List ClassRecord) : Json :=
  .array (classes.map ClassRecord.toJson)

def dependenciesToJson (dependencies : List DeclaredDependency) : Json :=
  .array (dependencies.map DeclaredDependency.toJson)

def Model.toJson (model : Model) : Json :=
  .object
    [("classes", classesToJson model.classes),
     ("external_dependencies", dependenciesToJson model.externalDependencies),
     ("class_names", .ofStrings model.classNames)]

def SkippedEntry.toJson (skipped : SkippedEntry) : Json :=
  .object [("entry", .string skipped.entry), ("reason", .string skipped.reason)]

def Report.toJson (report : Report) : Json :=
  .object
    [("archive", .string report.archive), ("namespace", .string report.namespaceName),
     ("project_id", .string report.projectId), ("model", report.model.toJson),
     ("skipped", .array (report.skipped.map SkippedEntry.toJson))]

def Summary.toJson (summary : Summary) : Json :=
  .object
    [("project_id", .string summary.projectId), ("archive", .string summary.archive),
     ("namespace", .string summary.namespaceName), ("class_count", .number summary.classCount),
     ("external_count", .number summary.externalCount),
     ("skipped_count", .number summary.skippedCount), ("stored_at", .number summary.storedAt)]

/-! ### Reading -/

namespace Json

def stringField? (value : Json) (name : String) : Option String :=
  (value.field? name).bind string?

def boolField? (value : Json) (name : String) : Option Bool :=
  (value.field? name).bind bool?

def numberField? (value : Json) (name : String) : Option Nat :=
  (value.field? name).bind number?

def stringsField? (value : Json) (name : String) : Option (List String) :=
  (value.field? name).bind strings?

def list? {α : Type} (read : Json → Option α) (value : Json) : Option (List α) :=
  value.items?.bind fun items => items.mapM read

def listField? {α : Type} (read : Json → Option α) (value : Json) (name : String) :
    Option (List α) :=
  (value.field? name).bind (list? read)

end Json

def ClassKind.ofJson? : Json → Option ClassKind
  | .string "normal" => some .normal
  | .string "abstract" => some .abstract
  | .string "interface" => some .interface
  | _ => none

def Routes.ofJson? (value : Json) : Option Routes := do
  let basePath ← value.stringField? "base_path"
  let endpoints ← value.stringsField? "endpoints"
  return { basePath, endpoints }

def ClassRole.ofJson? : Json → Option ClassRole
  | .string "plain" => some .plain
  | .object [("controller", routes)] => (Routes.ofJson? routes).map .controller
  | _ => none

def FieldRecord.ofJson? (value : Json) : Option FieldRecord := do
  let identifier ← value.stringField? "identifier"
  let datatype ← value.stringField? "datatype"
  let isStatic ← value.boolField? "is_static"
  let isAnnotated ← value.boolField? "is_annotated"
  let annotations ← value.stringsField? "annotations"
  return { identifier, datatype, isStatic, isAnnotated, annotations }

def MethodRecord.ofJson? (value : Json) : Option MethodRecord := do
  let name ← value.stringField? "name"
  let isStatic ← value.boolField? "is_static"
  let annotations ← value.stringsField? "annotations"
  return { name, isStatic, annotations }

def ClassRecord.ofJson? (value : Json) : Option ClassRecord := do
  let name ← value.stringField? "name"
  let kind ← (value.field? "kind").bind ClassKind.ofJson?
  let superclass ← value.stringField? "superclass"
  let interfaces ← value.stringsField? "interfaces"
  let fields ← value.listField? FieldRecord.ofJson? "fields"
  let methods ← value.listField? MethodRecord.ofJson? "methods"
  let annotations ← value.stringsField? "annotations"
  let isNested ← value.boolField? "is_nested"
  let role ← (value.field? "role").bind ClassRole.ofJson?
  let nestedClasses ← value.stringsField? "nested_classes"
  return {
    name, kind, superclass, fields, methods, annotations, isNested, role, nestedClasses
    interfaces := firstOccurrences interfaces }

def DeclaredDependency.ofJson? (value : Json) : Option DeclaredDependency := do
  let groupId ← value.stringField? "group_id"
  let artifactId ← value.stringField? "artifact_id"
  let version ← value.stringField? "version"
  let scope ← value.stringField? "scope"
  return { groupId, artifactId, version, scope }

def Model.ofJson? (value : Json) : Option Model := do
  let classes ← value.listField? ClassRecord.ofJson? "classes"
  let externalDependencies ←
    value.listField? DeclaredDependency.ofJson? "external_dependencies"
  let classNames ← value.stringsField? "class_names"
  return { classes, externalDependencies, classNames }

def SkippedEntry.ofJson? (value : Json) : Option SkippedEntry := do
  let entry ← value.stringField? "entry"
  let reason ← value.stringField? "reason"
  return { entry, reason }

def Report.ofJson? (value : Json) : Option Report := do
  let archive ← value.stringField? "archive"
  let namespaceName ← value.stringField? "namespace"
  let projectId ← value.stringField? "project_id"
  let model ← (value.field? "model").bind Model.ofJson?
  let skipped ← value.listField? SkippedEntry.ofJson? "skipped"
  return { archive, namespaceName, projectId, model, skipped }

def Summary.ofJson? (value : Json) : Option Summary := do
  let projectId ← value.stringField? "project_id"
  let archive ← value.stringField? "archive"
  let namespaceName ← value.stringField? "namespace"
  let classCount ← value.numberField? "class_count"
  let externalCount ← value.numberField? "external_count"
  let skippedCount ← value.numberField? "skipped_count"
  let storedAt ← value.numberField? "stored_at"
  return { projectId, archive, namespaceName, classCount, externalCount, skippedCount, storedAt }

end JarAtlas
