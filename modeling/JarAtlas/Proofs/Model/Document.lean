/-
Models, read after writing.

Every record is given back by its document.  For a class this asks that no
interface is listed twice, as reading lists repeated interfaces once.
-/
import JarAtlas.Model.Document
import Mathlib.Data.List.Nodup

namespace JarAtlas

theorem mapM_map_eq_pure {m : Type → Type} [Monad m] [LawfulMonad m] {α β : Type} {write : α → β}
    {read : β → m α} {xs : List α} (reads : ∀ x ∈ xs, read (write x) = pure x) :
    (xs.map write).mapM read = pure xs := by
  induction xs with
  | nil => rfl
  | cons x xs ih =>
      rw [List.map_cons, List.mapM_cons, reads x List.mem_cons_self, pure_bind,
        ih fun other member => reads other (List.mem_cons_of_mem x member), pure_bind]

theorem firstOccurrences_of_nodup {α : Type} [DecidableEq α] {xs : List α} (nodup : xs.Nodup) :
    firstOccurrences xs = xs := by
  have keeps : ∀ (rest seen : List α), (seen ++ rest).Nodup →
      rest.foldl (fun seen x => if x ∈ seen then seen else seen ++ [x]) seen = seen ++ rest := by
    intro rest
    induction rest with
    | nil => exact fun seen _ => (List.append_nil seen).symm
    | cons x rest ih =>
        intro seen distinct
        have new : x ∉ seen := fun member =>
          List.disjoint_of_nodup_append distinct member List.mem_cons_self
        rw [List.foldl_cons, if_neg new, ih (seen ++ [x]) (by simpa using distinct)]
        exact List.append_assoc seen [x] rest
  exact keeps xs [] nodup

namespace Json

@[simp] theorem field?_object_cons (name key : String) (value : Json)
    (fields : List (String × Json)) :
    (object ((key, value) :: fields)).field? name =
      if name = key then some value else (object fields).field? name := by
  rw [field?, List.lookup_cons]
  by_cases same : name = key
  · rw [if_pos same, beq_iff_eq.mpr same]
  · rw [if_neg same, beq_false_of_ne same, field?]

@[simp] theorem strings?_ofStrings (texts : List String) :
    (ofStrings texts).strings? = some texts :=
  mapM_map_eq_pure fun _ _ => rfl

theorem list?_array_map {α : Type} {write : α → Json} {read : Json → Option α} {xs : List α}
    (reads : ∀ x ∈ xs, read (write x) = some x) : list? read (.array (xs.map write)) = some xs :=
  mapM_map_eq_pure reads

end Json

theorem ClassKind.ofJson?_toJson (kind : ClassKind) : ofJson? kind.toJson = some kind := by
  cases kind <;> rfl

theorem Routes.ofJson?_toJson (routes : Routes) : ofJson? routes.toJson = some routes := by
  simp [ofJson?, toJson, Json.stringField?, Json.stringsField?, Json.string?]

theorem ClassRole.ofJson?_toJson (role : ClassRole) : ofJson? role.toJson = some role := by
  cases role with
  | plain => rfl
  | controller routes =>
      show (Routes.ofJson? routes.toJson).map controller = _
      rw [Routes.ofJson?_toJson, Option.map_some]

theorem FieldRecord.ofJson?_toJson (field : FieldRecord) : ofJson? field.toJson = some field := by
  simp [ofJson?, toJson, Json.stringField?, Json.stringsField?, Json.boolField?, Json.string?,
    Json.bool?]

theorem MethodRecord.ofJson?_toJson (method : MethodRecord) :
    ofJson? method.toJson = some method := by
  simp [ofJson?, toJson, Json.stringField?, Json.stringsField?, Json.boolField?, Json.string?,
    Json.bool?]

theorem ClassRecord.ofJson?_toJson {record : ClassRecord} (distinct : record.interfaces.Nodup) :
    ofJson? record.toJson = some record := by
  have fields := Json.list?_array_map fun field (_ : field ∈ record.fields) =>
    FieldRecord.ofJson?_toJson field
  have methods := Json.list?_array_map fun method (_ : method ∈ record.methods) =>
    MethodRecord.ofJson?_toJson method
  simp [ofJson?, toJson, Json.stringField?, Json.stringsField?, Json.boolField?, Json.string?,
    Json.bool?, Json.listField?, fields, methods, ClassKind.ofJson?_toJson,
    ClassRole.ofJson?_toJson, firstOccurrences_of_nodup distinct]

theorem DeclaredDependency.ofJson?_toJson (dependency : DeclaredDependency) :
    ofJson? dependency.toJson = some dependency := by
  simp [ofJson?, toJson, Json.stringField?, Json.string?]

/-- Whether no class of a model lists an interface twice. -/
def Model.HasDistinctInterfaces (model : Model) : Prop :=
  ∀ record ∈ model.classes, record.interfaces.Nodup

theorem Model.list?_classesToJson {model : Model} (distinct : model.HasDistinctInterfaces) :
    Json.list? ClassRecord.ofJson? (classesToJson model.classes) = some model.classes :=
  Json.list?_array_map fun record member => ClassRecord.ofJson?_toJson (distinct record member)

theorem list?_dependenciesToJson (dependencies : List DeclaredDependency) :
    Json.list? DeclaredDependency.ofJson? (dependenciesToJson dependencies) =
      some dependencies :=
  Json.list?_array_map fun dependency _ => DeclaredDependency.ofJson?_toJson dependency

theorem Model.ofJson?_toJson {model : Model} (distinct : model.HasDistinctInterfaces) :
    ofJson? model.toJson = some model := by
  simp [ofJson?, toJson, Json.stringsField?, Json.listField?, list?_classesToJson distinct,
    list?_dependenciesToJson]

theorem Summary.ofJson?_toJson (summary : Summary) : ofJson? summary.toJson = some summary := by
  simp [ofJson?, toJson, Json.stringField?, Json.numberField?, Json.string?, Json.number?]

end JarAtlas
