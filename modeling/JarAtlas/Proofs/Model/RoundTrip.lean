/-
Models through their texts.

The text under which a model is stored and the texts in which it and its parts
are shown say all of it: read again, each gives back the very lists that were
written, in their order.
-/
import JarAtlas.Proofs.Store.History

namespace JarAtlas

def Json.readText? {α : Type} (read : Json → Option α) (text : String) : Option α :=
  (ofText? text).bind read

section

variable {α : Type} {read : Json → Option α} {document : Json} {value : α}

theorem Json.readText?_compact (reads : read document = some value) :
    readText? read document.compact = some value := by
  rw [readText?, ofText?_compact, Option.bind_some, reads]

theorem Json.readText?_pretty (reads : read document = some value) :
    readText? read document.pretty = some value := by
  rw [readText?, ofText?_pretty, Option.bind_some, reads]

end

/-- Whether a text shows a part of a model: it is the document of just this part, over
several lines, and tells the part to a reader of such documents. -/
def ModelPart.Shows (part : ModelPart) (model : Model) (text : String) : Prop :=
  match part with
  | all => text = model.toJson.pretty ∧ Json.readText? Model.ofJson? text = some model
  | internal =>
    text = (classesToJson model.classes).pretty ∧
      Json.readText? (Json.list? ClassRecord.ofJson?) text = some model.classes
  | external =>
    text = (dependenciesToJson model.externalDependencies).pretty ∧
      Json.readText? (Json.list? DeclaredDependency.ofJson?) text =
        some model.externalDependencies
  | classes =>
    text = (Json.ofStrings model.classNames).pretty ∧
      Json.readText? Json.strings? text = some model.classNames

theorem ModelPart.shows_text {model : Model} (distinct : model.HasDistinctInterfaces)
    (part : ModelPart) : part.Shows model (part.text model) := by
  cases part with
  | all => exact ⟨rfl, Json.readText?_pretty (Model.ofJson?_toJson distinct)⟩
  | internal => exact ⟨rfl, Json.readText?_pretty (Model.list?_classesToJson distinct)⟩
  | external => exact ⟨rfl, Json.readText?_pretty (list?_dependenciesToJson _)⟩
  | classes => exact ⟨rfl, Json.readText?_pretty (Json.strings?_ofStrings _)⟩

/-- A model is read back, with every list in its order, from the text that a
save puts into the store and from the text in which it is shown; and from the
text of each of its parts, that part. -/
theorem Model.readText?_of_written {model : Model} (distinct : model.HasDistinctInterfaces) :
    (∀ (store : Store) (now : Nat) (report : Report), report.model = model →
      Store.isKey report.projectId = true →
      ∃ changed summary text, store.save now report = .ok (changed, summary) ∧
        changed.models.get? report.projectId = some text ∧
        Json.readText? Model.ofJson? text = some model) ∧
    Json.readText? Model.ofJson? (ModelPart.all.text model) = some model ∧
    Json.readText? (Json.list? ClassRecord.ofJson?) (ModelPart.internal.text model) =
      some model.classes ∧
    Json.readText? (Json.list? DeclaredDependency.ofJson?) (ModelPart.external.text model) =
      some model.externalDependencies ∧
    Json.readText? Json.strings? (ModelPart.classes.text model) = some model.classNames := by
  refine ⟨?stored, ?whole, ?internal, ?external, ?names⟩
  case stored =>
    rintro store now report rfl key
    refine ⟨_, _, report.model.toJson.compact, Store.save_of_isKey key store now, ?_, ?_⟩
    · apply Table.get?_insert_self
    · exact Json.readText?_compact (Model.ofJson?_toJson distinct)
  case whole => exact (ModelPart.shows_text distinct .all).2
  case internal => exact (ModelPart.shows_text distinct .internal).2
  case external => exact (ModelPart.shows_text distinct .external).2
  case names => exact (ModelPart.shows_text distinct .classes).2

/-- A model with every kind of class, both roles, and texts with quotes,
backslashes, control characters and letters outside of ASCII. -/
def Model.varied : Model where
  classes :=
    [{ name := "a.\"Quoted\"\\Path"
       kind := .normal
       superclass := "a.Base\u0000\n\t"
       interfaces := ["a.I", "a.Ünder", "a.\u001f\u007f"]
       fields := [⟨"f", "a.Ü[]", true, true, ["@A", "@A"]⟩]
       methods := [⟨"<init>", false, []⟩, ⟨"m", true, ["@B(\"\\\")"]⟩]
       annotations := ["@RestController"]
       isNested := false
       role := .controller ⟨"/\u0008/\x7bid\x7d", ["/b", "/a", "/b"]⟩
       nestedClasses := ["Z", "A"] },
     { name := ""
       kind := .interface
       superclass := ""
       interfaces := []
       fields := []
       methods := []
       annotations := []
       isNested := true
       role := .plain
       nestedClasses := [] },
     { name := "a.𝔘\u2028"
       kind := .abstract
       superclass := ""
       interfaces := ["a.I"]
       fields := []
       methods := []
       annotations := []
       isNested := false
       role := .plain
       nestedClasses := [] }]
  externalDependencies := [⟨"g", "a", "$\x7bv\x7d", ""⟩, ⟨"g", "a", "$\x7bv\x7d", ""⟩]
  classNames := ["b", "a\r"]

theorem Model.readText?_of_written_varied :
    Model.varied.HasDistinctInterfaces ∧
    (∃ changed summary text,
      Store.empty.save 7 ⟨"x.jar", "a", "é", .varied, []⟩ = .ok (changed, summary) ∧
        changed.models.get? "é" = some text ∧
        Json.readText? Model.ofJson? text = some .varied) ∧
    Json.readText? Model.ofJson? (ModelPart.all.text .varied) = some .varied ∧
    Json.readText? (Json.list? ClassRecord.ofJson?) (ModelPart.internal.text .varied) =
      some Model.varied.classes ∧
    Json.readText? (Json.list? DeclaredDependency.ofJson?) (ModelPart.external.text .varied) =
      some Model.varied.externalDependencies ∧
    Json.readText? Json.strings? (ModelPart.classes.text .varied) =
      some Model.varied.classNames := by
  have distinct : Model.varied.HasDistinctInterfaces := by
    show ∀ record ∈ Model.varied.classes, record.interfaces.Nodup
    decide
  obtain ⟨stored, shown⟩ := Model.readText?_of_written distinct
  exact ⟨distinct, stored .empty 7 ⟨"x.jar", "a", "é", .varied, []⟩ rfl (by decide), shown⟩

end JarAtlas
