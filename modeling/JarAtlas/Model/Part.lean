/-
The parts of a model.

A stored model is shown as a whole or one part at a time, each as a JSON
document over several lines.
-/
import JarAtlas.Json.Writer
import JarAtlas.Model.Document

namespace JarAtlas

inductive ModelPart where
  | all
  | internal
  | external
  | classes
  deriving DecidableEq, Repr

namespace ModelPart

def document (part : ModelPart) (model : Model) : Json :=
  match part with
  | all => model.toJson
  | internal => classesToJson model.classes
  | external => dependenciesToJson model.externalDependencies
  | classes => .ofStrings model.classNames

def text (part : ModelPart) (model : Model) : String :=
  (part.document model).pretty

def ofName? : String → Option ModelPart
  | "all" => some all
  | "internal" => some internal
  | "external" => some external
  | "classes" => some classes
  | _ => none

end ModelPart
end JarAtlas
