/-
Type descriptors.

A compiled field states its type as a short code: one letter for a primitive
type, `L` name `;` for an object type, and one `[` in front for each array
dimension.  Decoding gives the type the way it is written in a declaration.  A
text that is no descriptor decodes to itself.
-/
import JarAtlas.Name.Qualified

namespace JarAtlas
namespace TypeDescriptor

def primitive? : String → Option String
  | "I" => some "int"
  | "Z" => some "boolean"
  | "B" => some "byte"
  | "C" => some "char"
  | "D" => some "double"
  | "F" => some "float"
  | "J" => some "long"
  | "S" => some "short"
  | "V" => some "void"
  | _ => none

def withoutSemicolon (text : List Char) : List Char :=
  (beforeEnd? [';'] text).getD text

/-- The inner name of an object descriptor.  The leading `L` and the final
semicolon are each taken off where they stand, and slashes are kept. -/
def unwrap (descriptor : String) : String :=
  let text := descriptor.toList
  String.ofList (withoutSemicolon ((afterStart? ['L'] text).getD text))

theorem withoutSemicolon_append (text : List Char) : withoutSemicolon (text ++ [';']) = text := by
  rw [withoutSemicolon, beforeEnd?_eq_some_iff.mpr rfl, Option.getD_some]

theorem toList_object (name : String) :
    ("L" ++ name ++ ";").toList = 'L' :: (name.toList ++ [';']) := by
  rw [String.toList_append, String.toList_append, List.append_assoc]
  rfl

theorem unwrap_object (name : String) : unwrap ("L" ++ name ++ ";") = name := by
  have inner : afterStart? ['L'] ('L' :: (name.toList ++ [';'])) = some (name.toList ++ [';']) :=
    afterStart?_eq_some_iff.mpr rfl
  unfold unwrap
  dsimp only
  rw [toList_object, inner, Option.getD_some, withoutSemicolon_append, String.ofList_toList]

def elementName (code : List Char) : String :=
  match primitive? (String.ofList code) with
  | some word => word
  | none =>
    match afterStart? ['L'] code with
    | some inner =>
      let name := withoutSemicolon inner
      if name.isEmpty then String.ofList code else dotted (String.ofList name)
    | none => String.ofList code

def decode (descriptor : String) : String :=
  let text := descriptor.toList
  let dimensions := (text.takeWhile (· = '[')).length
  elementName (text.dropWhile (· = '[')) ++ String.join (List.replicate dimensions "[]")

end TypeDescriptor
end JarAtlas
