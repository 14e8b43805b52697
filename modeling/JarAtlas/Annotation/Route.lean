/-
Web routes.

A route annotation maps requests to a class or a method, and its `value`
element holds the path.  The path is read back from the annotation's text: what
follows the first `value =`, either a bare text or the first item of a list in
braces.  Braces inside an item belong to path variables and are kept.
-/
import JarAtlas.Annotation.Signature
import JarAtlas.Text.CharacterClass

namespace JarAtlas
namespace Route

def annotationNames : List String :=
  ["RequestMapping", "GetMapping", "PostMapping", "PutMapping", "DeleteMapping", "PatchMapping"]

def namesRoute (descriptor : String) : Bool :=
  annotationNames.contains (AnnotationUse.shortName descriptor)

def default : String := "/"

/-- The text after `value`, blanks, an equals sign and blanks. -/
def afterValueSign? (text : List Char) : Option (List Char) :=
  match afterStart? ['v', 'a', 'l', 'u', 'e'] text with
  | none => none
  | some rest =>
    match rest.dropWhile isBlank with
    | '=' :: item => some (item.dropWhile isBlank)
    | _ => none

/-- The text after the first `value =` that starts a word.  `insideWord` says
whether a word character stands just before the text. -/
def afterFirstValueSign? (insideWord : Bool) : List Char → Option (List Char)
  | [] => none
  | c :: rest =>
    match if insideWord then none else afterValueSign? (c :: rest) with
    | some item => some item
    | none => afterFirstValueSign? (isWordCharacter c) rest

/-- The first item of a text.  Outside quotes and path variables an item ends
before a comma or a closing parenthesis, and inside a list also before the
brace that closes the list. -/
def takeItem (inList : Bool) (depth : Nat) (quoted : Bool) : List Char → List Char
  | [] => []
  | c :: rest =>
    if c = '"' then
      c :: takeItem inList depth (!quoted) rest
    else if quoted then
      c :: takeItem inList depth quoted rest
    else if c = '{' then
      c :: takeItem inList (depth + 1) quoted rest
    else if c = '}' then
      if 0 < depth then
        c :: takeItem inList (depth - 1) quoted rest
      else if inList then
        []
      else
        c :: takeItem inList depth quoted rest
    else if (c = ',' ∨ c = ')') ∧ depth = 0 then
      []
    else
      c :: takeItem inList depth quoted rest

def firstItem (text : List Char) : List Char :=
  let item :=
    match afterStart? ['{'] text with
    | some list => takeItem true 0 false list
    | none => takeItem false 0 false text
  trimBlanks (stripBoth (· = '"') (trimBlanks item))

def ofSignature (signature : String) : String :=
  match (afterFirstValueSign? false signature.toList).map firstItem with
  | some (c :: path) => String.ofList (c :: path)
  | _ => default

end Route
end JarAtlas
