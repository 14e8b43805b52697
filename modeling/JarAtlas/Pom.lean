/-
Declared dependencies of a build descriptor.

A `pom.xml` declares third-party dependencies in `dependency` elements.  Their
values may hold placeholders of properties, which are not resolved: a value
with a placeholder is reduced to its plain characters.
-/
import JarAtlas.Model
import JarAtlas.Text.CharacterClass
import JarAtlas.Xml.Node

namespace JarAtlas
namespace Pom

def space : String := "http://maven.apache.org/POM/4.0.0"

def placeholderMarks : List Char :=
  ['"', '\n', '\r', '\t', '$', '{', '}', '.']

def sanitize (value : String) : String :=
  if occursIn ['$', '{'] value.toList then
    String.ofList (value.toList.filter fun c => !placeholderMarks.contains c)
  else
    value

def isDependencyName (name : Xml.ExpandedName) : Bool :=
  name.localName = "dependency" && (name.space = none || name.space = some space)

def valueOf (part : Xml.Node) : String :=
  sanitize (String.ofList (trimBlanks part.textContent.toList))

/-- The value of the last part with a given local name, and nothing when there
is none. -/
def partValue (localName : String) (parts : List Xml.Node) : String :=
  let values := parts.filterMap fun part =>
    match part with
    | .element name _ _ => if name.localName = localName then some (valueOf part) else none
    | _ => none
  values.getLastD ""

def dependencyOf? : Xml.Node → Option DeclaredDependency
  | .element name _ parts =>
    if isDependencyName name then
      some
        { groupId := partValue "groupId" parts
          artifactId := partValue "artifactId" parts
          version := partValue "version" parts
          scope := partValue "scope" parts }
    else none
  | _ => none

def dependencies (root : Xml.Node) : List DeclaredDependency :=
  root.descendants.filterMap dependencyOf?

def dependencies? (text : String) : Option (List DeclaredDependency) :=
  (Xml.Node.ofText? text).map dependencies

end Pom
end JarAtlas
