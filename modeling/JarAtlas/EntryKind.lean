/-
The kinds of archive entries.

The name of an entry tells what it holds: a class of the user's namespace, a
build descriptor, or nothing that a survey looks at.
-/
import JarAtlas.Name.Namespace

namespace JarAtlas

inductive EntryKind where
  | classFile
  | buildDescriptor
  | other
  deriving DecidableEq, Repr

namespace EntryKind

def classEnding : List Char := ".class".toList

def descriptorName : List Char := "pom.xml".toList

def classRoots : List (List Char) :=
  ["BOOT-INF/classes/".toList, "WEB-INF/classes/".toList]

def typelessNames : List (List Char) :=
  ["module-info.class".toList, "package-info.class".toList]

/-- The name without the class ending, however often it is repeated. -/
def stemOf : Nat → List Char → List Char
  | 0, name => name
  | fuel + 1, name =>
    match beforeEnd? classEnding name with
    | some stem => stemOf fuel stem
    | none => name

/-- Whether a file name is that of an anonymous class: digits alone follow its
last dollar sign. -/
def isAnonymous (fileName : List Char) : Bool :=
  match cutAtLast? '$' (stemOf fileName.length fileName) with
  | some (_, tail) => !tail.isEmpty && tail.all fun c => '0' ≤ c && c ≤ '9'
  | none => false

/-- The path of an entry below the class root in which it stands. -/
def belowRoot (name : List Char) : List Char :=
  (classRoots.findSome? fun root => afterStart? root name).getD name

def ofName (ns : Namespace) (entryName : String) : EntryKind :=
  let name := entryName.toList
  let fileName := afterLast '/' name
  if fileName = descriptorName then .buildDescriptor
  else if (beforeEnd? classEnding name).isNone || typelessNames.contains fileName ||
      isAnonymous fileName then
    .other
  else if ns.containsPath (String.ofList (belowRoot name)) then .classFile
  else .other

end EntryKind
end JarAtlas
