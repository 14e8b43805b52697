/-
The namespace of the user's own classes.

A survey keeps the classes whose names lie under one package prefix.  The prefix
is given in either spelling and stored in dotted form.  A name lies in the
namespace when the prefix covers whole segments of it.  Of a class's direct
supertype it matters whether it is the root of the type hierarchy, a class of
the namespace, or a class from elsewhere.
-/
import JarAtlas.Name.Qualified
import JarAtlas.Text.CharacterClass

namespace JarAtlas

structure Namespace where
  /-- The prefix in dotted form. -/
  name : String
  deriving DecidableEq, Repr

namespace Namespace

/-- The namespace meant by a text: blanks around it are dropped, slashes read
as dots, and the dots at its ends dropped after that. -/
def ofText (text : String) : Namespace :=
  let trimmed := String.ofList (trimBlanks text.toList)
  ⟨String.ofList (stripBoth (· = '.') (dotted trimmed).toList)⟩

def path (ns : Namespace) : String :=
  slashed ns.name

/-- Whether `front` is empty, is all of `text`, or stands before a separator in
it. -/
def covers (separator : Char) (front text : List Char) : Bool :=
  front.isEmpty ||
    match afterStart? front text with
    | some [] => true
    | some (next :: _) => next = separator
    | none => false

/-- Whether a dotted name lies in the namespace.  The empty namespace holds
every name. -/
def contains (ns : Namespace) (name : String) : Bool :=
  covers '.' ns.name.toList name.toList

def containsPath (ns : Namespace) (path : String) : Bool :=
  covers '/' ns.path.toList path.toList

end Namespace

inductive Supertype where
  | root
  | inside (name : String)
  | outside (name : String)
  deriving DecidableEq, Repr

namespace Supertype

def rootName : String := "java/lang/Object"

/-- The supertype that a class header declares.  No name, the empty name and
the root's name all stand for the root. -/
def resolve (ns : Namespace) : Option String → Supertype
  | none => .root
  | some raw =>
    if raw = "" ∨ raw = rootName then
      .root
    else if ns.contains (dotted raw) then
      .inside (dotted raw)
    else
      .outside (dotted raw)

def insideName? : Supertype → Option String
  | inside name => some name
  | _ => none

end Supertype
end JarAtlas
