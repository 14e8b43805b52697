/-
XML elements with their namespaces.

A prefix declared on an element holds for the element and everything inside it,
unless it is declared anew.  Resolving a tree of markup replaces each name by
what it stands for, and refuses unknown prefixes, declarations of reserved
names and attributes that are the same once their prefixes are resolved.
-/
import JarAtlas.Xml.Markup

namespace JarAtlas
namespace Xml

/-- A name with the namespace it belongs to.  No namespace and the empty
namespace differ. -/
structure ExpandedName where
  space : Option String
  localName : String
  deriving DecidableEq, Repr

inductive Node where
  | element (name : ExpandedName) (attributes : List (ExpandedName × String))
      (children : List Node)
  | text (content : String)
  | comment (content : String)
  | instruction (target content : String)
  deriving Repr

def reservedStart : String := "http://www.w3.org/"

def xmlSpace : String := reservedStart ++ "XML/1998/namespace"

def declarationSpace : String := reservedStart ++ "2000/xmlns/"

/-- The prefixes in force, innermost first.  The empty prefix is the default
namespace of elements. -/
abbrev Bindings := List (String × String)

namespace Bindings

/-- Adds a declared prefix after those of the same element.  Each prefix but
the empty one is declared once on an element, `xml` stands for its own
namespace and no other prefix for that. -/
def declare? (own : Bindings) (declared space : String) : Option Bindings :=
  if space = declarationSpace then none
  else if declared = "xml" then
    if space = xmlSpace then some own else none
  else if space = xmlSpace then none
  else if declared ≠ "" ∧ (own.lookup declared).isSome then none
  else some (own ++ [(declared, space)])

def ofAttributes? : Bindings → List (QualifiedName × String) →
    List (QualifiedName × String) → Option (Bindings × List (QualifiedName × String))
  | own, plain, [] => some (own, plain.reverse)
  | own, plain, (name, value) :: rest =>
    if name.qualifier = "xmlns" then
      match own.declare? name.localName value with
      | some more => ofAttributes? more plain rest
      | none => none
    else if name.localName = "xmlns" then
      match own.declare? "" value with
      | some more => ofAttributes? more plain rest
      | none => none
    else
      ofAttributes? own ((name, value) :: plain) rest

def elementName? (bindings : Bindings) (name : QualifiedName) : Option ExpandedName :=
  if name.qualifier = "xmlns" then none
  else
    match bindings.lookup name.qualifier with
    | some space => some ⟨some space, name.localName⟩
    | none => if name.qualifier = "" then some ⟨none, name.localName⟩ else none

/-- The name that an attribute's written name stands for.  Without a prefix an
attribute has no namespace. -/
def attributeName? (bindings : Bindings) (name : QualifiedName) : Option ExpandedName :=
  if name.qualifier = "xml" then some ⟨some xmlSpace, name.localName⟩
  else if name.qualifier = "" then some ⟨none, name.localName⟩
  else (bindings.lookup name.qualifier).map fun space => ⟨some space, name.localName⟩

def attributes? (bindings : Bindings) :
    List (ExpandedName × String) → List (QualifiedName × String) →
      Option (List (ExpandedName × String))
  | done, [] => some done.reverse
  | done, (name, value) :: rest =>
    match bindings.attributeName? name with
    | none => none
    | some expanded =>
      if (done.lookup expanded).isSome then none
      else attributes? bindings ((expanded, value) :: done) rest

end Bindings

namespace Node

mutual

def ofMarkup? (bindings : Bindings) : Markup → Option Node
  | .text content => some (.text content)
  | .comment content => some (.comment content)
  | .instruction target content => some (.instruction target content)
  | .element name attributes children =>
    match Bindings.ofAttributes? [] [] attributes with
    | none => none
    | some (own, plain) =>
      let inner : Bindings := own ++ bindings
      match inner.elementName? name, inner.attributes? [] plain, ofMarkupAll? inner children with
      | some expanded, some resolved, some nodes => some (.element expanded resolved nodes)
      | _, _, _ => none

def ofMarkupAll? (bindings : Bindings) : List Markup → Option (List Node)
  | [] => some []
  | markup :: rest =>
    match ofMarkup? bindings markup, ofMarkupAll? bindings rest with
    | some node, some nodes => some (node :: nodes)
    | _, _ => none

end

def ofText? (text : String) : Option Node :=
  (Markup.document? text.toList).bind (ofMarkup? [])

mutual

def descendants : Node → List Node
  | .element name attributes children =>
    .element name attributes children :: descendantsAll children
  | node => [node]

def descendantsAll : List Node → List Node
  | [] => []
  | node :: rest => descendants node ++ descendantsAll rest

end

mutual

def textContent : Node → String
  | .element _ _ children => textContentAll children
  | .text content => content
  | .comment _ => ""
  | .instruction _ _ => ""

def textContentAll : List Node → String
  | [] => ""
  | node :: rest => textContent node ++ textContentAll rest

end

end Node
end Xml
end JarAtlas
