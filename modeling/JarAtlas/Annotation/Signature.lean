/-
Annotations and their signatures.

An annotation names its type by a descriptor and carries element values in the
order of the declaration.  A value is a plain text, a constant of an
enumeration, or another annotation with values of its own; inside an element
each value may be named.  The text of an annotation is an at sign and the dotted
type name, followed by its parameters in parentheses when it has any.  Values
nested to any depth join the one parameter list, each in the order in which it
is visited.  The type of an enumeration constant keeps its slashes and the type
of a nested annotation is dotted; stored models depend on this spelling.
-/
import JarAtlas.Name.TypeDescriptor

namespace JarAtlas

inductive AnnotationValue where
  | plain (name : Option String) (text : String)
  | constant (name : Option String) (descriptor : String) (constantName : String)
  | nested (name : Option String) (descriptor : String) (values : List AnnotationValue)
  deriving Repr

structure AnnotationUse where
  descriptor : String
  values : List AnnotationValue
  deriving Repr

namespace AnnotationUse

def typeName (descriptor : String) : String :=
  dotted (TypeDescriptor.unwrap descriptor)

def shortName (descriptor : String) : String :=
  simpleName (typeName descriptor)

end AnnotationUse

structure Signature where
  typeName : String
  parameters : List String
  deriving DecidableEq, Repr

namespace Signature

def ofTypeName (typeName : String) : Signature :=
  ⟨typeName, []⟩

def ofDescriptor (descriptor : String) : Signature :=
  ofTypeName (AnnotationUse.typeName descriptor)

def labelled : Option String → String → String
  | some name, text => name ++ " = " ++ text
  | none, text => text

def constantText (descriptor constantName : String) : String :=
  TypeDescriptor.unwrap descriptor ++ "." ++ constantName

def nestedText (descriptor : String) : String :=
  "@" ++ AnnotationUse.typeName descriptor

def push (signature : Signature) (parameter : String) : Signature :=
  { signature with parameters := signature.parameters ++ [parameter] }

def plain (signature : Signature) (name : Option String) (text : String) : Signature :=
  signature.push (labelled name text)

def constant (signature : Signature) (name : Option String)
    (descriptor constantName : String) : Signature :=
  signature.push (labelled name (constantText descriptor constantName))

def nested (signature : Signature) (name : Option String) (descriptor : String) : Signature :=
  signature.push (labelled name (nestedText descriptor))

mutual

def apply (signature : Signature) : AnnotationValue → Signature
  | .plain name text => signature.plain name text
  | .constant name descriptor constantName => signature.constant name descriptor constantName
  | .nested name descriptor values => applyAll (signature.nested name descriptor) values

def applyAll (signature : Signature) : List AnnotationValue → Signature
  | [] => signature
  | value :: rest => applyAll (signature.apply value) rest

end

def parameterCount (signature : Signature) : Nat :=
  signature.parameters.length

def text (signature : Signature) : String :=
  match signature.parameters with
  | [] => "@" ++ signature.typeName
  | parameters => "@" ++ signature.typeName ++ "(" ++ ", ".intercalate parameters ++ ")"

/-- One call on a signature in the making.  A `nested` step carries the calls
made on what it opens. -/
inductive Step where
  | plain (name : Option String) (text : String)
  | constant (name : Option String) (descriptor constantName : String)
  | value (value : AnnotationValue)
  | nested (name : Option String) (descriptor : String) (steps : List Step)

mutual

def stages (signature : Signature) : Step → List Signature
  | .plain name text => [signature.plain name text]
  | .constant name descriptor constantName => [signature.constant name descriptor constantName]
  | .value value => [signature.apply value]
  | .nested name descriptor steps =>
    let opened := signature.nested name descriptor
    opened :: stagesAll opened steps

def stagesAll (signature : Signature) : List Step → List Signature
  | [] => []
  | step :: rest =>
    let reached := stages signature step
    reached ++ stagesAll (reached.getLastD signature) rest

end

end Signature

def AnnotationUse.text (mark : AnnotationUse) : String :=
  ((Signature.ofDescriptor mark.descriptor).applyAll mark.values).text

end JarAtlas
