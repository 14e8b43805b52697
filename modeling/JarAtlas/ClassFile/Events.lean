/-
The events of a class file.

Looking up the names that a class file refers to gives the stream of its
events, in the order of the declaration.  The first constant that is missing or
of the wrong kind is the fault of the file.
-/
import JarAtlas.Annotation.Signature
import JarAtlas.ClassEvent
import JarAtlas.ClassFile.Basic

namespace JarAtlas
namespace ClassFile

inductive Fault where
  | notAClassFile
  | noClassName
  | badText (number : Nat)
  | badTypeName (number : Nat)
  | noInteger (number : Nat)
  | noConstant (number : Nat)
  deriving DecidableEq, Repr

def Fault.message : Fault → String
  | notAClassFile => "failed to parse class file"
  | noClassName => "missing class name"
  | badText number => "bad utf8 constant #" ++ decimalText number
  | badTypeName number => "bad class constant #" ++ decimalText number
  | noInteger number => "constant #" ++ decimalText number ++ " is not an integer"
  | noConstant number => "missing constant #" ++ decimalText number

namespace ConstantPool

def utf8 (pool : ConstantPool) (number : Nat) : Except Fault String :=
  match pool.utf8? number with
  | some text => .ok text
  | none => .error (.badText number)

def typeName (pool : ConstantPool) (number : Nat) : Except Fault String :=
  match pool.typeName? number with
  | some name => .ok name
  | none => .error (.badTypeName number)

def integer (pool : ConstantPool) (number : Nat) : Except Fault Int :=
  match pool.integer? number with
  | some value => .ok value
  | none => .error (.noInteger number)

def constantText (pool : ConstantPool) (number : Nat) : Except Fault String :=
  match pool.get? number with
  | some constant => .ok constant.text
  | none => .error (.noConstant number)

end ConstantPool

namespace Element

/-- The character with a given code, or the code itself when there is none. -/
def characterText (code : Int) : String :=
  if 0 ≤ code ∧ code.toNat.isValidChar then String.singleton (Char.ofNat code.toNat)
  else signedText code

def arrayText (items : List String) : String :=
  "\x7b" ++ ", ".intercalate items ++ "\x7d"

mutual

/-- The flat text of an element.  An annotation is told by its type alone. -/
def text (pool : ConstantPool) : Element → Except Fault String
  | truth value => do
    let number ← pool.integer value
    return if number ≠ 0 then "true" else "false"
  | character value => do
    let code ← pool.integer value
    return characterText code
  | constant value => pool.constantText value
  | typeDescriptor descriptor => pool.utf8 descriptor
  | enumeration descriptor constantName => do
    let type ← pool.utf8 descriptor
    let name ← pool.utf8 constantName
    return Signature.constantText type name
  | nested descriptor _ => do
    let type ← pool.utf8 descriptor
    return Signature.nestedText type
  | array items => do
    let texts ← textAll pool items
    return arrayText texts

def textAll (pool : ConstantPool) : List Element → Except Fault (List String)
  | [] => .ok []
  | item :: rest => do
    let first ← text pool item
    let others ← textAll pool rest
    return first :: others

end

mutual

def value (pool : ConstantPool) (name : Option String) :
    Element → Except Fault AnnotationValue
  | enumeration descriptor constantName => do
    let type ← pool.utf8 descriptor
    let constant ← pool.utf8 constantName
    return .constant name type constant
  | nested descriptor pairs => do
    let type ← pool.utf8 descriptor
    let values ← valueAll pool pairs
    return .nested name type values
  | element => do
    let flat ← element.text pool
    return .plain name flat

def valueAll (pool : ConstantPool) : List (Nat × Element) → Except Fault (List AnnotationValue)
  | [] => .ok []
  | (nameNumber, element) :: rest => do
    let name ← pool.utf8 nameNumber
    let first ← value pool (some name) element
    let others ← valueAll pool rest
    return first :: others

end

end Element

def WrittenAnnotation.resolve (pool : ConstantPool) (written : WrittenAnnotation) :
    Except Fault AnnotationUse := do
  let descriptor ← pool.utf8 written.descriptor
  let values ← Element.valueAll pool written.pairs
  return ⟨descriptor, values⟩

def annotationEvents (pool : ConstantPool) (written : List WrittenAnnotation) :
    Except Fault (List ClassEvent) :=
  written.mapM fun mark => do
    let resolved ← mark.resolve pool
    return .annotated resolved

def fieldEvents (pool : ConstantPool) (field : WrittenMember) : Except Fault (List ClassEvent) := do
  let name ← pool.utf8 field.name
  let descriptor ← pool.utf8 field.descriptor
  let annotations ← annotationEvents pool field.annotations
  return .field name descriptor ⟨field.access.toUInt16⟩ :: annotations

def methodEvents (pool : ConstantPool) (method : WrittenMember) : Except Fault (List ClassEvent) := do
  let name ← pool.utf8 method.name
  let annotations ← annotationEvents pool method.annotations
  return .method name ⟨method.access.toUInt16⟩ :: annotations

def header (file : ClassFile) : Except Fault ClassHeader := do
  let name ←
    match file.pool.typeName? file.name with
    | some name => .ok name
    | none => .error .noClassName
  let superName ←
    if file.superName = 0 then .ok none
    else (file.pool.typeName file.superName).map some
  let interfaces ← file.interfaces.mapM file.pool.typeName
  return ⟨name, ⟨file.access.toUInt16⟩, superName, interfaces⟩

def events (file : ClassFile) : Except Fault (List ClassEvent) := do
  let header ← file.header
  let annotations ← annotationEvents file.pool file.annotations
  let fields ← file.fields.mapM (fieldEvents file.pool)
  let methods ← file.methods.mapM (methodEvents file.pool)
  return .header header :: (annotations ++ (fields.flatten ++ (methods.flatten ++ [.done])))

def eventsOfBytes (bytes : Bytes) : Except Fault (List ClassEvent) :=
  match read? bytes with
  | some file => file.events
  | none => .error .notAClassFile

end ClassFile
end JarAtlas
