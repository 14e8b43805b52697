/-
The attributes of class files.

Classes, fields and methods carry attributes, each with a name and a declared
length.  Only annotations are read.  Where the format fixes the length of an
attribute the declared length must agree; all other attributes are skipped by
their length.  Annotations are read by their content alone.
-/
import JarAtlas.ClassFile.Constant

namespace JarAtlas
namespace ClassFile

inductive Element where
  | truth (value : Nat)
  | character (value : Nat)
  | constant (value : Nat)
  | typeDescriptor (descriptor : Nat)
  | enumeration (descriptor constantName : Nat)
  | nested (descriptor : Nat) (pairs : List (Nat × Element))
  | array (items : List Element)
  deriving Repr

structure WrittenAnnotation where
  descriptor : Nat
  pairs : List (Nat × Element)
  deriving Repr

namespace Element

inductive Form where
  | truth
  | character
  | constant
  | typeDescriptor
  | enumeration
  | nested
  | array
  deriving DecidableEq, Repr

def form? (tag : Nat) : Option Form :=
  match Char.ofNat tag with
  | 'Z' => some .truth
  | 'C' => some .character
  | 'B' => some .constant
  | 'D' => some .constant
  | 'F' => some .constant
  | 'I' => some .constant
  | 'J' => some .constant
  | 'S' => some .constant
  | 's' => some .constant
  | 'c' => some .typeDescriptor
  | 'e' => some .enumeration
  | '@' => some .nested
  | '[' => some .array
  | _ => none

mutual

def read? : Nat → Step Element
  | 0 => fun _ => none
  | fuel + 1 => fun bytes => do
    let (tag, rest) ← Bytes.big? 1 bytes
    let form ← form? tag
    let (number, rest) ← Bytes.big? 2 rest
    match form with
    | .truth => return (truth number, rest)
    | .character => return (character number, rest)
    | .constant => return (constant number, rest)
    | .typeDescriptor => return (typeDescriptor number, rest)
    | .enumeration =>
      let (name, rest) ← Bytes.big? 2 rest
      return (enumeration number name, rest)
    | .nested =>
      let (count, rest) ← Bytes.big? 2 rest
      let (pairs, rest) ← readPairs? fuel count [] rest
      return (nested number pairs, rest)
    | .array =>
      let (items, rest) ← readItems? fuel number [] rest
      return (array items, rest)

def readPairs? : Nat → Nat → List (Nat × Element) → Step (List (Nat × Element))
  | _, 0, done => fun bytes => some (done.reverse, bytes)
  | 0, _ + 1, _ => fun _ => none
  | fuel + 1, more + 1, done => fun bytes => do
    let (name, rest) ← Bytes.big? 2 bytes
    let (value, rest) ← read? fuel rest
    readPairs? fuel more ((name, value) :: done) rest

def readItems? : Nat → Nat → List Element → Step (List Element)
  | _, 0, done => fun bytes => some (done.reverse, bytes)
  | 0, _ + 1, _ => fun _ => none
  | fuel + 1, more + 1, done => fun bytes => do
    let (value, rest) ← read? fuel bytes
    readItems? fuel more (value :: done) rest

end

end Element

def WrittenAnnotation.read? : Step WrittenAnnotation := fun bytes => do
  let (descriptor, rest) ← Bytes.big? 2 bytes
  let (count, rest) ← Bytes.big? 2 rest
  let (pairs, rest) ← Element.readPairs? (2 * rest.length + 1) count [] rest
  return (⟨descriptor, pairs⟩, rest)

namespace Attribute

def annotationNames : List String :=
  ["RuntimeVisibleAnnotations", "RuntimeInvisibleAnnotations"]

def fixedLength? (name : String) : Option Nat :=
  if ["ConstantValue", "Signature", "SourceFile", "ModuleMainClass", "NestHost"].contains name then
    some 2
  else if name = "EnclosingMethod" then some 4
  else if ["Synthetic", "Deprecated"].contains name then some 0
  else none

def read? (pool : ConstantPool) : Step (List WrittenAnnotation) := fun bytes => do
  let (nameNumber, rest) ← Bytes.big? 2 bytes
  let name ← pool.utf8? nameNumber
  let (length, rest) ← Bytes.big? 4 rest
  if annotationNames.contains name then
    Bytes.table? WrittenAnnotation.read? rest
  else if (fixedLength? name).any (· ≠ length) then
    none
  else
    let (_, rest) ← Bytes.takeExactly? length [] rest
    return ([], rest)

def readTable? (pool : ConstantPool) : Step (List WrittenAnnotation) := fun bytes => do
  let (annotations, rest) ← Bytes.table? (read? pool) bytes
  return (annotations.flatten, rest)

end Attribute
end ClassFile
end JarAtlas
