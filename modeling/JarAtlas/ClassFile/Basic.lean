/-
Class files.

A class file holds its version, the pool of constants, the class's access flags,
name, supertypes, fields and methods, and attributes on each of them.  Reading
checks the tables and the field descriptors; the names that the tables refer to
are looked up afterwards.  Bytes after the last attribute are ignored.
-/
import JarAtlas.ClassFile.Attribute

namespace JarAtlas

structure ClassFile.WrittenMember where
  access : Nat
  name : Nat
  descriptor : Nat
  annotations : List ClassFile.WrittenAnnotation
  deriving Repr

structure ClassFile where
  pool : ClassFile.ConstantPool
  access : Nat
  name : Nat
  superName : Nat
  interfaces : List Nat
  fields : List ClassFile.WrittenMember
  methods : List ClassFile.WrittenMember
  annotations : List ClassFile.WrittenAnnotation
  deriving Repr

namespace ClassFile

def classFlags : Nat := 0xF631

def fieldFlags : Nat := 0x50DF

def methodFlags : Nat := 0x1DFF

/-- Whether a text starts as the descriptor of a field does: a letter for a
primitive type, `L` and a name up to the final semicolon, or `[` and another
descriptor. -/
def isFieldDescriptor : List Char → Bool
  | [] => false
  | '[' :: rest => isFieldDescriptor rest
  | 'L' :: rest => 2 ≤ rest.length && rest.getLast? = some ';'
  | letter :: _ => ['B', 'C', 'D', 'F', 'I', 'J', 'S', 'Z'].contains letter

def readMember? (flags : Nat) (isSound : String → Bool) (checked : Bool)
    (pool : ConstantPool) : Step WrittenMember := fun bytes => do
  let (access, rest) ← Bytes.big? 2 bytes
  let (name, rest) ← Bytes.big? 2 rest
  let (descriptor, rest) ← Bytes.big? 2 rest
  if checked && !((pool.utf8? descriptor).any isSound) then
    none
  else
    let (annotations, rest) ← Attribute.readTable? pool rest
    return (⟨access &&& flags, name, descriptor, annotations⟩, rest)

def readField? (pool : ConstantPool) : Step WrittenMember :=
  readMember? fieldFlags (fun descriptor => isFieldDescriptor descriptor.toList) true pool

def readMethod? (pool : ConstantPool) : Step WrittenMember :=
  readMember? methodFlags (fun _ => true) false pool

def magic : Nat := 0xCAFEBABE

/-- Whether a version is known.  From major version 56 on, the minor version
marks previews only. -/
def isKnownVersion (minor major : Nat) : Bool :=
  45 ≤ major && major ≤ 69 && (major < 56 || minor = 0 || minor = 65535)

def read? (bytes : Bytes) : Option ClassFile := do
  let (opening, rest) ← Bytes.big? 4 bytes
  let (minor, rest) ← Bytes.big? 2 rest
  let (major, rest) ← Bytes.big? 2 rest
  if opening ≠ magic ∨ !isKnownVersion minor major then
    none
  else
    let (pool, rest) ← ConstantPool.read? rest
    let (access, rest) ← Bytes.big? 2 rest
    let (name, rest) ← Bytes.big? 2 rest
    let (superName, rest) ← Bytes.big? 2 rest
    let (interfaces, rest) ← Bytes.table? (Bytes.big? 2) rest
    let (fields, rest) ← Bytes.table? (readField? pool) rest
    let (methods, rest) ← Bytes.table? (readMethod? pool) rest
    let (annotations, _) ← Attribute.readTable? pool rest
    return ⟨pool, access &&& classFlags, name, superName, interfaces, fields, methods, annotations⟩

end ClassFile
end JarAtlas
