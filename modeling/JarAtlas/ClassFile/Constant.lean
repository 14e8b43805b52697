/-
The constants of class files.

A class file begins with a pool of constants that the rest refers to by number.
Numbers start at one, and a wide constant leaves the number after its own
empty.
-/
import JarAtlas.Number.Shortest
import JarAtlas.Text.ModifiedUtf8

namespace JarAtlas
namespace ClassFile

inductive MemberSort where
  | field
  | method
  | interfaceMethod
  deriving DecidableEq, Repr

inductive DynamicSort where
  | constant
  | call
  deriving DecidableEq, Repr

/-- A constant.  Numbers refer to other constants; floating-point constants are
kept as their bits. -/
inductive Constant where
  | utf8 (text : String)
  | integer (value : Int)
  | float (bits : Nat)
  | long (value : Int)
  | double (bits : Nat)
  | typeName (name : Nat)
  | string (text : Nat)
  | member (sort : MemberSort) (owner nameAndType : Nat)
  | nameAndType (name descriptor : Nat)
  | methodHandle (kind reference : Nat)
  | methodType (descriptor : Nat)
  | dynamic (sort : DynamicSort) (bootstrap nameAndType : Nat)
  | module (name : Nat)
  | package (name : Nat)
  deriving DecidableEq, Repr

namespace Constant

def width : Constant → Nat
  | long _ => 2
  | double _ => 2
  | _ => 1

def handleNames : List String :=
  ["GetField", "GetStatic", "PutField", "PutStatic", "InvokeVirtual", "InvokeStatic",
   "InvokeSpecial", "NewInvokeSpecial", "InvokeInterface"]

def partsText (name first : String) (a : String) (second : String) (b : Nat) : String :=
  name ++ " \x7b " ++ first ++ ": " ++ a ++ ", " ++ second ++ ": " ++ decimalText b ++ " \x7d"

def numberText (name : String) (number : Nat) : String :=
  name ++ "(" ++ decimalText number ++ ")"

def memberName : MemberSort → String
  | .field => "FieldRef"
  | .method => "MethodRef"
  | .interfaceMethod => "InterfaceMethodRef"

def dynamicName : DynamicSort → String
  | .constant => "Dynamic"
  | .call => "InvokeDynamic"

/-- The text of a constant as an element value.  Texts and numbers stand for
themselves; every other constant is described by its name and parts. -/
def text : Constant → String
  | utf8 text => text
  | integer value => signedText value
  | float bits => BinaryFormat.single.text bits
  | long value => signedText value
  | double bits => BinaryFormat.double.text bits
  | typeName name => numberText "Class" name
  | string text => numberText "String" text
  | member sort owner pair =>
    partsText (memberName sort) "class_index" (decimalText owner) "name_and_type_index" pair
  | nameAndType name descriptor =>
    partsText "NameAndType" "name_index" (decimalText name) "descriptor_index" descriptor
  | methodHandle kind reference =>
    partsText "MethodHandle" "reference_kind" (handleNames.getD (kind - 1) "")
      "reference_index" reference
  | methodType descriptor => numberText "MethodType" descriptor
  | dynamic sort bootstrap pair =>
    partsText (dynamicName sort) "bootstrap_method_attr_index" (decimalText bootstrap)
      "name_and_type_index" pair
  | module name => numberText "Module" name
  | package name => numberText "Package" name

def ofNumber? (make : Nat → Constant) : Step Constant := fun bytes => do
  let (number, rest) ← Bytes.big? 2 bytes
  return (make number, rest)

def ofNumbers? (make : Nat → Nat → Constant) : Step Constant := fun bytes => do
  let (first, rest) ← Bytes.big? 2 bytes
  let (second, rest) ← Bytes.big? 2 rest
  return (make first second, rest)

def ofWide? (width : Nat) (make : Nat → Constant) : Step Constant := fun bytes => do
  let (number, rest) ← Bytes.big? width bytes
  return (make number, rest)

def ofText? : Step Constant := fun bytes => do
  let (length, rest) ← Bytes.big? 2 bytes
  let (encoded, rest) ← Bytes.takeExactly? length [] rest
  let text ← ModifiedUtf8.decode? encoded
  return (utf8 text, rest)

def ofHandle? : Step Constant := fun bytes => do
  let (kind, rest) ← Bytes.big? 1 bytes
  let (reference, rest) ← Bytes.big? 2 rest
  if 1 ≤ kind ∧ kind ≤ 9 then return (methodHandle kind reference, rest) else none

def ofTag? : Nat → Step Constant
  | 1 => ofText?
  | 3 => ofWide? 4 fun number => integer (Bytes.signed 4 number)
  | 4 => ofWide? 4 float
  | 5 => ofWide? 8 fun number => long (Bytes.signed 8 number)
  | 6 => ofWide? 8 double
  | 7 => ofNumber? typeName
  | 8 => ofNumber? string
  | 9 => ofNumbers? (member .field)
  | 10 => ofNumbers? (member .method)
  | 11 => ofNumbers? (member .interfaceMethod)
  | 12 => ofNumbers? nameAndType
  | 15 => ofHandle?
  | 16 => ofNumber? methodType
  | 17 => ofNumbers? (dynamic .constant)
  | 18 => ofNumbers? (dynamic .call)
  | 19 => ofNumber? module
  | 20 => ofNumber? package
  | _ => fun _ => none

def read? : Step Constant := fun bytes => do
  let (tag, rest) ← Bytes.big? 1 bytes
  ofTag? tag rest

end Constant

/-! ### The pool -/

/-- The constants of a class file by number.  Number zero and the number after
a wide constant are empty. -/
structure ConstantPool where
  slots : List (Option Constant)
  deriving DecidableEq, Repr

namespace ConstantPool

def slotsOf (constant : Constant) : List (Option Constant) :=
  some constant :: List.replicate (constant.width - 1) none

/-- Reads constants until at least `wanted` slots are filled; the filled slots
are reversed. -/
def readSlots? : Nat → Nat → List (Option Constant) → Step (List (Option Constant))
  | _, 0, done => fun bytes => some (done.reverse, bytes)
  | 0, _ + 1, _ => fun _ => none
  | fuel + 1, wanted + 1, done => fun bytes =>
    match Constant.read? bytes with
    | none => none
    | some (constant, rest) =>
      let slots := slotsOf constant
      readSlots? fuel (wanted + 1 - slots.length) (slots.reverse ++ done) rest

def read? : Step ConstantPool := fun bytes =>
  match Bytes.big? 2 bytes with
  | none => none
  | some (0, _) => none
  | some (count + 1, rest) =>
    match readSlots? count count [none] rest with
    | none => none
    | some (slots, after) => some (⟨slots⟩, after)

def get? (pool : ConstantPool) (number : Nat) : Option Constant :=
  (pool.slots[number]?).join

def utf8? (pool : ConstantPool) (number : Nat) : Option String :=
  match pool.get? number with
  | some (.utf8 text) => some text
  | _ => none

def typeName? (pool : ConstantPool) (number : Nat) : Option String :=
  match pool.get? number with
  | some (.typeName name) => pool.utf8? name
  | _ => none

def integer? (pool : ConstantPool) (number : Nat) : Option Int :=
  match pool.get? number with
  | some (.integer value) => some value
  | _ => none

end ConstantPool
end ClassFile
end JarAtlas
