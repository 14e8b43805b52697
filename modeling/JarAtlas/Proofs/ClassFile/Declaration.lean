/-
Classes as they are declared.

A declaration names everything by its text.  It has its annotations in tables,
one for each attribute that a class file is to hold, and its events are told in
the order of the declaration.
-/
import JarAtlas.Annotation.Signature
import JarAtlas.ClassEvent
import JarAtlas.ClassFile.Basic

namespace JarAtlas
namespace ClassFile

/-- The value of an annotation element: a string, a constant of an enumeration,
an annotation, or an array of values. -/
inductive DeclaredValue where
  | string (text : String)
  | constant (descriptor constantName : String)
  | nested (descriptor : String) (pairs : List (String × DeclaredValue))
  | array (items : List DeclaredValue)

namespace DeclaredValue

mutual

def flat : DeclaredValue → String
  | string text => text
  | constant descriptor constantName => Signature.constantText descriptor constantName
  | nested descriptor _ => Signature.nestedText descriptor
  | array items => "\x7b" ++ ", ".intercalate (flatAll items) ++ "\x7d"

def flatAll : List DeclaredValue → List String
  | [] => []
  | item :: rest => item.flat :: flatAll rest

end

mutual

def value (name : Option String) : DeclaredValue → AnnotationValue
  | constant descriptor constantName => .constant name descriptor constantName
  | nested descriptor pairs => .nested name descriptor (values pairs)
  | string text => .plain name text
  | array items => .plain name (flat (array items))

def values : List (String × DeclaredValue) → List AnnotationValue
  | [] => []
  | (name, declared) :: rest => declared.value (some name) :: values rest

end

end DeclaredValue

structure DeclaredAnnotation where
  descriptor : String
  pairs : List (String × DeclaredValue)

def DeclaredAnnotation.use (mark : DeclaredAnnotation) : AnnotationUse :=
  ⟨mark.descriptor, DeclaredValue.values mark.pairs⟩

inductive Retention where
  | visible
  | invisible

def Retention.attributeName : Retention → String
  | visible => "RuntimeVisibleAnnotations"
  | invisible => "RuntimeInvisibleAnnotations"

theorem Retention.attributeName_mem (retention : Retention) :
    retention.attributeName ∈ Attribute.annotationNames := by
  cases retention <;> decide

structure DeclaredTable where
  retention : Retention
  annotations : List DeclaredAnnotation

def DeclaredTable.events (table : DeclaredTable) : List ClassEvent :=
  table.annotations.map fun mark => .annotated mark.use

structure DeclaredMember where
  access : Access
  name : String
  descriptor : String
  tables : List DeclaredTable

namespace DeclaredMember

def fieldEvents (field : DeclaredMember) : List ClassEvent :=
  .field field.name field.descriptor field.access :: field.tables.flatMap DeclaredTable.events

def methodEvents (method : DeclaredMember) : List ClassEvent :=
  .method method.name method.access :: method.tables.flatMap DeclaredTable.events

end DeclaredMember

structure DeclaredClass where
  access : Access
  name : String
  superName : Option String
  interfaces : List String
  tables : List DeclaredTable
  fields : List DeclaredMember
  methods : List DeclaredMember

namespace DeclaredClass

def header (declared : DeclaredClass) : ClassHeader :=
  ⟨declared.name, declared.access, declared.superName, declared.interfaces⟩

def events (declared : DeclaredClass) : List ClassEvent :=
  .header declared.header :: (declared.tables.flatMap DeclaredTable.events ++
    (declared.fields.flatMap DeclaredMember.fieldEvents ++
      (declared.methods.flatMap DeclaredMember.methodEvents ++ [.done])))

end DeclaredClass

/-- The descriptors that the format has for the type of a field. -/
inductive IsFieldDescriptor : List Char → Prop where
  | primitive {letter : Char} (known : letter ∈ ['B', 'C', 'D', 'F', 'I', 'J', 'S', 'Z']) :
      IsFieldDescriptor [letter]
  | object {name : List Char} (named : name ≠ []) : IsFieldDescriptor ('L' :: (name ++ [';']))
  | array {item : List Char} (sound : IsFieldDescriptor item) : IsFieldDescriptor ('[' :: item)

theorem isFieldDescriptor_eq_true {descriptor : List Char}
    (sound : IsFieldDescriptor descriptor) : isFieldDescriptor descriptor = true := by
  induction sound with
  | @primitive letter known =>
      simp only [List.mem_cons, List.not_mem_nil, or_false] at known
      rcases known with rfl | rfl | rfl | rfl | rfl | rfl | rfl | rfl <;> rfl
  | @object name named =>
      have long : 2 ≤ (name ++ [';']).length := by
        have positive := List.length_pos_iff.mpr named
        rw [List.length_append, List.length_singleton]
        omega
      rw [isFieldDescriptor, List.getLast?_concat]
      simp only [long, decide_true, Bool.and_self]
  | array sound ih =>
      rw [isFieldDescriptor]
      exact ih

def IsWithin (flags : Nat) (access : Access) : Prop :=
  access.bits.toNat &&& flags = access.bits.toNat

instance (flags : Nat) (access : Access) : Decidable (IsWithin flags access) :=
  inferInstanceAs (Decidable (access.bits.toNat &&& flags = access.bits.toNat))

/-- Whether a declaration sets only flags of the format and gives its fields
descriptors of fields. -/
structure DeclaredClass.IsValid (declared : DeclaredClass) : Prop where
  access : IsWithin classFlags declared.access
  fields : ∀ field ∈ declared.fields,
    IsWithin fieldFlags field.access ∧ IsFieldDescriptor field.descriptor.toList
  methods : ∀ method ∈ declared.methods, IsWithin methodFlags method.access

end ClassFile
end JarAtlas
