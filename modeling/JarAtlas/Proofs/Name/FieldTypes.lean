/-
Types of fields and their descriptors.

The type of a field is a primitive type, an object type or an array of items of
another type.  Its descriptor decodes to the type as it is written in a
declaration, and no two types are written alike.  The internal name of an object
type has at least one segment, none of its segments is empty or holds a mark of
descriptors or names, and the whole is not the word for a primitive type: a class
in no package could not be told from this type.
-/
import JarAtlas.Name.TypeDescriptor
import JarAtlas.Proofs.Name.Segments

namespace JarAtlas

inductive PrimitiveType where
  | int
  | boolean
  | byte
  | char
  | double
  | float
  | long
  | short
  | void
  deriving DecidableEq, Repr

namespace PrimitiveType

def code : PrimitiveType → String
  | int => "I"
  | boolean => "Z"
  | byte => "B"
  | char => "C"
  | double => "D"
  | float => "F"
  | long => "J"
  | short => "S"
  | void => "V"

def word : PrimitiveType → String
  | int => "int"
  | boolean => "boolean"
  | byte => "byte"
  | char => "char"
  | double => "double"
  | float => "float"
  | long => "long"
  | short => "short"
  | void => "void"

theorem length_code (type : PrimitiveType) : type.code.length = 1 := by
  cases type <;> rfl

theorem word_injective : Function.Injective word := by
  intro type other
  cases type <;> cases other <;> decide

theorem dot_not_mem_word (type : PrimitiveType) : '.' ∉ type.word.toList := by
  cases type <;> decide

theorem bracket_not_mem_word (type : PrimitiveType) : '[' ∉ type.word.toList := by
  cases type <;> decide

end PrimitiveType

/-- A segment is not empty and holds no mark of names or descriptors. -/
structure IsSegment (segment : String) : Prop where
  nonempty : segment ≠ ""
  noDot : '.' ∉ segment.toList
  noSemicolon : ';' ∉ segment.toList
  noBracket : '[' ∉ segment.toList
  noSlash : '/' ∉ segment.toList

@[ext]
structure ObjectName where
  segments : List String
  named : segments ≠ []
  sound : ∀ segment ∈ segments, IsSegment segment
  noWord : ∀ type : PrimitiveType, "/".intercalate segments ≠ type.word

namespace ObjectName

def internal (name : ObjectName) : String :=
  "/".intercalate name.segments

theorem internal_ne_empty (name : ObjectName) : name.internal ≠ "" := by
  intro empty
  have cut := segmentsBy_intercalate name.named fun segment listed =>
    (name.sound segment listed).noSlash
  have blank : segmentsBy '/' name.internal = [""] := by
    rw [empty]
    rfl
  have listed : "" ∈ name.segments := cut.symm.trans blank ▸ List.mem_singleton_self ""
  exact (name.sound "" listed).nonempty rfl

end ObjectName

inductive FieldType where
  | primitive (type : PrimitiveType)
  | object (name : ObjectName)
  | array (item : FieldType)

def FieldType.descriptor : FieldType → String
  | .primitive type => type.code
  | .object name => "L" ++ name.internal ++ ";"
  | .array item => "[" ++ item.descriptor

def FieldType.written : FieldType → String
  | .primitive type => type.word
  | .object name => ".".intercalate name.segments
  | .array item => item.written ++ "[]"

/-! ### Decoding -/

namespace TypeDescriptor

theorem primitive?_eq_some_iff {code word : String} :
    primitive? code = some word ↔
      ∃ type : PrimitiveType, type.code = code ∧ type.word = word := by
  constructor
  · intro known
    unfold primitive? at known
    split at known
    all_goals cases known
    · exact ⟨.int, rfl, rfl⟩
    · exact ⟨.boolean, rfl, rfl⟩
    · exact ⟨.byte, rfl, rfl⟩
    · exact ⟨.char, rfl, rfl⟩
    · exact ⟨.double, rfl, rfl⟩
    · exact ⟨.float, rfl, rfl⟩
    · exact ⟨.long, rfl, rfl⟩
    · exact ⟨.short, rfl, rfl⟩
    · exact ⟨.void, rfl, rfl⟩
  · rintro ⟨type, rfl, rfl⟩
    cases type <;> rfl

theorem decode_bracket (text : String) : decode ("[" ++ text) = decode text ++ "[]" := by
  have marked : ("[" ++ text).toList = '[' :: text.toList := by
    rw [String.toList_append]
    rfl
  have dropped : ('[' :: text.toList).dropWhile (· = '[') = text.toList.dropWhile (· = '[') :=
    List.dropWhile_cons_of_pos (by decide)
  have taken : ('[' :: text.toList).takeWhile (· = '[') =
      '[' :: text.toList.takeWhile (· = '[') :=
    List.takeWhile_cons_of_pos (by decide)
  unfold decode
  dsimp only
  rw [marked, dropped, taken, List.length_cons, List.replicate_succ', String.join_append,
    String.join_cons, String.join_nil, String.append_empty, String.append_assoc]

theorem decode_of_bracket_free {code : String} (free : code.toList.head? ≠ some '[') :
    decode code = elementName code.toList := by
  have stays : code.toList.takeWhile (· = '[') = [] ∧
      code.toList.dropWhile (· = '[') = code.toList := by
    cases text : code.toList with
    | nil => exact ⟨rfl, rfl⟩
    | cons c rest =>
        rw [text] at free
        have other : ¬decide (c = '[') = true := by simpa using free
        exact ⟨List.takeWhile_cons_of_neg other, List.dropWhile_cons_of_neg other⟩
  unfold decode
  dsimp only
  rw [stays.1, stays.2, List.length_nil, List.replicate_zero, String.join_nil,
    String.append_empty]

theorem decode_code (type : PrimitiveType) : decode type.code = type.word := by
  cases type <;> decide

theorem decode_object (name : ObjectName) :
    decode ("L" ++ name.internal ++ ";") = ".".intercalate name.segments := by
  have noBracket : ('L' :: (name.internal.toList ++ [';'])).head? ≠ some '[' := by
    rw [List.head?_cons]
    decide
  have noCode : primitive? (String.ofList ('L' :: (name.internal.toList ++ [';']))) = none := by
    rw [Option.eq_none_iff_forall_ne_some]
    intro word known
    obtain ⟨type, same, _⟩ := primitive?_eq_some_iff.mp known
    have lengths := congrArg String.length same
    rw [type.length_code, String.length_ofList, List.length_cons, List.length_append,
      List.length_singleton] at lengths
    omega
  have inner : afterStart? ['L'] ('L' :: (name.internal.toList ++ [';'])) =
      some (name.internal.toList ++ [';']) :=
    afterStart?_eq_some_iff.mpr rfl
  have nonempty : ¬name.internal.toList.isEmpty = true := by
    rw [List.isEmpty_iff, String.toList_eq_nil_iff]
    exact name.internal_ne_empty
  rw [decode_of_bracket_free (by rwa [toList_object]), toList_object, elementName, noCode]
  dsimp only
  rw [inner]
  dsimp only
  rw [withoutSemicolon_append, if_neg nonempty, String.ofList_toList, ObjectName.internal,
    dotted_intercalate fun segment listed => (name.sound segment listed).noSlash]

theorem decode_descriptor (type : FieldType) : decode type.descriptor = type.written := by
  induction type with
  | primitive type => exact decode_code type
  | object name => exact decode_object name
  | array item ih => rw [FieldType.descriptor, decode_bracket, ih, FieldType.written]

end TypeDescriptor

namespace FieldType

theorem segmentsBy_written_object (name : ObjectName) :
    segmentsBy '.' (written (.object name)) = name.segments :=
  segmentsBy_intercalate name.named fun segment listed =>
    (name.sound segment listed).noDot

theorem written_object_ne_word (name : ObjectName) (type : PrimitiveType) :
    written (.object name) ≠ type.word := by
  intro same
  have alone : name.segments = [type.word] := by
    rw [← segmentsBy_written_object name, same,
      segmentsBy_of_free type.dot_not_mem_word]
  apply name.noWord type
  rw [alone, String.intercalate_singleton]

theorem bracket_not_mem_written_primitive (type : PrimitiveType) :
    '[' ∉ (written (.primitive type)).toList :=
  type.bracket_not_mem_word

theorem bracket_not_mem_written_object (name : ObjectName) :
    '[' ∉ (written (.object name)).toList :=
  not_mem_intercalate (by decide) fun segment listed => (name.sound segment listed).noBracket

theorem bracket_mem_written_array (item : FieldType) :
    '[' ∈ (written (.array item)).toList := by
  rw [written, String.toList_append]
  exact List.mem_append_right _ List.mem_cons_self

theorem written_injective : Function.Injective written := by
  intro type
  induction type with
  | primitive type =>
      intro other same
      cases other with
      | primitive other => rw [type.word_injective same]
      | object name => exact absurd same.symm (written_object_ne_word name type)
      | array item =>
          exact absurd (same ▸ bracket_mem_written_array item)
            (bracket_not_mem_written_primitive type)
  | object name =>
      intro other same
      cases other with
      | primitive type => exact absurd same (written_object_ne_word name type)
      | object other =>
          have segments : name.segments = other.segments := by
            rw [← segmentsBy_written_object name, same, segmentsBy_written_object]
          rw [ObjectName.ext segments]
      | array item =>
          exact absurd (same ▸ bracket_mem_written_array item)
            (bracket_not_mem_written_object name)
  | array item ih =>
      intro other same
      cases other with
      | primitive type =>
          exact absurd (same ▸ bracket_mem_written_array item)
            (bracket_not_mem_written_primitive type)
      | object name =>
          exact absurd (same ▸ bracket_mem_written_array item)
            (bracket_not_mem_written_object name)
      | array other =>
          rw [ih ((String.append_left_inj "[]").mp same)]

end FieldType

/-- The descriptor of a type decodes to the word of a primitive type, to the dotted
name of an object type, and to the items' type with a pair of brackets behind it
for an array, however many dimensions there are.  So descriptors of different types
never decode alike.  A bracket in front of a text that is no descriptor adds a pair
of brackets as well. -/
theorem TypeDescriptor.decode_tells_types :
    (∀ type : FieldType, decode type.descriptor = type.written) ∧
      (∀ type other : FieldType,
        decode type.descriptor = decode other.descriptor ↔ type = other) ∧
      ∀ text : String, decode ("[" ++ text) = decode text ++ "[]" := by
  refine ⟨decode_descriptor, fun type other => ?_, decode_bracket⟩
  rw [decode_descriptor, decode_descriptor]
  exact FieldType.written_injective.eq_iff

example :
    TypeDescriptor.decode "[[Ljava/util/List;" = "java.util.List[][]" ∧
      TypeDescriptor.decode "[L;" = "L;[]" := by
  decide +kernel

end JarAtlas
