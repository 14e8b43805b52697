/-
Class files, read after writing.

A layout is a class file as a writer puts it down: the constants of the pool in
any order, with all that refers to them by number, and the annotations of each
place in attributes of their own, visible at run time or not.  Reading the bytes
of a layout gives back its numbers and, place by place, all its annotations.
-/
import JarAtlas.ClassFile.Basic
import JarAtlas.Proofs.ClassFile.Constants

namespace JarAtlas
namespace ClassFile

open Bytes (big rows Reads reads_big? reads_two reads_table?)

namespace Element

def Form.tag : Form → Nat
  | .truth => 'Z'.toNat
  | .character => 'C'.toNat
  | .constant => 's'.toNat
  | .typeDescriptor => 'c'.toNat
  | .enumeration => 'e'.toNat
  | .nested => '@'.toNat
  | .array => '['.toNat

theorem form?_tag (form : Form) : form? form.tag = some form := by
  cases form <;> rfl

theorem Form.tag_lt (form : Form) : form.tag < 256 := by
  cases form <;> decide

mutual

def bytes : Element → Bytes
  | truth value => big 1 Form.truth.tag ++ big 2 value
  | character value => big 1 Form.character.tag ++ big 2 value
  | constant value => big 1 Form.constant.tag ++ big 2 value
  | typeDescriptor descriptor => big 1 Form.typeDescriptor.tag ++ big 2 descriptor
  | enumeration descriptor name =>
    big 1 Form.enumeration.tag ++ (big 2 descriptor ++ big 2 name)
  | nested descriptor pairs =>
    big 1 Form.nested.tag ++ (big 2 descriptor ++ (big 2 pairs.length ++ pairsBytes pairs))
  | array items => big 1 Form.array.tag ++ (big 2 items.length ++ itemsBytes items)

def pairsBytes : List (Nat × Element) → Bytes
  | [] => []
  | (name, value) :: rest => big 2 name ++ (value.bytes ++ pairsBytes rest)

def itemsBytes : List Element → Bytes
  | [] => []
  | item :: rest => item.bytes ++ itemsBytes rest

end

mutual

/-- The numbers that an element puts into fields of two bytes: references to
constants, and counts. -/
def numbers : Element → List Nat
  | truth value => [value]
  | character value => [value]
  | constant value => [value]
  | typeDescriptor descriptor => [descriptor]
  | enumeration descriptor name => [descriptor, name]
  | nested descriptor pairs => descriptor :: pairs.length :: pairsNumbers pairs
  | array items => items.length :: itemsNumbers items

def pairsNumbers : List (Nat × Element) → List Nat
  | [] => []
  | (name, value) :: rest => name :: (value.numbers ++ pairsNumbers rest)

def itemsNumbers : List Element → List Nat
  | [] => []
  | item :: rest => item.numbers ++ itemsNumbers rest

end

end Element

def Small (numbers : List Nat) : Prop :=
  ∀ number ∈ numbers, number < 65536

instance (numbers : List Nat) : Decidable (Small numbers) :=
  inferInstanceAs (Decidable (∀ number ∈ numbers, number < 65536))

theorem small_cons {number : Nat} {numbers : List Nat} :
    Small (number :: numbers) ↔ number < 65536 ∧ Small numbers :=
  List.forall_mem_cons

theorem small_append {front back : List Nat} :
    Small (front ++ back) ↔ Small front ∧ Small back :=
  List.forall_mem_append

namespace Element

theorem three_le_length_bytes (element : Element) : 3 ≤ element.bytes.length := by
  cases element <;> simp only [bytes, List.length_append, Bytes.length_big] <;> omega

/-- What reading makes of written elements under some fuel.  Each step down takes
one of the fuel, and what it goes into is shorter by two bytes or more; so a fuel
as large as the number of bytes is never used up. -/
structure ReadsBack (fuel : Nat) : Prop where
  element : ∀ element : Element, Small element.numbers → element.bytes.length ≤ fuel + 2 →
    Reads (read? fuel) element.bytes element
  pairs : ∀ (pairs done : List (Nat × Element)) (rest : Bytes), Small (pairsNumbers pairs) →
    (pairsBytes pairs).length ≤ fuel →
    readPairs? fuel pairs.length done (pairsBytes pairs ++ rest) =
      some (done.reverse ++ pairs, rest)
  items : ∀ (items done : List Element) (rest : Bytes), Small (itemsNumbers items) →
    (itemsBytes items).length ≤ fuel →
    readItems? fuel items.length done (itemsBytes items ++ rest) =
      some (done.reverse ++ items, rest)

section

variable {fuel : Nat}

theorem read?_succ (form : Form) {number : Nat} (small : number < 65536) (rest : Bytes) :
    read? (fuel + 1) (big 1 form.tag ++ (big 2 number ++ rest)) =
      match form with
      | .truth => some (truth number, rest)
      | .character => some (character number, rest)
      | .constant => some (constant number, rest)
      | .typeDescriptor => some (typeDescriptor number, rest)
      | .enumeration =>
        (Bytes.big? 2 rest).bind fun (name, rest) => some (enumeration number name, rest)
      | .nested =>
        (Bytes.big? 2 rest).bind fun (count, rest) =>
          (readPairs? fuel count [] rest).bind fun (pairs, rest) =>
            some (nested number pairs, rest)
      | .array =>
        (readItems? fuel number [] rest).bind fun (items, rest) => some (array items, rest) := by
  have tag : Reads (Bytes.big? 1) (big 1 form.tag) form.tag := reads_big? form.tag_lt
  simp only [read?, tag.bind, form?_tag, Option.bind_eq_bind, Option.bind_some]
  rw [reads_two small, Option.bind_some]
  cases form <;> rfl

theorem ReadsBack.element_succ (back : ReadsBack fuel) (element : Element)
    (small : Small element.numbers) (enough : element.bytes.length ≤ fuel + 1 + 2) :
    Reads (read? (fuel + 1)) element.bytes element := by
  intro rest
  cases element with
  | truth value =>
      rw [numbers, small_cons] at small
      rw [bytes, List.append_assoc, read?_succ .truth small.1]
  | character value =>
      rw [numbers, small_cons] at small
      rw [bytes, List.append_assoc, read?_succ .character small.1]
  | constant value =>
      rw [numbers, small_cons] at small
      rw [bytes, List.append_assoc, read?_succ .constant small.1]
  | typeDescriptor descriptor =>
      rw [numbers, small_cons] at small
      rw [bytes, List.append_assoc, read?_succ .typeDescriptor small.1]
  | enumeration descriptor name =>
      rw [numbers, small_cons, small_cons] at small
      rw [bytes, List.append_assoc, List.append_assoc, read?_succ .enumeration small.1]
      dsimp only
      rw [reads_two small.2.1, Option.bind_some]
  | nested descriptor pairs =>
      rw [numbers, small_cons, small_cons] at small
      simp only [bytes, List.length_append, Bytes.length_big] at enough
      simp only [bytes, List.append_assoc]
      rw [read?_succ .nested small.1]
      dsimp only
      rw [reads_two small.2.1, Option.bind_some]
      dsimp only
      rw [back.pairs pairs [] rest small.2.2 (by omega), Option.bind_some, List.reverse_nil,
        List.nil_append]
  | array items =>
      rw [numbers, small_cons] at small
      simp only [bytes, List.length_append, Bytes.length_big] at enough
      simp only [bytes, List.append_assoc]
      rw [read?_succ .array small.1]
      dsimp only
      rw [back.items items [] rest small.2 (by omega), Option.bind_some, List.reverse_nil,
        List.nil_append]

theorem ReadsBack.pairs_succ (back : ReadsBack fuel) (pairs done : List (Nat × Element))
    (rest : Bytes) (small : Small (pairsNumbers pairs))
    (enough : (pairsBytes pairs).length ≤ fuel + 1) :
    readPairs? (fuel + 1) pairs.length done (pairsBytes pairs ++ rest) =
      some (done.reverse ++ pairs, rest) := by
  cases pairs with
  | nil => rw [List.length_nil, readPairs?, pairsBytes, List.nil_append, List.append_nil]
  | cons pair pairs =>
      obtain ⟨name, value⟩ := pair
      rw [pairsNumbers, small_cons, small_append] at small
      simp only [pairsBytes, List.length_append, Bytes.length_big] at enough
      simp only [pairsBytes, List.append_assoc, List.length_cons]
      have first := back.element value small.2.1 (by omega)
      simp only [readPairs?, (reads_two small.1).bind, first.bind]
      rw [back.pairs pairs _ rest small.2.2 (by omega), List.reverse_cons, List.append_assoc,
        List.singleton_append]

theorem ReadsBack.items_succ (back : ReadsBack fuel) (items done : List Element)
    (rest : Bytes) (small : Small (itemsNumbers items))
    (enough : (itemsBytes items).length ≤ fuel + 1) :
    readItems? (fuel + 1) items.length done (itemsBytes items ++ rest) =
      some (done.reverse ++ items, rest) := by
  cases items with
  | nil => rw [List.length_nil, readItems?, itemsBytes, List.nil_append, List.append_nil]
  | cons item items =>
      have long := item.three_le_length_bytes
      rw [itemsNumbers, small_append] at small
      rw [itemsBytes, List.length_append] at enough
      have first := back.element item small.1 (by omega)
      simp only [itemsBytes, readItems?, List.append_assoc, List.length_cons, first.bind]
      rw [back.items items _ rest small.2 (by omega), List.reverse_cons, List.append_assoc,
        List.singleton_append]

end

theorem readsBack (fuel : Nat) : ReadsBack fuel := by
  induction fuel with
  | zero =>
      -- Without fuel only empty lists are read, and nothing else is that short.
      refine ⟨fun element _ enough => ?_, fun pairs done rest _ enough => ?_,
        fun items done rest _ enough => ?_⟩
      · have long := element.three_le_length_bytes
        omega
      · cases pairs with
        | nil => rw [List.length_nil, readPairs?, pairsBytes, List.nil_append, List.append_nil]
        | cons pair pairs =>
            obtain ⟨name, value⟩ := pair
            simp only [pairsBytes, List.length_append, Bytes.length_big] at enough
            omega
      · cases items with
        | nil => rw [List.length_nil, readItems?, itemsBytes, List.nil_append, List.append_nil]
        | cons item items =>
            have long := item.three_le_length_bytes
            rw [itemsBytes, List.length_append] at enough
            omega
  | succ fuel ih =>
      exact {
        element := ih.element_succ
        pairs := ih.pairs_succ
        items := ih.items_succ }

end Element

/-! ### Annotations and attributes -/

def WrittenAnnotation.bytes (mark : WrittenAnnotation) : Bytes :=
  big 2 mark.descriptor ++ (big 2 mark.pairs.length ++ Element.pairsBytes mark.pairs)

def WrittenAnnotation.numbers (mark : WrittenAnnotation) : List Nat :=
  mark.descriptor :: mark.pairs.length :: Element.pairsNumbers mark.pairs

theorem WrittenAnnotation.reads_bytes {mark : WrittenAnnotation} (small : Small mark.numbers) :
    Reads WrittenAnnotation.read? mark.bytes mark := by
  intro rest
  rw [numbers, small_cons, small_cons] at small
  simp only [bytes, read?, List.append_assoc, (reads_two small.1).bind, (reads_two small.2.1).bind]
  rw [(Element.readsBack _).pairs mark.pairs [] rest small.2.2 (by rw [List.length_append]; omega)]
  rfl

/-- An attribute that holds annotations: the number of its name, and the
annotations. -/
structure AttributeLayout where
  name : Nat
  annotations : List WrittenAnnotation

namespace AttributeLayout

def content (layout : AttributeLayout) : Bytes :=
  rows WrittenAnnotation.bytes layout.annotations

def bytes (layout : AttributeLayout) : Bytes :=
  big 2 layout.name ++ (big 4 layout.content.length ++ layout.content)

def numbers (layout : AttributeLayout) : List Nat :=
  layout.name :: layout.annotations.length ::
    layout.annotations.flatMap WrittenAnnotation.numbers

def IsNamed (pool : ConstantPool) (layout : AttributeLayout) : Prop :=
  ∃ name ∈ Attribute.annotationNames, pool.utf8? layout.name = some name

end AttributeLayout

theorem small_flatMap {α : Type} {numbers : α → List Nat} {items : List α} :
    Small (items.flatMap numbers) ↔ ∀ item ∈ items, Small (numbers item) := by
  simp only [Small, List.mem_flatMap]
  exact ⟨fun small item member number found => small number ⟨item, member, found⟩,
    fun small number ⟨item, member, found⟩ => small item member number found⟩

theorem AttributeLayout.reads_bytes {pool : ConstantPool} {layout : AttributeLayout}
    (small : Small layout.numbers) (named : layout.IsNamed pool) :
    Reads (Attribute.read? pool) layout.bytes layout.annotations := by
  intro rest
  obtain ⟨name, isName, found⟩ := named
  rw [numbers, small_cons, small_cons, small_flatMap] at small
  have marks : Reads (Bytes.table? WrittenAnnotation.read?) layout.content
      (layout.annotations.map id) :=
    reads_table? small.2.1 fun mark member => WrittenAnnotation.reads_bytes (small.2.2 mark member)
  simp only [bytes, Attribute.read?, List.append_assoc, (reads_two small.1).bind, found,
    Option.bind_eq_bind, Option.bind_some]
  rw [Bytes.reads_big?_of_length (Bytes.length_big 4 _), Option.bind_some]
  dsimp only
  rw [if_pos (List.contains_iff_mem.mpr isName), marks, List.map_id]

def attributeNumbers (layouts : List AttributeLayout) : List Nat :=
  layouts.length :: layouts.flatMap AttributeLayout.numbers

theorem reads_attributes {pool : ConstantPool} {layouts : List AttributeLayout}
    (small : Small (attributeNumbers layouts)) (named : ∀ layout ∈ layouts, layout.IsNamed pool) :
    Reads (Attribute.readTable? pool) (rows AttributeLayout.bytes layouts)
      (layouts.flatMap AttributeLayout.annotations) := by
  intro rest
  rw [attributeNumbers, small_cons, small_flatMap] at small
  rw [Attribute.readTable?, reads_table? small.1 fun layout member =>
    AttributeLayout.reads_bytes (small.2 layout member) (named layout member)]
  rfl

structure MemberLayout where
  access : Nat
  name : Nat
  descriptor : Nat
  attributes : List AttributeLayout

namespace MemberLayout

def bytes (layout : MemberLayout) : Bytes :=
  big 2 layout.access ++ (big 2 layout.name ++ (big 2 layout.descriptor ++
    rows AttributeLayout.bytes layout.attributes))

def numbers (layout : MemberLayout) : List Nat :=
  layout.access :: layout.name :: layout.descriptor :: attributeNumbers layout.attributes

def written (layout : MemberLayout) : WrittenMember :=
  ⟨layout.access, layout.name, layout.descriptor,
    layout.attributes.flatMap AttributeLayout.annotations⟩

/-- Whether a member sets only the given flags and its attributes hold
annotations. -/
structure IsKnown (flags : Nat) (pool : ConstantPool) (layout : MemberLayout) : Prop where
  access : layout.access &&& flags = layout.access
  named : ∀ held ∈ layout.attributes, held.IsNamed pool

theorem reads_readMember? {flags : Nat} {isSound : String → Bool} {checked : Bool}
    {pool : ConstantPool} {layout : MemberLayout} (small : Small layout.numbers)
    (known : layout.IsKnown flags pool)
    (sound : checked = true → (pool.utf8? layout.descriptor).any isSound = true) :
    Reads (readMember? flags isSound checked pool) layout.bytes layout.written := by
  intro rest
  rw [numbers, small_cons, small_cons, small_cons] at small
  have passed : ¬(checked && !((pool.utf8? layout.descriptor).any isSound)) = true := by
    cases checked with
    | false => exact Bool.false_ne_true
    | true =>
        rw [sound rfl]
        exact Bool.false_ne_true
  simp only [bytes, readMember?, List.append_assoc, (reads_two small.1).bind,
    (reads_two small.2.1).bind, (reads_two small.2.2.1).bind]
  rw [if_neg passed, (reads_attributes small.2.2.2 known.named).bind, known.access]
  rfl

theorem reads_readField? {pool : ConstantPool} {layout : MemberLayout}
    (small : Small layout.numbers) (known : layout.IsKnown fieldFlags pool)
    (sound : (pool.utf8? layout.descriptor).any (isFieldDescriptor ·.toList) = true) :
    Reads (readField? pool) layout.bytes layout.written :=
  reads_readMember? small known fun _ => sound

theorem reads_readMethod? {pool : ConstantPool} {layout : MemberLayout}
    (small : Small layout.numbers) (known : layout.IsKnown methodFlags pool) :
    Reads (readMethod? pool) layout.bytes layout.written :=
  reads_readMember? small known fun checked => absurd checked Bool.false_ne_true

end MemberLayout

/-! ### Classes -/

structure ClassLayout where
  constants : List Constant
  access : Nat
  name : Nat
  superName : Nat
  interfaces : List Nat
  fields : List MemberLayout
  methods : List MemberLayout
  attributes : List AttributeLayout

namespace ClassLayout

def pool (layout : ClassLayout) : ConstantPool :=
  .ofConstants layout.constants

def bytes (layout : ClassLayout) : Bytes :=
  big 4 magic ++ (big 2 0 ++ (big 2 52 ++ (ConstantPool.bytes layout.constants ++
    (big 2 layout.access ++ (big 2 layout.name ++ (big 2 layout.superName ++
      (rows (big 2) layout.interfaces ++ (rows MemberLayout.bytes layout.fields ++
        (rows MemberLayout.bytes layout.methods ++
          rows AttributeLayout.bytes layout.attributes)))))))))

def numbers (layout : ClassLayout) : List Nat :=
  layout.access :: layout.name :: layout.superName ::
    (layout.interfaces.length :: layout.interfaces) ++
    (layout.fields.length :: layout.fields.flatMap MemberLayout.numbers) ++
    (layout.methods.length :: layout.methods.flatMap MemberLayout.numbers) ++
    attributeNumbers layout.attributes

structure Fits (layout : ClassLayout) : Prop where
  constants : ∀ constant ∈ layout.constants, constant.Fits
  few : ConstantPool.countOf layout.constants < 65536
  numbers : Small layout.numbers

/-- Whether a class sets only flags of the format, its fields have descriptors of
fields, and all its attributes hold annotations. -/
structure IsKnown (layout : ClassLayout) : Prop where
  access : layout.access &&& classFlags = layout.access
  fields : ∀ field ∈ layout.fields, field.IsKnown fieldFlags layout.pool ∧
    (layout.pool.utf8? field.descriptor).any (isFieldDescriptor ·.toList) = true
  methods : ∀ method ∈ layout.methods, method.IsKnown methodFlags layout.pool
  named : ∀ held ∈ layout.attributes, held.IsNamed layout.pool

def file (layout : ClassLayout) : ClassFile where
  pool := layout.pool
  access := layout.access
  name := layout.name
  superName := layout.superName
  interfaces := layout.interfaces
  fields := layout.fields.map MemberLayout.written
  methods := layout.methods.map MemberLayout.written
  annotations := layout.attributes.flatMap AttributeLayout.annotations

theorem reads_interfaces {interfaces : List Nat} (few : interfaces.length < 65536)
    (small : Small interfaces) :
    Reads (Bytes.table? (Bytes.big? 2)) (rows (big 2) interfaces) interfaces := by
  have read : Reads (Bytes.table? (Bytes.big? 2)) (rows (big 2) interfaces) (interfaces.map id) :=
    reads_table? few fun name member => reads_two (small name member)
  rwa [List.map_id] at read

theorem read?_bytes {layout : ClassLayout} (fits : layout.Fits) (known : layout.IsKnown)
    (rest : Bytes) : read? (layout.bytes ++ rest) = some layout.file := by
  have small := fits.numbers
  simp only [numbers, List.cons_append, small_cons, small_append, small_flatMap] at small
  obtain ⟨access, name, superName, fewInterfaces, ⟨⟨interfaces, fewFields, fields⟩,
    fewMethods, methods⟩, attributes⟩ := small
  have readFields := reads_table? fewFields fun field member =>
    MemberLayout.reads_readField? (fields field member) (known.fields field member).1
      (known.fields field member).2
  have readMethods := reads_table? fewMethods fun method member =>
    MemberLayout.reads_readMethod? (methods method member) (known.methods method member)
  have opening : magic < Nat.pow 256 4 := by decide
  have version : 0 < 65536 ∧ 52 < 65536 := by decide
  have opened : ¬(magic ≠ magic ∨ (!isKnownVersion 0 52) = true) := by decide
  simp only [bytes, read?, List.append_assoc, (reads_big? opening).bind,
    (reads_two version.1).bind, (reads_two version.2).bind]
  rw [if_neg opened]
  simp only [(ConstantPool.reads_bytes fits.constants fits.few).bind, (reads_two access).bind,
    (reads_two name).bind, (reads_two superName).bind,
    (reads_interfaces fewInterfaces interfaces).bind]
  rw [← pool]
  simp only [readFields.bind, readMethods.bind, (reads_attributes attributes known.named).bind,
    known.access]
  rfl

end ClassLayout
end ClassFile
end JarAtlas
