/-
Assembling class files.

A declaration is assembled with a pool without repetition: each text once, then
each class name once.  Everything refers to the pool by position.  The assembled
layout denotes the declaration, whatever its size, and can be written whenever
texts, counts and pool fit the fields of the format.
-/
import JarAtlas.Proofs.ClassFile.Denotation
import Mathlib.Data.List.Dedup

namespace JarAtlas
namespace ClassFile

/-- The texts and class names of a pool, in order. -/
structure Numbering where
  texts : List String
  typeNames : List String
  spelled : typeNames ⊆ texts

namespace Numbering

variable (numbering : Numbering)

def ofText (text : String) : Nat :=
  numbering.texts.idxOf text + 1

def ofTypeName (name : String) : Nat :=
  numbering.texts.length + numbering.typeNames.idxOf name + 1

def constants : List Constant :=
  numbering.texts.map .utf8 ++ numbering.typeNames.map fun name => .typeName (numbering.ofText name)

def pool : ConstantPool :=
  .ofConstants numbering.constants

theorem flatMap_slotsOf : numbering.constants.flatMap ConstantPool.slotsOf =
    numbering.constants.map some := by
  rw [constants, List.flatMap_append, List.map_append, List.flatMap_map, List.flatMap_map,
    List.map_map, List.map_map]
  exact congrArg₂ (· ++ ·) List.map_eq_flatMap.symm List.map_eq_flatMap.symm

theorem countOf_constants : ConstantPool.countOf numbering.constants =
    numbering.texts.length + numbering.typeNames.length + 1 := by
  rw [ConstantPool.countOf, flatMap_slotsOf, List.length_map, constants, List.length_append,
    List.length_map, List.length_map]

theorem pool_get? (position : Nat) :
    numbering.pool.get? (position + 1) = numbering.constants[position]? := by
  rw [pool, ConstantPool.get?, ConstantPool.ofConstants]
  dsimp only
  rw [List.getElem?_cons_succ, flatMap_slotsOf, List.getElem?_map]
  cases numbering.constants[position]? <;> rfl

theorem utf8?_ofText {text : String} (known : text ∈ numbering.texts) :
    numbering.pool.utf8? (numbering.ofText text) = some text := by
  have inTexts : numbering.texts.idxOf text < (numbering.texts.map Constant.utf8).length := by
    rw [List.length_map]
    exact List.idxOf_lt_length_of_mem known
  rw [ConstantPool.utf8?, ofText, pool_get?, constants, List.getElem?_append_left inTexts,
    List.getElem?_map, List.getElem?_idxOf known]
  rfl

theorem typeName?_ofTypeName {name : String} (known : name ∈ numbering.typeNames) :
    numbering.pool.typeName? (numbering.ofTypeName name) = some name := by
  have pastTexts : (numbering.texts.map Constant.utf8).length ≤
      numbering.texts.length + numbering.typeNames.idxOf name := by
    rw [List.length_map]
    exact Nat.le_add_right _ _
  rw [ConstantPool.typeName?, ofTypeName, pool_get?, constants,
    List.getElem?_append_right pastTexts, List.length_map, Nat.add_sub_cancel_left,
    List.getElem?_map, List.getElem?_idxOf known]
  exact utf8?_ofText numbering (numbering.spelled known)

/-- Whether the pool can be counted and referred to in fields of two bytes. -/
def IsSmall : Prop :=
  numbering.texts.length + numbering.typeNames.length + 1 < 65536

variable {numbering}

theorem ofText_lt (small : numbering.IsSmall) (text : String) :
    numbering.ofText text < 65536 := by
  have bound : numbering.texts.idxOf text ≤ numbering.texts.length := List.idxOf_le_length
  unfold IsSmall at small
  unfold ofText
  omega

theorem ofTypeName_lt (small : numbering.IsSmall) (name : String) :
    numbering.ofTypeName name < 65536 := by
  have bound : numbering.typeNames.idxOf name ≤ numbering.typeNames.length :=
    List.idxOf_le_length
  unfold IsSmall at small
  unfold ofTypeName
  omega

theorem fits_constants (small : numbering.IsSmall)
    (short : ∀ text ∈ numbering.texts, (ModifiedUtf8.encode text).length < 65536) :
    ∀ constant ∈ numbering.constants, constant.Fits := by
  intro constant member
  rcases List.mem_append.mp member with isText | isName
  · obtain ⟨text, known, rfl⟩ := List.mem_map.mp isText
    exact short text known
  · obtain ⟨name, -, rfl⟩ := List.mem_map.mp isName
    exact ofText_lt small name

end Numbering

/-! ### Elements -/

namespace DeclaredValue

mutual

def element (numberOf : String → Nat) : DeclaredValue → Element
  | string text => .constant (numberOf text)
  | constant descriptor constantName => .enumeration (numberOf descriptor) (numberOf constantName)
  | nested descriptor pairs => .nested (numberOf descriptor) (pairElements numberOf pairs)
  | array items => .array (itemElements numberOf items)

def pairElements (numberOf : String → Nat) :
    List (String × DeclaredValue) → List (Nat × Element)
  | [] => []
  | (name, value) :: rest => (numberOf name, value.element numberOf) :: pairElements numberOf rest

def itemElements (numberOf : String → Nat) : List DeclaredValue → List Element
  | [] => []
  | item :: rest => item.element numberOf :: itemElements numberOf rest

end

mutual

def texts : DeclaredValue → List String
  | string text => [text]
  | constant descriptor constantName => [descriptor, constantName]
  | nested descriptor pairs => descriptor :: pairTexts pairs
  | array items => itemTexts items

def pairTexts : List (String × DeclaredValue) → List String
  | [] => []
  | (name, value) :: rest => name :: (value.texts ++ pairTexts rest)

def itemTexts : List DeclaredValue → List String
  | [] => []
  | item :: rest => item.texts ++ itemTexts rest

end

mutual

def counts : DeclaredValue → List Nat
  | string _ => []
  | constant _ _ => []
  | nested _ pairs => pairs.length :: pairCounts pairs
  | array items => items.length :: itemCounts items

def pairCounts : List (String × DeclaredValue) → List Nat
  | [] => []
  | (_, value) :: rest => value.counts ++ pairCounts rest

def itemCounts : List DeclaredValue → List Nat
  | [] => []
  | item :: rest => item.counts ++ itemCounts rest

end

theorem length_pairElements (numberOf : String → Nat) (pairs : List (String × DeclaredValue)) :
    (pairElements numberOf pairs).length = pairs.length := by
  induction pairs with
  | nil => rfl
  | cons pair pairs ih => rw [pairElements, List.length_cons, ih, List.length_cons]

theorem length_itemElements (numberOf : String → Nat) (items : List DeclaredValue) :
    (itemElements numberOf items).length = items.length := by
  induction items with
  | nil => rfl
  | cons item items ih => rw [itemElements, List.length_cons, ih, List.length_cons]

section

variable {pool : ConstantPool} {numberOf : String → Nat}

mutual

theorem denotes_element : ∀ {declared : DeclaredValue},
    (∀ text ∈ declared.texts, pool.utf8? (numberOf text) = some text) →
      Element.Denotes pool (declared.element numberOf) declared
  | string _, found => .string (found _ List.mem_cons_self)
  | constant _ _, found =>
    .constant (found _ List.mem_cons_self) (found _ (List.mem_cons_of_mem _ List.mem_cons_self))
  | nested _ _, found =>
    .nested (found _ List.mem_cons_self)
      (denotes_pairElements fun text member => found text (List.mem_cons_of_mem _ member))
  | array _, found => .array (denotes_itemElements found)

theorem denotes_pairElements : ∀ {declared : List (String × DeclaredValue)},
    (∀ text ∈ pairTexts declared, pool.utf8? (numberOf text) = some text) →
      Element.DenotesPairs pool (pairElements numberOf declared) declared
  | [], _ => .nil
  | (_, _) :: _, found => by
      obtain ⟨named, later⟩ := List.forall_mem_cons.mp found
      obtain ⟨first, others⟩ := List.forall_mem_append.mp later
      exact .cons named (denotes_element first) (denotes_pairElements others)

theorem denotes_itemElements : ∀ {declared : List DeclaredValue},
    (∀ text ∈ itemTexts declared, pool.utf8? (numberOf text) = some text) →
      Element.DenotesItems pool (itemElements numberOf declared) declared
  | [], _ => .nil
  | _ :: _, found => by
      obtain ⟨first, others⟩ := List.forall_mem_append.mp found
      exact .cons (denotes_element first) (denotes_itemElements others)

end

mutual

theorem small_element (bound : ∀ text, numberOf text < 65536) : ∀ {declared : DeclaredValue},
    Small declared.counts → Small (declared.element numberOf).numbers
  | string text, _ => List.forall_mem_singleton.mpr (bound text)
  | constant descriptor constantName, _ =>
    small_cons.mpr ⟨bound descriptor, List.forall_mem_singleton.mpr (bound constantName)⟩
  | nested descriptor pairs, small => by
      rw [counts, small_cons] at small
      rw [element, Element.numbers, small_cons, small_cons, length_pairElements]
      exact ⟨bound descriptor, small.1, small_pairElements bound small.2⟩
  | array items, small => by
      rw [counts, small_cons] at small
      rw [element, Element.numbers, small_cons, length_itemElements]
      exact ⟨small.1, small_itemElements bound small.2⟩

theorem small_pairElements (bound : ∀ text, numberOf text < 65536) :
    ∀ {declared : List (String × DeclaredValue)}, Small (pairCounts declared) →
      Small (Element.pairsNumbers (pairElements numberOf declared))
  | [], small => small
  | (name, _) :: _, small => by
      rw [pairCounts, small_append] at small
      rw [pairElements, Element.pairsNumbers, small_cons, small_append]
      exact ⟨bound name, small_element bound small.1, small_pairElements bound small.2⟩

theorem small_itemElements (bound : ∀ text, numberOf text < 65536) :
    ∀ {declared : List DeclaredValue}, Small (itemCounts declared) →
      Small (Element.itemsNumbers (itemElements numberOf declared))
  | [], small => small
  | _ :: _, small => by
      rw [itemCounts, small_append] at small
      rw [itemElements, Element.itemsNumbers, small_append]
      exact ⟨small_element bound small.1, small_itemElements bound small.2⟩

end

end

end DeclaredValue

/-! ### Annotations and members -/

namespace DeclaredAnnotation

def written (numberOf : String → Nat) (mark : DeclaredAnnotation) : WrittenAnnotation :=
  ⟨numberOf mark.descriptor, DeclaredValue.pairElements numberOf mark.pairs⟩

def texts (mark : DeclaredAnnotation) : List String :=
  mark.descriptor :: DeclaredValue.pairTexts mark.pairs

def counts (mark : DeclaredAnnotation) : List Nat :=
  mark.pairs.length :: DeclaredValue.pairCounts mark.pairs

end DeclaredAnnotation

namespace DeclaredTable

def layout (numberOf : String → Nat) (table : DeclaredTable) : AttributeLayout :=
  ⟨numberOf table.retention.attributeName, table.annotations.map (·.written numberOf)⟩

def texts (table : DeclaredTable) : List String :=
  table.retention.attributeName :: table.annotations.flatMap DeclaredAnnotation.texts

def counts (table : DeclaredTable) : List Nat :=
  table.annotations.length :: table.annotations.flatMap DeclaredAnnotation.counts

end DeclaredTable

namespace DeclaredMember

def layout (numberOf : String → Nat) (declared : DeclaredMember) : MemberLayout where
  access := declared.access.bits.toNat
  name := numberOf declared.name
  descriptor := numberOf declared.descriptor
  attributes := declared.tables.map (·.layout numberOf)

def texts (declared : DeclaredMember) : List String :=
  declared.name :: declared.descriptor :: declared.tables.flatMap DeclaredTable.texts

def counts (declared : DeclaredMember) : List Nat :=
  declared.tables.length :: declared.tables.flatMap DeclaredTable.counts

end DeclaredMember

theorem small_map {α β : Type} {numbers : β → List Nat} {meant : α → β} {counts : α → List Nat}
    {items : List α} (each : ∀ item, Small (counts item) → Small (numbers (meant item)))
    (small : Small (items.flatMap counts)) : Small ((items.map meant).flatMap numbers) := by
  rw [small_flatMap] at small ⊢
  intro other member
  obtain ⟨item, known, rfl⟩ := List.mem_map.mp member
  exact each item (small item known)

section

variable {pool : ConstantPool} {numberOf : String → Nat}

theorem DeclaredTable.denotes_layout {table : DeclaredTable}
    (found : ∀ text ∈ table.texts, pool.utf8? (numberOf text) = some text) :
    (table.layout numberOf).Denotes pool table where
  name := found _ List.mem_cons_self
  annotations := by
    apply forall₂_map_self
    intro mark member
    have inTexts : ∀ text ∈ mark.texts, pool.utf8? (numberOf text) = some text :=
      fun text known => found text
        (List.mem_cons_of_mem _ (List.mem_flatMap.mpr ⟨mark, member, known⟩))
    obtain ⟨descriptor, pairs⟩ := List.forall_mem_cons.mp inTexts
    exact ⟨descriptor, DeclaredValue.denotes_pairElements pairs⟩

theorem denotes_tables {tables : List DeclaredTable}
    (found : ∀ text ∈ tables.flatMap DeclaredTable.texts, pool.utf8? (numberOf text) = some text) :
    List.Forall₂ (AttributeLayout.Denotes pool) (tables.map (·.layout numberOf)) tables := by
  apply forall₂_map_self
  intro table member
  exact DeclaredTable.denotes_layout fun text known =>
    found text (List.mem_flatMap.mpr ⟨table, member, known⟩)

theorem denotes_members {members : List DeclaredMember}
    (found : ∀ text ∈ members.flatMap DeclaredMember.texts,
      pool.utf8? (numberOf text) = some text) :
    List.Forall₂ (MemberLayout.Denotes pool) (members.map (·.layout numberOf)) members := by
  apply forall₂_map_self
  intro declared member
  have inTexts : ∀ text ∈ declared.texts, pool.utf8? (numberOf text) = some text :=
    fun text known => found text (List.mem_flatMap.mpr ⟨declared, member, known⟩)
  obtain ⟨name, later⟩ := List.forall_mem_cons.mp inTexts
  obtain ⟨descriptor, tables⟩ := List.forall_mem_cons.mp later
  exact ⟨rfl, name, descriptor, denotes_tables tables⟩

theorem DeclaredTable.small_layout (bound : ∀ text, numberOf text < 65536)
    (table : DeclaredTable) (small : Small table.counts) :
    Small (table.layout numberOf).numbers := by
  rw [counts, small_cons] at small
  rw [layout, AttributeLayout.numbers, small_cons, small_cons, List.length_map]
  refine ⟨bound _, small.1, small_map ?_ small.2⟩
  intro mark smallMark
  unfold DeclaredAnnotation.counts at smallMark
  unfold DeclaredAnnotation.written WrittenAnnotation.numbers
  rw [small_cons] at smallMark
  rw [small_cons, small_cons, DeclaredValue.length_pairElements]
  exact ⟨bound _, smallMark.1, DeclaredValue.small_pairElements bound smallMark.2⟩

theorem small_tables (bound : ∀ text, numberOf text < 65536) {tables : List DeclaredTable}
    (small : Small (tables.length :: tables.flatMap DeclaredTable.counts)) :
    Small (attributeNumbers (tables.map (·.layout numberOf))) := by
  rw [small_cons] at small
  rw [attributeNumbers, small_cons, List.length_map]
  exact ⟨small.1, small_map (DeclaredTable.small_layout bound) small.2⟩

theorem DeclaredMember.small_layout (bound : ∀ text, numberOf text < 65536)
    (declared : DeclaredMember) (small : Small declared.counts) :
    Small (declared.layout numberOf).numbers := by
  rw [layout, MemberLayout.numbers, small_cons, small_cons, small_cons]
  exact ⟨declared.access.bits.toNat_lt, bound _, bound _, small_tables bound small⟩

end

/-! ### Classes -/

namespace DeclaredClass

variable (declared : DeclaredClass)

def typeNames : List String :=
  declared.name :: (declared.superName.toList ++ declared.interfaces)

def texts : List String :=
  declared.typeNames ++ (declared.tables.flatMap DeclaredTable.texts ++
    (declared.fields.flatMap DeclaredMember.texts ++ declared.methods.flatMap DeclaredMember.texts))

def counts : List Nat :=
  declared.interfaces.length :: declared.fields.length :: declared.methods.length ::
    declared.tables.length :: (declared.tables.flatMap DeclaredTable.counts ++
      (declared.fields.flatMap DeclaredMember.counts ++
        declared.methods.flatMap DeclaredMember.counts))

def numbering : Numbering where
  texts := declared.texts.dedup
  typeNames := declared.typeNames.dedup
  spelled := fun _ member =>
    List.mem_dedup.mpr (List.mem_append_left _ (List.mem_dedup.mp member))

/-- Whether the texts, counts and pool of a declaration fit their fields of two
bytes, when each text and class name is in the pool once. -/
structure Fits : Prop where
  texts : ∀ text ∈ declared.texts, (ModifiedUtf8.encode text).length < 65536
  counts : Small declared.counts
  pool : declared.texts.dedup.length + declared.typeNames.dedup.length + 1 < 65536

def layout : ClassLayout where
  constants := declared.numbering.constants
  access := declared.access.bits.toNat
  name := declared.numbering.ofTypeName declared.name
  superName :=
    match declared.superName with
    | none => 0
    | some name => declared.numbering.ofTypeName name
  interfaces := declared.interfaces.map declared.numbering.ofTypeName
  fields := declared.fields.map (·.layout declared.numbering.ofText)
  methods := declared.methods.map (·.layout declared.numbering.ofText)
  attributes := declared.tables.map (·.layout declared.numbering.ofText)

theorem denotes_layout : declared.layout.Denotes declared := by
  have names : ∀ name ∈ declared.typeNames,
      declared.layout.pool.typeName? (declared.numbering.ofTypeName name) = some name :=
    fun name member => Numbering.typeName?_ofTypeName _ (List.mem_dedup.mpr member)
  have texts : ∀ text ∈ declared.texts,
      declared.layout.pool.utf8? (declared.numbering.ofText text) = some text :=
    fun text member => Numbering.utf8?_ofText _ (List.mem_dedup.mpr member)
  obtain ⟨name, others⟩ := List.forall_mem_cons.mp names
  obtain ⟨super, interfaces⟩ := List.forall_mem_append.mp others
  obtain ⟨-, later⟩ := List.forall_mem_append.mp texts
  obtain ⟨tables, members⟩ := List.forall_mem_append.mp later
  obtain ⟨fields, methods⟩ := List.forall_mem_append.mp members
  exact {
    access := rfl
    name := name
    superName := by
      rw [layout]
      cases named : declared.superName with
      | none => rfl
      | some superName => exact super superName (by rw [named]; exact List.mem_singleton_self _)
    interfaces := forall₂_map_self interfaces
    fields := denotes_members fields
    methods := denotes_members methods
    attributes := denotes_tables tables }

variable {declared}

theorem fits_layout (fits : declared.Fits) : declared.layout.Fits := by
  have small : declared.numbering.IsSmall := fits.pool
  have bound := Numbering.ofText_lt small
  have counts := fits.counts
  simp only [DeclaredClass.counts, small_cons, small_append] at counts
  obtain ⟨interfaces, fieldCount, methodCount, tableCount, tables, fields, methods⟩ := counts
  refine ⟨Numbering.fits_constants small fun text member =>
    fits.texts text (List.mem_dedup.mp member), ?_, ?_⟩
  · rw [layout, Numbering.countOf_constants]
    exact small
  · have super : declared.layout.superName < 65536 := by
      rw [layout]
      cases declared.superName with
      | none => exact Nat.succ_pos _
      | some superName => exact Numbering.ofTypeName_lt small superName
    have interfaceNumbers : Small (declared.interfaces.map declared.numbering.ofTypeName) := by
      intro number member
      obtain ⟨name, -, rfl⟩ := List.mem_map.mp member
      exact Numbering.ofTypeName_lt small name
    simp only [ClassLayout.numbers, List.cons_append, small_cons, small_append]
    refine ⟨declared.access.bits.toNat_lt, Numbering.ofTypeName_lt small _, super, ?_,
      ⟨⟨interfaceNumbers, ?_, ?_⟩, ?_, ?_⟩, ?_⟩
    · rw [layout, List.length_map]
      exact interfaces
    · rw [layout, List.length_map]
      exact fieldCount
    · exact small_map (DeclaredMember.small_layout bound) fields
    · rw [layout, List.length_map]
      exact methodCount
    · exact small_map (DeclaredMember.small_layout bound) methods
    · exact small_tables bound (small_cons.mpr ⟨tableCount, tables⟩)

/-- A valid declaration comes back as its events from every class file that is
written for it, and from the assembled one whenever it fits the format. -/
theorem eventsOfBytes_of_declaration (valid : declared.IsValid) :
    (∀ layout : ClassLayout, layout.Denotes declared → layout.Fits →
      eventsOfBytes layout.bytes = .ok declared.events) ∧
    (declared.Fits → eventsOfBytes declared.layout.bytes = .ok declared.events) :=
  ⟨fun _ denoted fits => ClassLayout.eventsOfBytes_of_denotes denoted valid fits,
    fun fits => ClassLayout.eventsOfBytes_of_denotes declared.denotes_layout valid
      (fits_layout fits)⟩

def shopSettings : DeclaredValue :=
  .array [.string "ä𝄞", .constant "La/Mode;" "FAST", .nested "La/Tag;" []]

/-- A class with annotations of both retentions. -/
def shop : DeclaredClass where
  access := ⟨0x21⟩
  name := "a/Shop"
  superName := some "a/Base"
  interfaces := ["a/Port"]
  tables := [⟨.invisible, [⟨"La/RestController;", [("value", shopSettings)]⟩]⟩]
  fields := [⟨⟨2⟩, "items", "[La/Item;", [⟨.visible, [⟨"La/Own;", []⟩]⟩]⟩]
  methods := [⟨⟨1⟩, "list", "()V",
    [⟨.visible, [⟨"La/GetMapping;", [("value", .string "/items")]⟩]⟩,
      ⟨.invisible, [⟨"La/Seen;", [("by", .nested "La/Tag;" [("on", .constant "La/Mode;" "SLOW")])]⟩]⟩]⟩]

theorem isValid_shop : shop.IsValid where
  access := by decide
  fields := by
    intro field member
    obtain rfl := List.mem_singleton.mp member
    have object : IsFieldDescriptor ('L' :: ("a/Item".toList ++ [';'])) := .object (by decide +kernel)
    exact ⟨by decide, .array object⟩
  methods := by
    intro method member
    obtain rfl := List.mem_singleton.mp member
    decide

theorem fits_shop : shop.Fits where
  texts := by decide +kernel
  counts := by decide +kernel
  pool := by decide +kernel

theorem eventsOfBytes_of_shop_declaration :
    shop.IsValid ∧ shop.Fits ∧ eventsOfBytes shop.layout.bytes = .ok
      [.header ⟨"a/Shop", ⟨0x21⟩, some "a/Base", ["a/Port"]⟩,
        .annotated ⟨"La/RestController;",
          [.plain (some "value") "\x7bä𝄞, a/Mode.FAST, @a.Tag\x7d"]⟩,
        .field "items" "[La/Item;" ⟨2⟩,
        .annotated ⟨"La/Own;", []⟩,
        .method "list" ⟨1⟩,
        .annotated ⟨"La/GetMapping;", [.plain (some "value") "/items"]⟩,
        .annotated ⟨"La/Seen;",
          [.nested (some "by") "La/Tag;" [.constant (some "on") "La/Mode;" "SLOW"]]⟩,
        .done] := by
  have settings : shopSettings.flat = "\x7bä𝄞, a/Mode.FAST, @a.Tag\x7d" := by decide +kernel
  refine ⟨isValid_shop, fits_shop, ?_⟩
  rw [(eventsOfBytes_of_declaration isValid_shop).2 fits_shop, ← settings]
  rfl

end DeclaredClass
end ClassFile
end JarAtlas
