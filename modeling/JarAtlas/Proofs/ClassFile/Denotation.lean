/-
Layouts that say by number what a declaration says by text.

An element, annotation, member or class of a layout denotes a declared one if it
has the same shape and each of its numbers leads to the declared text in the
pool.  The events of a layout that denotes a declaration are those of the
declaration.
-/
import JarAtlas.ClassFile.Events
import JarAtlas.Proofs.ClassFile.Declaration
import JarAtlas.Proofs.ClassFile.Layout
import JarAtlas.Proofs.Traversal

namespace JarAtlas
namespace ClassFile

mutual

inductive Element.Denotes (pool : ConstantPool) : Element → DeclaredValue → Prop where
  | string {number : Nat} {text : String} (found : pool.utf8? number = some text) :
      Denotes pool (.constant number) (.string text)
  | constant {typeNumber number : Nat} {descriptor constantName : String}
      (typeFound : pool.utf8? typeNumber = some descriptor)
      (found : pool.utf8? number = some constantName) :
      Denotes pool (.enumeration typeNumber number) (.constant descriptor constantName)
  | nested {typeNumber : Nat} {descriptor : String} {pairs : List (Nat × Element)}
      {declared : List (String × DeclaredValue)}
      (typeFound : pool.utf8? typeNumber = some descriptor)
      (denoted : Element.DenotesPairs pool pairs declared) :
      Denotes pool (.nested typeNumber pairs) (.nested descriptor declared)
  | array {items : List Element} {declared : List DeclaredValue}
      (denoted : Element.DenotesItems pool items declared) :
      Denotes pool (.array items) (.array declared)

inductive Element.DenotesPairs (pool : ConstantPool) :
    List (Nat × Element) → List (String × DeclaredValue) → Prop where
  | nil : DenotesPairs pool [] []
  | cons {number : Nat} {name : String} {element : Element} {value : DeclaredValue}
      {pairs : List (Nat × Element)} {declared : List (String × DeclaredValue)}
      (named : pool.utf8? number = some name) (first : Element.Denotes pool element value)
      (others : DenotesPairs pool pairs declared) :
      DenotesPairs pool ((number, element) :: pairs) ((name, value) :: declared)

inductive Element.DenotesItems (pool : ConstantPool) :
    List Element → List DeclaredValue → Prop where
  | nil : DenotesItems pool [] []
  | cons {element : Element} {value : DeclaredValue} {items : List Element}
      {declared : List DeclaredValue} (first : Element.Denotes pool element value)
      (others : DenotesItems pool items declared) :
      DenotesItems pool (element :: items) (value :: declared)

end

structure WrittenAnnotation.Denotes (pool : ConstantPool) (written : WrittenAnnotation)
    (mark : DeclaredAnnotation) : Prop where
  descriptor : pool.utf8? written.descriptor = some mark.descriptor
  pairs : Element.DenotesPairs pool written.pairs mark.pairs

structure AttributeLayout.Denotes (pool : ConstantPool) (layout : AttributeLayout)
    (table : DeclaredTable) : Prop where
  name : pool.utf8? layout.name = some table.retention.attributeName
  annotations : List.Forall₂ (fun written mark => written.Denotes pool mark)
    layout.annotations table.annotations

structure MemberLayout.Denotes (pool : ConstantPool) (layout : MemberLayout)
    (declared : DeclaredMember) : Prop where
  access : layout.access = declared.access.bits.toNat
  name : pool.utf8? layout.name = some declared.name
  descriptor : pool.utf8? layout.descriptor = some declared.descriptor
  attributes : List.Forall₂ (AttributeLayout.Denotes pool) layout.attributes declared.tables

/-- Whether a number stands for the name of a superclass, zero for none. -/
def DenotesSuper (pool : ConstantPool) (number : Nat) : Option String → Prop
  | none => number = 0
  | some name => pool.typeName? number = some name

structure ClassLayout.Denotes (layout : ClassLayout) (declared : DeclaredClass) : Prop where
  access : layout.access = declared.access.bits.toNat
  name : layout.pool.typeName? layout.name = some declared.name
  superName : DenotesSuper layout.pool layout.superName declared.superName
  interfaces : List.Forall₂ (fun number name => layout.pool.typeName? number = some name)
    layout.interfaces declared.interfaces
  fields : List.Forall₂ (MemberLayout.Denotes layout.pool) layout.fields declared.fields
  methods : List.Forall₂ (MemberLayout.Denotes layout.pool) layout.methods declared.methods
  attributes : List.Forall₂ (AttributeLayout.Denotes layout.pool) layout.attributes declared.tables

theorem ConstantPool.utf8_of_utf8? {pool : ConstantPool} {number : Nat} {text : String}
    (found : pool.utf8? number = some text) : pool.utf8 number = .ok text := by
  rw [utf8, found]

theorem ConstantPool.typeName_of_typeName? {pool : ConstantPool} {number : Nat} {name : String}
    (found : pool.typeName? number = some name) : pool.typeName number = .ok name := by
  rw [typeName, found]

theorem ConstantPool.constantText_of_utf8? {pool : ConstantPool} {number : Nat} {text : String}
    (found : pool.utf8? number = some text) : pool.constantText number = .ok text := by
  rw [utf8?] at found
  split at found
  · next held slot =>
      rw [constantText, slot]
      exact congrArg Except.ok (Option.some.inj found)
  · cases found

section

variable {pool : ConstantPool}

mutual

theorem Element.text_of_denotes {element : Element} {declared : DeclaredValue} :
    Element.Denotes pool element declared → element.text pool = .ok declared.flat
  | .string found => by
      rw [Element.text, ConstantPool.constantText_of_utf8? found, DeclaredValue.flat]
  | .constant typeFound found => by
      rw [Element.text, ConstantPool.utf8_of_utf8? typeFound, ConstantPool.utf8_of_utf8? found]
      rfl
  | .nested typeFound _ => by
      rw [Element.text, ConstantPool.utf8_of_utf8? typeFound]
      rfl
  | .array denoted => by
      rw [Element.text, Element.textAll_of_denotes denoted]
      rfl

theorem Element.textAll_of_denotes {items : List Element} {declared : List DeclaredValue} :
    Element.DenotesItems pool items declared →
      Element.textAll pool items = .ok (DeclaredValue.flatAll declared)
  | .nil => rfl
  | .cons first others => by
      rw [Element.textAll, Element.text_of_denotes first, Element.textAll_of_denotes others]
      rfl

end

mutual

theorem Element.value_of_denotes {element : Element} {declared : DeclaredValue}
    (name : Option String) : Element.Denotes pool element declared →
      element.value pool name = .ok (declared.value name)
  | .string found => by
      rw [Element.value, Element.text_of_denotes (.string found)]
      · rfl
      · nofun
      · nofun
  | .constant typeFound found => by
      rw [Element.value, ConstantPool.utf8_of_utf8? typeFound, ConstantPool.utf8_of_utf8? found]
      rfl
  | .nested typeFound denoted => by
      rw [Element.value, ConstantPool.utf8_of_utf8? typeFound, Element.valueAll_of_denotes denoted]
      rfl
  | .array denoted => by
      rw [Element.value, Element.text_of_denotes (.array denoted)]
      · rfl
      · nofun
      · nofun

theorem Element.valueAll_of_denotes {pairs : List (Nat × Element)}
    {declared : List (String × DeclaredValue)} : Element.DenotesPairs pool pairs declared →
      Element.valueAll pool pairs = .ok (DeclaredValue.values declared)
  | .nil => rfl
  | .cons named first others => by
      simp only [Element.valueAll, ConstantPool.utf8_of_utf8? named,
        fun name => Element.value_of_denotes name first, Element.valueAll_of_denotes others]
      rfl

end

theorem WrittenAnnotation.resolve_of_denotes {written : WrittenAnnotation}
    {mark : DeclaredAnnotation} (denoted : written.Denotes pool mark) :
    written.resolve pool = .ok mark.use := by
  rw [resolve, ConstantPool.utf8_of_utf8? denoted.descriptor,
    Element.valueAll_of_denotes denoted.pairs]
  rfl

end

/-! ### Members and classes -/

theorem mapM_ok_of_forall₂ {ε α β γ : Type} {resolve : α → Except ε γ} {meant : β → γ}
    {items : List α} {declared : List β}
    (denoted : List.Forall₂ (fun item other => resolve item = .ok (meant other)) items declared) :
    items.mapM resolve = .ok (declared.map meant) :=
  mapM_ok_iff.mpr (List.forall₂_map_right_iff.mpr denoted)

section

variable {pool : ConstantPool}

theorem annotationEvents_of_denotes {layouts : List AttributeLayout} {tables : List DeclaredTable}
    (denoted : List.Forall₂ (AttributeLayout.Denotes pool) layouts tables) :
    annotationEvents pool (layouts.flatMap AttributeLayout.annotations) =
      .ok (tables.flatMap DeclaredTable.events) := by
  have marks : List.Forall₂ (fun written mark => written.Denotes pool mark)
      (layouts.flatMap AttributeLayout.annotations)
      (tables.flatMap DeclaredTable.annotations) :=
    List.rel_flatMap denoted fun _ _ held => held.annotations
  have resolved : annotationEvents pool (layouts.flatMap AttributeLayout.annotations) =
      .ok ((tables.flatMap DeclaredTable.annotations).map fun mark => .annotated mark.use) :=
    mapM_ok_of_forall₂ (marks.imp fun written mark same => by
      have use := WrittenAnnotation.resolve_of_denotes same
      rw [use]
      rfl)
  rw [resolved, List.map_flatMap]
  rfl

theorem fieldEvents_of_denotes {layout : MemberLayout} {declared : DeclaredMember}
    (denoted : layout.Denotes pool declared) :
    fieldEvents pool layout.written = .ok declared.fieldEvents := by
  rw [fieldEvents, MemberLayout.written, ConstantPool.utf8_of_utf8? denoted.name,
    ConstantPool.utf8_of_utf8? denoted.descriptor, annotationEvents_of_denotes denoted.attributes,
    denoted.access, Nat.toUInt16, UInt16.ofNat_toNat]
  rfl

theorem methodEvents_of_denotes {layout : MemberLayout} {declared : DeclaredMember}
    (denoted : layout.Denotes pool declared) :
    methodEvents pool layout.written = .ok declared.methodEvents := by
  rw [methodEvents, MemberLayout.written, ConstantPool.utf8_of_utf8? denoted.name,
    annotationEvents_of_denotes denoted.attributes, denoted.access, Nat.toUInt16,
    UInt16.ofNat_toNat]
  rfl

theorem AttributeLayout.isNamed_of_denotes {layouts : List AttributeLayout}
    {tables : List DeclaredTable}
    (denoted : List.Forall₂ (AttributeLayout.Denotes pool) layouts tables) :
    ∀ layout ∈ layouts, layout.IsNamed pool := by
  intro layout member
  obtain ⟨table, -, same⟩ := exists_of_forall₂ denoted member
  exact ⟨_, Retention.attributeName_mem table.retention, same.name⟩

theorem MemberLayout.Denotes.isKnown {flags : Nat} {layout : MemberLayout}
    {declared : DeclaredMember} (denoted : layout.Denotes pool declared)
    (within : IsWithin flags declared.access) : layout.IsKnown flags pool where
  access := by
    rw [denoted.access]
    exact within
  named := AttributeLayout.isNamed_of_denotes denoted.attributes

end

namespace ClassLayout

theorem header_of_denotes {layout : ClassLayout} {declared : DeclaredClass}
    (denoted : layout.Denotes declared) : layout.file.header = .ok declared.header := by
  have interfaces : layout.interfaces.mapM layout.pool.typeName =
      .ok (declared.interfaces.map id) :=
    mapM_ok_of_forall₂
      (denoted.interfaces.imp fun _ _ found => ConstantPool.typeName_of_typeName? found)
  have super := denoted.superName
  rw [List.map_id] at interfaces
  rw [header, file, DeclaredClass.header]
  dsimp only
  rw [denoted.name, interfaces, denoted.access, Nat.toUInt16, UInt16.ofNat_toNat]
  cases named : declared.superName with
  | none =>
      rw [named, DenotesSuper] at super
      simp only [if_pos super]
      rfl
  | some name =>
      rw [named, DenotesSuper] at super
      have nonzero : layout.superName ≠ 0 := by
        intro zero
        rw [zero] at super
        cases super
      simp only [if_neg nonzero, ConstantPool.typeName_of_typeName? super]
      rfl

theorem events_of_denotes {layout : ClassLayout} {declared : DeclaredClass}
    (denoted : layout.Denotes declared) : layout.file.events = .ok declared.events := by
  have fields := mapM_ok_of_forall₂ (List.forall₂_map_left_iff.mpr
    (denoted.fields.imp fun _ _ same => fieldEvents_of_denotes same))
  have methods := mapM_ok_of_forall₂ (List.forall₂_map_left_iff.mpr
    (denoted.methods.imp fun _ _ same => methodEvents_of_denotes same))
  rw [events, header_of_denotes denoted, file]
  dsimp only
  rw [annotationEvents_of_denotes denoted.attributes, fields, methods]
  rfl

theorem isKnown_of_denotes {layout : ClassLayout} {declared : DeclaredClass}
    (denoted : layout.Denotes declared) (valid : declared.IsValid) : layout.IsKnown where
  access := by
    rw [denoted.access]
    exact valid.access
  fields := by
    intro field member
    obtain ⟨other, otherMember, same⟩ := exists_of_forall₂ denoted.fields member
    have sound := valid.fields other otherMember
    refine ⟨same.isKnown sound.1, ?_⟩
    rw [same.descriptor, Option.any_some]
    exact isFieldDescriptor_eq_true sound.2
  methods := by
    intro method member
    obtain ⟨other, otherMember, same⟩ := exists_of_forall₂ denoted.methods member
    exact same.isKnown (valid.methods other otherMember)
  named := AttributeLayout.isNamed_of_denotes denoted.attributes

theorem eventsOfBytes_of_denotes {layout : ClassLayout} {declared : DeclaredClass}
    (denoted : layout.Denotes declared) (valid : declared.IsValid) (fits : layout.Fits) :
    eventsOfBytes layout.bytes = .ok declared.events := by
  have read := read?_bytes fits (isKnown_of_denotes denoted valid) []
  rw [List.append_nil] at read
  rw [eventsOfBytes, read]
  exact events_of_denotes denoted

end ClassLayout
end ClassFile
end JarAtlas
