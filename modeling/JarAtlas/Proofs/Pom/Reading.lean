/-
What the dependency elements of a build descriptor tell.

Every dependency element tells one record, wherever it stands, and the records
are in the order of the document.  Each of its four values is told by the last
child with the name of this value, and is free of placeholders.  Nothing else in
the element matters for its record.
-/
import JarAtlas.EntryFault
import JarAtlas.Proofs.Xml.Content
import JarAtlas.Proofs.Xml.Places
import Mathlib.Data.List.Induction

namespace JarAtlas
namespace Pom

open Xml (Node)

inductive Coordinate where
  | groupId
  | artifactId
  | version
  | scope
  deriving DecidableEq, Repr

namespace Coordinate

def localName : Coordinate → String
  | groupId => "groupId"
  | artifactId => "artifactId"
  | version => "version"
  | scope => "scope"

def valueIn (record : DeclaredDependency) : Coordinate → String
  | groupId => record.groupId
  | artifactId => record.artifactId
  | version => record.version
  | scope => record.scope

def all : List Coordinate := [groupId, artifactId, version, scope]

theorem mem_all (coordinate : Coordinate) : coordinate ∈ all := by
  cases coordinate <;> decide

end Coordinate

def Named (localName : String) (node : Node) : Prop :=
  node.name?.map Xml.ExpandedName.localName = some localName

instance (localName : String) (node : Node) : Decidable (Named localName node) :=
  inferInstanceAs (Decidable (_ = _))

/-- Whether a node is a `dependency` element of the namespace of build descriptors
or of none. -/
def IsDependency (node : Node) : Prop :=
  node.name? = some ⟨none, "dependency"⟩ ∨ node.name? = some ⟨some space, "dependency"⟩

instance (node : Node) : Decidable (IsDependency node) :=
  inferInstanceAs (Decidable (_ ∨ _))

def NamesCoordinate (node : Node) : Prop :=
  ∃ coordinate ∈ Coordinate.all, Named coordinate.localName node

instance (node : Node) : Decidable (NamesCoordinate node) :=
  inferInstanceAs (Decidable (∃ coordinate ∈ Coordinate.all, _))

theorem isDependencyName_iff {name : Xml.ExpandedName} :
    isDependencyName name = true ↔
      name = ⟨none, "dependency"⟩ ∨ name = ⟨some space, "dependency"⟩ := by
  obtain ⟨around, localName⟩ := name
  simp only [isDependencyName, Bool.and_eq_true, Bool.or_eq_true, decide_eq_true_eq,
    Xml.ExpandedName.mk.injEq, ← or_and_right]
  exact and_comm

/-- A text without the blanks around it, and without placeholders. -/
def plainText (text : String) : String :=
  sanitize (String.ofList (trimBlanks text.toList))

theorem valueOf_eq (part : Node) : valueOf part = plainText (String.join part.texts) := by
  rw [valueOf, plainText, Node.textContent_eq_join]

theorem no_placeholder_sanitize (value : String) : ¬['$', '{'] <:+: (sanitize value).toList := by
  unfold sanitize
  split
  · intro inside
    rw [String.toList_ofList] at inside
    have kept := (List.mem_filter.mp (inside.subset List.mem_cons_self)).2
    exact absurd kept (by decide)
  · next absent =>
      rw [occursIn_iff] at absent
      exact absent

def namedValue? (localName : String) (part : Node) : Option String :=
  if Named localName part then some (valueOf part) else none

theorem namedValue?_of_named {localName : String} {part : Node} (named : Named localName part) :
    namedValue? localName part = some (valueOf part) :=
  if_pos named

theorem namedValue?_of_unnamed {localName : String} {part : Node}
    (unnamed : ¬Named localName part) : namedValue? localName part = none :=
  if_neg unnamed

theorem namedValue?_bare (localName : String) (part : Node) :
    namedValue? localName part.bare = namedValue? localName part := by
  have same : Named localName part.bare ↔ Named localName part := by
    rw [Named, Named, Node.name?_bare]
  by_cases named : Named localName part
  · rw [namedValue?_of_named named, namedValue?_of_named (same.mpr named), valueOf, valueOf,
      Node.textContent_bare]
  · rw [namedValue?_of_unnamed named, namedValue?_of_unnamed (mt same.mp named)]

theorem partValue_eq (localName : String) (parts : List Node) :
    partValue localName parts = (parts.filterMap (namedValue? localName)).getLastD "" := by
  unfold partValue
  dsimp only
  congr 2
  funext part
  cases part with
  | element name attributes parts => simp [namedValue?, Named, Node.name?]
  | text _ => rfl
  | comment _ => rfl
  | instruction _ _ => rfl

theorem partValue_concat (localName : String) (parts : List Node) (last : Node) :
    partValue localName (parts ++ [last]) =
      if Named localName last then valueOf last else partValue localName parts := by
  rw [partValue_eq, partValue_eq, List.filterMap_append]
  by_cases named : Named localName last
  · rw [List.filterMap_cons_some (namedValue?_of_named named), List.filterMap_nil,
      List.getLastD_concat, if_pos named]
  · rw [List.filterMap_cons_none (namedValue?_of_unnamed named), List.filterMap_nil,
      List.append_nil, if_neg named]

/-- The value that parts give a name: that of the last part with this name, and
the empty text if no part has it. -/
inductive LastValue (localName : String) : List Node → String → Prop where
  | missing {parts : List Node} (unnamed : ∀ part ∈ parts, ¬Named localName part) :
      LastValue localName parts ""
  | last {before after : List Node} {part : Node} (named : Named localName part)
      (final : ∀ other ∈ after, ¬Named localName other) :
      LastValue localName (before ++ part :: after) (plainText (String.join part.texts))

theorem lastValue_partValue (localName : String) (parts : List Node) :
    LastValue localName parts (partValue localName parts) := by
  induction parts using List.reverseRecOn with
  | nil => exact .missing fun _ member => (List.not_mem_nil member).elim
  | append_singleton parts last ih =>
      rw [partValue_concat]
      by_cases named : Named localName last
      · rw [if_pos named, valueOf_eq]
        exact .last named fun _ member => (List.not_mem_nil member).elim
      · rw [if_neg named]
        have unnamed {others : List Node} (free : ∀ other ∈ others, ¬Named localName other) :
            ∀ other ∈ others ++ [last], ¬Named localName other :=
          List.forall_mem_append.mpr ⟨free, List.forall_mem_singleton.mpr named⟩
        generalize partValue localName parts = value at ih
        cases ih with
        | missing free => exact .missing (unnamed free)
        | last here final =>
            rw [List.append_assoc, List.cons_append]
            exact .last here (unnamed final)

theorem LastValue.no_placeholder {localName : String} {parts : List Node} {value : String}
    (told : LastValue localName parts value) : ¬['$', '{'] <:+: value.toList := by
  cases told with
  | missing _ => exact fun inside => nomatch List.infix_nil.mp inside
  | last _ _ => exact no_placeholder_sanitize _

/-! ### Records -/

/-- What of an element matters for its record: the children with the name of a
coordinate, without attributes and comments. -/
def coordinateParts (node : Node) : List Node :=
  (node.children.filter fun part => NamesCoordinate part).map Node.bare

theorem partValue_coordinateParts (coordinate : Coordinate) (node : Node) :
    partValue coordinate.localName (coordinateParts node) =
      partValue coordinate.localName node.children := by
  have kept (part : Node) :
      (if NamesCoordinate part then namedValue? coordinate.localName part else none) =
        namedValue? coordinate.localName part := by
    split
    · rfl
    · next absent =>
        exact (namedValue?_of_unnamed fun named =>
          absent ⟨coordinate, coordinate.mem_all, named⟩).symm
  rw [partValue_eq, partValue_eq, coordinateParts, List.filterMap_map, List.filterMap_filter]
  simp only [Function.comp_apply, namedValue?_bare, decide_eq_true_eq, kept]

def recordOf (value : Coordinate → String) : DeclaredDependency :=
  ⟨value .groupId, value .artifactId, value .version, value .scope⟩

theorem valueIn_recordOf (value : Coordinate → String) (coordinate : Coordinate) :
    coordinate.valueIn (recordOf value) = value coordinate := by
  cases coordinate <;> rfl

theorem dependencyOf?_eq (node : Node) :
    dependencyOf? node =
      if IsDependency node then
        some (recordOf fun coordinate => partValue coordinate.localName node.children)
      else none := by
  cases node with
  | element name attributes parts =>
      simp only [dependencyOf?, isDependencyName_iff, IsDependency, Node.name?,
        Option.some.injEq]
      rfl
  | text _ => rfl
  | comment _ => rfl
  | instruction _ _ => rfl

theorem isSome_dependencyOf?_iff (node : Node) :
    (dependencyOf? node).isSome = true ↔ IsDependency node := by
  rw [dependencyOf?_eq]
  split <;> simp [*]

/-- Whether a record is told by an element: each value by the last child with its
name, and nothing else matters. -/
structure TellsRecord (node : Node) (record : DeclaredDependency) : Prop where
  values : ∀ coordinate : Coordinate,
    LastValue coordinate.localName node.children (coordinate.valueIn record)
  plain : ∀ coordinate : Coordinate, ¬['$', '{'] <:+: (coordinate.valueIn record).toList
  alone : ∀ other, IsDependency other → coordinateParts other = coordinateParts node →
    dependencyOf? other = some record

theorem tellsRecord_of_dependencyOf? {node : Node} {record : DeclaredDependency}
    (told : dependencyOf? node = some record) : TellsRecord node record := by
  rw [dependencyOf?_eq, Option.ite_none_right_eq_some] at told
  obtain ⟨_, same⟩ := told
  cases same
  refine ⟨fun coordinate => ?_, fun coordinate => ?_, fun other isDependency agrees => ?_⟩
  · rw [valueIn_recordOf]
    exact lastValue_partValue coordinate.localName node.children
  · rw [valueIn_recordOf]
    exact (lastValue_partValue coordinate.localName node.children).no_placeholder
  · simp only [dependencyOf?_eq, if_pos isDependency, ← partValue_coordinateParts, agrees]

theorem dependenciesOf_of_root (entry : String) {text : String} {root : Node}
    (wellFormed : Node.ofText? text = some root) :
    dependenciesOf entry text = .ok (dependencies root) := by
  rw [dependenciesOf, dependencies?, wellFormed, Option.map_some]

/-- Reading a well-formed document gives one record for each dependency element,
in the order of the document, and each record is told by its own element. -/
theorem dependenciesOf_document (entry : String) {text : String} {root : Node}
    (wellFormed : Node.ofText? text = some root) :
    ∃ places records, root.PlacesOf IsDependency places ∧
      dependenciesOf entry text = .ok records ∧
      List.Forall₂
        (fun place record => ∃ node, root.at? place = some node ∧ TellsRecord node record)
        places records := by
  obtain ⟨places, found, taken⟩ := root.exists_placesOf dependencyOf?
  simp only [isSome_dependencyOf?_iff] at found
  refine ⟨places, dependencies root, found, dependenciesOf_of_root entry wellFormed, ?_⟩
  refine taken.imp ?_
  rintro place record ⟨node, here, told⟩
  exact ⟨node, here, tellsRecord_of_dependencyOf? told⟩

/-- A dependency with one name twice, a placeholder that a comment parts, and
exclusions with a name of their own. -/
def placeholderDescriptor : String :=
  "<project xmlns='http://maven.apache.org/POM/4.0.0'><dependency id='1'>
    <groupId>old</groupId><groupId> $<!\x2d\x2d c \x2d\x2d>\x7ba.<b>b</b>\x7d </groupId>
    <exclusions><groupId>no</groupId></exclusions></dependency></project>"

set_option maxRecDepth 2000 in
theorem dependenciesOf_placeholderDescriptor :
    ∃ root place node, Node.ofText? placeholderDescriptor = some root ∧
      dependenciesOf "pom.xml" placeholderDescriptor = .ok [⟨"ab", "", "", ""⟩] ∧
      root.at? place = some node ∧ IsDependency node ∧ TellsRecord node ⟨"ab", "", "", ""⟩ := by
  have checked : ∃ root ∈ Node.ofText? placeholderDescriptor,
      dependencies root = [⟨"ab", "", "", ""⟩] := by
    rw [placeholderDescriptor, Node.ofText?, String.toList_ofList]
    decide +kernel
  obtain ⟨root, wellFormed, told⟩ := checked
  obtain ⟨places, records, found, read, related⟩ := dependenciesOf_document "pom.xml" wellFormed
  have expected :
      dependenciesOf "pom.xml" placeholderDescriptor = .ok [⟨"ab", "", "", ""⟩] := by
    rw [dependenciesOf_of_root "pom.xml" wellFormed, told]
  cases Except.ok.inj (read.symm.trans expected)
  obtain ⟨place, _, ⟨node, here, tells⟩, _, rfl⟩ := List.forall₂_cons_right_iff.mp related
  obtain ⟨same, sameHere, isDependency⟩ := (found.mem_iff place).mp List.mem_cons_self
  cases Option.some.inj (here.symm.trans sameHere)
  exact ⟨root, place, node, wellFormed, expected, here, isDependency, tells⟩

end Pom
end JarAtlas
