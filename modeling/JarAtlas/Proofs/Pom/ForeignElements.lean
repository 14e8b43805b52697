/-
Elements of other namespaces in a build descriptor.

Foreign elements can be deleted from a document without changing what it
declares, as long as none of them holds a dependency.  The text inside a
coordinate is an exception, since all text in it counts, whatever elements it
stands in; so a coordinate has to be left as it is.
-/
import JarAtlas.Proofs.Pom.Reading

namespace JarAtlas
namespace Pom

open Xml (Node)

/-- Whether a node is an element of a namespace other than that of build
descriptors. -/
def isForeign (node : Node) : Bool :=
  (node.name?.bind Xml.ExpandedName.space).any fun around => around ≠ space

mutual

/-- A tree without the foreign elements in it.  Elements that are spared inside
an element with a given name are kept with all that they hold. -/
def pruned (spares : Xml.ExpandedName → Node → Bool) : Node → Node
  | .element name attributes children =>
    .element name attributes (prunedAll spares name children)
  | node => node

def prunedAll (spares : Xml.ExpandedName → Node → Bool) (around : Xml.ExpandedName) :
    List Node → List Node
  | [] => []
  | node :: rest =>
    if spares around node then node :: prunedAll spares around rest
    else if isForeign node then prunedAll spares around rest
    else pruned spares node :: prunedAll spares around rest

end

def sparesNothing (_ : Xml.ExpandedName) (_ : Node) : Bool :=
  false

/-- Whether a node is a coordinate of the dependency around it, whatever its own
namespace. -/
def sparesCoordinates (around : Xml.ExpandedName) (node : Node) : Bool :=
  isDependencyName around && NamesCoordinate node

/-- Whether no foreign element in a tree, its root included, holds a
dependency. -/
def KeepsApart (tree : Node) : Prop :=
  ∀ outer ∈ tree.descendants, isForeign outer = true →
    ∀ inner ∈ outer.descendants, ¬IsDependency inner

instance (tree : Node) : Decidable (KeepsApart tree) :=
  inferInstanceAs (Decidable (∀ outer ∈ tree.descendants, _))

theorem KeepsApart.of_child {tree child : Node} (apart : KeepsApart tree)
    (isChild : child ∈ tree.children) : KeepsApart child :=
  fun outer inside => apart outer (Node.mem_descendants_of_child isChild inside)

theorem KeepsApart.none_of_isForeign {tree : Node} (apart : KeepsApart tree)
    (foreign : isForeign tree = true) : tree.descendants.filterMap dependencyOf? = [] := by
  rw [List.filterMap_eq_nil_iff]
  intro inner inside
  rw [dependencyOf?_eq, if_neg (apart tree tree.mem_descendants_self foreign inner inside)]

theorem name?_pruned (spares : Xml.ExpandedName → Node → Bool) (node : Node) :
    (pruned spares node).name? = node.name? := by
  cases node <;> rfl

theorem filterMap_prunedAll {around : Xml.ExpandedName} (isDependency : isDependencyName around)
    (coordinate : Coordinate) (nodes : List Node) :
    (prunedAll sparesCoordinates around nodes).filterMap (namedValue? coordinate.localName) =
      nodes.filterMap (namedValue? coordinate.localName) := by
  induction nodes with
  | nil => rfl
  | cons node nodes ih =>
      rw [prunedAll]
      by_cases spared : sparesCoordinates around node = true
      · rw [if_pos spared, List.filterMap_cons, List.filterMap_cons, ih]
      · have unnamed : ¬Named coordinate.localName node := by
          intro named
          have names : NamesCoordinate node := ⟨coordinate, coordinate.mem_all, named⟩
          exact spared (by rw [sparesCoordinates, isDependency, decide_eq_true names]; rfl)
        have prunedUnnamed : ¬Named coordinate.localName (pruned sparesCoordinates node) := by
          rwa [Named, name?_pruned]
        rw [if_neg spared, List.filterMap_cons_none (namedValue?_of_unnamed unnamed)]
        split
        · exact ih
        · rw [List.filterMap_cons_none (namedValue?_of_unnamed prunedUnnamed), ih]

theorem dependencyOf?_pruned (node : Node) :
    dependencyOf? (pruned sparesCoordinates node) = dependencyOf? node := by
  have same : IsDependency (pruned sparesCoordinates node) ↔ IsDependency node := by
    rw [IsDependency, IsDependency, name?_pruned]
  by_cases isDependency : IsDependency node
  · rw [dependencyOf?_eq, dependencyOf?_eq, if_pos isDependency, if_pos (same.mpr isDependency)]
    cases node with
    | element name attributes nodes =>
        have named : isDependencyName name = true :=
          isDependencyName_iff.mpr (isDependency.imp Option.some.inj Option.some.inj)
        simp only [pruned, Node.children, partValue_eq, filterMap_prunedAll named]
    | text _ => rfl
    | comment _ => rfl
    | instruction _ _ => rfl
  · rw [dependencyOf?_eq, dependencyOf?_eq, if_neg isDependency, if_neg (mt same.mp isDependency)]

mutual

theorem dependencies_pruned :
    ∀ node : Node, (∀ child ∈ node.children, KeepsApart child) →
      dependencies (pruned sparesCoordinates node) = dependencies node
  | .element name attributes nodes, apart => by
      have here := dependencyOf?_pruned (.element name attributes nodes)
      rw [pruned] at here
      rw [pruned, dependencies, dependencies, Node.descendants, Node.descendants,
        List.filterMap_cons, List.filterMap_cons, here,
        filterMap_descendants_prunedAll name nodes apart]
  | .text _, _ => rfl
  | .comment _, _ => rfl
  | .instruction _ _, _ => rfl

theorem filterMap_descendants_prunedAll (around : Xml.ExpandedName) :
    ∀ nodes : List Node, (∀ node ∈ nodes, KeepsApart node) →
      (Node.descendantsAll (prunedAll sparesCoordinates around nodes)).filterMap dependencyOf? =
        (Node.descendantsAll nodes).filterMap dependencyOf?
  | [], _ => rfl
  | node :: rest, apart => by
      obtain ⟨here, later⟩ := List.forall_mem_cons.mp apart
      have ih := filterMap_descendants_prunedAll around rest later
      rw [prunedAll, Node.descendantsAll, List.filterMap_append]
      split
      · rw [Node.descendantsAll, List.filterMap_append, ih]
      · split
        · next foreign => rw [here.none_of_isForeign foreign, ih, List.nil_append]
        · have inside := dependencies_pruned node fun _ isChild => here.of_child isChild
          rw [dependencies, dependencies] at inside
          rw [Node.descendantsAll, List.filterMap_append, inside, ih]

end

/-- Deleting the foreign elements, coordinates of dependencies and what is inside
them apart, leaves what a document declares unchanged. -/
theorem dependenciesOf_eq_pruned (entry : String) {text : String} {root : Node}
    (wellFormed : Node.ofText? text = some root)
    (apart : ∀ child ∈ root.children, KeepsApart child) :
    dependenciesOf entry text = .ok (dependencies (pruned sparesCoordinates root)) := by
  rw [dependenciesOf_of_root entry wellFormed, dependencies_pruned root apart]

/-- A descriptor with foreign elements around its coordinates. -/
def annotatedDescriptor : String :=
  "<project xmlns='http://maven.apache.org/POM/4.0.0' xmlns:x='urn:x'><x:groupId>no</x:groupId>
    <dependency><x:note>no</x:note><groupId>g<x:b>1</x:b></groupId><x:exclusions/></dependency>
  </project>"

set_option maxRecDepth 2000 in
theorem dependenciesOf_annotatedDescriptor :
    ∃ root, Node.ofText? annotatedDescriptor = some root ∧
      (∀ child ∈ root.children, KeepsApart child) ∧
      (pruned sparesCoordinates root).descendants.length < root.descendants.length ∧
      dependenciesOf "pom.xml" annotatedDescriptor =
        .ok (dependencies (pruned sparesCoordinates root)) := by
  have checked : ∃ root ∈ Node.ofText? annotatedDescriptor,
      (∀ child ∈ root.children, KeepsApart child) ∧
        (pruned sparesCoordinates root).descendants.length < root.descendants.length := by
    rw [annotatedDescriptor, Node.ofText?, String.toList_ofList]
    decide +kernel
  obtain ⟨root, wellFormed, apart, smaller⟩ := checked
  exact ⟨root, wellFormed, apart, smaller, dependenciesOf_eq_pruned "pom.xml" wellFormed apart⟩

/-- A dependency with a foreign element in its version, and another one that has
the name of a coordinate. -/
def notedDependency : String :=
  "<dependency xmlns:x='urn:x'><groupId>g</groupId><version>1.0<x:note>-rc</x:note></version>
    <x:groupId>h</x:groupId></dependency>"

/-- Without its foreign elements the dependency tells another record. -/
theorem dependenciesOf_ne_without_foreign :
    ∃ root, Node.ofText? notedDependency = some root ∧
      (∀ child ∈ root.children, KeepsApart child) ∧
      dependenciesOf "pom.xml" notedDependency = .ok [⟨"h", "", "1.0-rc", ""⟩] ∧
      dependencies (pruned sparesNothing root) = [⟨"g", "", "1.0", ""⟩] ∧
      dependenciesOf "pom.xml" notedDependency ≠ .ok (dependencies (pruned sparesNothing root)) := by
  have checked : ∃ root ∈ Node.ofText? notedDependency,
      (∀ child ∈ root.children, KeepsApart child) ∧
        dependencies root = [⟨"h", "", "1.0-rc", ""⟩] ∧
        dependencies (pruned sparesNothing root) = [⟨"g", "", "1.0", ""⟩] := by
    rw [notedDependency, Node.ofText?, String.toList_ofList]
    decide +kernel
  obtain ⟨root, wellFormed, apart, told, changed⟩ := checked
  have read : dependenciesOf "pom.xml" notedDependency = .ok [⟨"h", "", "1.0-rc", ""⟩] := by
    rw [dependenciesOf_of_root "pom.xml" wellFormed, told]
  refine ⟨root, wellFormed, apart, read, changed, ?_⟩
  rw [read, changed]
  intro same
  exact absurd (Except.ok.inj same) (by decide)

end Pom
end JarAtlas
