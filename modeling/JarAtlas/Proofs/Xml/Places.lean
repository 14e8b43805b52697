/-
Places in a tree.

A place tells which child to take at each step on the way down from the root.
The lexicographic order of places is the order of the document: a node stands
before what is inside it, and what is inside one child before the next child.
The descendants of a node are the nodes at its places, in this order.
-/
import JarAtlas.Xml.Node
import Mathlib.Data.List.Forall2

namespace JarAtlas
namespace Xml

abbrev Place := List Nat

namespace Node

def children : Node → List Node
  | .element _ _ children => children
  | _ => []

def at? : Node → Place → Option Node
  | node, [] => some node
  | node, index :: rest => node.children[index]?.bind fun child => child.at? rest

theorem mem_descendants_self (node : Node) : node ∈ node.descendants := by
  cases node <;> exact List.mem_cons_self

theorem mem_descendantsAll_iff {nodes : List Node} {inner : Node} :
    inner ∈ descendantsAll nodes ↔ ∃ node ∈ nodes, inner ∈ node.descendants := by
  induction nodes with
  | nil => simp [descendantsAll]
  | cons node nodes ih => rw [descendantsAll, List.mem_append, ih, List.exists_mem_cons_iff]

theorem mem_descendants_of_child {node child inner : Node} (isChild : child ∈ node.children)
    (inside : inner ∈ child.descendants) : inner ∈ node.descendants := by
  cases node with
  | element name attributes nodes =>
      exact List.mem_cons_of_mem _ (mem_descendantsAll_iff.mpr ⟨child, isChild, inside⟩)
  | text _ => exact (List.not_mem_nil isChild).elim
  | comment _ => exact (List.not_mem_nil isChild).elim
  | instruction _ _ => exact (List.not_mem_nil isChild).elim

mutual

def placed : Node → List (Place × Node)
  | .element name attributes children =>
    ([], .element name attributes children) :: placedFrom 0 children
  | node => [([], node)]

def placedFrom (index : Nat) : List Node → List (Place × Node)
  | [] => []
  | node :: rest =>
    (placed node).map (fun inner => (index :: inner.1, inner.2)) ++ placedFrom (index + 1) rest

end

mutual

theorem map_snd_placed : ∀ node : Node, node.placed.map Prod.snd = node.descendants
  | .element name attributes children => by
      rw [placed, descendants, List.map_cons, map_snd_placedFrom]
  | .text _ => rfl
  | .comment _ => rfl
  | .instruction _ _ => rfl

theorem map_snd_placedFrom (index : Nat) :
    ∀ nodes : List Node, (placedFrom index nodes).map Prod.snd = descendantsAll nodes
  | [] => rfl
  | node :: rest => by
      rw [placedFrom, descendantsAll, List.map_append, List.map_map, map_snd_placedFrom,
        ← map_snd_placed]
      rfl

end

theorem mem_placedFrom_iff {nodes : List Node} {index : Nat} {place : Place} {inner : Node} :
    (place, inner) ∈ placedFrom index nodes ↔
      ∃ offset node rest, nodes[offset]? = some node ∧ (rest, inner) ∈ node.placed ∧
        place = (index + offset) :: rest := by
  induction nodes generalizing index with
  | nil => simp [placedFrom]
  | cons node nodes ih =>
      rw [placedFrom, List.mem_append, List.mem_map, ih]
      constructor
      · rintro (⟨⟨rest, _⟩, member, same⟩ | ⟨offset, later, rest, here, member, rfl⟩)
        · obtain ⟨rfl, rfl⟩ := Prod.mk.inj same
          exact ⟨0, node, rest, rfl, member, rfl⟩
        · exact ⟨offset + 1, later, rest, here, member, by rw [Nat.add_right_comm, Nat.add_assoc]⟩
      · rintro ⟨offset, later, rest, here, member, rfl⟩
        cases offset with
        | zero =>
            cases Option.some.inj here
            exact Or.inl ⟨(rest, inner), member, rfl⟩
        | succ offset =>
            exact Or.inr ⟨offset, later, rest, here, member, by
              rw [Nat.add_right_comm, Nat.add_assoc]⟩

theorem mem_placed_iff {node inner : Node} {place : Place} :
    (place, inner) ∈ node.placed ↔ node.at? place = some inner := by
  induction place generalizing node with
  | nil => cases node <;> simp [placed, at?, mem_placedFrom_iff, eq_comm]
  | cons index rest ih =>
      simp only [at?, Option.bind_eq_some_iff, ← ih]
      cases node with
      | element name attributes nodes => simp [placed, children, mem_placedFrom_iff]
      | text _ => simp [placed, children]
      | comment _ => simp [placed, children]
      | instruction _ _ => simp [placed, children]

mutual

theorem pairwise_placed :
    ∀ node : Node, node.placed.Pairwise fun first second => first.1 < second.1
  | .element name attributes nodes => by
      rw [placed, List.pairwise_cons]
      refine ⟨?_, pairwise_placedFrom 0 nodes⟩
      rintro ⟨place, inner⟩ member
      obtain ⟨offset, _, rest, _, _, rfl⟩ := mem_placedFrom_iff.mp member
      exact List.nil_lt_cons _ rest
  | .text _ => List.pairwise_singleton _ _
  | .comment _ => List.pairwise_singleton _ _
  | .instruction _ _ => List.pairwise_singleton _ _

theorem pairwise_placedFrom (index : Nat) :
    ∀ nodes : List Node,
      (placedFrom index nodes).Pairwise fun first second => first.1 < second.1
  | [] => List.Pairwise.nil
  | node :: rest => by
      rw [placedFrom, List.pairwise_append, List.pairwise_map]
      refine ⟨?_, pairwise_placedFrom (index + 1) rest, ?_⟩
      · exact (pairwise_placed node).imp fun before =>
          List.cons_lt_cons_iff.mpr (Or.inr ⟨rfl, before⟩)
      · rintro first here ⟨second, inner⟩ member
        obtain ⟨_, _, rfl⟩ := List.mem_map.mp here
        obtain ⟨offset, _, _, _, _, rfl⟩ := mem_placedFrom_iff.mp member
        exact List.cons_lt_cons_iff.mpr (Or.inl (by omega))

end

/-- The places of the nodes from which something is taken, in the order of the
document. -/
structure PlacesOf (Taken : Node → Prop) (root : Node) (places : List Place) : Prop where
  ordered : places.Pairwise (· < ·)
  mem_iff : ∀ place, place ∈ places ↔ ∃ node, root.at? place = some node ∧ Taken node

theorem forall₂_filter_filterMap {α β : Type} (take : α → Option β) (items : List α) :
    List.Forall₂ (fun item value => take item = some value)
      (items.filter fun item => (take item).isSome) (items.filterMap take) := by
  induction items with
  | nil => exact .nil
  | cons item items ih =>
      cases found : take item with
      | none => simpa [List.filter_cons, List.filterMap_cons, found] using ih
      | some value => simpa [List.filter_cons, List.filterMap_cons, found] using ih

/-- What is taken from the descendants of a node is taken from each of them once,
in the order of the document. -/
theorem exists_placesOf {α : Type} (take : Node → Option α) (root : Node) :
    ∃ places, PlacesOf (fun node => (take node).isSome = true) root places ∧
      List.Forall₂ (fun place value => ∃ node, root.at? place = some node ∧ take node = some value)
        places (root.descendants.filterMap take) := by
  let takes (item : Place × Node) : Bool := (take item.2).isSome
  refine ⟨(root.placed.filter takes).map Prod.fst, ⟨?_, ?_⟩, ?_⟩
  · exact List.pairwise_map.mpr ((pairwise_placed root).filter takes)
  · intro place
    simp only [List.mem_map, List.mem_filter, Prod.exists, exists_and_right, exists_eq_right,
      mem_placed_iff, takes]
  · rw [← map_snd_placed, List.filterMap_map, List.forall₂_map_left_iff]
    have standing : ∀ item ∈ root.placed.filter takes, root.at? item.1 = some item.2 :=
      fun item member => mem_placed_iff.mp (List.mem_of_mem_filter member)
    have taken := (List.forall₂_and_left _ _).mpr
      ⟨standing, forall₂_filter_filterMap (take ∘ Prod.snd) root.placed⟩
    exact taken.imp fun item value found => ⟨item.2, found⟩

end Node
end Xml
end JarAtlas
