/-
The inventory of a run.

Classes and declared dependencies are collected in the order in which they are
met.  A nested class may be met before the class around it, so children are
only attached to their parents when the run is over.
-/
import JarAtlas.Extraction

namespace JarAtlas

def addName (name : String) (names : List String) : List String :=
  if name ∈ names then names else names ++ [name]

/-- The children of each parent; parents and children stand in the order in
which they were first registered, each once. -/
structure NestingIndex where
  families : List (String × List String)
  deriving DecidableEq, Repr

namespace NestingIndex

def empty : NestingIndex := ⟨[]⟩

/-- Adds a child to a parent's family in a list of families, or a new family at
its end. -/
def addChild (parent child : String) : List (String × List String) → List (String × List String)
  | [] => [(parent, [child])]
  | (known, children) :: rest =>
    if known = parent then (known, addName child children) :: rest
    else (known, children) :: addChild parent child rest

def register (index : NestingIndex) (parent child : String) : NestingIndex :=
  ⟨addChild parent child index.families⟩

def childrenOf? (index : NestingIndex) (parent : String) : Option (List String) :=
  index.families.lookup parent

def size (index : NestingIndex) : Nat :=
  index.families.length

end NestingIndex

/-- What is collected in a run.  Beside the records stand the position of the
record met last under each name, the newest entry first, and the recorded names
in the order in which they first appeared, each once. -/
structure Inventory where
  classes : List ClassRecord
  latest : List (String × Nat)
  names : List String
  nesting : NestingIndex
  external : List DeclaredDependency
  deriving DecidableEq, Repr

namespace Inventory

def empty : Inventory := ⟨[], [], [], .empty, []⟩

def addClass (inventory : Inventory) (extracted : ExtractedClass) : Inventory :=
  let name := extracted.record.name
  { inventory with
    classes := inventory.classes ++ [extracted.record]
    latest := (name, inventory.classes.length) :: inventory.latest
    names := addName name inventory.names
    nesting :=
      match extracted.parent with
      | some parent => inventory.nesting.register parent name
      | none => inventory.nesting }

def addExternal (inventory : Inventory) (dependencies : List DeclaredDependency) : Inventory :=
  { inventory with external := inventory.external ++ dependencies }

def classCount (inventory : Inventory) : Nat :=
  inventory.classes.length

/-- Gives the children of a family to the record met last under the name of
their parent.  A family whose parent was never met is dropped. -/
def attachFamily (latest : List (String × Nat)) (records : List ClassRecord)
    (family : String × List String) : List ClassRecord :=
  match latest.lookup family.1 with
  | some position =>
    records.modify position fun record => { record with nestedClasses := family.2 }
  | none => records

def attach (latest : List (String × Nat)) (families : List (String × List String))
    (records : List ClassRecord) : List ClassRecord :=
  families.foldl (attachFamily latest) records

def finish (inventory : Inventory) : Model where
  classes := attach inventory.latest inventory.nesting.families inventory.classes
  externalDependencies := inventory.external
  classNames := inventory.names

end Inventory
end JarAtlas
