/-
A machine held in memory.

Commands run on it as on any other host, with a tree of files, the variables of
an environment, a working directory and a clock that stands still.  A path is
followed one segment at a time through directories that are there; neither a
segment nor a path can be too long.
-/
import JarAtlas.Console.Host
import JarAtlas.Console.Path

namespace JarAtlas
namespace Console

structure FileTree where
  places : List (List String × Standing)

namespace FileTree

def empty : FileTree := ⟨[]⟩

def standing (tree : FileTree) : List String → Standing
  | [] => .directory
  | place => (tree.places.lookup place).getD .nothing

def isDirectory (tree : FileTree) (place : List String) : Bool :=
  match tree.standing place with
  | .directory => true
  | _ => false

def put (tree : FileTree) (place : List String) (standing : Standing) : FileTree :=
  ⟨(place, standing) :: tree.places.filter (·.1 ≠ place)⟩

def drop (tree : FileTree) (place : List String) : FileTree :=
  ⟨tree.places.filter (·.1 ≠ place)⟩

def nameLimit : Nat := 255

def isName (segment : String) : Bool :=
  segment.utf8ByteSize ≤ nameLimit

def follow? (tree : FileTree) (place : List String) : List String → Option (List String)
  | [] => some place
  | segment :: rest =>
    if tree.isDirectory place then
      if segment = "" ∨ segment = "." then tree.follow? place rest
      else if segment = ".." then tree.follow? place.dropLast rest
      else if isName segment then tree.follow? (place ++ [segment]) rest
      else none
    else none

/-- Follows segments from a place and makes the directories that are not
there, until something is in the way; whether nothing was. -/
def makeAll (tree : FileTree) (place : List String) : List String → FileTree × Bool
  | [] => (tree, true)
  | segment :: rest =>
    if segment = "" ∨ segment = "." then tree.makeAll place rest
    else if segment = ".." then tree.makeAll place.dropLast rest
    else if isName segment then
      let inner := place ++ [segment]
      match tree.standing inner with
      | .directory => tree.makeAll inner rest
      | .nothing => (tree.put inner .directory).makeAll inner rest
      | .device => (tree, false)
      | .file _ => (tree, false)
    else (tree, false)

end FileTree

structure Memory where
  tree : FileTree
  directory : List String
  settings : List (String × String)
  recordedHome : Option String
  clock : Nat

namespace Memory

def origin (memory : Memory) (path : String) : List String :=
  if path.toList.head? = some '/' then [] else memory.directory

def pathLimit : Nat := 4096

def isPath (path : String) : Bool :=
  path ≠ "" && path.utf8ByteSize < pathLimit

def place? (memory : Memory) (path : String) : Option (List String) :=
  if isPath path then memory.tree.follow? (memory.origin path) (Path.segments path)
  else none

def look (memory : Memory) (path : String) : Standing :=
  match memory.place? path with
  | some place => memory.tree.standing place
  | none => .nothing

def resolve? (memory : Memory) (path : String) : Option String :=
  match memory.place? path with
  | none => none
  | some place =>
    match memory.tree.standing place with
    | .nothing => none
    | _ => some (Path.ofSegments place)

def makeDirectories (memory : Memory) (path : String) : Bool × Memory :=
  if isPath path then
    let (tree, complete) := memory.tree.makeAll (memory.origin path) (Path.segments path)
    (complete, { memory with tree })
  else (false, memory)

def write? (memory : Memory) (path : String) (content : ByteArray) : Option Memory :=
  match memory.place? path with
  | none => none
  | some place =>
    match memory.tree.standing place with
    | .directory => none
    | .device => some memory
    | _ => some { memory with tree := memory.tree.put place (.file content) }

def remove? (memory : Memory) (path : String) : Option Memory :=
  match memory.place? path with
  | none => none
  | some place =>
    match memory.tree.standing place with
    | .nothing => none
    | .directory => none
    | _ => some { memory with tree := memory.tree.drop place }

def change (step : Memory → Option Memory) : StateM Memory Bool := fun memory =>
  match step memory with
  | some changed => (true, changed)
  | none => (false, memory)

end Memory

instance : Host (StateM Memory) where
  setting? name := fun memory => (memory.settings.lookup name, memory)
  recordedHome? := fun memory => (memory.recordedHome, memory)
  look path := fun memory => (memory.look path, memory)
  resolve? path := fun memory => (memory.resolve? path, memory)
  makeDirectories path := fun memory => memory.makeDirectories path
  write path content := Memory.change (·.write? path content)
  remove path := Memory.change (·.remove? path)
  now := fun memory => (memory.clock, memory)

end Console
end JarAtlas
