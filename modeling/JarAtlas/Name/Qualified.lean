/-
Qualified names.

Compiled code separates the packages of a name by slashes; people separate them
by dots.  A compiled nested class carries the name of the class around it in its
own, `com/example/Outer$Inner`.  It is recorded as `com.example.Inner`, a child
of `com.example.Outer`.  Only the first dollar sign of the last segment
separates, so a class nested twice is recorded as `Inner$Deep` under `Outer`.
-/
import JarAtlas.Text.Split

namespace JarAtlas

def dotted (name : String) : String :=
  name.map fun c => if c = '/' then '.' else c

def slashed (name : String) : String :=
  name.map fun c => if c = '.' then '/' else c

def simpleName (name : String) : String :=
  String.ofList (afterLast '.' name.toList)

theorem dotted_slash_free (name : String) : '/' ∉ (dotted name).toList := by
  simp only [dotted, String.toList_map, List.mem_map, not_exists, not_and]
  intro c _
  split <;> simp_all

structure RecordedName where
  name : String
  parent : Option String
  deriving DecidableEq, Repr

namespace RecordedName

def isNested (recorded : RecordedName) : Bool :=
  recorded.parent.isSome

def packageAndSegment (name : List Char) : List Char × List Char :=
  match cutAtLast? '.' name with
  | some (package, segment) => (package ++ ['.'], segment)
  | none => ([], name)

/-- The recorded name of a class.  A dollar sign separates only where something
stands on both sides of it in the last segment. -/
def ofInternal (internalName : String) : RecordedName :=
  let name := dotted internalName
  let (package, segment) := packageAndSegment name.toList
  match cutAtFirst? '$' segment with
  | some (outer, own) =>
    if outer.isEmpty || own.isEmpty then
      ⟨name, none⟩
    else
      ⟨String.ofList (package ++ own), some (String.ofList (package ++ outer))⟩
  | none => ⟨name, none⟩

end RecordedName
end JarAtlas
