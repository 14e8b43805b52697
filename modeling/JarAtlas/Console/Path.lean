/-
Paths.

A path is a text whose segments are separated by slashes.  Its parent and its
file name are read off the text; empty segments and single dots at its end do
not count.
-/
import JarAtlas.Text.Split

namespace JarAtlas
namespace Path

/-- The path without slashes and single dots at its end, reversed. -/
def trimmedBack : List Char → List Char
  | '/' :: rest => trimmedBack rest
  | '.' :: '/' :: rest => trimmedBack ('/' :: rest)
  | path => path

def trimmed (path : List Char) : List Char :=
  (trimmedBack path.reverse).reverse

/-- The directory in which a path lies; the empty text when the path is a
single segment, and nothing for the root and the empty path. -/
def parent? (path : String) : Option String :=
  let text := trimmed path.toList
  match cutAtLast? '/' text with
  | some (front, _) =>
    let directory := trimmed front
    if directory.isEmpty && front.head? = some '/' || front.isEmpty then some "/"
    else some (String.ofList directory)
  | none => if text.isEmpty then none else some ""

/-- The last segment of a path, unless it stays or leads upwards. -/
def fileName? (path : String) : Option String :=
  let name := afterLast '/' (trimmed path.toList)
  if name.isEmpty || name = ['.'] || name = ['.', '.'] then none else some (String.ofList name)

/-- A path below a directory.  A path that starts at the root stands alone. -/
def join (directory path : String) : String :=
  if directory = "" || path.toList.head? = some '/' then path
  else if directory.toList.getLast? = some '/' then directory ++ path
  else directory ++ "/" ++ path

def ofSegments (segments : List String) : String :=
  "/" ++ String.intercalate "/" segments

def segments (path : String) : List String :=
  (path.toList.splitOn '/').map String.ofList

end Path
end JarAtlas
