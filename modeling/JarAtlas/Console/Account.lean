/-
Accounts.

A machine keeps a record of each account on a line of its own, with seven
fields between colons.  The third is the number of the account and the sixth its
home.  The description of a running program tells on a line of its own which
account it runs for.
-/

namespace JarAtlas
namespace Console
namespace Account

def recordsPath : String := "/etc/passwd"

def descriptionPath : String := "/proc/self/status"

def linesOf (text : String) : List (List Char) :=
  text.toList.splitOn '\n'

def number? (description : String) : Option (List Char) :=
  (linesOf description).findSome? fun line =>
    match line.splitOn '\t' with
    | label :: number :: _ => if label = "Uid:".toList then some number else none
    | _ => none

def recordedHome? (number record : List Char) : Option (List Char) :=
  match record.splitOn ':' with
  | _ :: _ :: own :: _ :: _ :: home :: _ => if own = number then some home else none
  | _ => none

def home? (description records : String) : Option String := do
  let number ← number? description
  let home ← (linesOf records).findSome? (recordedHome? number)
  if home.isEmpty then none else some (String.ofList home)

end Account
end Console
end JarAtlas
