/-
The program.

The outer layer runs a command line on the machine at hand, prints the outcome
and ends with its code.
-/
import JarAtlas.Console.Account
import JarAtlas.Console.Run
import Std.Time.DateTime.Timestamp

namespace JarAtlas
namespace Console

def succeeds (action : IO Unit) : IO Bool := do
  try
    action
    return true
  catch _ => return false

def lookAt (path : String) : IO Standing := do
  try
    let place ← IO.FS.realPath path
    match (← place.metadata).type with
    | .dir => return .directory
    | .file => return .file (← IO.FS.readBinFile path)
    | _ => return .device
  catch _ => return .nothing

def homeOnRecord : IO (Option String) := do
  try
    let description ← IO.FS.readFile Account.descriptionPath
    let records ← IO.FS.readFile Account.recordsPath
    return Account.home? description records
  catch _ => return none

def resolveAt (path : String) : IO (Option String) := do
  try
    return some (← IO.FS.realPath path).toString
  catch _ => return none

instance : Host IO where
  setting? name := IO.getEnv name
  recordedHome? := homeOnRecord
  look path := lookAt path
  resolve? path := resolveAt path
  makeDirectories path := succeeds (IO.FS.createDirAll path)
  write path content := succeeds (IO.FS.writeBinFile path content)
  remove path := succeeds (IO.FS.removeFile path)
  now := do
    let time ← Std.Time.Timestamp.now
    return time.toSecondsSinceUnixEpoch.val.toNat

end Console
end JarAtlas

def main (arguments : List String) : IO UInt32 := do
  let outcome ← JarAtlas.Console.run arguments
  IO.print outcome.output
  for message in outcome.messages do
    IO.eprintln message
  return outcome.code.toUInt32
