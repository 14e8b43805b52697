/-
The machine on which commands run.

Commands read variables, the user's home and files, and write and remove files.
What a file holds and whether an operation succeeds is all that they see of the
machine.
-/

namespace JarAtlas
namespace Console

/-- What stands at a path.  A device takes what is written to it and holds no
content of its own. -/
inductive Standing where
  | nothing
  | directory
  | device
  | file (content : ByteArray)

/-- A machine on which commands run.  Operations that change it say whether
they succeeded. -/
class Host (m : Type → Type) where
  setting? : String → m (Option String)
  /-- The home that the machine's records state for the user. -/
  recordedHome? : m (Option String)
  look : String → m Standing
  /-- The full path, without detours, to what stands at a path. -/
  resolve? : String → m (Option String)
  makeDirectories : String → m Bool
  write : String → ByteArray → m Bool
  remove : String → m Bool
  now : m Nat

instance {ε : Type} {m : Type → Type} [Monad m] [Host m] : Host (ExceptT ε m) where
  setting? name := ExceptT.lift (Host.setting? name)
  recordedHome? := ExceptT.lift Host.recordedHome?
  look path := ExceptT.lift (Host.look path)
  resolve? path := ExceptT.lift (Host.resolve? path)
  makeDirectories path := ExceptT.lift (Host.makeDirectories path)
  write path content := ExceptT.lift (Host.write path content)
  remove path := ExceptT.lift (Host.remove path)
  now := ExceptT.lift Host.now

end Console
end JarAtlas
