/-
Attempts on a machine held in memory.

An attempt gives a value or a failure, and leaves the machine in some state
either way.  What each operation on the machine does is said once; longer
attempts are put together from them with the lemmas about `>>=`.
-/
import JarAtlas.Console.Run
import JarAtlas.Proofs.Console.Growth

namespace JarAtlas
namespace Console
namespace Memory

variable {α β : Type} {memory later last : Memory} {path : String}

def attempt (memory : Memory) (steps : Attempt (StateM Memory) α) : Except Failure α × Memory :=
  steps.run memory

section

variable {first : Attempt (StateM Memory) α} {next : α → Attempt (StateM Memory) β}

theorem attempt_bind (memory : Memory) :
    memory.attempt (first >>= next) =
      match memory.attempt first with
      | (.ok value, later) => later.attempt (next value)
      | (.error failure, later) => (.error failure, later) := by
  show (ExceptT.bindCont next (memory.attempt first).1).run (memory.attempt first).2 = _
  cases memory.attempt first with
  | mk result later => cases result <;> rfl

theorem attempt_bind_of_ok {value : α} (ended : memory.attempt first = (.ok value, later)) :
    memory.attempt (first >>= next) = later.attempt (next value) := by
  rw [attempt_bind, ended]

theorem attempt_bind_of_error {failure : Failure}
    (ended : memory.attempt first = (.error failure, later)) :
    memory.attempt (first >>= next) = (.error failure, later) := by
  rw [attempt_bind, ended]

theorem exists_of_attempt_bind {result : β}
    (ended : memory.attempt (first >>= next) = (.ok result, last)) :
    ∃ value later, memory.attempt first = (.ok value, later) ∧
      later.attempt (next value) = (.ok result, last) := by
  rw [attempt_bind] at ended
  split at ended
  · rename_i value later told
    exact ⟨value, later, told, ended⟩
  · cases ended

end

theorem attempt_look (memory : Memory) (path : String) :
    memory.attempt (Host.look path) = (.ok (memory.look path), memory) := rfl

theorem attempt_resolve? (memory : Memory) (path : String) :
    memory.attempt (Host.resolve? path) = (.ok (memory.resolve? path), memory) := rfl

theorem attempt_now (memory : Memory) :
    memory.attempt Host.now = (.ok memory.clock, memory) := rfl

theorem attempt_makeDirectories (memory : Memory) (path : String) :
    memory.attempt (Host.makeDirectories path) =
      (.ok (memory.makeDirectories path).1, (memory.makeDirectories path).2) := rfl

theorem attempt_write_of_some {content : ByteArray}
    (written : memory.write? path content = some later) :
    memory.attempt (Host.write path content) = (.ok true, later) := by
  show (match change (·.write? path content) memory with
    | (succeeded, changed) => ((.ok succeeded, changed) : Except Failure Bool × Memory)) = _
  rw [change, written]

theorem attempt_write_of_none {content : ByteArray}
    (refused : memory.write? path content = none) :
    memory.attempt (Host.write path content) = (.ok false, memory) := by
  show (match change (·.write? path content) memory with
    | (succeeded, changed) => ((.ok succeeded, changed) : Except Failure Bool × Memory)) = _
  rw [change, refused]

theorem attempt_require_true (memory : Memory) (failure : Failure) :
    memory.attempt (require true failure) = (.ok (), memory) := rfl

theorem attempt_require_false (memory : Memory) (failure : Failure) :
    memory.attempt (require false failure) = (.error failure, memory) := rfl

section

variable {content : ByteArray} {failure : Failure} {next : Attempt (StateM Memory) β}

theorem attempt_required_write_of_some (written : memory.write? path content = some later) :
    memory.attempt (do require (← Host.write path content) failure; next) = later.attempt next := by
  rw [attempt_bind_of_ok (attempt_write_of_some written),
    attempt_bind_of_ok (attempt_require_true later failure)]

theorem exists_of_attempt_required_write {result : β}
    (ended : memory.attempt (do require (← Host.write path content) failure; next) =
      (.ok result, last)) :
    ∃ later, memory.write? path content = some later ∧ later.attempt next = (.ok result, last) := by
  cases written : memory.write? path content with
  | some later =>
      rw [attempt_required_write_of_some written] at ended
      exact ⟨later, rfl, ended⟩
  | none =>
      rw [attempt_bind_of_ok (attempt_write_of_none written),
        attempt_bind_of_error (attempt_require_false memory failure)] at ended
      cases ended

end

/-! ### Asking for settings -/

/-- Whether an attempt sees no more of a machine than the settings and the home
on record, and leaves it as it is. -/
def OnlyAsks (steps : Attempt (StateM Memory) α) : Prop :=
  ∀ memory later : Memory, later.settings = memory.settings →
    later.recordedHome = memory.recordedHome →
    ∃ result, memory.attempt steps = (result, memory) ∧ later.attempt steps = (result, later)

theorem onlyAsks_pure (value : α) : OnlyAsks (pure value) :=
  fun _ _ _ _ => ⟨.ok value, rfl, rfl⟩

theorem onlyAsks_throw (failure : Failure) :
    OnlyAsks (throw failure : Attempt (StateM Memory) α) :=
  fun _ _ _ _ => ⟨.error failure, rfl, rfl⟩

theorem onlyAsks_setting? (name : String) :
    OnlyAsks (Host.setting? name : Attempt (StateM Memory) (Option String)) := by
  intro memory later settings _
  refine ⟨.ok (memory.settings.lookup name), rfl, ?_⟩
  rw [← settings]
  rfl

theorem onlyAsks_recordedHome? :
    OnlyAsks (Host.recordedHome? : Attempt (StateM Memory) (Option String)) := by
  intro memory later _ recordedHome
  refine ⟨.ok memory.recordedHome, rfl, ?_⟩
  rw [← recordedHome]
  rfl

theorem onlyAsks_bind {first : Attempt (StateM Memory) α}
    {next : α → Attempt (StateM Memory) β} (firstAsks : OnlyAsks first)
    (nextAsks : ∀ value, OnlyAsks (next value)) : OnlyAsks (first >>= next) := by
  intro memory later settings recordedHome
  obtain ⟨result, told, laterTold⟩ := firstAsks memory later settings recordedHome
  cases result with
  | error failure =>
      exact ⟨_, attempt_bind_of_error told, attempt_bind_of_error laterTold⟩
  | ok value =>
      rw [attempt_bind_of_ok told, attempt_bind_of_ok laterTold]
      exact nextAsks value memory later settings recordedHome

theorem onlyAsks_statedDirectory? (name : String) :
    OnlyAsks (statedDirectory? name : Attempt (StateM Memory) (Option String)) :=
  onlyAsks_bind (onlyAsks_setting? name) fun _ => onlyAsks_pure _

theorem onlyAsks_home? : OnlyAsks (home? : Attempt (StateM Memory) (Option String)) := by
  apply onlyAsks_bind (onlyAsks_setting? "HOME")
  intro stated
  split
  · exact onlyAsks_pure _
  · exact onlyAsks_recordedHome?

theorem onlyAsks_dataDirectory :
    OnlyAsks (dataDirectory : Attempt (StateM Memory) String) := by
  apply onlyAsks_bind (onlyAsks_statedDirectory? _)
  intro stated
  split
  · exact onlyAsks_pure _
  · apply onlyAsks_bind onlyAsks_home?
    intro home
    split
    · exact onlyAsks_pure _
    · apply onlyAsks_bind (onlyAsks_statedDirectory? _)
      intro passing
      split
      · exact onlyAsks_pure _
      · exact onlyAsks_throw _

/-- Where the store of a command is does not depend on the files that are
there. -/
theorem onlyAsks_storePath (given : Option String) :
    OnlyAsks (storePath given : Attempt (StateM Memory) String) := by
  cases given with
  | some path => exact onlyAsks_pure path
  | none =>
      apply onlyAsks_bind (onlyAsks_setting? _)
      intro named
      split
      · exact onlyAsks_pure _
      · exact onlyAsks_bind onlyAsks_dataDirectory fun _ => onlyAsks_pure _

/-! ### Steps of commands -/

theorem attempt_namespaceOf (memory : Memory) (given : Option String) :
    memory.attempt (namespaceOf given) =
      (match given.or (memory.settings.lookup namespaceVariable) with
        | some text => .ok (.ofText text)
        | none => .error .noNamespace, memory) := by
  cases given with
  | some text => rfl
  | none =>
      show memory.attempt (Host.setting? namespaceVariable >>= _) = _
      have asked : memory.attempt (Host.setting? namespaceVariable) =
          (.ok (memory.settings.lookup namespaceVariable), memory) := rfl
      rw [attempt_bind_of_ok asked, Option.none_or]
      cases memory.settings.lookup namespaceVariable <;> rfl

theorem attempt_surveyAt (memory : Memory) (path : String) (ns : Namespace) :
    memory.attempt (surveyAt path ns) =
      (match memory.look path with
        | .nothing => .error (.archiveMissing path)
        | .directory => .error (.archiveUnmapped path)
        | .device => .error (.archiveUnmapped path)
        | .file content =>
          match Survey.survey path ns content with
          | .ok report => .ok report
          | .error fault => .error (.archive path fault), memory) := by
  rw [surveyAt, attempt_bind_of_ok (attempt_look memory path)]
  cases memory.look path with
  | file content =>
      dsimp only
      cases Survey.survey path ns content <;> rfl
  | _ => rfl

theorem exists_of_attempt_surveyAt {ns : Namespace} {report : Report}
    (told : memory.attempt (surveyAt path ns) = (.ok report, later)) :
    later = memory ∧ ∃ archive, memory.look path = .file archive ∧
      Survey.survey path ns archive = .ok report := by
  rw [attempt_surveyAt] at told
  split at told
  · cases told
  · cases told
  · cases told
  · rename_i archive file
    split at told
    · rename_i surveyed
      cases told
      exact ⟨rfl, archive, file, surveyed⟩
    · cases told

theorem attempt_makeParent (memory : Memory) (path : String) (failure : String → Failure) :
    memory.attempt (makeParent path failure) =
      match (Path.parent? path).filter (· ≠ "") with
      | none => (.ok (), memory)
      | some parent =>
        (if (memory.makeDirectories parent).1 then .ok () else .error (failure parent),
          (memory.makeDirectories parent).2) := by
  rw [makeParent]
  cases (Path.parent? path).filter (· ≠ "") with
  | none => rfl
  | some parent =>
      dsimp only
      rw [attempt_bind_of_ok (attempt_makeDirectories memory parent)]
      cases (memory.makeDirectories parent).1 <;> rfl

theorem attempt_storePlace?_of_resolve? {place : String}
    (resolves : memory.resolve? path = some place) :
    memory.attempt (storePlace? path) = (.ok (some place), memory) := by
  rw [storePlace?, attempt_bind_of_ok (attempt_resolve? memory path), resolves]
  rfl

/-- The place of a store that is not there is below a directory that is. -/
theorem attempt_storePlace? {place : String}
    (told : memory.attempt (storePlace? path) = (.ok (some place), later)) :
    later = memory ∧
      (memory.resolve? path = some place ∨
        ∃ parent name directory, Path.parent? path = some parent ∧
          Path.fileName? path = some name ∧ memory.resolve? parent = some directory ∧
          place = Path.join directory name) := by
  rw [storePlace?, attempt_bind_of_ok (attempt_resolve? memory path)] at told
  split at told
  · rename_i resolves
    cases told
    exact ⟨rfl, Or.inl resolves⟩
  · split at told
    · rename_i parent name above named
      rw [attempt_bind_of_ok (attempt_resolve? memory parent)] at told
      split at told
      · cases told
      · rename_i directory resolves
        dsimp only at told
        rw [attempt_bind_of_ok (attempt_look memory _)] at told
        split at told
        · cases told
          exact ⟨rfl, Or.inr ⟨parent, name, directory, above, named, resolves, rfl⟩⟩
        · cases told
    · cases told

theorem attempt_ofStore (memory : Memory) (answer : Except StoreFault α) :
    memory.attempt (ofStore answer) =
      (match answer with
        | .ok value => .ok value
        | .error fault => .error (.store fault), memory) := by
  cases answer <;> rfl

end Memory
end Console
end JarAtlas
