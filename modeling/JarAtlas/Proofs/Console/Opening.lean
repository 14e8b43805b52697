/-
Opening a store more than once.

Once a store was opened, its path leads to a file that holds it, and all that
opening asks for is there.  This stays so while nothing is removed, so that the
store can be opened again and is found as it was last written.
-/
import JarAtlas.Proofs.Console.Attempts
import JarAtlas.Proofs.Store.History

namespace JarAtlas
namespace Console

open JarAtlas.Path (IsPlain ofSegments)

/-- A path at which a store can be opened again and again.  One that ends in a
slash names a directory, so that no file is found under it. -/
def IsStorePath (path : String) : Prop :=
  Memory.isPath path = true ∧ Path.trimmed path.toList = path.toList

namespace Memory

variable {memory later last : Memory} {path : String} {place : List String} {store : Store}

def Stores (place : List String) (store : Store) (memory : Memory) : Prop :=
  ∃ content, memory.tree.standing place = .file content ∧ Store.decode? content = some store

theorem Stores.spared (stores : Stores place store memory) (spares : memory.Spares place later) :
    Stores place store later := by
  obtain ⟨content, file, decodes⟩ := stores
  exact ⟨content, spares.same.trans file, decodes⟩

theorem stores_of_standing (file : memory.tree.standing place = .file store.encode) :
    Stores place store memory :=
  ⟨store.encode, file, Store.decode?_encode store⟩

theorem Stores.ne_nothing (stores : Stores place store memory) :
    memory.tree.standing place ≠ .nothing := by
  obtain ⟨content, file, -⟩ := stores
  rw [file]
  simp

theorem length_guardPath (name : String) :
    (guardPath name).toList.length = name.toList.length + 5 := by
  rw [guardPath, String.toList_append, List.length_append]
  rfl

theorem isPlain_guardPath {name : String} (plain : IsPlain name) : IsPlain (guardPath name) := by
  have length := length_guardPath name
  have longer (short : String) (few : short.toList.length < 5) : guardPath name ≠ short := by
    rintro rfl
    omega
  refine ⟨?_, longer "" (by simp), longer "." (by simp), longer ".." (by simp)⟩
  rw [guardPath, String.toList_append]
  intro slash
  rcases List.mem_append.mp slash with inName | inMark
  · exact plain.noSlash inName
  · simp at inMark

theorem guardPath_ofSegments (place : List String) (name : String) :
    guardPath (ofSegments (place ++ [name])) = ofSegments (place ++ [guardPath name]) := by
  apply String.toList_inj.mp
  rw [guardPath, String.toList_append, Path.toList_ofSegments (by simp),
    Path.toList_ofSegments (by simp)]
  simp [guardPath]

theorem target_guardPath_ne (memory : Memory) (plain : ∀ name ∈ place, IsPlain name)
    (notRoot : place ≠ []) : memory.target (guardPath (ofSegments place)) ≠ place := by
  obtain ⟨front, name, rfl⟩ := (List.eq_nil_or_concat place).resolve_left notRoot
  rw [List.concat_eq_append] at plain ⊢
  have guardPlain : ∀ other ∈ front ++ [guardPath name], IsPlain other := by
    apply Path.plain_concat
    · exact fun other member => plain other (List.mem_append_left _ member)
    · exact isPlain_guardPath (plain name (by simp))
  rw [guardPath_ofSegments, target_ofSegments memory guardPlain]
  intro same
  have names : guardPath name = name := by simpa using same
  have length := length_guardPath name
  rw [names] at length
  omega

/-- Whether the guard of a store is there, or a device in its place. -/
def Guarded (place : List String) (memory : Memory) : Prop :=
  ∃ guard, memory.place? (guardPath (ofSegments place)) = some guard ∧
    (memory.tree.standing guard = .device ∨ ∃ content, memory.tree.standing guard = .file content)

theorem Guarded.grows (guarded : Guarded place memory) (grows : memory.Grows later) :
    Guarded place later := by
  obtain ⟨guard, leads, standing⟩ := guarded
  refine ⟨guard, grows.place? leads, ?_⟩
  have becomes := grows.tree guard
  rcases standing with device | ⟨content, file⟩
  · rw [device] at becomes
    exact Or.inl becomes
  · rw [file] at becomes
    exact Or.inr becomes

theorem guarded_of_write? {content : ByteArray}
    (written : memory.write? (guardPath (ofSegments place)) content = some later) :
    Guarded place later := by
  obtain ⟨guard, leads, standing⟩ := standing_of_write? written
  refine ⟨guard, (grows_write? written).place? leads, ?_⟩
  rcases standing with ⟨-, device⟩ | file
  · exact Or.inl device
  · exact Or.inr ⟨content, file⟩

theorem Guarded.exists_write? (guarded : Guarded place memory) (content : ByteArray) :
    ∃ later, memory.write? (guardPath (ofSegments place)) content = some later := by
  obtain ⟨guard, leads, standing⟩ := guarded
  rw [write?, leads]
  rcases standing with device | ⟨old, file⟩
  · exact ⟨memory, by simp only [device]⟩
  · exact ⟨{ memory with tree := memory.tree.put guard (.file content) }, by simp only [file]⟩

/-! ### Machines on which a store can be opened -/

/-- Whether all that opening a store asks for is there: the directories around
it, the place to which its path and its full path lead, and a guard beside it. -/
structure Ready (path : String) (place : List String) (memory : Memory) : Prop where
  plain : ∀ name ∈ place, IsPlain name
  notRoot : place ≠ []
  directories : ∀ parent, (Path.parent? path).filter (· ≠ "") = some parent →
    memory.HasDirectories parent
  leads : memory.place? path = some place
  returns : memory.place? (ofSegments place) = some place
  guarded : Guarded place memory

theorem Ready.grows (ready : Ready path place memory) (grows : memory.Grows later) :
    Ready path place later where
  plain := ready.plain
  notRoot := ready.notRoot
  directories parent above := grows.hasDirectories (ready.directories parent above)
  leads := grows.place? ready.leads
  returns := grows.place? ready.returns
  guarded := ready.guarded.grows grows

theorem Ready.attempt_makeParent (ready : Ready path place memory)
    (failure : String → Failure) :
    memory.attempt (makeParent path failure) = (.ok (), memory) := by
  rw [Memory.attempt_makeParent]
  split
  · rfl
  · rename_i parent above
    rw [makeDirectories_of_hasDirectories (ready.directories parent above)]
    rfl

theorem Ready.attempt_openStore (ready : Ready path place memory)
    (stores : Stores place store memory) :
    ∃ later, memory.attempt (openStore path) = (.ok ⟨ofSegments place, store⟩, later) ∧
      memory.Spares place later := by
  have resolves : memory.resolve? path = some (ofSegments place) := by
    rw [resolve?, ready.leads]
    dsimp only
    split
    · rename_i nothing
      exact absurd nothing stores.ne_nothing
    · rfl
  obtain ⟨guarded, written⟩ := ready.guarded.exists_write? guardContent
  have spares : memory.Spares place guarded :=
    spares_write? (target_guardPath_ne memory ready.plain ready.notRoot) written
  obtain ⟨content, file, decodes⟩ := stores.spared spares
  have looks : guarded.look (ofSegments place) = .file content := by
    rw [look_of_place? (ready.grows spares.toGrows).returns, file]
  refine ⟨guarded, ?_, spares⟩
  rw [openStore, attempt_bind_of_ok (ready.attempt_makeParent _),
    attempt_bind_of_ok (attempt_storePlace?_of_resolve? resolves)]
  dsimp only
  rw [attempt_required_write_of_some written, attempt_bind_of_ok (attempt_look guarded _), looks]
  dsimp only
  rw [decodes]
  rfl

/-! ### What opening leaves behind -/

theorem attempt_makeParent_ok {failure : String → Failure}
    (ended : memory.attempt (makeParent path failure) = (.ok (), later)) :
    memory.Grows later ∧ ∀ parent, (Path.parent? path).filter (· ≠ "") = some parent →
      later.HasDirectories parent := by
  rw [attempt_makeParent] at ended
  split at ended
  · rename_i noParent
    cases ended
    refine ⟨.refl memory, ?_⟩
    intro parent above
    rw [noParent] at above
    cases above
  · rename_i parent above
    obtain ⟨succeeds, rfl⟩ := Prod.mk.inj ended
    refine ⟨grows_makeDirectories memory parent, ?_⟩
    intro other otherAbove
    rw [above] at otherAbove
    cases otherAbove
    apply hasDirectories_makeDirectories
    split at succeeds
    · rename_i complete
      exact complete
    · cases succeeds

/-- The place of a store that is to be opened: its full path is the one that was
found, and its own path leads there as soon as the full path leads somewhere. -/
theorem place_of_attempt_storePlace? {text : String} (works : memory.WorksAtPlace)
    (isStorePath : IsStorePath path)
    (told : memory.attempt (storePlace? path) = (.ok (some text), later)) :
    later = memory ∧ text = ofSegments (memory.target path) ∧
      ∀ last found, memory.Grows last → last.place? text = some found →
        last.place? path = some (memory.target path) := by
  obtain ⟨rfl, resolves | ⟨parent, name, directory, above, named, resolves, rfl⟩⟩ :=
    attempt_storePlace? told
  · obtain ⟨place, leads, rfl⟩ := exists_place_of_resolve? resolves
    rw [target_of_place? leads]
    exact ⟨rfl, rfl, fun last found grows _ => grows.place? leads⟩
  · obtain ⟨place, leads, rfl⟩ := exists_place_of_resolve? resolves
    have notEmpty : parent ≠ "" := by
      rintro rfl
      exact absurd (follow?_of_place? leads).1 (by decide)
    obtain ⟨way, blank, tail, parts⟩ := Path.exists_parts isStorePath.2 above named notEmpty
    have plain : ∀ other ∈ place, IsPlain other := by
      rw [← target_of_place? leads]
      exact plain_target works parent
    rw [target_of_parts parts, target_of_place? leads, Path.join_ofSegments plain parts.plain]
    refine ⟨rfl, rfl, ?_⟩
    intro last found grows lastLeads
    obtain ⟨isDirectory, fits⟩ := isDirectory_of_place? plain parts.plain lastLeads
    exact place?_of_parts parts isStorePath.1 (grows.place? leads) isDirectory fits

theorem WorksAtPlace.grows (works : memory.WorksAtPlace) (grows : memory.Grows later) :
    later.WorksAtPlace := by
  rw [WorksAtPlace, grows.directory]
  exact works

theorem ready_of_file {guarded : Memory} {content : ByteArray}
    (plain : ∀ name ∈ place, IsPlain name)
    (directories : ∀ parent, (Path.parent? path).filter (· ≠ "") = some parent →
      memory.HasDirectories parent)
    (leads : ∀ last found, memory.Grows last → last.place? (ofSegments place) = some found →
      last.place? path = some place)
    (guardWritten : memory.write? (guardPath (ofSegments place)) guardContent = some guarded)
    (grows : guarded.Grows last) (returns : last.place? (ofSegments place) = some place)
    (file : last.tree.standing place = .file content) : Ready path place last where
  plain := plain
  notRoot := by
    rintro rfl
    cases file
  directories parent above :=
    ((grows_write? guardWritten).trans grows).hasDirectories (directories parent above)
  leads := leads last place ((grows_write? guardWritten).trans grows) returns
  returns := returns
  guarded := (guarded_of_write? guardWritten).grows grows

theorem ready_of_attempt_openStore {opened : OpenedStore} (works : memory.WorksAtPlace)
    (isStorePath : IsStorePath path)
    (ended : memory.attempt (openStore path) = (.ok opened, later)) :
    opened.place = ofSegments (memory.target path) ∧ memory.Grows later ∧
      Ready path (memory.target path) later ∧
      Stores (memory.target path) opened.content later := by
  rw [openStore] at ended
  obtain ⟨⟨⟩, made, parentMade, ended⟩ := exists_of_attempt_bind ended
  obtain ⟨growsMade, directories⟩ := attempt_makeParent_ok parentMade
  obtain ⟨found, placed, storePlaced, ended⟩ := exists_of_attempt_bind ended
  cases found with
  | none => cases ended
  | some text =>
      obtain ⟨rfl, rfl, leads⟩ :=
        place_of_attempt_storePlace? (works.grows growsMade) isStorePath storePlaced
      rw [growsMade.target] at *
      have plain := plain_target works path
      obtain ⟨guarded, guardWritten, ended⟩ := exists_of_attempt_required_write ended
      have growsGuarded := growsMade.trans (grows_write? guardWritten)
      rw [attempt_bind_of_ok (attempt_look guarded _)] at ended
      split at ended
      · cases ended
      · cases ended
      · rename_i nothing
        obtain ⟨last, written, ended⟩ := exists_of_attempt_required_write ended
        cases ended
        obtain ⟨found, returns, standing⟩ := standing_of_write? written
        obtain rfl := eq_of_place?_ofSegments plain returns
        rw [look_of_place? returns] at nothing
        rw [nothing] at standing
        rcases standing with ⟨device, -⟩ | file
        · cases device
        · have grows := grows_write? written
          have ready := ready_of_file plain directories leads guardWritten grows
            (grows.place? returns) file
          exact ⟨rfl, growsGuarded.trans grows, ready, stores_of_standing file⟩
      · rename_i content file
        split at ended
        · cases ended
        · rename_i decodes
          cases ended
          obtain ⟨found, returns, standing⟩ := exists_place_of_look file
          obtain rfl := eq_of_place?_ofSegments plain returns
          have ready := ready_of_file plain directories leads guardWritten (.refl _) returns
            standing
          exact ⟨rfl, growsGuarded, ready, content, standing, decodes⟩

section

variable {middle : Memory} {given : Option String} {report : Report}

theorem attempt_saveReport_of_isKey (key : Store.isKey report.projectId = true)
    (asked : memory.attempt (storePath given) = (.ok path, memory))
    (opens : memory.attempt (openStore path) = (.ok ⟨ofSegments place, store⟩, middle))
    (ready : Ready path place middle) (stores : Stores place store middle) :
    ∃ later summaries,
      memory.attempt (saveReport given report) =
        (.ok ("[class-deps] saved project " ++ report.projectId ++ " (" ++
          decimalText report.model.classNames.length ++ " classes)"), later) ∧
      middle.Grows later ∧
      Stores place ⟨store.models.insert report.projectId report.model.toJson.compact, summaries⟩
        later := by
  obtain ⟨content, file, -⟩ := stores
  let changed : Store :=
    ⟨store.models.insert report.projectId report.model.toJson.compact,
      store.summaries.insert report.projectId (report.summary middle.clock).toJson.compact⟩
  have saved : middle.attempt (ofStore (store.save middle.clock report)) =
      (.ok (changed, report.summary middle.clock), middle) := by
    rw [attempt_ofStore, Store.save_of_isKey key]
  obtain ⟨later, written, replaced⟩ := standing_write? changed.encode ready.returns file
  refine ⟨later, changed.summaries, ?_, grows_write? written, stores_of_standing replaced⟩
  rw [saveReport, attempt_bind_of_ok asked, attempt_bind_of_ok opens,
    attempt_bind_of_ok (attempt_now middle), attempt_bind_of_ok saved]
  exact attempt_required_write_of_some written

theorem attempt_saveReport_of_not_isKey (noKey : ¬Store.isKey report.projectId = true)
    (asked : memory.attempt (storePath given) = (.ok path, memory))
    (opens : memory.attempt (openStore path) = (.ok ⟨ofSegments place, store⟩, middle)) :
    memory.attempt (saveReport given report) = (.error (.store .keySize), middle) := by
  rw [saveReport, attempt_bind_of_ok asked, attempt_bind_of_ok opens,
    attempt_bind_of_ok (attempt_now middle)]
  apply attempt_bind_of_error
  rw [attempt_ofStore, Store.save_of_not_isKey noKey]

end

end Memory
end Console
end JarAtlas
