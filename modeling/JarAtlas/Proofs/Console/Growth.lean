/-
What making and writing leave as it was.

Directories that are made and files that are written stand where nothing or
another file stood.  So paths that led somewhere lead there still, directories
once made need not be made again, and a place that is not written to keeps what
stands there.
-/
import JarAtlas.Proofs.Console.Following

namespace JarAtlas
namespace Console

open JarAtlas.Path (IsPlain)

/-- Whether a thing can stand where another stood before, with nothing removed
in between. -/
def Standing.Becomes (before after : Standing) : Prop :=
  match before with
  | .nothing => True
  | .directory => after = .directory
  | .device => after = .device
  | .file _ => ∃ content, after = .file content

theorem Standing.Becomes.refl (standing : Standing) : standing.Becomes standing := by
  cases standing with
  | nothing => trivial
  | directory => rfl
  | device => rfl
  | file content => exact ⟨content, rfl⟩

theorem Standing.Becomes.trans {first second third : Standing} (early : first.Becomes second)
    (late : second.Becomes third) : first.Becomes third := by
  cases first with
  | nothing => trivial
  | directory =>
      cases early
      exact late
  | device =>
      cases early
      exact late
  | file content =>
      obtain ⟨changed, rfl⟩ := early
      exact late

namespace FileTree

variable {tree later : FileTree} {place other target : List String}

theorem isDirectory_iff : tree.isDirectory place = true ↔ tree.standing place = .directory := by
  rw [isDirectory]
  cases tree.standing place <;> simp

theorem lookup_filter_of_ne (different : other ≠ place)
    (places : List (List String × Standing)) :
    (places.filter (·.1 ≠ place)).lookup other = places.lookup other := by
  induction places with
  | nil => rfl
  | cons first rest ih =>
      obtain ⟨known, standing⟩ := first
      by_cases same : known = place
      · rw [List.filter_cons_of_neg (by simp [same]), ih, List.lookup_cons,
          beq_false_of_ne (same ▸ different)]
      · rw [List.filter_cons_of_pos (by simp [same]), List.lookup_cons, List.lookup_cons, ih]

theorem standing_of_ne_root (notRoot : place ≠ []) :
    tree.standing place = (tree.places.lookup place).getD .nothing := by
  cases place with
  | nil => exact absurd rfl notRoot
  | cons name rest => rfl

theorem standing_put_of_ne (different : other ≠ place) (standing : Standing) :
    (tree.put place standing).standing other = tree.standing other := by
  by_cases root : other = []
  · rw [root]
    rfl
  · rw [standing_of_ne_root root, standing_of_ne_root root, put, List.lookup_cons,
      beq_false_of_ne different]
    exact congrArg (·.getD .nothing) (lookup_filter_of_ne different tree.places)

theorem standing_put_self (notRoot : place ≠ []) (standing : Standing) :
    (tree.put place standing).standing place = standing := by
  rw [standing_of_ne_root notRoot, put, List.lookup_cons, beq_self_eq_true]
  rfl

/-- Whether a tree can have come about from another with nothing removed. -/
def Grows (tree later : FileTree) : Prop :=
  ∀ place, (tree.standing place).Becomes (later.standing place)

theorem Grows.refl (tree : FileTree) : tree.Grows tree :=
  fun place => .refl (tree.standing place)

theorem Grows.trans {last : FileTree} (early : tree.Grows later) (late : later.Grows last) :
    tree.Grows last :=
  fun place => (early place).trans (late place)

theorem grows_put {standing : Standing} (becomes : (tree.standing place).Becomes standing) :
    tree.Grows (tree.put place standing) := by
  intro other
  by_cases same : other = place
  · subst same
    cases other with
    | nil => exact .refl _
    | cons name rest =>
        rw [standing_put_self (List.cons_ne_nil name rest)]
        exact becomes
  · rw [standing_put_of_ne same]
    exact .refl _

theorem Grows.isDirectory (grows : tree.Grows later) (isDirectory : tree.isDirectory place = true) :
    later.isDirectory place = true := by
  have becomes := grows place
  rw [isDirectory_iff.mp isDirectory] at becomes
  exact isDirectory_iff.mpr becomes

theorem Grows.follow? {segments : List String} (grows : tree.Grows later)
    (found : tree.follow? place segments = some target) :
    later.follow? place segments = some target := by
  induction segments generalizing place with
  | nil => exact found
  | cons segment segments ih =>
      rw [FileTree.follow?] at found ⊢
      split at found
      · rename_i isDirectory
        rw [if_pos (grows.isDirectory isDirectory)]
        split at found
        · rename_i blank
          rw [if_pos blank]
          exact ih found
        · rename_i notBlank
          rw [if_neg notBlank]
          split at found
          · rename_i up
            rw [if_pos up]
            exact ih found
          · rename_i notUp
            rw [if_neg notUp]
            split at found
            · rename_i fits
              rw [if_pos fits]
              exact ih found
            · cases found
      · cases found

def AllMade (tree : FileTree) (place : List String) : List String → Prop
  | [] => True
  | segment :: rest =>
    if segment = "" ∨ segment = "." then tree.AllMade place rest
    else if segment = ".." then tree.AllMade place.dropLast rest
    else
      isName segment = true ∧ tree.standing (place ++ [segment]) = .directory ∧
        tree.AllMade (place ++ [segment]) rest

theorem makeAll_of_allMade {segments : List String} (made : tree.AllMade place segments) :
    tree.makeAll place segments = (tree, true) := by
  induction segments generalizing place with
  | nil => rfl
  | cons segment segments ih =>
      rw [AllMade] at made
      rw [makeAll]
      split at made
      · rename_i blank
        rw [if_pos blank, ih made]
      · rename_i notBlank
        rw [if_neg notBlank]
        split at made
        · rename_i up
          rw [if_pos up, ih made]
        · rename_i notUp
          obtain ⟨fits, standing, inner⟩ := made
          rw [if_neg notUp, if_pos fits]
          dsimp only
          rw [standing]
          exact ih inner

theorem Grows.allMade {segments : List String} (grows : tree.Grows later)
    (made : tree.AllMade place segments) : later.AllMade place segments := by
  induction segments generalizing place with
  | nil => trivial
  | cons segment segments ih =>
      rw [AllMade] at made ⊢
      split
      · rename_i blank
        rw [if_pos blank] at made
        exact ih made
      · rename_i notBlank
        rw [if_neg notBlank] at made
        split
        · rename_i up
          rw [if_pos up] at made
          exact ih made
        · rename_i notUp
          rw [if_neg notUp] at made
          have becomes := grows (place ++ [segment])
          rw [made.2.1] at becomes
          exact ⟨made.1, becomes, ih made.2.2⟩

theorem grows_makeAll (tree : FileTree) (place segments : List String) :
    tree.Grows (tree.makeAll place segments).1 := by
  fun_induction makeAll tree place segments with
  | case1 tree place => exact .refl tree
  | case2 tree place segment rest blank ih => exact ih
  | case3 tree place rest up ih => exact ih
  | case4 tree place segment rest notBlank notUp fits inner there ih => exact ih
  | case5 tree place segment rest notBlank notUp fits inner nothing ih =>
      have made : (tree.standing inner).Becomes .directory := by
        rw [nothing]
        trivial
      exact (grows_put made).trans ih
  | _ tree => exact .refl tree

theorem standing_makeAll (segments : List String) (kept : tree.standing other ≠ .nothing) :
    (tree.makeAll place segments).1.standing other = tree.standing other := by
  fun_induction makeAll tree place segments with
  | case1 tree place => rfl
  | case2 tree place segment rest blank ih => exact ih kept
  | case3 tree place rest up ih => exact ih kept
  | case4 tree place segment rest notBlank notUp fits inner there ih => exact ih kept
  | case5 tree place segment rest notBlank notUp fits inner nothing ih =>
      have elsewhere : other ≠ inner := fun same => kept (same ▸ nothing)
      rw [ih (by rw [standing_put_of_ne elsewhere]; exact kept), standing_put_of_ne elsewhere]
  | _ => rfl

theorem allMade_makeAll {segments : List String}
    (complete : (tree.makeAll place segments).2 = true) :
    (tree.makeAll place segments).1.AllMade place segments := by
  fun_induction makeAll tree place segments with
  | case1 tree place => trivial
  | case2 tree place segment rest blank ih =>
      rw [AllMade, if_pos blank]
      exact ih complete
  | case3 tree place rest up ih =>
      rw [AllMade, if_neg up, if_pos rfl]
      exact ih complete
  | case4 tree place segment rest notBlank notUp fits inner there ih =>
      have becomes := grows_makeAll tree inner rest inner
      rw [there] at becomes
      rw [AllMade, if_neg notBlank, if_neg notUp]
      exact ⟨fits, becomes, ih complete⟩
  | case5 tree place segment rest notBlank notUp fits inner nothing ih =>
      have becomes := grows_makeAll (tree.put inner .directory) inner rest inner
      rw [standing_put_self (by simp [inner])] at becomes
      rw [AllMade, if_neg notBlank, if_neg notUp]
      exact ⟨fits, becomes, ih complete⟩
  | _ => cases complete

end FileTree

/-! ### Machines -/

namespace Memory

variable {memory later last : Memory} {path : String} {place : List String}

structure Grows (memory later : Memory) : Prop where
  directory : later.directory = memory.directory
  recordedHome : later.recordedHome = memory.recordedHome
  tree : memory.tree.Grows later.tree

/-- Growth that leaves what stands at a place alone. -/
structure Spares (place : List String) (memory later : Memory) : Prop extends
    Memory.Grows memory later where
  same : later.tree.standing place = memory.tree.standing place

theorem Grows.refl (memory : Memory) : memory.Grows memory :=
  ⟨rfl, rfl, .refl _⟩

theorem Grows.trans (early : memory.Grows later) (late : later.Grows last) :
    memory.Grows last :=
  ⟨late.directory.trans early.directory, late.recordedHome.trans early.recordedHome,
    early.tree.trans late.tree⟩

theorem Spares.refl (place : List String) (memory : Memory) : memory.Spares place memory :=
  ⟨.refl memory, rfl⟩

theorem Spares.trans (early : Spares place memory later) (late : Spares place later last) :
    Spares place memory last :=
  ⟨early.toGrows.trans late.toGrows, late.same.trans early.same⟩

theorem Grows.origin (grows : memory.Grows later) (path : String) :
    later.origin path = memory.origin path := by
  rw [Memory.origin, Memory.origin, grows.directory]

theorem Grows.target (grows : memory.Grows later) (path : String) :
    later.target path = memory.target path := by
  rw [Memory.target, Memory.target, grows.origin]

theorem Grows.place? (grows : memory.Grows later) (found : memory.place? path = some place) :
    later.place? path = some place := by
  obtain ⟨pathSound, followed⟩ := follow?_of_place? found
  rw [Memory.place?, if_pos pathSound, grows.origin]
  exact grows.tree.follow? followed

theorem grows_makeDirectories (memory : Memory) (path : String) :
    memory.Grows (memory.makeDirectories path).2 := by
  rw [makeDirectories]
  split
  · exact ⟨rfl, rfl, FileTree.grows_makeAll _ _ _⟩
  · exact .refl memory

theorem spares_makeDirectories (path : String) (kept : memory.tree.standing place ≠ .nothing) :
    memory.Spares place (memory.makeDirectories path).2 := by
  refine ⟨grows_makeDirectories memory path, ?_⟩
  rw [makeDirectories]
  split
  · exact FileTree.standing_makeAll _ kept
  · rfl

def HasDirectories (memory : Memory) (path : String) : Prop :=
  isPath path = true ∧ memory.tree.AllMade (memory.origin path) (Path.segments path)

theorem makeDirectories_of_hasDirectories (made : memory.HasDirectories path) :
    memory.makeDirectories path = (true, memory) := by
  rw [makeDirectories, if_pos made.1, FileTree.makeAll_of_allMade made.2]

theorem hasDirectories_makeDirectories (complete : (memory.makeDirectories path).1 = true) :
    (memory.makeDirectories path).2.HasDirectories path := by
  rw [makeDirectories] at complete ⊢
  split at complete
  · rename_i pathSound
    rw [if_pos pathSound]
    exact ⟨pathSound, FileTree.allMade_makeAll complete⟩
  · cases complete

theorem Grows.hasDirectories (grows : memory.Grows later) (made : memory.HasDirectories path) :
    later.HasDirectories path := by
  rw [HasDirectories, grows.origin]
  exact ⟨made.1, grows.tree.allMade made.2⟩

/-! ### Writing files -/

/-- What a write does: it puts a file at a place where no directory stands, or
nothing at all where a device stands. -/
theorem write?_cases {content : ByteArray} (written : memory.write? path content = some later) :
    ∃ found, memory.place? path = some found ∧ memory.tree.standing found ≠ .directory ∧
      (memory.tree.standing found = .device ∧ later = memory ∨
        memory.tree.standing found ≠ .device ∧
          later = { memory with tree := memory.tree.put found (.file content) }) := by
  rw [write?] at written
  split at written
  · cases written
  · rename_i found leads
    refine ⟨found, leads, ?_⟩
    split at written
    · cases written
    · rename_i device
      rw [device]
      cases written
      exact ⟨by simp, Or.inl ⟨rfl, rfl⟩⟩
    · rename_i notDirectory notDevice
      cases written
      exact ⟨notDirectory, Or.inr ⟨notDevice, rfl⟩⟩

theorem grows_write? {content : ByteArray} (written : memory.write? path content = some later) :
    memory.Grows later := by
  obtain ⟨found, -, notDirectory, ⟨-, rfl⟩ | ⟨notDevice, rfl⟩⟩ := write?_cases written
  · exact .refl _
  · refine ⟨rfl, rfl, FileTree.grows_put ?_⟩
    cases standing : memory.tree.standing found with
    | nothing => trivial
    | directory => exact absurd standing notDirectory
    | device => exact absurd standing notDevice
    | file old => exact ⟨content, rfl⟩

theorem spares_write? {content : ByteArray} (elsewhere : memory.target path ≠ place)
    (written : memory.write? path content = some later) : memory.Spares place later := by
  refine ⟨grows_write? written, ?_⟩
  obtain ⟨found, leads, -, ⟨-, rfl⟩ | ⟨-, rfl⟩⟩ := write?_cases written
  · rfl
  · rw [target_of_place? leads] at elsewhere
    exact FileTree.standing_put_of_ne (Ne.symm elsewhere) _

theorem standing_of_write? {content : ByteArray}
    (written : memory.write? path content = some later) :
    ∃ found, memory.place? path = some found ∧
      (memory.tree.standing found = .device ∧ later.tree.standing found = .device ∨
        later.tree.standing found = .file content) := by
  obtain ⟨found, leads, notDirectory, ⟨device, rfl⟩ | ⟨-, rfl⟩⟩ := write?_cases written
  · exact ⟨found, leads, Or.inl ⟨device, device⟩⟩
  · have notRoot : found ≠ [] := fun root => notDirectory (by rw [root]; rfl)
    exact ⟨found, leads, Or.inr (FileTree.standing_put_self notRoot _)⟩

theorem standing_write? {old : ByteArray} (content : ByteArray)
    (leads : memory.place? path = some place) (file : memory.tree.standing place = .file old) :
    ∃ later, memory.write? path content = some later ∧
      later.tree.standing place = .file content := by
  have notRoot : place ≠ [] := by
    rintro rfl
    cases file
  refine ⟨{ memory with tree := memory.tree.put place (.file content) }, ?_,
    FileTree.standing_put_self notRoot _⟩
  rw [write?, leads]
  dsimp only
  rw [file]

end Memory
end Console
end JarAtlas
