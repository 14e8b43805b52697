/-
Sessions with one store.

A session runs one command line after another on a machine.  What a command
saved is shown by every later command that asks for it, whatever ran in between
without clearing the store or writing a report over its file: the identifier of
a project tells its namespace and its archive, and these tell its model.
-/
import JarAtlas.Proofs.Console.Commands
import JarAtlas.Proofs.Console.Values
import JarAtlas.Proofs.Digest.Blocks
import JarAtlas.Proofs.Model.RoundTrip
import JarAtlas.Proofs.Survey.Projects
import JarAtlas.Proofs.Zip.Reading

namespace JarAtlas
namespace Console

def Command.reportFile? : Command → Option String
  | analyze order => order.output
  | _ => none

def Command.archive? : Command → Option String
  | analyze order => some order.archive
  | _ => none

/-- A command line, the environment in which it is run, and the time.  The
machine hands over neither arguments nor settings with a zero character. -/
structure Turn where
  arguments : List String
  settings : List (String × String)
  clock : Nat
  argumentsFree : ∀ argument ∈ arguments, '\x00' ∉ argument.toList
  settingsFree : ∀ setting ∈ settings, '\x00' ∉ setting.2.toList

namespace Turn

def invocation? (turn : Turn) : Option Invocation :=
  (Invocation.ofArguments turn.arguments).toOption

def start (turn : Turn) (memory : Memory) : Memory :=
  { memory with settings := turn.settings, clock := turn.clock }

def run (turn : Turn) (memory : Memory) : Outcome × Memory :=
  (Console.run turn.arguments : StateM Memory Outcome) (turn.start memory)

/-- Whether the command of a turn finds its store at a path. -/
def UsesStore (turn : Turn) (memory : Memory) (path : String) : Prop :=
  ∀ invocation ∈ turn.invocation?,
    ((turn.start memory).attempt (storePath invocation.store)).1 = .ok path

/-- Whether the command of a turn neither clears its store nor writes its report
to the place of the file of the store. -/
def KeepsStore (turn : Turn) (memory : Memory) (path : String) : Prop :=
  ∀ invocation ∈ turn.invocation?, invocation.command ≠ .clear ∧
    ∀ file ∈ invocation.command.reportFile?, memory.target file ≠ memory.target path

instance (turn : Turn) (memory : Memory) (path : String) :
    Decidable (turn.UsesStore memory path) :=
  inferInstanceAs (Decidable (∀ _ ∈ turn.invocation?, _))

instance (turn : Turn) (memory : Memory) (path : String) :
    Decidable (turn.KeepsStore memory path) :=
  inferInstanceAs (Decidable (∀ _ ∈ turn.invocation?, _))

def surveyed? (turn : Turn) (memory : Memory) : Option (Namespace × ByteArray) :=
  match turn.invocation? with
  | some ⟨.analyze order, _⟩ =>
    match ((turn.start memory).attempt (namespaceOf order.namespaceText)).1,
      memory.look order.archive with
    | .ok ns, .file archive => some (ns, archive)
    | _, _ => none
  | _ => none

end Turn

def memoryAfter (memory : Memory) (turns : List Turn) : Memory :=
  turns.foldl (fun memory turn => (turn.run memory).2) memory

def surveyedIn (memory : Memory) : List Turn → List (Namespace × ByteArray)
  | [] => []
  | turn :: later => (turn.surveyed? memory).toList ++ surveyedIn (turn.run memory).2 later

/-- Whether what identifies the projects has no two preimages of one digest. -/
def CollisionFree (surveyed : List (Namespace × ByteArray)) : Prop :=
  ∀ first ∈ surveyed, ∀ second ∈ surveyed,
    Sha256.digest (Survey.projectKey first.1 first.2) =
        Sha256.digest (Survey.projectKey second.1 second.2) →
      Survey.projectKey first.1 first.2 = Survey.projectKey second.1 second.2

instance (surveyed : List (Namespace × ByteArray)) : Decidable (CollisionFree surveyed) :=
  inferInstanceAs (Decidable (∀ first ∈ surveyed, ∀ second ∈ surveyed, _))

namespace Turn

variable {turn : Turn} {memory : Memory}

theorem ofArguments_of_invocation? {invocation : Invocation}
    (parsed : turn.invocation? = some invocation) :
    Invocation.ofArguments turn.arguments = .ok invocation := by
  rw [invocation?] at parsed
  cases told : Invocation.ofArguments turn.arguments with
  | error refusal =>
      rw [told] at parsed
      cases parsed
  | ok known =>
      rw [told] at parsed
      exact congrArg Except.ok (Option.some.inj parsed)

theorem run_of_invocation? {invocation : Invocation}
    (parsed : turn.invocation? = some invocation) :
    turn.run memory = (invocation.run : StateM Memory Outcome) (turn.start memory) := by
  rw [run, Console.run, ofArguments_of_invocation? parsed]

theorem run_of_invocation?_none (unparsed : turn.invocation? = none) :
    (turn.run memory).2 = turn.start memory := by
  rw [invocation?] at unparsed
  rw [run, Console.run]
  cases told : Invocation.ofArguments turn.arguments with
  | error refusal => cases refusal <;> rfl
  | ok known =>
      rw [told] at unparsed
      cases unparsed

theorem spares_start (turn : Turn) (memory : Memory) (place : List String) :
    memory.Spares place (turn.start memory) :=
  ⟨⟨rfl, rfl, .refl _⟩, rfl⟩

theorem attempt_storePath {later : Memory} {path : String} {invocation : Invocation}
    (uses : turn.UsesStore memory path) (grows : memory.Grows later)
    (parsed : turn.invocation? = some invocation) :
    (turn.start later).attempt (storePath invocation.store) = (.ok path, turn.start later) := by
  obtain ⟨result, told, toldLater⟩ := Memory.onlyAsks_storePath invocation.store
    (turn.start memory) (turn.start later) rfl grows.recordedHome
  have finds := uses invocation parsed
  rw [told] at finds
  rw [toldLater]
  exact congrArg (·, turn.start later) finds

theorem UsesStore.grows {later : Memory} {path : String} (uses : turn.UsesStore memory path)
    (grows : memory.Grows later) : turn.UsesStore later path := by
  intro invocation parsed
  rw [attempt_storePath uses grows parsed]

theorem KeepsStore.grows {later : Memory} {path : String} (kept : turn.KeepsStore memory path)
    (grows : memory.Grows later) : turn.KeepsStore later path := by
  intro invocation parsed
  refine ⟨(kept invocation parsed).1, ?_⟩
  intro file here
  rw [grows.target, grows.target]
  exact (kept invocation parsed).2 file here

theorem usesStore_of_cons {later : Memory} {path : String} {turns : List Turn}
    (uses : ∀ other ∈ turn :: turns, other.UsesStore memory path) (grows : memory.Grows later) :
    ∀ other ∈ turns, other.UsesStore later path :=
  fun other member => (uses other (List.mem_cons_of_mem turn member)).grows grows

theorem keepsStore_of_cons {later : Memory} {path : String} {turns : List Turn}
    (kept : ∀ other ∈ turn :: turns, other.KeepsStore memory path) (grows : memory.Grows later) :
    ∀ other ∈ turns, other.KeepsStore later path :=
  fun other member => (kept other (List.mem_cons_of_mem turn member)).grows grows

/-! ### What a turn surveys -/

theorem surveyed?_of_analyze {order : AnalyzeOrder} {given : Option String} {ns : Namespace}
    {archive : ByteArray} (analyzes : turn.invocation? = some ⟨.analyze order, given⟩)
    (named : ((turn.start memory).attempt (namespaceOf order.namespaceText)).1 = .ok ns)
    (file : memory.look order.archive = .file archive) :
    turn.surveyed? memory = some (ns, archive) := by
  rw [surveyed?, analyzes]
  dsimp only
  rw [named, file]

theorem exists_of_surveyed? {ns : Namespace} {archive : ByteArray}
    (surveyed : turn.surveyed? memory = some (ns, archive)) :
    ∃ order given, turn.invocation? = some ⟨.analyze order, given⟩ ∧
      ((turn.start memory).attempt (namespaceOf order.namespaceText)).1 = .ok ns ∧
      memory.look order.archive = .file archive := by
  rw [surveyed?] at surveyed
  split at surveyed
  · rename_i order given analyzes
    split at surveyed
    · rename_i named file
      cases surveyed
      exact ⟨order, given, analyzes, named, file⟩
    · cases surveyed
  · cases surveyed

theorem free_of_namespaceText {order : AnalyzeOrder} {given : Option String} {text : String}
    (analyzes : turn.invocation? = some ⟨.analyze order, given⟩)
    (stated : order.namespaceText = some text) : '\x00' ∉ text.toList := by
  have others : ∀ argument ∈ turn.arguments, ∀ c ∈ argument.toList, c ≠ '\x00' := by
    rintro argument member c inArgument rfl
    exact turn.argumentsFree argument member inArgument
  intro zero
  exact namespaceText_madeOf others (ofArguments_of_invocation? analyzes) stated _ zero rfl

theorem free_of_lookup {name text : String} (told : turn.settings.lookup name = some text) :
    '\x00' ∉ text.toList := by
  obtain ⟨before, after, settings, -⟩ := List.lookup_eq_some_iff.mp told
  apply turn.settingsFree (name, text)
  rw [settings]
  exact List.mem_append_right before List.mem_cons_self

theorem free_of_surveyed? {ns : Namespace} {archive : ByteArray}
    (surveyed : turn.surveyed? memory = some (ns, archive)) : '\x00' ∉ ns.name.toList := by
  obtain ⟨order, given, analyzes, named, -⟩ := exists_of_surveyed? surveyed
  rw [Memory.attempt_namespaceOf] at named
  split at named
  · rename_i text stated
    cases named
    have free : '\x00' ∉ text.toList := by
      rcases Option.or_eq_some_iff.mp stated with here | ⟨-, inSettings⟩
      · exact free_of_namespaceText analyzes here
      · exact free_of_lookup inSettings
    exact Namespace.not_mem_name_ofText free (by decide)
  · cases named

/-! ### What a turn keeps -/

variable {path : String} {place : List String} {id text : String}

/-- What holds of the machine when a turn starts, and after every attempt that reads the
store and after an analysis, holds after the turn. -/
theorem afterRun (Holds : Memory → Prop) (uses : turn.UsesStore memory path)
    (kept : turn.KeepsStore memory path) (unchanged : Holds (turn.start memory))
    (reads : ∀ steps : Attempt (StateM Memory) String,
      Memory.ReadsStore path (turn.start memory) steps →
        Holds ((turn.start memory).attempt steps).2)
    (analyzes : ∀ order given, turn.invocation? = some ⟨.analyze order, given⟩ →
      (turn.start memory).attempt (storePath given) = (.ok path, turn.start memory) →
        Holds (((⟨.analyze order, given⟩ : Invocation).run : StateM Memory Outcome)
          (turn.start memory)).2) :
    Holds (turn.run memory).2 := by
  cases parsed : turn.invocation? with
  | none =>
      rw [run_of_invocation?_none parsed]
      exact unchanged
  | some invocation =>
      rw [run_of_invocation? parsed]
      have asked := attempt_storePath uses (.refl memory) parsed
      obtain ⟨command, given⟩ := invocation
      cases command with
      | display other part =>
          rw [Memory.run_display]
          exact reads _ (Memory.readsStore_display asked other part)
      | list =>
          rw [Memory.run_list]
          exact reads _ (Memory.readsStore_list asked)
      | stats =>
          rw [Memory.run_stats]
          exact reads _ (Memory.readsStore_stats asked)
      | clear => exact absurd rfl (kept _ parsed).1
      | analyze order => exact analyzes order given parsed asked

theorem keeps_run (has : Memory.HasModel path place id text memory)
    (uses : turn.UsesStore memory path) (kept : turn.KeepsStore memory path)
    (same : ∀ ns archive label report, turn.surveyed? memory = some (ns, archive) →
      Survey.survey label ns archive = .ok report → report.projectId = id →
      report.model.toJson.compact = text) :
    Memory.Keeps path place id text memory (turn.run memory).2 := by
  have started := turn.spares_start memory place
  have hasAtStart := has.spared started
  apply (has.keeps_of_spares started).trans
  apply afterRun (Memory.Keeps path place id text (turn.start memory)) uses kept hasAtStart.keeps
  · intro steps reads
    exact hasAtStart.keeps_of_spares (hasAtStart.spares_of_readsStore reads)
  · intro order given parsed asked
    apply Memory.keeps_analyze ?_ (Memory.keeps_surveyAndSave hasAtStart asked ?_)
    · intro file here
      rw [started.toGrows.target, ← has.target]
      exact (kept _ parsed).2 file here
    · intro ns archive report named file
      exact same ns archive order.archive report (surveyed?_of_analyze parsed named file)

theorem exists_of_saving_run {order : AnalyzeOrder} {given : Option String}
    (works : memory.WorksAtPlace) (isStorePath : IsStorePath path)
    (analyzes : turn.invocation? = some ⟨.analyze order, given⟩) (saves : order.save = true)
    (uses : turn.UsesStore memory path) (kept : turn.KeepsStore memory path)
    (succeeds : (turn.run memory).1.code = 0) :
    ∃ ns archive report,
      turn.surveyed? memory = some (ns, archive) ∧
      Survey.survey order.archive ns archive = .ok report ∧ report.projectId ≠ "" ∧
      (turn.run memory).1.messages =
        ["[class-deps] saved project " ++ report.projectId ++ " (" ++
          decimalText report.model.classNames.length ++ " classes)"] ∧
      (order.output = none →
        (turn.run memory).1.output = withLineBreak (reportText order.format report)) ∧
      Memory.Keeps path (memory.target path) report.projectId report.model.toJson.compact
        memory (turn.run memory).2 := by
  have asked := attempt_storePath uses (.refl memory) analyzes
  have started := turn.spares_start memory (memory.target path)
  have sameTarget := started.toGrows.target
  have elsewhere : ∀ file ∈ order.output, (turn.start memory).target file ≠ memory.target path := by
    intro file here
    rw [sameTarget]
    exact (kept _ analyzes).2 file here
  rw [run_of_invocation? analyzes] at succeeds ⊢
  obtain ⟨report, messages, later, ended, told, printed⟩ :=
    Memory.exists_of_run_analyze rfl succeeds
  obtain ⟨ns, archive, named, file, surveyed, notEmpty, rfl, keeps⟩ :=
    Memory.exists_of_attempt_surveyAndSave (works.grows started.toGrows) isStorePath asked saves
      ended
  refine ⟨ns, archive, report, surveyed?_of_analyze analyzes named file, surveyed, notEmpty,
    told, printed, ?_⟩
  rw [sameTarget] at keeps
  have keepsAll := Memory.keeps_analyze elsewhere (by rw [ended]; exact keeps)
  exact ⟨started.toGrows.trans keepsAll.toGrows, keepsAll.has⟩

theorem run_display {model : Model} {part : ModelPart} {asked : Option String}
    (has : Memory.HasModel path place id model.toJson.compact memory)
    (distinct : model.HasDistinctInterfaces) (notEmpty : id ≠ "")
    (shows : turn.invocation? = some ⟨.display id part, asked⟩)
    (uses : turn.UsesStore memory path) :
    (turn.run memory).1 = ⟨0, part.text model ++ "\n", []⟩ := by
  have hasAtStart := has.spared (turn.spares_start memory place)
  rw [run_of_invocation? shows, Memory.run_display,
    Memory.attempt_display hasAtStart (attempt_storePath uses (.refl memory) shows) distinct
      notEmpty rfl]
  rfl

theorem spares_run (works : memory.WorksAtPlace) (isStorePath : IsStorePath path)
    (aside : Memory.Aside path place memory) (uses : turn.UsesStore memory path)
    (kept : turn.KeepsStore memory path)
    (elsewhere : ∀ invocation ∈ turn.invocation?, ∀ file ∈ invocation.command.reportFile?,
      memory.target file ≠ place) :
    memory.Spares place (turn.run memory).2 := by
  have started := turn.spares_start memory place
  have worksAtStart := works.grows started.toGrows
  have asideAtStart := aside.spared started
  apply started.trans
  apply afterRun ((turn.start memory).Spares place) uses kept (.refl place _)
  · exact fun steps reads => asideAtStart.spares_of_readsStore worksAtStart isStorePath reads
  · intro order given parsed asked
    apply Memory.spares_analyze
    · intro file here
      rw [started.toGrows.target]
      exact elsewhere _ parsed file here
    · exact asideAtStart.isThere
    · exact asideAtStart.spares_surveyAndSave worksAtStart isStorePath asked

theorem surveyed?_of_spares {later : Memory}
    (leads : ∀ invocation ∈ turn.invocation?, ∀ archive ∈ invocation.command.archive?,
      memory.place? archive = some place)
    (spares : memory.Spares place later) : turn.surveyed? later = turn.surveyed? memory := by
  rw [surveyed?, surveyed?]
  cases parsed : turn.invocation? with
  | none => rfl
  | some invocation =>
      obtain ⟨command, given⟩ := invocation
      cases command with
      | analyze order =>
          have led := leads _ parsed order.archive rfl
          have same : later.look order.archive = memory.look order.archive := by
            rw [Memory.look_of_place? (spares.toGrows.place? led), Memory.look_of_place? led,
              spares.same]
          dsimp only
          rw [same, Memory.attempt_namespaceOf, Memory.attempt_namespaceOf]
          rfl
      | _ => rfl

theorem code_of_saving_run {order : AnalyzeOrder} {given : Option String} {ns : Namespace}
    {archive : ByteArray} {report : Report} {opened : OpenedStore} {middle : Memory}
    (works : memory.WorksAtPlace) (isStorePath : IsStorePath path)
    (analyzes : turn.invocation? = some ⟨.analyze order, given⟩) (saves : order.save = true)
    (prints : order.output = none) (uses : turn.UsesStore memory path)
    (isSurveyed : turn.surveyed? memory = some (ns, archive))
    (surveyed : Survey.survey order.archive ns archive = .ok report)
    (key : Store.isKey report.projectId = true)
    (opens : (turn.start memory).attempt (openStore path) = (.ok opened, middle)) :
    (turn.run memory).1.code = 0 := by
  obtain ⟨other, otherGiven, analyzesOther, named, file⟩ := exists_of_surveyed? isSurveyed
  rw [analyzes] at analyzesOther
  cases analyzesOther
  have started := turn.spares_start memory (memory.target path)
  obtain ⟨message, last, ended⟩ :=
    Memory.exists_attempt_surveyAndSave (works.grows started.toGrows) isStorePath
      (attempt_storePath uses (.refl memory) analyzes) saves named file surveyed key opens
  rw [run_of_invocation? analyzes, Memory.run_analyze_of_ok ended, prints]
  rfl

end Turn

/-! ### What a session keeps -/

section

variable {memory : Memory} {turns : List Turn} {path : String} {place : List String}
  {id text : String}

theorem keeps_memoryAfter (has : Memory.HasModel path place id text memory)
    (uses : ∀ turn ∈ turns, turn.UsesStore memory path)
    (kept : ∀ turn ∈ turns, turn.KeepsStore memory path)
    (same : ∀ surveyed ∈ surveyedIn memory turns, ∀ label report,
      Survey.survey label surveyed.1 surveyed.2 = .ok report → report.projectId = id →
      report.model.toJson.compact = text) :
    Memory.Keeps path place id text memory (memoryAfter memory turns) := by
  induction turns generalizing memory with
  | nil => exact has.keeps
  | cons turn later ih =>
      have keeps : Memory.Keeps path place id text memory (turn.run memory).2 := by
        apply Turn.keeps_run has (uses turn List.mem_cons_self) (kept turn List.mem_cons_self)
        intro ns archive label report surveyed
        apply same (ns, archive)
        exact List.mem_append_left _ (Option.mem_toList.mpr surveyed)
      apply keeps.trans
      apply ih keeps.has (Turn.usesStore_of_cons uses keeps.toGrows)
        (Turn.keepsStore_of_cons kept keeps.toGrows)
      exact fun surveyed member => same surveyed (List.mem_append_right _ member)

theorem free_of_mem_surveyedIn {surveyed : Namespace × ByteArray}
    (member : surveyed ∈ surveyedIn memory turns) : '\x00' ∉ surveyed.1.name.toList := by
  induction turns generalizing memory with
  | nil => cases member
  | cons turn later ih =>
      rcases List.mem_append.mp member with here | behind
      · exact Turn.free_of_surveyed? (Option.mem_toList.mp here)
      · exact ih behind

theorem model_eq_of_projectId_eq (apart : CollisionFree (surveyedIn memory turns))
    {first second : Namespace × ByteArray} {label other : String} {report told : Report}
    (member : first ∈ surveyedIn memory turns) (secondMember : second ∈ surveyedIn memory turns)
    (surveyed : Survey.survey label first.1 first.2 = .ok report)
    (secondSurveyed : Survey.survey other second.1 second.2 = .ok told)
    (same : told.projectId = report.projectId) : told.model = report.model := by
  rw [Survey.projectId_of_survey surveyed, Survey.projectId_of_survey secondSurveyed] at same
  obtain ⟨names, archives⟩ := Survey.eq_of_projectKey_eq (free_of_mem_surveyedIn secondMember)
    (free_of_mem_surveyedIn member)
    (Survey.projectKey_eq_of_projectId_eq (apart second secondMember first member) same)
  rw [← names, ← archives] at surveyed
  exact Survey.model_eq_of_survey secondSurveyed surveyed

/-- Whether a place holds a thing to which no turn of a session writes. -/
structure Untouched (memory : Memory) (path : String) (turns : List Turn)
    (place : List String) : Prop where
  aside : Memory.Aside path place memory
  notReport : ∀ turn ∈ turns, ∀ invocation ∈ turn.invocation?,
    ∀ file ∈ invocation.command.reportFile?, memory.target file ≠ place

theorem Untouched.spared {later : Memory} {turn : Turn}
    (untouched : Untouched memory path (turn :: turns) place)
    (spares : memory.Spares place later) : Untouched later path turns place where
  aside := untouched.aside.spared spares
  notReport := by
    intro other member invocation parsed file here
    rw [spares.toGrows.target]
    exact untouched.notReport other (List.mem_cons_of_mem turn member) invocation parsed file here

/-- A session surveys the archives as they stood before it, if it writes to none of them. -/
theorem surveyedIn_eq (works : memory.WorksAtPlace) (isStorePath : IsStorePath path)
    (uses : ∀ turn ∈ turns, turn.UsesStore memory path)
    (kept : ∀ turn ∈ turns, turn.KeepsStore memory path)
    (atHand : ∀ turn ∈ turns, ∃ place, Untouched memory path turns place ∧
      ∀ invocation ∈ turn.invocation?, ∀ archive ∈ invocation.command.archive?,
        memory.place? archive = some place) :
    surveyedIn memory turns = turns.flatMap fun turn => (turn.surveyed? memory).toList := by
  induction turns generalizing memory with
  | nil => rfl
  | cons turn later ih =>
      have spares (place : List String) (untouched : Untouched memory path (turn :: later) place) :
          memory.Spares place (turn.run memory).2 :=
        turn.spares_run works isStorePath untouched.aside (uses turn List.mem_cons_self)
          (kept turn List.mem_cons_self) (untouched.notReport turn List.mem_cons_self)
      have grows : memory.Grows (turn.run memory).2 := by
        obtain ⟨place, untouched, -⟩ := atHand turn List.mem_cons_self
        exact (spares place untouched).toGrows
      have same (other : Turn) (member : other ∈ later) :
          other.surveyed? (turn.run memory).2 = other.surveyed? memory := by
        obtain ⟨place, untouched, leads⟩ := atHand other (List.mem_cons_of_mem turn member)
        exact other.surveyed?_of_spares leads (spares place untouched)
      have surveyedLater : surveyedIn (turn.run memory).2 later =
          later.flatMap fun other => (other.surveyed? (turn.run memory).2).toList := by
        apply ih (works.grows grows) (Turn.usesStore_of_cons uses grows)
          (Turn.keepsStore_of_cons kept grows)
        intro other member
        obtain ⟨place, untouched, leads⟩ := atHand other (List.mem_cons_of_mem turn member)
        refine ⟨place, untouched.spared (spares place untouched), ?_⟩
        intro invocation parsed archive here
        exact grows.place? (leads invocation parsed archive here)
      rw [surveyedIn, surveyedLater, List.flatMap_cons]
      congr 1
      exact List.flatMap_congr fun other member => congrArg Option.toList (same other member)

end

/-- An analysis that ended well and was to save its report told under which
identifier the report was saved.  Every later command that asks for a part of
this project prints that part of the very report's model, whatever ran in
between on the same store: analyses of this archive under other names or of
other archives, saved or not, listings, statistics and other requests. -/
theorem shows_what_was_saved {memory : Memory} {path : String} {save : Turn}
    {between : List Turn} {order : AnalyzeOrder} {given : Option String}
    (works : memory.WorksAtPlace) (isStorePath : IsStorePath path)
    (analyzes : save.invocation? = some ⟨.analyze order, given⟩) (saves : order.save = true)
    (oneStore : ∀ turn ∈ save :: between, turn.UsesStore memory path)
    (kept : ∀ turn ∈ save :: between, turn.KeepsStore memory path)
    (apart : CollisionFree (surveyedIn memory (save :: between)))
    (succeeds : (save.run memory).1.code = 0) :
    ∃ ns archive report,
      save.surveyed? memory = some (ns, archive) ∧
      Survey.survey order.archive ns archive = .ok report ∧
      (save.run memory).1.messages =
        ["[class-deps] saved project " ++ report.projectId ++ " (" ++
          decimalText report.model.classNames.length ++ " classes)"] ∧
      (order.output = none →
        (save.run memory).1.output = withLineBreak
          (match order.format with
          | .json => report.toJson.pretty
          | .text => report.text)) ∧
      ∀ (turn : Turn) (part : ModelPart) (asked : Option String),
        turn.invocation? = some ⟨.display report.projectId part, asked⟩ →
        turn.UsesStore memory path →
        ∃ shown, part.Shows report.model shown ∧
          (turn.run (memoryAfter memory (save :: between))).1 = ⟨0, shown ++ "\n", []⟩ := by
  obtain ⟨ns, archive, report, isSurveyed, surveyed, notEmpty, told, printed, keepsSaved⟩ :=
    Turn.exists_of_saving_run works isStorePath analyzes saves (oneStore save List.mem_cons_self)
      (kept save List.mem_cons_self) succeeds
  have keeps : Memory.Keeps path (memory.target path) report.projectId
      report.model.toJson.compact memory (memoryAfter memory (save :: between)) := by
    apply keepsSaved.trans
    apply keeps_memoryAfter keepsSaved.has (Turn.usesStore_of_cons oneStore keepsSaved.toGrows)
      (Turn.keepsStore_of_cons kept keepsSaved.toGrows)
    intro other member label toldLater surveyedLater same
    have first : (ns, archive) ∈ surveyedIn memory (save :: between) :=
      List.mem_append_left _ (Option.mem_toList.mpr isSurveyed)
    have models := model_eq_of_projectId_eq apart first (List.mem_append_right _ member)
      surveyed surveyedLater same
    rw [models]
  refine ⟨ns, archive, report, isSurveyed, surveyed, told, printed, ?_⟩
  intro turn part asked shows uses
  have distinct := Survey.hasDistinctInterfaces_of_survey surveyed
  exact ⟨part.text report.model, part.shows_text distinct,
    Turn.run_display keeps.has distinct notEmpty shows (uses.grows keeps.toGrows)⟩

/-! ### A session -/

/-- An archive of the class `a.Shop`, which extends `a.Base`, and of a build descriptor with
one dependency. -/
def shopArchive : ByteArray := ⟨#[
    80, 75, 3, 4, 10, 0, 0, 0, 0, 0, 0, 0, 0, 0, 91, 198, 160, 203, 48, 0, 0, 0, 48, 0, 0, 0,
    12, 0, 0, 0, 97, 47, 83, 104, 111, 112, 46, 99, 108, 97, 115, 115, 202, 254, 186, 190, 0, 0,
    0, 52, 0, 5, 1, 0, 6, 97, 47, 83, 104, 111, 112, 7, 0, 1, 1, 0, 6, 97, 47, 66, 97, 115, 101,
    7, 0, 3, 0, 33, 0, 2, 0, 4, 0, 0, 0, 0, 0, 0, 0, 0, 80, 75, 3, 4, 10, 0, 0, 0, 0, 0, 0, 0,
    0, 0, 95, 81, 69, 227, 45, 0, 0, 0, 45, 0, 0, 0, 7, 0, 0, 0, 112, 111, 109, 46, 120, 109,
    108, 60, 100, 101, 112, 101, 110, 100, 101, 110, 99, 121, 62, 60, 103, 114, 111, 117, 112,
    73, 100, 62, 103, 60, 47, 103, 114, 111, 117, 112, 73, 100, 62, 60, 47, 100, 101, 112, 101,
    110, 100, 101, 110, 99, 121, 62, 80, 75, 1, 2, 10, 0, 10, 0, 0, 0, 0, 0, 0, 0, 0, 0, 91,
    198, 160, 203, 48, 0, 0, 0, 48, 0, 0, 0, 12, 0, 0, 0, 0, 0, 0, 0, 0, 0, 0, 0, 0, 0, 0, 0, 0,
    0, 97, 47, 83, 104, 111, 112, 46, 99, 108, 97, 115, 115, 80, 75, 1, 2, 10, 0, 10, 0, 0, 0,
    0, 0, 0, 0, 0, 0, 95, 81, 69, 227, 45, 0, 0, 0, 45, 0, 0, 0, 7, 0, 0, 0, 0, 0, 0, 0, 0, 0,
    0, 0, 0, 0, 90, 0, 0, 0, 112, 111, 109, 46, 120, 109, 108, 80, 75, 5, 6, 0, 0, 0, 0, 2, 0,
    2, 0, 111, 0, 0, 0, 172, 0, 0, 0, 0, 0
  ]⟩

def baseArchive : ByteArray := ⟨#[
    80, 75, 3, 4, 10, 0, 0, 0, 0, 0, 0, 0, 0, 0, 194, 255, 53, 164, 36, 0, 0, 0, 36, 0, 0, 0,
    12, 0, 0, 0, 97, 47, 66, 97, 115, 101, 46, 99, 108, 97, 115, 115, 202, 254, 186, 190, 0, 0,
    0, 52, 0, 3, 1, 0, 6, 97, 47, 66, 97, 115, 101, 7, 0, 1, 0, 33, 0, 2, 0, 0, 0, 0, 0, 0, 0,
    0, 0, 0, 80, 75, 1, 2, 10, 0, 10, 0, 0, 0, 0, 0, 0, 0, 0, 0, 194, 255, 53, 164, 36, 0, 0, 0,
    36, 0, 0, 0, 12, 0, 0, 0, 0, 0, 0, 0, 0, 0, 0, 0, 0, 0, 0, 0, 0, 0, 97, 47, 66, 97, 115,
    101, 46, 99, 108, 97, 115, 115, 80, 75, 5, 6, 0, 0, 0, 0, 1, 0, 1, 0, 58, 0, 0, 0, 78, 0, 0,
    0, 0, 0
  ]⟩

def shopId : String := "86345241303df681fbb21445907ebc339406288977db1ca28f1b50a90ba876b0"

def baseId : String := "1a5b6d7f3cd37b2100c7273393540f0b906f987f1a76ecea968df29f739ca3c0"

def shopModel : Model :=
  ⟨[⟨"a.Shop", .normal, "a.Base", [], [], [], [], false, .plain, []⟩], [⟨"g", "", "", ""⟩],
    ["a.Shop"]⟩

def baseModel : Model :=
  ⟨[⟨"a.Base", .normal, "", [], [], [], [], false, .plain, []⟩], [], ["a.Base"]⟩

def shopText : String :=
  "\n".intercalate
    ["\x7b",
      "  \"classes\": [",
      "    \x7b",
      "      \"name\": \"a.Shop\",",
      "      \"kind\": \"normal\",",
      "      \"superclass\": \"a.Base\",",
      "      \"interfaces\": [],",
      "      \"fields\": [],",
      "      \"methods\": [],",
      "      \"annotations\": [],",
      "      \"is_nested\": false,",
      "      \"role\": \"plain\",",
      "      \"nested_classes\": []",
      "    \x7d",
      "  ],",
      "  \"external_dependencies\": [",
      "    \x7b",
      "      \"group_id\": \"g\",",
      "      \"artifact_id\": \"\",",
      "      \"version\": \"\",",
      "      \"scope\": \"\"",
      "    \x7d",
      "  ],",
      "  \"class_names\": [",
      "    \"a.Shop\"",
      "  ]",
      "\x7d"]

theorem pretty_shopModel : shopModel.toJson.pretty = shopText := by
  apply String.toList_inj.mp
  rw [Json.pretty, shopText, String.toList_ofList, String.toList_intercalate]
  simp only [List.map_cons, List.map_nil, String.reduceToList]
  decide +kernel

theorem projectIds_of_archives :
    Survey.projectId ⟨"a"⟩ shopArchive = shopId ∧
      Survey.projectId ⟨"a"⟩ baseArchive = baseId := by
  simp only [← String.toList_inj, Survey.projectId, hexOfBytes, String.toList_ofList,
    Sha256.digest, Sha256.finalState_eq, Survey.toList_projectKey, shopId, baseId]
  decide +kernel

def shopListed : List Zip.Entry :=
  [⟨"a/Shop.class", false, false, 0, 3416311387, 48, 48, 0⟩,
    ⟨"pom.xml", false, false, 0, 3812970847, 45, 45, 90⟩]

def baseListed : List Zip.Entry :=
  [⟨"a/Base.class", false, false, 0, 2755002306, 36, 36, 0⟩]

theorem surveys_of_archives :
    (∃ report, Survey.survey "shop.jar" ⟨"a"⟩ shopArchive = .ok report ∧
      report.model = shopModel) ∧
      ∃ report, Survey.survey "base.jar" ⟨"a"⟩ baseArchive = .ok report ∧
        report.model = baseModel := by
  have directories : Zip.directory? shopArchive = some shopListed ∧
      Zip.directory? baseArchive = some baseListed := by
    rw [Zip.directory?_eq, Zip.directory?_eq]
    decide +kernel
  have opens : Survey.AllOpen shopArchive shopListed ∧ Survey.AllOpen baseArchive baseListed := by
    unfold Survey.AllOpen
    decide +kernel
  have models :
      (Survey.report "shop.jar" ⟨"a"⟩ shopArchive
          (Survey.opened shopArchive shopListed)).model = shopModel ∧
        (Survey.report "base.jar" ⟨"a"⟩ baseArchive
          (Survey.opened baseArchive baseListed)).model = baseModel := by
    rw [Survey.report_eq, Survey.report_eq]
    simp only [Survey.fatesOf, Survey.sightOf, Zip.OpenEntry.read, Zip.OpenEntry.content?,
      Zip.OpenEntry.data_eq, Crc32.checksum_eq]
    decide +kernel
  exact ⟨⟨_, Survey.survey_of_allOpen "shop.jar" ⟨"a"⟩ directories.1 opens.1, models.1⟩,
    ⟨_, Survey.survey_of_allOpen "base.jar" ⟨"a"⟩ directories.2 opens.2, models.2⟩⟩

/-- A machine with the archive of the shop under two names and another beside them. -/
def archivesAtHand : Memory :=
  ⟨⟨[(["shop.jar"], .file shopArchive), (["copy.jar"], .file shopArchive),
    (["base.jar"], .file baseArchive)]⟩, [], [], none, 0⟩

def Turn.ofArguments (arguments : List String)
    (free : ∀ argument ∈ arguments, '\x00' ∉ argument.toList) : Turn :=
  ⟨arguments, [], 0, free, fun _ member => absurd member List.not_mem_nil⟩

def savesShop : Turn :=
  .ofArguments ["analyze", "shop.jar", "-n", "a", "--db", "/d/x", "--save"] (by decide +kernel)

def savesBase : Turn :=
  .ofArguments ["analyze", "base.jar", "-n", "a", "--db", "/d/x", "--save", "-o", "/d/report"]
    (by decide +kernel)

def savesCopy : Turn :=
  .ofArguments ["analyze", "copy.jar", "-n", "a", "--db", "/d/x", "--save"] (by decide +kernel)

/-- The other archive is saved beside the shop, then the shop once more under its other
name, which writes over what stands there. -/
def runsInBetween : List Turn :=
  [savesBase, savesCopy, .ofArguments ["list", "--db", "/d/x"] (by decide +kernel)]

def showsShop : Turn :=
  .ofArguments ["show", shopId, "--part", "all", "--db", "/d/x"] (by decide +kernel)

theorem worksAtPlace_archivesAtHand : archivesAtHand.WorksAtPlace :=
  fun _ member => absurd member List.not_mem_nil

theorem isStorePath_of_session : IsStorePath "/d/x" :=
  ⟨by decide +kernel, by decide +kernel⟩

theorem untouched_archive (name : String)
    (there : archivesAtHand.tree.standing [name] ≠ .nothing) :
    Untouched archivesAtHand "/d/x" (savesShop :: runsInBetween) [name] := by
  have store : archivesAtHand.target "/d/x" = ["d", "x"] := by decide +kernel
  have guard : archivesAtHand.target
      (guardPath (JarAtlas.Path.ofSegments (archivesAtHand.target "/d/x"))) = ["d", "x-lock"] := by
    decide +kernel
  have reports : ∀ turn ∈ savesShop :: runsInBetween, ∀ invocation ∈ turn.invocation?,
      ∀ file ∈ invocation.command.reportFile?, archivesAtHand.target file = ["d", "report"] := by
    decide +kernel
  have elsewhere (place : List String) (deeper : place.length = 2) : place ≠ [name] := by
    rintro rfl
    cases deeper
  refine ⟨⟨there, elsewhere _ (by rw [store]; rfl), elsewhere _ (by rw [guard]; rfl)⟩, ?_⟩
  intro turn member invocation parsed file here
  exact elsewhere _ (by rw [reports turn member invocation parsed file here]; rfl)

theorem stores_of_session :
    (∀ turn ∈ savesShop :: runsInBetween, turn.UsesStore archivesAtHand "/d/x") ∧
      ∀ turn ∈ savesShop :: runsInBetween, turn.KeepsStore archivesAtHand "/d/x" := by
  decide +kernel

theorem invocations_of_session :
    savesShop.invocation? =
        some ⟨.analyze ⟨"shop.jar", some "a", true, .json, none⟩, some "/d/x"⟩ ∧
      savesBase.invocation? =
        some ⟨.analyze ⟨"base.jar", some "a", true, .json, some "/d/report"⟩, some "/d/x"⟩ ∧
      savesCopy.invocation? =
        some ⟨.analyze ⟨"copy.jar", some "a", true, .json, none⟩, some "/d/x"⟩ ∧
      showsShop.invocation? = some ⟨.display shopId .all, some "/d/x"⟩ := by
  decide +kernel

theorem surveyed?_savesShop :
    savesShop.surveyed? archivesAtHand = some (⟨"a"⟩, shopArchive) :=
  Turn.surveyed?_of_analyze invocations_of_session.1 (by decide +kernel) rfl

theorem surveyedIn_archivesAtHand :
    surveyedIn archivesAtHand (savesShop :: runsInBetween) =
      [(⟨"a"⟩, shopArchive), (⟨"a"⟩, baseArchive), (⟨"a"⟩, shopArchive)] := by
  obtain ⟨oneStore, kept⟩ := stores_of_session
  obtain ⟨-, analyzesBase, analyzesCopy, -⟩ := invocations_of_session
  have base : savesBase.surveyed? archivesAtHand = some (⟨"a"⟩, baseArchive) :=
    Turn.surveyed?_of_analyze analyzesBase (by decide +kernel) rfl
  have copy : savesCopy.surveyed? archivesAtHand = some (⟨"a"⟩, shopArchive) :=
    Turn.surveyed?_of_analyze analyzesCopy (by decide +kernel) rfl
  rw [surveyedIn_eq worksAtPlace_archivesAtHand isStorePath_of_session oneStore kept]
  · rw [runsInBetween, List.flatMap_cons, List.flatMap_cons, List.flatMap_cons,
      surveyed?_savesShop, base, copy]
    rfl
  · intro turn member
    simp only [runsInBetween, List.mem_cons, List.not_mem_nil, or_false] at member
    rcases member with rfl | rfl | rfl | rfl
    · exact ⟨["shop.jar"], untouched_archive _ nofun, by decide +kernel⟩
    · exact ⟨["base.jar"], untouched_archive _ nofun, by decide +kernel⟩
    · exact ⟨["copy.jar"], untouched_archive _ nofun, by decide +kernel⟩
    · exact ⟨["shop.jar"], untouched_archive _ nofun, by decide +kernel⟩

theorem collisionFree_of_two {one other : Namespace × ByteArray}
    {surveyed : List (Namespace × ByteArray)}
    (among : ∀ here ∈ surveyed, here = one ∨ here = other)
    (apart : Sha256.digest (Survey.projectKey one.1 one.2) ≠
      Sha256.digest (Survey.projectKey other.1 other.2)) : CollisionFree surveyed := by
  intro first member second secondMember same
  rcases among first member with rfl | rfl <;> rcases among second secondMember with rfl | rfl
  · rfl
  · exact absurd same apart
  · exact absurd same.symm apart
  · rfl

theorem collisionFree_archivesAtHand :
    CollisionFree (surveyedIn archivesAtHand (savesShop :: runsInBetween)) := by
  apply @collisionFree_of_two (⟨"a"⟩, shopArchive) (⟨"a"⟩, baseArchive)
  · rw [surveyedIn_archivesAtHand]
    intro here member
    simp only [List.mem_cons, List.not_mem_nil, or_false] at member
    rcases member with shop | base | shop
    · exact Or.inl shop
    · exact Or.inr base
    · exact Or.inl shop
  · intro same
    have ids := Survey.projectId_eq_iff.mpr same
    rw [projectIds_of_archives.1, projectIds_of_archives.2] at ids
    exact absurd ids (by simp [shopId, baseId])

theorem code_savesShop : (savesShop.run archivesAtHand).1.code = 0 := by
  obtain ⟨report, surveyed, -⟩ := surveys_of_archives.1
  have key : Store.isKey report.projectId = true := by
    rw [Survey.projectId_of_survey surveyed]
    exact Survey.isKey_projectId ⟨"a"⟩ shopArchive
  have opens : ((savesShop.start archivesAtHand).attempt (openStore "/d/x")) =
      (.ok ⟨"/d/x", .empty⟩, _) := rfl
  exact savesShop.code_of_saving_run worksAtPlace_archivesAtHand isStorePath_of_session
    invocations_of_session.1 rfl rfl (stores_of_session.1 savesShop List.mem_cons_self)
    surveyed?_savesShop surveyed key opens

/-- The shop is shown as it was saved, after another archive with another model was saved
beside it and its own archive once more under another name. -/
theorem shows_shop_after_other_saves :
    (∀ turn ∈ savesShop :: runsInBetween, turn.UsesStore archivesAtHand "/d/x") ∧
    (∀ turn ∈ savesShop :: runsInBetween, turn.KeepsStore archivesAtHand "/d/x") ∧
    surveyedIn archivesAtHand (savesShop :: runsInBetween) =
      [(⟨"a"⟩, shopArchive), (⟨"a"⟩, baseArchive), (⟨"a"⟩, shopArchive)] ∧
    CollisionFree (surveyedIn archivesAtHand (savesShop :: runsInBetween)) ∧
    (∃ other, Survey.survey "base.jar" ⟨"a"⟩ baseArchive = .ok other ∧
      other.model ≠ shopModel) ∧
    (savesShop.run archivesAtHand).1.code = 0 ∧
    (showsShop.run (memoryAfter archivesAtHand (savesShop :: runsInBetween))).1 =
      ⟨0, shopText ++ "\n", []⟩ := by
  obtain ⟨oneStore, kept⟩ := stores_of_session
  obtain ⟨analyzes, -, -, shows⟩ := invocations_of_session
  obtain ⟨⟨told, surveyedShop, model⟩, other, surveyedOther, otherModel⟩ := surveys_of_archives
  have differs : other.model ≠ shopModel := by
    rw [otherModel]
    decide
  refine ⟨oneStore, kept, surveyedIn_archivesAtHand, collisionFree_archivesAtHand,
    ⟨other, surveyedOther, differs⟩, code_savesShop, ?_⟩
  obtain ⟨ns, archive, report, isSurveyed, surveyed, -, -, shown⟩ :=
    shows_what_was_saved worksAtPlace_archivesAtHand isStorePath_of_session analyzes rfl
      oneStore kept collisionFree_archivesAtHand code_savesShop
  rw [surveyed?_savesShop] at isSurveyed
  cases isSurveyed
  rw [surveyedShop] at surveyed
  cases surveyed
  have id : told.projectId = shopId :=
    (Survey.projectId_of_survey surveyedShop).trans projectIds_of_archives.1
  rw [← id] at shows
  have finds : showsShop.UsesStore archivesAtHand "/d/x" := by decide +kernel
  obtain ⟨text, ⟨written, -⟩, ran⟩ := shown showsShop .all (some "/d/x") shows finds
  rw [ran, written, model, pretty_shopModel]

end Console
end JarAtlas
