/-
What commands leave of a stored model.

A command that does not clear the store keeps every model that is in it, unless
it saves another under the same identifier or writes its report over the file of
the store.
-/
import JarAtlas.Proofs.Console.Opening
import JarAtlas.Proofs.Store.Refinement

namespace JarAtlas
namespace Console

open JarAtlas.Path (IsPlain ofSegments)

namespace Memory

variable {α β : Type} {memory later last : Memory} {path : String} {place : List String}
  {given : Option String} {id text : String}

def Quiet (steps : Attempt (StateM Memory) α) : Prop :=
  ∀ memory : Memory, (memory.attempt steps).2 = memory

theorem quiet_pure (value : α) : Quiet (pure value) :=
  fun _ => rfl

theorem quiet_throw (failure : Failure) : Quiet (throw failure : Attempt (StateM Memory) α) :=
  fun _ => rfl

theorem quiet_look (path : String) : Quiet (Host.look path : Attempt (StateM Memory) Standing) :=
  fun _ => rfl

theorem quiet_resolve? (path : String) :
    Quiet (Host.resolve? path : Attempt (StateM Memory) (Option String)) :=
  fun _ => rfl

theorem quiet_now : Quiet (Host.now : Attempt (StateM Memory) Nat) :=
  fun _ => rfl

theorem quiet_ofStore (answer : Except StoreFault α) : Quiet (ofStore answer) := by
  intro memory
  rw [attempt_ofStore]

theorem quiet_bind {first : Attempt (StateM Memory) α} {next : α → Attempt (StateM Memory) β}
    (firstQuiet : Quiet first) (nextQuiet : ∀ value, Quiet (next value)) :
    Quiet (first >>= next) := by
  intro memory
  rw [attempt_bind]
  have same := firstQuiet memory
  split
  · rename_i value later ended
    rw [ended] at same
    rw [nextQuiet value later, ← same]
  · rename_i failure later ended
    rw [ended] at same
    exact same

theorem quiet_storePlace? (path : String) :
    Quiet (storePlace? path : Attempt (StateM Memory) (Option String)) := by
  apply quiet_bind (quiet_resolve? path)
  intro found
  split
  · exact quiet_pure _
  · split
    · apply quiet_bind (quiet_resolve? _)
      intro directory
      split
      · exact quiet_pure _
      · apply quiet_bind (quiet_look _)
        intro standing
        split
        · exact quiet_pure _
        · exact quiet_pure _
    · exact quiet_pure _

theorem quiet_namespaceOf (given : Option String) :
    Quiet (namespaceOf given : Attempt (StateM Memory) Namespace) := by
  intro memory
  rw [attempt_namespaceOf]

theorem quiet_surveyAt (path : String) (ns : Namespace) :
    Quiet (surveyAt path ns : Attempt (StateM Memory) Report) := by
  intro memory
  rw [attempt_surveyAt]

section

variable {Holds : Memory → Prop} {first : Attempt (StateM Memory) α}
  {next : α → Attempt (StateM Memory) β}

theorem afterBind (early : Holds (memory.attempt first).2)
    (late : ∀ value later, memory.attempt first = (.ok value, later) →
      Holds (later.attempt (next value)).2) :
    Holds (memory.attempt (first >>= next)).2 := by
  rw [attempt_bind]
  split
  · rename_i value later ended
    exact late value later ended
  · rename_i failure later ended
    rw [ended] at early
    exact early

theorem afterQuiet (quiet : Quiet first) (unchanged : Holds memory)
    (late : ∀ value, memory.attempt first = (.ok value, memory) →
      Holds (memory.attempt (next value)).2) :
    Holds (memory.attempt (first >>= next)).2 := by
  have stays := quiet memory
  apply afterBind
  · rw [stays]
    exact unchanged
  · intro value later ended
    rw [ended] at stays
    have same : later = memory := stays
    rw [same] at ended ⊢
    exact late value ended

end

/-! ### Stored models -/

/-- Whether a text stands under an identifier in the models of the store at a
path, and the store can be opened. -/
def HasModel (path : String) (place : List String) (id text : String) (memory : Memory) : Prop :=
  Ready path place memory ∧ ∃ store, Stores place store memory ∧ store.models.get? id = some text

theorem HasModel.target (has : HasModel path place id text memory) :
    memory.target path = place :=
  target_of_place? has.1.leads

theorem HasModel.spared (has : HasModel path place id text memory)
    (spares : memory.Spares place later) : HasModel path place id text later := by
  obtain ⟨ready, store, stores, found⟩ := has
  exact ⟨ready.grows spares.toGrows, store, stores.spared spares, found⟩

theorem HasModel.standing_ne_nothing (has : HasModel path place id text memory) :
    memory.tree.standing place ≠ .nothing := by
  obtain ⟨-, store, stores, -⟩ := has
  exact stores.ne_nothing

/-- Growth after which a text stands under an identifier in the store. -/
structure Keeps (path : String) (place : List String) (id text : String)
    (memory later : Memory) : Prop extends Memory.Grows memory later where
  has : HasModel path place id text later

theorem HasModel.keeps (has : HasModel path place id text memory) :
    Keeps path place id text memory memory :=
  ⟨.refl memory, has⟩

theorem HasModel.keeps_of_spares (has : HasModel path place id text memory)
    (spares : memory.Spares place later) : Keeps path place id text memory later :=
  ⟨spares.toGrows, has.spared spares⟩

theorem Keeps.trans {middle : Memory} (early : Keeps path place id text memory middle)
    (late : Keeps path place id text middle later) : Keeps path place id text memory later :=
  ⟨early.toGrows.trans late.toGrows, late.has⟩

/-- Whether an attempt opens the store and changes nothing more. -/
def ReadsStore (path : String) (memory : Memory) (steps : Attempt (StateM Memory) α) : Prop :=
  ∃ next : OpenedStore → Attempt (StateM Memory) α, (∀ opened, Quiet (next opened)) ∧
    memory.attempt steps = memory.attempt (openStore path >>= next)

theorem HasModel.spares_of_readsStore {steps : Attempt (StateM Memory) α}
    (has : HasModel path place id text memory) (reads : ReadsStore path memory steps) :
    memory.Spares place (memory.attempt steps).2 := by
  obtain ⟨next, quiet, same⟩ := reads
  obtain ⟨ready, store, stores, -⟩ := has
  obtain ⟨later, opens, spares⟩ := ready.attempt_openStore stores
  rw [same, attempt_bind_of_ok opens, quiet _ later]
  exact spares

section

variable (asked : memory.attempt (storePath given) = (.ok path, memory))

include asked

theorem readsStore_display (other : String) (part : ModelPart) :
    ReadsStore path memory (display given other part) := by
  refine ⟨_, ?_, attempt_bind_of_ok asked⟩
  intro opened
  apply quiet_bind (quiet_ofStore _)
  intro found
  split
  · exact quiet_throw _
  · exact quiet_pure _

theorem readsStore_list : ReadsStore path memory (list given) :=
  ⟨_, fun _ => quiet_bind (quiet_ofStore _) fun _ => quiet_pure _, attempt_bind_of_ok asked⟩

theorem readsStore_stats : ReadsStore path memory (stats given) :=
  ⟨_, fun _ => quiet_pure _, attempt_bind_of_ok asked⟩

end

section

variable (has : HasModel path place id text memory)
  (asked : memory.attempt (storePath given) = (.ok path, memory))

include has asked

theorem attempt_display {model : Model} (distinct : model.HasDistinctInterfaces)
    (notEmpty : id ≠ "") (written : text = model.toJson.compact) (part : ModelPart) :
    (memory.attempt (display given id part)).1 = .ok (part.text model ++ "\n") := by
  obtain ⟨ready, store, stores, found⟩ := has
  obtain ⟨later, opens, -⟩ := ready.attempt_openStore stores
  subst written
  rw [display, attempt_bind_of_ok asked, attempt_bind_of_ok opens]
  have told : later.attempt (ofStore (store.model? id)) = (.ok (some model), later) := by
    rw [attempt_ofStore, Store.model?_of_get?_some notEmpty distinct found]
  rw [attempt_bind_of_ok told]
  rfl

theorem keeps_saveReport {report : Report}
    (same : report.projectId = id → report.model.toJson.compact = text) :
    Keeps path place id text memory (memory.attempt (saveReport given report)).2 := by
  obtain ⟨ready, store, stores, found⟩ := has
  obtain ⟨opened, opens, spares⟩ := ready.attempt_openStore stores
  have readyOpened := ready.grows spares.toGrows
  have storesOpened := stores.spared spares
  by_cases key : Store.isKey report.projectId = true
  · obtain ⟨later, summaries, saved, grows, storesLater⟩ :=
      attempt_saveReport_of_isKey key asked opens readyOpened storesOpened
    rw [saved]
    refine ⟨spares.toGrows.trans grows, readyOpened.grows grows, _, storesLater, ?_⟩
    by_cases here : report.projectId = id
    · rw [← here, Table.get?_insert_self, same here]
    · rw [Table.get?_insert_of_ne _ (Ne.symm here), found]
  · rw [attempt_saveReport_of_not_isKey key asked opens]
    exact ⟨spares.toGrows, readyOpened, store, storesOpened, found⟩

theorem keeps_surveyAndSave {order : AnalyzeOrder}
    (same : ∀ ns archive report,
      (memory.attempt (namespaceOf order.namespaceText)).1 = .ok ns →
      memory.look order.archive = .file archive →
      Survey.survey order.archive ns archive = .ok report →
      report.projectId = id → report.model.toJson.compact = text) :
    Keeps path place id text memory (memory.attempt (surveyAndSave given order)).2 := by
  apply afterQuiet (quiet_namespaceOf _) has.keeps
  intro ns named
  apply afterQuiet (quiet_surveyAt _ _) has.keeps
  intro report surveys
  obtain ⟨-, archive, file, surveyed⟩ := exists_of_attempt_surveyAt surveys
  split
  · have kept := keeps_saveReport has asked
      (same ns archive report (congrArg Prod.fst named) file surveyed)
    apply afterBind kept
    intro message later saved
    rw [saved] at kept
    exact kept
  · exact has.keeps

end

theorem exists_of_attempt_saveReport {report : Report} {message : String}
    (works : memory.WorksAtPlace) (isStorePath : IsStorePath path)
    (asked : memory.attempt (storePath given) = (.ok path, memory))
    (saved : memory.attempt (saveReport given report) = (.ok message, later)) :
    report.projectId ≠ "" ∧
      message = "[class-deps] saved project " ++ report.projectId ++ " (" ++
        decimalText report.model.classNames.length ++ " classes)" ∧
      Keeps path (memory.target path) report.projectId report.model.toJson.compact
        memory later := by
  have opening := saved
  rw [saveReport, attempt_bind_of_ok asked] at opening
  obtain ⟨opened, middle, opens, -⟩ := exists_of_attempt_bind opening
  obtain ⟨here, grows, ready, stores⟩ := ready_of_attempt_openStore works isStorePath opens
  obtain ⟨place, content⟩ := opened
  subst here
  by_cases key : Store.isKey report.projectId = true
  · obtain ⟨last, summaries, told, growsLast, storesLast⟩ :=
      attempt_saveReport_of_isKey key asked opens ready stores
    rw [saved] at told
    cases told
    refine ⟨fun empty => Store.isKey_iff.mp key (Or.inl empty), rfl, grows.trans growsLast,
      ready.grows growsLast, _, storesLast, ?_⟩
    exact Table.get?_insert_self _ _ _
  · rw [attempt_saveReport_of_not_isKey key asked opens] at saved
    cases saved

theorem exists_of_attempt_surveyAndSave {order : AnalyzeOrder} {report : Report}
    {messages : List String} (works : memory.WorksAtPlace) (isStorePath : IsStorePath path)
    (asked : memory.attempt (storePath given) = (.ok path, memory)) (saves : order.save = true)
    (ended : memory.attempt (surveyAndSave given order) = (.ok (report, messages), later)) :
    ∃ ns archive, (memory.attempt (namespaceOf order.namespaceText)).1 = .ok ns ∧
      memory.look order.archive = .file archive ∧
      Survey.survey order.archive ns archive = .ok report ∧ report.projectId ≠ "" ∧
      messages = ["[class-deps] saved project " ++ report.projectId ++ " (" ++
        decimalText report.model.classNames.length ++ " classes)"] ∧
      Keeps path (memory.target path) report.projectId report.model.toJson.compact
        memory later := by
  obtain ⟨ns, named, name, surveying⟩ := exists_of_attempt_bind ended
  obtain rfl : memory = named := by
    rw [attempt_namespaceOf] at name
    exact congrArg Prod.snd name
  obtain ⟨told, surveyed, surveys, saving⟩ := exists_of_attempt_bind surveying
  obtain ⟨rfl, archive, file, survey⟩ := exists_of_attempt_surveyAt surveys
  rw [if_pos saves] at saving
  obtain ⟨message, saved, savedReport, finish⟩ := exists_of_attempt_bind saving
  cases finish
  obtain ⟨notEmpty, rfl, keeps⟩ := exists_of_attempt_saveReport works isStorePath asked savedReport
  exact ⟨ns, archive, congrArg Prod.fst name, file, survey, notEmpty, rfl, keeps⟩

/-- An analysis that is to save its report does so if its archive can be surveyed, the
identifier of the report is sound and the store can be opened. -/
theorem exists_attempt_surveyAndSave {order : AnalyzeOrder} {ns : Namespace}
    {archive : ByteArray} {report : Report} {opened : OpenedStore}
    (works : memory.WorksAtPlace) (isStorePath : IsStorePath path)
    (asked : memory.attempt (storePath given) = (.ok path, memory)) (saves : order.save = true)
    (named : (memory.attempt (namespaceOf order.namespaceText)).1 = .ok ns)
    (file : memory.look order.archive = .file archive)
    (surveyed : Survey.survey order.archive ns archive = .ok report)
    (key : Store.isKey report.projectId = true)
    (opens : memory.attempt (openStore path) = (.ok opened, later)) :
    ∃ message last,
      memory.attempt (surveyAndSave given order) = (.ok (report, [message]), last) := by
  obtain ⟨place, content⟩ := opened
  obtain ⟨here, -, ready, stores⟩ := ready_of_attempt_openStore works isStorePath opens
  subst here
  obtain ⟨last, summaries, saved, -, -⟩ :=
    attempt_saveReport_of_isKey key asked opens ready stores
  have name : memory.attempt (namespaceOf order.namespaceText) = (.ok ns, memory) := by
    rw [← named, attempt_namespaceOf]
  have surveys : memory.attempt (surveyAt order.archive ns) = (.ok report, memory) := by
    rw [attempt_surveyAt, file]
    dsimp only
    rw [surveyed]
  refine ⟨"[class-deps] saved project " ++ report.projectId ++ " (" ++
    decimalText report.model.classNames.length ++ " classes)", last, ?_⟩
  rw [surveyAndSave, attempt_bind_of_ok name, attempt_bind_of_ok surveys, if_pos saves,
    attempt_bind_of_ok saved]
  rfl

/-! ### Delivered reports -/

theorem spares_required_write {content : ByteArray} {failure : Failure}
    {next : Attempt (StateM Memory) α} (elsewhere : memory.target path ≠ place)
    (after : ∀ later, memory.write? path content = some later →
      later.Spares place (later.attempt next).2) :
    memory.Spares place
      (memory.attempt (do require (← Host.write path content) failure; next)).2 := by
  cases written : memory.write? path content with
  | none =>
      rw [attempt_bind_of_ok (attempt_write_of_none written),
        attempt_bind_of_error (attempt_require_false memory failure)]
      exact .refl place memory
  | some later =>
      rw [attempt_required_write_of_some written]
      exact (spares_write? elsewhere written).trans (after later written)

theorem spares_makeParent {failure : String → Failure} {output : String}
    (kept : memory.tree.standing place ≠ .nothing) :
    memory.Spares place (memory.attempt (makeParent output failure)).2 := by
  rw [attempt_makeParent]
  split
  · exact .refl place memory
  · exact spares_makeDirectories _ kept

theorem spares_deliver {output : Option String} (report : String)
    (kept : memory.tree.standing place ≠ .nothing)
    (elsewhere : ∀ file ∈ output, memory.target file ≠ place) :
    memory.Spares place (memory.attempt (deliver report output)).2 := by
  cases output with
  | none => exact .refl place memory
  | some file =>
      have spares : memory.Spares place (memory.attempt (makeParent file .outputDirectory)).2 :=
        spares_makeParent kept
      apply afterBind spares
      intro _ made parentMade
      rw [parentMade] at spares
      apply spares.trans
      have elsewhereMade : made.target file ≠ place := by
        rw [spares.toGrows.target]
        exact elsewhere file rfl
      apply spares_required_write elsewhereMade
      intro later _
      exact .refl place later

theorem HasModel.keeps_deliver {output : Option String} (report : String)
    (has : HasModel path place id text memory)
    (elsewhere : ∀ file ∈ output, memory.target file ≠ place) :
    Keeps path place id text memory (memory.attempt (deliver report output)).2 :=
  has.keeps_of_spares (spares_deliver report has.standing_ne_nothing elsewhere)

/-! ### What commands leave alone elsewhere -/

/-- Whether a thing stands at a place that is neither that of the store nor that of its
guard. -/
structure Aside (path : String) (place : List String) (memory : Memory) : Prop where
  isThere : memory.tree.standing place ≠ .nothing
  notStore : memory.target path ≠ place
  notGuard : memory.target (guardPath (ofSegments (memory.target path))) ≠ place

theorem Aside.spared (aside : Aside path place memory) (spares : memory.Spares place later) :
    Aside path place later where
  isThere := by
    rw [spares.same]
    exact aside.isThere
  notStore := by
    rw [spares.toGrows.target]
    exact aside.notStore
  notGuard := by
    rw [spares.toGrows.target, spares.toGrows.target]
    exact aside.notGuard

section

variable (works : memory.WorksAtPlace) (isStorePath : IsStorePath path)
  (aside : Aside path place memory)

include works isStorePath aside

theorem Aside.spares_openStore : memory.Spares place (memory.attempt (openStore path)).2 := by
  have spares : memory.Spares place (memory.attempt (makeParent path .storeDirectory)).2 :=
    spares_makeParent aside.isThere
  rw [openStore]
  apply afterBind spares
  intro _ made parentMade
  rw [parentMade] at spares
  apply spares.trans
  have asideMade := aside.spared spares
  apply afterQuiet (quiet_storePlace? path) (.refl place made)
  intro found placed
  cases found with
  | none => exact .refl place made
  | some text =>
      obtain ⟨-, rfl, -⟩ :=
        place_of_attempt_storePlace? (works.grows spares.toGrows) isStorePath placed
      have plain := plain_target (works.grows spares.toGrows) path
      apply spares_required_write asideMade.notGuard
      intro guarded written
      apply afterQuiet (quiet_look _) (.refl place guarded)
      intro standing _
      cases standing with
      | nothing =>
          have elsewhere : guarded.target (ofSegments (made.target path)) ≠ place := by
            rw [target_ofSegments guarded plain]
            exact asideMade.notStore
          apply spares_required_write elsewhere
          intro created _
          exact .refl place created
      | directory => exact .refl place guarded
      | device => exact .refl place guarded
      | file content =>
          dsimp only
          cases Store.decode? content with
          | none => exact .refl place guarded
          | some store => exact .refl place guarded

theorem Aside.spares_saveReport {report : Report}
    (asked : memory.attempt (storePath given) = (.ok path, memory)) :
    memory.Spares place (memory.attempt (saveReport given report)).2 := by
  have spares := aside.spares_openStore works isStorePath
  rw [saveReport, attempt_bind_of_ok asked]
  apply afterBind spares
  intro opened middle opens
  rw [opens] at spares
  apply spares.trans
  obtain ⟨here, -, -, -⟩ := ready_of_attempt_openStore works isStorePath opens
  have elsewhere : middle.target opened.place ≠ place := by
    rw [here, target_ofSegments middle (plain_target works path)]
    exact aside.notStore
  apply afterQuiet quiet_now (.refl place middle)
  intro now _
  apply afterQuiet (quiet_ofStore _) (.refl place middle)
  intro saved _
  apply spares_required_write elsewhere
  intro last _
  exact .refl place last

theorem Aside.spares_surveyAndSave {order : AnalyzeOrder}
    (asked : memory.attempt (storePath given) = (.ok path, memory)) :
    memory.Spares place (memory.attempt (surveyAndSave given order)).2 := by
  apply afterQuiet (quiet_namespaceOf _) (.refl place memory)
  intro ns _
  apply afterQuiet (quiet_surveyAt _ _) (.refl place memory)
  intro report _
  split
  · have spares : memory.Spares place (memory.attempt (saveReport given report)).2 :=
      aside.spares_saveReport works isStorePath asked
    apply afterBind spares
    intro message later saved
    rw [saved] at spares
    exact spares
  · exact .refl place memory

theorem Aside.spares_of_readsStore {steps : Attempt (StateM Memory) α}
    (reads : ReadsStore path memory steps) : memory.Spares place (memory.attempt steps).2 := by
  obtain ⟨next, quiet, same⟩ := reads
  have spares := aside.spares_openStore works isStorePath
  rw [same]
  apply afterBind spares
  intro opened later opens
  rw [opens] at spares
  rw [quiet opened later]
  exact spares

end

/-! ### Whole commands -/

section

theorem run_bind_of_attempt {steps : Attempt (StateM Memory) α} {result : Except Failure α}
    {next : Except Failure α → StateM Memory β} (ended : memory.attempt steps = (result, later)) :
    (steps.run >>= next) memory = next result later := by
  show next (memory.attempt steps).1 (memory.attempt steps).2 = _
  rw [ended]

theorem run_display (given : Option String) (id : String) (part : ModelPart) :
    ((⟨.display id part, given⟩ : Invocation).run : StateM Memory Outcome) memory =
      (outcomeOf [] (memory.attempt (display given id part)).1,
        (memory.attempt (display given id part)).2) := rfl

theorem run_list (given : Option String) :
    ((⟨.list, given⟩ : Invocation).run : StateM Memory Outcome) memory =
      (outcomeOf [] (memory.attempt (list given)).1, (memory.attempt (list given)).2) := rfl

theorem run_stats (given : Option String) :
    ((⟨.stats, given⟩ : Invocation).run : StateM Memory Outcome) memory =
      (outcomeOf [] (memory.attempt (stats given)).1, (memory.attempt (stats given)).2) := rfl

theorem run_analyze_of_error {order : AnalyzeOrder} {failure : Failure}
    (ended : memory.attempt (surveyAndSave given order) = (.error failure, later)) :
    ((⟨.analyze order, given⟩ : Invocation).run : StateM Memory Outcome) memory =
      (outcomeOf [] (.error failure), later) := by
  rw [Invocation.run]
  dsimp only
  rw [run_bind_of_attempt ended]
  rfl

theorem run_analyze_of_ok {order : AnalyzeOrder} {report : Report} {messages : List String}
    (ended : memory.attempt (surveyAndSave given order) = (.ok (report, messages), later)) :
    ((⟨.analyze order, given⟩ : Invocation).run : StateM Memory Outcome) memory =
      (outcomeOf messages
          (later.attempt (deliver (reportText order.format report) order.output)).1,
        (later.attempt (deliver (reportText order.format report) order.output)).2) := by
  rw [Invocation.run]
  dsimp only
  rw [run_bind_of_attempt ended]
  rfl

theorem afterAnalyze {Holds : Memory → Prop} {order : AnalyzeOrder}
    (surveyed : Holds (memory.attempt (surveyAndSave given order)).2)
    (delivered : ∀ later report, Holds later →
      Holds (later.attempt (deliver report order.output)).2) :
    Holds (((⟨.analyze order, given⟩ : Invocation).run : StateM Memory Outcome) memory).2 := by
  cases ended : memory.attempt (surveyAndSave given order) with
  | mk result later =>
      rw [ended] at surveyed
      cases result with
      | error failure =>
          rw [run_analyze_of_error ended]
          exact surveyed
      | ok told =>
          rw [run_analyze_of_ok ended]
          exact delivered later _ surveyed

section

variable {order : AnalyzeOrder} (elsewhere : ∀ file ∈ order.output, memory.target file ≠ place)

include elsewhere

theorem keeps_analyze
    (surveyed : Keeps path place id text memory (memory.attempt (surveyAndSave given order)).2) :
    Keeps path place id text memory
      (((⟨.analyze order, given⟩ : Invocation).run : StateM Memory Outcome) memory).2 := by
  apply afterAnalyze surveyed
  intro later report keeps
  apply keeps.trans
  apply keeps.has.keeps_deliver
  intro file here
  rw [keeps.toGrows.target]
  exact elsewhere file here

theorem spares_analyze (kept : memory.tree.standing place ≠ .nothing)
    (surveyed : memory.Spares place (memory.attempt (surveyAndSave given order)).2) :
    memory.Spares place
      (((⟨.analyze order, given⟩ : Invocation).run : StateM Memory Outcome) memory).2 := by
  apply afterAnalyze surveyed
  intro later report spares
  apply spares.trans
  apply spares_deliver
  · rw [spares.same]
    exact kept
  · intro file here
    rw [spares.toGrows.target]
    exact elsewhere file here

end

theorem exists_of_run_analyze {order : AnalyzeOrder} {outcome : Outcome}
    (ran : ((⟨.analyze order, given⟩ : Invocation).run : StateM Memory Outcome) memory =
      (outcome, last))
    (succeeds : outcome.code = 0) :
    ∃ report messages later,
      memory.attempt (surveyAndSave given order) = (.ok (report, messages), later) ∧
      outcome.messages = messages ∧
      (order.output = none → outcome.output = withLineBreak (reportText order.format report)) := by
  cases ended : memory.attempt (surveyAndSave given order) with
  | mk result later =>
      cases result with
      | error failure =>
          rw [run_analyze_of_error ended] at ran
          cases ran
          cases succeeds
      | ok told =>
          obtain ⟨report, messages⟩ := told
          refine ⟨report, messages, later, rfl, ?_⟩
          rw [run_analyze_of_ok ended] at ran
          cases delivered :
              later.attempt (deliver (reportText order.format report) order.output) with
          | mk result final =>
              rw [delivered] at ran
              cases result with
              | error failure =>
                  cases ran
                  cases succeeds
              | ok output =>
                  cases ran
                  refine ⟨rfl, ?_⟩
                  intro standard
                  rw [standard] at delivered
                  cases delivered
                  rfl

end

end Memory
end Console
end JarAtlas
