/-
The numbers in the text of a report.

The text lists classes, dependencies and skipped entries, each under a line with
a number.  Dependencies and skipped entries are counted as they are listed, but
for the classes the recorded names are counted, each once.  A class that is
nested shares its recorded name with any class of this name in the same package,
so the number is that of the classes listed only where their names are distinct.
-/
import JarAtlas.Proofs.Inventory.Appearance
import JarAtlas.Proofs.Survey.Accounting
import JarAtlas.Report.Text
import Mathlib.Data.List.Perm.Subperm

namespace JarAtlas

section

variable {names listed : List String}

theorem ListsOnce.subperm (lists : ListsOnce names listed) : listed.Subperm names :=
  List.subperm_of_subset lists.distinct fun name member => (lists.mem_iff name).mp member

theorem ListsOnce.length_eq_iff (lists : ListsOnce names listed) :
    listed.length = names.length ↔ names.Nodup := by
  constructor
  · intro same
    have perm := lists.subperm.perm_of_length_le (Nat.le_of_eq same.symm)
    exact perm.nodup_iff.mp lists.distinct
  · intro distinct
    have back : names.Subperm listed :=
      List.subperm_of_subset distinct fun name member => (lists.mem_iff name).mpr member
    exact Nat.le_antisymm lists.subperm.length_le back.length_le

end

structure TextSection where
  title : String
  number : Nat
  lines : List String
  deriving DecidableEq

namespace TextSection

def text (part : TextSection) : String :=
  part.title ++ ": " ++ decimalText part.number ++ "\n" ++
    String.join (part.lines.map (· ++ "\n"))

def IsCounted (part : TextSection) : Prop :=
  part.number = part.lines.length

end TextSection

namespace Report

def classSection (report : Report) : TextSection :=
  ⟨"classes", report.model.classNames.length, report.model.classes.map ClassRecord.line⟩

def dependencySection (report : Report) : TextSection :=
  ⟨"external_dependencies", report.model.externalDependencies.length,
    report.model.externalDependencies.map DeclaredDependency.line⟩

def skippedSection (report : Report) : TextSection :=
  ⟨"skipped", report.skipped.length, report.skipped.map SkippedEntry.line⟩

theorem text_eq_sections (report : Report) :
    report.text =
      "archive: " ++ report.archive ++ "\n" ++
        ("namespace: " ++ report.namespaceName ++ "\n") ++
        ("project_id: " ++ report.projectId ++ "\n") ++
        report.classSection.text ++ report.dependencySection.text ++
        if report.skipped = [] then "" else report.skippedSection.text := by
  unfold text lines classSection dependencySection skippedSection TextSection.text
  cases report.skipped with
  | nil => simp [String.append_assoc]
  | cons first others => simp [String.append_assoc]

end Report

namespace Inventory

def NamesClasses (inventory : Inventory) : Prop :=
  ListsOnce (inventory.classes.map ClassRecord.name) inventory.names

theorem namesClasses_empty : NamesClasses empty :=
  listsOnce_nil

theorem NamesClasses.addClass {inventory : Inventory} (named : inventory.NamesClasses)
    (extracted : ExtractedClass) : (inventory.addClass extracted).NamesClasses := by
  unfold NamesClasses Inventory.addClass
  rw [List.map_append]
  exact ListsOnce.addName named extracted.record.name

theorem NamesClasses.finish {inventory : Inventory} (named : inventory.NamesClasses) :
    ListsOnce (inventory.finish.classes.map ClassRecord.name) inventory.finish.classNames := by
  have byName (records : List ClassRecord) :
      records.map ClassRecord.name =
        (records.map ClassRecord.withoutNested).map ClassRecord.name := by
    rw [List.map_map]
    exact List.map_congr_left fun record _ => record.name_withoutNested.symm
  have names : inventory.finish.classes.map ClassRecord.name =
      inventory.classes.map ClassRecord.name := by
    rw [byName, byName inventory.classes, Inventory.finish, attach_withoutNested]
  rw [names]
  exact named

end Inventory

namespace Survey

theorem namesClasses_draw {inventory : Inventory} (named : inventory.NamesClasses) (fate : Fate) :
    (fate.draw inventory).NamesClasses := by
  cases fate with
  | recorded extracted => exact named.addClass extracted
  | _ => exact named

theorem namesClasses_foldl_draw (fates : List Fate) {inventory : Inventory}
    (named : inventory.NamesClasses) : (fates.foldl Fate.draw inventory).NamesClasses := by
  induction fates generalizing inventory with
  | nil => exact named
  | cons fate fates ih => exact ih (namesClasses_draw named fate)

theorem listsOnce_classNames_of_survey {label : String} {ns : Namespace} {archive : ByteArray}
    {told : Report} (surveyed : survey label ns archive = .ok told) :
    ListsOnce (told.model.classes.map ClassRecord.name) told.model.classNames := by
  obtain ⟨listed, entries, -, -, rfl⟩ := exists_report_of_survey surveyed
  rw [report_eq]
  exact (namesClasses_foldl_draw _ Inventory.namesClasses_empty).finish

/-- In the text of a surveyed report the dependencies and the skipped entries are
counted as they are listed, and skipped entries have a section exactly if there
are any.  The number of classes is never greater than that of the classes listed,
and is this number exactly if no two of them are recorded under one name. -/
theorem text_counts_what_it_lists {label : String} {ns : Namespace} {archive : ByteArray}
    {told : Report} (surveyed : survey label ns archive = .ok told) :
    (told.text =
      "archive: " ++ told.archive ++ "\n" ++
        ("namespace: " ++ told.namespaceName ++ "\n") ++
        ("project_id: " ++ told.projectId ++ "\n") ++
        told.classSection.text ++ told.dependencySection.text ++
        if told.skipped = [] then "" else told.skippedSection.text) ∧
      told.classSection.lines = told.model.classes.map ClassRecord.line ∧
      (told.classSection.IsCounted ↔ (told.model.classes.map ClassRecord.name).Nodup) ∧
      told.classSection.number ≤ told.classSection.lines.length ∧
      told.dependencySection.lines =
        told.model.externalDependencies.map DeclaredDependency.line ∧
      told.dependencySection.IsCounted ∧
      told.skippedSection.lines = told.skipped.map SkippedEntry.line ∧
      told.skippedSection.IsCounted := by
  have names := listsOnce_classNames_of_survey surveyed
  have listed : told.classSection.lines.length =
      (told.model.classes.map ClassRecord.name).length := by
    rw [Report.classSection, List.length_map, List.length_map]
  refine ⟨told.text_eq_sections, rfl, ?_, ?_, rfl, (List.length_map _).symm, rfl,
    (List.length_map _).symm⟩
  · rw [← names.length_eq_iff, TextSection.IsCounted, listed]
    exact Iff.rfl
  · rw [listed]
    exact names.subperm.length_le

/-- An archive of two classes without members: `a/X.class`, and `a/O$X.class`,
the class `X` in `a.O`. -/
def classAndNamesake : ByteArray := ⟨#[
    80, 75, 3, 4, 10, 0, 0, 0, 0, 0, 0, 0, 0, 0, 241, 159, 4, 75, 33, 0, 0, 0, 33, 0, 0, 0, 9, 0,
    0, 0, 97, 47, 88, 46, 99, 108, 97, 115, 115, 202, 254, 186, 190, 0, 0, 0, 52, 0, 3, 1, 0, 3,
    97, 47, 88, 7, 0, 1, 0, 1, 0, 2, 0, 0, 0, 0, 0, 0, 0, 0, 0, 0, 80, 75, 3, 4, 10, 0, 0, 0, 0,
    0, 0, 0, 0, 0, 208, 104, 185, 132, 35, 0, 0, 0, 35, 0, 0, 0, 11, 0, 0, 0, 97, 47, 79, 36, 88,
    46, 99, 108, 97, 115, 115, 202, 254, 186, 190, 0, 0, 0, 52, 0, 3, 1, 0, 5, 97, 47, 79, 36, 88,
    7, 0, 1, 0, 1, 0, 2, 0, 0, 0, 0, 0, 0, 0, 0, 0, 0, 80, 75, 1, 2, 10, 0, 10, 0, 0, 0, 0, 0, 0,
    0, 0, 0, 241, 159, 4, 75, 33, 0, 0, 0, 33, 0, 0, 0, 9, 0, 0, 0, 0, 0, 0, 0, 0, 0, 0, 0, 0, 0,
    0, 0, 0, 0, 97, 47, 88, 46, 99, 108, 97, 115, 115, 80, 75, 1, 2, 10, 0, 10, 0, 0, 0, 0, 0, 0,
    0, 0, 0, 208, 104, 185, 132, 35, 0, 0, 0, 35, 0, 0, 0, 11, 0, 0, 0, 0, 0, 0, 0, 0, 0, 0, 0, 0,
    0, 72, 0, 0, 0, 97, 47, 79, 36, 88, 46, 99, 108, 97, 115, 115, 80, 75, 5, 6, 0, 0, 0, 0, 2, 0,
    2, 0, 112, 0, 0, 0, 148, 0, 0, 0, 0, 0
  ]⟩

def classAndNamesakeListed : List Zip.Entry :=
  [⟨"a/X.class", false, false, 0, 1258594289, 33, 33, 0⟩,
    ⟨"a/O$X.class", false, false, 0, 2226743504, 35, 35, 72⟩]

theorem survey_classAndNamesake :
    ∃ told, survey "app.jar" ⟨"a"⟩ classAndNamesake = .ok told ∧
      told.classSection = ⟨"classes", 1, ["- a.X [normal]", "- a.X [normal]"]⟩ ∧
      told.dependencySection = ⟨"external_dependencies", 0, []⟩ ∧ told.skipped = [] := by
  have isArchive : Zip.directory? classAndNamesake = some classAndNamesakeListed := by
    rw [Zip.directory?_eq]
    decide +kernel
  have opens : AllOpen classAndNamesake classAndNamesakeListed := by
    unfold AllOpen
    decide +kernel
  obtain ⟨told, surveyed, lists⟩ : ∃ told, survey "app.jar" ⟨"a"⟩ classAndNamesake = .ok told ∧
      (told.classSection, told.dependencySection, told.skipped) =
        (⟨"classes", 1, ["- a.X [normal]", "- a.X [normal]"]⟩,
          ⟨"external_dependencies", 0, []⟩, []) := by
    refine ⟨_, survey_of_allOpen "app.jar" ⟨"a"⟩ isArchive opens, ?_⟩
    rw [report_eq]
    simp only [fatesOf, sightOf, Zip.OpenEntry.read, Zip.OpenEntry.content?,
      Zip.OpenEntry.data_eq, Crc32.checksum_eq]
    decide +kernel
  simp only [Prod.mk.injEq] at lists
  exact ⟨told, surveyed, lists⟩

/-- Two classes are listed and one is counted. -/
theorem not_isCounted_classAndNamesake :
    ¬ ∀ label ns archive told, survey label ns archive = .ok told →
      told.classSection.IsCounted := by
  intro counted
  obtain ⟨told, surveyed, classes, -, -⟩ := survey_classAndNamesake
  have isCounted := counted "app.jar" ⟨"a"⟩ classAndNamesake told surveyed
  rw [classes] at isCounted
  cases isCounted

/-- The text of the report on this archive. -/
theorem text_counts_classAndNamesake :
    ∃ told, survey "app.jar" ⟨"a"⟩ classAndNamesake = .ok told ∧
      told.text =
        "archive: app.jar\nnamespace: a\n" ++
          ("project_id: " ++ projectId ⟨"a"⟩ classAndNamesake ++ "\n") ++
          "classes: 1\n- a.X [normal]\n- a.X [normal]\n" ++ "external_dependencies: 0\n" := by
  obtain ⟨told, surveyed, classes, dependencies, skipped⟩ := survey_classAndNamesake
  obtain ⟨text, -⟩ := text_counts_what_it_lists surveyed
  have classText :
      TextSection.text ⟨"classes", 1, ["- a.X [normal]", "- a.X [normal]"]⟩ =
        "classes: 1\n- a.X [normal]\n- a.X [normal]\n" := by decide +kernel
  have dependencyText :
      TextSection.text ⟨"external_dependencies", 0, []⟩ = "external_dependencies: 0\n" := by
    decide +kernel
  have opening :
      "archive: " ++ "app.jar" ++ "\n" ++ ("namespace: " ++ "a" ++ "\n") =
        "archive: app.jar\nnamespace: a\n" := by decide +kernel
  refine ⟨told, surveyed, ?_⟩
  rw [text, classes, dependencies, if_pos skipped, classText, dependencyText, String.append_empty,
    ← opening]
  obtain ⟨listed, entries, -, -, rfl⟩ := exists_report_of_survey surveyed
  rfl

end Survey
end JarAtlas
