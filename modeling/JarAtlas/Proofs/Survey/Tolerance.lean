/-
Tolerance of broken entries.

An entry that cannot be read should be skipped if it is of interest, and should
not matter otherwise, whatever keeps it from being read.  A survey keeps to this
exactly when every entry opens: one that does not ends the survey, even where
nothing would have been read from it.
-/
import JarAtlas.Proofs.Survey.Accounting

namespace JarAtlas
namespace Survey

/-- The fate that an entry of the directory should have: where it does not open,
it is skipped for some reason if it is of interest, and ignored otherwise. -/
def promisedFate (ns : Namespace) (archive : ByteArray) (reason : Zip.Entry → String)
    (entry : Zip.Entry) : Fate :=
  match entry.open? archive with
  | some opened => fateOf ns (sightOf archive opened)
  | none =>
    if entry.isDirectory || EntryKind.ofName ns entry.name = .other then .ignored
    else .unread ⟨entry.name, reason entry⟩

/-- Whether no single entry ends the survey: there is a report, its model is
that of the entries that can be read, and the others of interest are skipped. -/
def Tolerates (label : String) (ns : Namespace) (archive : ByteArray)
    (listed : List Zip.Entry) : Prop :=
  ∃ reason report,
    survey label ns archive = .ok report ∧
    let fates := listed.map (promisedFate ns archive reason)
    report.model = (fates.foldl Fate.draw .empty).finish ∧
      report.skipped = fates.filterMap Fate.unread? ++ fates.filterMap Fate.undecoded?

variable {archive : ByteArray} {listed : List Zip.Entry} (label : String) (ns : Namespace)

theorem promisedFates_of_allOpen (reason : Zip.Entry → String)
    (opens : AllOpen archive listed) :
    listed.map (promisedFate ns archive reason) =
      fatesOf ns archive (opened archive listed) := by
  induction listed with
  | nil => rfl
  | cons entry rest ih =>
      obtain ⟨first, found, later⟩ := allOpen_cons opens
      have kept : promisedFate ns archive reason entry = fateOf ns (sightOf archive first) := by
        simp only [promisedFate, found]
      rw [List.map_cons, ih later, kept, opened_cons rest found]
      rfl

theorem tolerates_of_allOpen (isArchive : Zip.directory? archive = some listed)
    (opens : AllOpen archive listed) : Tolerates label ns archive listed := by
  have told := report_eq ns archive label (opened archive listed)
  refine ⟨fun _ => "", report label ns archive (opened archive listed),
    survey_of_allOpen label ns isArchive opens, ?_⟩
  dsimp only
  rw [promisedFates_of_allOpen ns _ opens, told]
  exact ⟨rfl, rfl⟩

theorem allOpen_iff : AllOpen archive listed ↔ ∀ entry ∈ listed, Openable archive entry :=
  forall_congr' fun _ => imp_congr_right fun _ => isSome_open?_iff

theorem unopened_iff {entry : Zip.Entry} :
    entry.open? archive = none ↔ ¬ Openable archive entry := by
  rw [← isSome_open?_iff, Option.not_isSome_iff_eq_none]

/-- Broken entries are tolerated exactly when every entry of the directory can
be opened, whether or not it is of interest.  A survey of an archive fails in no
other way, and tells the number of the first entry that cannot be opened. -/
theorem survey_tolerates_iff_openable (isArchive : Zip.directory? archive = some listed) :
    (Tolerates label ns archive listed ↔ ∀ entry ∈ listed, Openable archive entry) ∧
      ∀ fault,
        survey label ns archive = .error fault ↔
          ∃ before entry behind,
            listed = before ++ entry :: behind ∧ (∀ earlier ∈ before, Openable archive earlier) ∧
              ¬ Openable archive entry ∧ fault = .unopened before.length := by
  constructor
  · rw [← allOpen_iff]
    constructor
    · rintro ⟨reason, told, surveyed, _⟩
      exact allOpen_of_survey label ns isArchive surveyed
    · exact tolerates_of_allOpen label ns isArchive
  · intro fault
    rw [survey_eq_error_iff label ns isArchive]
    simp only [allOpen_iff, unopened_iff]

/-- An archive of two entries: `A.class` is empty, and `pom.xml` holds one
dependency that states nothing. -/
def emptyClassAndDescriptor : ByteArray := ⟨#[
    80, 75, 3, 4, 10, 0, 0, 0, 0, 0, 0, 0, 0, 0, 0, 0, 0, 0, 0, 0, 0, 0, 0, 0, 0, 0, 7, 0, 0, 0,
    65, 46, 99, 108, 97, 115, 115, 80, 75, 3, 4, 10, 0, 0, 0, 0, 0, 0, 0, 0, 0, 102, 157, 176, 29,
    13, 0, 0, 0, 13, 0, 0, 0, 7, 0, 0, 0, 112, 111, 109, 46, 120, 109, 108, 60, 100, 101, 112,
    101, 110, 100, 101, 110, 99, 121, 47, 62, 80, 75, 1, 2, 10, 0, 10, 0, 0, 0, 0, 0, 0, 0, 0, 0,
    0, 0, 0, 0, 0, 0, 0, 0, 0, 0, 0, 0, 7, 0, 0, 0, 0, 0, 0, 0, 0, 0, 0, 0, 0, 0, 0, 0, 0, 0, 65,
    46, 99, 108, 97, 115, 115, 80, 75, 1, 2, 10, 0, 10, 0, 0, 0, 0, 0, 0, 0, 0, 0, 102, 157, 176,
    29, 13, 0, 0, 0, 13, 0, 0, 0, 7, 0, 0, 0, 0, 0, 0, 0, 0, 0, 0, 0, 0, 0, 37, 0, 0, 0, 112, 111,
    109, 46, 120, 109, 108, 80, 75, 5, 6, 0, 0, 0, 0, 2, 0, 2, 0, 106, 0, 0, 0, 87, 0, 0, 0, 0, 0
  ]⟩

def emptyClassAndDescriptorListed : List Zip.Entry :=
  [⟨"A.class", false, false, 0, 0, 0, 0, 0⟩, ⟨"pom.xml", false, false, 0, 498113894, 13, 13, 37⟩]

theorem directory?_emptyClassAndDescriptor :
    Zip.directory? emptyClassAndDescriptor = some emptyClassAndDescriptorListed := by
  rw [Zip.directory?_eq]
  decide +kernel

theorem allOpen_emptyClassAndDescriptor :
    AllOpen emptyClassAndDescriptor emptyClassAndDescriptorListed := by
  unfold AllOpen
  decide +kernel

theorem survey_tolerates_empty_class_and_descriptor :
    Zip.directory? emptyClassAndDescriptor = some emptyClassAndDescriptorListed ∧
      Tolerates "app.jar" (.ofText "") emptyClassAndDescriptor emptyClassAndDescriptorListed :=
  ⟨directory?_emptyClassAndDescriptor,
    (survey_tolerates_iff_openable "app.jar" (.ofText "")
      directory?_emptyClassAndDescriptor).1.mpr (allOpen_iff.mp allOpen_emptyClassAndDescriptor)⟩

/-- An archive with one entry, `notes.txt`, that is encrypted. -/
def encryptedNotes : ByteArray := ⟨#[
    80, 75, 3, 4, 10, 0, 1, 0, 0, 0, 0, 0, 0, 0, 172, 42, 147, 216, 2, 0, 0, 0, 2, 0, 0, 0, 9, 0,
    0, 0, 110, 111, 116, 101, 115, 46, 116, 120, 116, 104, 105, 80, 75, 1, 2, 10, 0, 10, 0, 1, 0,
    0, 0, 0, 0, 0, 0, 172, 42, 147, 216, 2, 0, 0, 0, 2, 0, 0, 0, 9, 0, 0, 0, 0, 0, 0, 0, 0, 0, 0,
    0, 0, 0, 0, 0, 0, 0, 110, 111, 116, 101, 115, 46, 116, 120, 116, 80, 75, 5, 6, 0, 0, 0, 0, 1,
    0, 1, 0, 55, 0, 0, 0, 41, 0, 0, 0, 0, 0
  ]⟩

/-- An entry that is of no interest ends the survey all the same. -/
theorem survey_does_not_tolerate_encrypted_notes :
    let listed : List Zip.Entry := [⟨"notes.txt", true, false, 0, 3633523372, 2, 2, 0⟩]
    Zip.directory? encryptedNotes = some listed ∧
      (∀ entry ∈ listed, EntryKind.ofName (.ofText "") entry.name = .other) ∧
      survey "app.jar" (.ofText "") encryptedNotes = .error (.unopened 0) ∧
      ¬ Tolerates "app.jar" (.ofText "") encryptedNotes listed := by
  intro listed
  have isArchive : Zip.directory? encryptedNotes = some listed := by decide +kernel
  have failed : survey "app.jar" (.ofText "") encryptedNotes = .error (.unopened 0) :=
    (survey_eq_error_iff "app.jar" (.ofText "") isArchive).mpr
      ⟨[], _, [], rfl, fun _ member => (List.not_mem_nil member).elim, rfl, rfl⟩
  refine ⟨isArchive, by decide +kernel, failed, ?_⟩
  rintro ⟨reason, told, surveyed, _⟩
  rw [failed] at surveyed
  cases surveyed

end Survey
end JarAtlas
