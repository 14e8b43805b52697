/-
Opening the entries of an archive.

All entries are opened, in order, before any is read.  This succeeds exactly
when each of them opens; otherwise the first that does not is told by its
number.
-/
import JarAtlas.Survey

namespace JarAtlas
namespace Survey

/-- What opening asks of an entry: it is not encrypted in either way, its
header stands whole where the directory says, and its method is known. -/
structure Openable (archive : ByteArray) (entry : Zip.Entry) : Prop where
  notEncrypted : entry.isEncrypted = false
  notSealed : entry.isSealed = false
  header : Bytes.littleAt? archive entry.headerStart 4 = some Zip.headerSignature
  headerWhole : entry.headerStart + 30 ≤ archive.size
  methodKnown : (Zip.Method.ofNumber? entry.method).isSome = true

theorem isSome_littleAt?_iff {file : ByteArray} {position width : Nat} :
    (Bytes.littleAt? file position width).isSome = true ↔ position + width ≤ file.size := by
  by_cases fits : position + width ≤ file.size <;> simp [Bytes.littleAt?, fits]

theorem openable_of_open? {archive : ByteArray} {entry : Zip.Entry} {opened : Zip.OpenEntry}
    (found : entry.open? archive = some opened) :
    Openable archive entry ∧ opened.entry = entry := by
  simp only [Zip.Entry.open?, Option.bind_eq_bind] at found
  split at found
  · cases found
  · next plain =>
      simp only [Bool.or_eq_true, not_or, Bool.not_eq_true] at plain
      obtain ⟨opening, header, found⟩ := Option.bind_eq_some_iff.mp found
      split at found
      · cases found
      · next signature =>
          obtain ⟨nameLength, _, found⟩ := Option.bind_eq_some_iff.mp found
          obtain ⟨extraLength, extraRead, found⟩ := Option.bind_eq_some_iff.mp found
          obtain ⟨method, known, found⟩ := Option.bind_eq_some_iff.mp found
          have headerWhole : entry.headerStart + 28 + 2 ≤ archive.size :=
            isSome_littleAt?_iff.mp (by rw [extraRead]; rfl)
          cases found
          refine ⟨⟨plain.1, plain.2, ?_, headerWhole, by rw [known]; rfl⟩, rfl⟩
          rw [header, Decidable.not_not.mp signature]

theorem isSome_open?_iff {archive : ByteArray} {entry : Zip.Entry} :
    (entry.open? archive).isSome = true ↔ Openable archive entry := by
  constructor
  · intro opens
    obtain ⟨opened, found⟩ := Option.isSome_iff_exists.mp opens
    exact (openable_of_open? found).1
  · rintro ⟨notEncrypted, notSealed, header, headerWhole, methodKnown⟩
    have lengthRead (offset : Nat) (fits : offset + 2 ≤ 30) :
        ∃ length, Bytes.littleAt? archive (entry.headerStart + offset) 2 = some length :=
      Option.isSome_iff_exists.mp (isSome_littleAt?_iff.mpr (by omega))
    obtain ⟨nameLength, nameRead⟩ := lengthRead 26 (by omega)
    obtain ⟨extraLength, extraRead⟩ := lengthRead 28 (by omega)
    obtain ⟨method, known⟩ := Option.isSome_iff_exists.mp methodKnown
    simp [Zip.Entry.open?, notEncrypted, notSealed, header, nameRead, extraRead, known]

def AllOpen (archive : ByteArray) (listed : List Zip.Entry) : Prop :=
  ∀ entry ∈ listed, (entry.open? archive).isSome = true

def opened (archive : ByteArray) (listed : List Zip.Entry) : List Zip.OpenEntry :=
  listed.filterMap fun entry => entry.open? archive

variable {archive : ByteArray}

theorem allOpen_cons {entry : Zip.Entry} {rest : List Zip.Entry}
    (opens : AllOpen archive (entry :: rest)) :
    ∃ first, entry.open? archive = some first ∧ AllOpen archive rest := by
  obtain ⟨first, found⟩ := Option.isSome_iff_exists.mp (opens entry List.mem_cons_self)
  exact ⟨first, found, fun other member => opens other (List.mem_cons_of_mem entry member)⟩

theorem opened_cons {entry : Zip.Entry} {first : Zip.OpenEntry} (rest : List Zip.Entry)
    (found : entry.open? archive = some first) :
    opened archive (entry :: rest) = first :: opened archive rest :=
  List.filterMap_cons_some found

theorem opened_entries {listed : List Zip.Entry} (opens : AllOpen archive listed) :
    (opened archive listed).map Zip.OpenEntry.entry = listed := by
  induction listed with
  | nil => rfl
  | cons entry rest ih =>
      obtain ⟨first, found, later⟩ := allOpen_cons opens
      rw [opened_cons rest found, List.map_cons, (openable_of_open? found).2, ih later]

theorem openAll_of_allOpen {listed : List Zip.Entry} (opens : AllOpen archive listed)
    (index : Nat) :
    openAll archive index listed = .ok (opened archive listed) := by
  induction listed generalizing index with
  | nil => rfl
  | cons entry rest ih =>
      obtain ⟨first, found, later⟩ := allOpen_cons opens
      rw [opened_cons rest found]
      simp only [openAll, found, ih later]
      rfl

theorem allOpen_of_openAll {listed : List Zip.Entry} {index : Nat}
    {entries : List Zip.OpenEntry} (ended : openAll archive index listed = .ok entries) :
    AllOpen archive listed := by
  induction listed generalizing index entries with
  | nil => exact fun _ member => (List.not_mem_nil member).elim
  | cons entry rest ih =>
      cases found : entry.open? archive with
      | none =>
          simp only [openAll, found] at ended
          cases ended
      | some first =>
          cases tail : openAll archive (index + 1) rest with
          | error fault =>
              simp only [openAll, found, tail] at ended
              cases ended
          | ok later =>
              intro other member
              rcases List.mem_cons.mp member with rfl | behind
              · rw [found]
                rfl
              · exact ih tail other behind

/-- Opening ends with a fault exactly when an entry does not open; the fault
tells the number of the first such entry. -/
theorem openAll_eq_error_iff {listed : List Zip.Entry} {index : Nat} {fault : ArchiveFault} :
    openAll archive index listed = .error fault ↔
      ∃ before entry behind,
        listed = before ++ entry :: behind ∧ AllOpen archive before ∧
          entry.open? archive = none ∧ fault = .unopened (index + before.length) := by
  constructor
  · intro failed
    induction listed generalizing index with
    | nil => cases failed
    | cons entry rest ih =>
        cases found : entry.open? archive with
        | none =>
            simp only [openAll, found, Except.error.injEq] at failed
            exact ⟨[], entry, rest, rfl, fun _ member => (List.not_mem_nil member).elim, found,
              failed.symm⟩
        | some first =>
            cases tail : openAll archive (index + 1) rest with
            | ok later =>
                simp only [openAll, found, tail] at failed
                cases failed
            | error tailFault =>
                simp only [openAll, found, tail, Except.map, Except.error.injEq] at failed
                subst failed
                obtain ⟨before, stuck, behind, shape, opens, unopened, number⟩ := ih tail
                refine ⟨entry :: before, stuck, behind, by rw [shape]; rfl, ?_, unopened, ?_⟩
                · intro other member
                  rcases List.mem_cons.mp member with rfl | earlier
                  · rw [found]
                    rfl
                  · exact opens other earlier
                · rw [number, List.length_cons]
                  congr 1
                  omega
  · rintro ⟨before, entry, behind, rfl, opens, unopened, rfl⟩
    induction before generalizing index with
    | nil => simp [openAll, unopened]
    | cons first before ih =>
        obtain ⟨firstOpened, found, later⟩ := allOpen_cons opens
        simp only [List.cons_append, openAll, found, ih later, Except.map, List.length_cons]
        congr 2
        omega

/-! ### Surveys of archives -/

theorem exists_report_of_survey {label : String} {ns : Namespace} {archive : ByteArray}
    {told : Report} (surveyed : survey label ns archive = .ok told) :
    ∃ listed entries, Zip.directory? archive = some listed ∧
      openAll archive 0 listed = .ok entries ∧ told = report label ns archive entries := by
  unfold survey at surveyed
  cases isArchive : Zip.directory? archive with
  | none =>
      rw [isArchive] at surveyed
      cases surveyed
  | some listed =>
      rw [isArchive] at surveyed
      dsimp only at surveyed
      cases ended : openAll archive 0 listed with
      | error fault =>
          rw [ended] at surveyed
          cases surveyed
      | ok entries =>
          rw [ended] at surveyed
          cases surveyed
          exact ⟨listed, entries, rfl, ended, rfl⟩

variable {listed : List Zip.Entry} (label : String) (ns : Namespace)

theorem survey_of_allOpen (isArchive : Zip.directory? archive = some listed)
    (opens : AllOpen archive listed) :
    survey label ns archive = .ok (report label ns archive (opened archive listed)) := by
  simp only [survey, isArchive, openAll_of_allOpen opens]
  rfl

theorem allOpen_of_survey (isArchive : Zip.directory? archive = some listed)
    {told : Report} (surveyed : survey label ns archive = .ok told) :
    AllOpen archive listed := by
  simp only [survey, isArchive] at surveyed
  cases ended : openAll archive 0 listed with
  | ok entries => exact allOpen_of_openAll ended
  | error fault =>
      rw [ended] at surveyed
      cases surveyed

theorem survey_eq_error_iff (isArchive : Zip.directory? archive = some listed)
    {fault : ArchiveFault} :
    survey label ns archive = .error fault ↔
      ∃ before entry behind,
        listed = before ++ entry :: behind ∧ AllOpen archive before ∧
          entry.open? archive = none ∧ fault = .unopened before.length := by
  have start :
      openAll archive 0 listed = .error fault ↔
        ∃ before entry behind,
          listed = before ++ entry :: behind ∧ AllOpen archive before ∧
            entry.open? archive = none ∧ fault = .unopened before.length := by
    simpa only [Nat.zero_add] using @openAll_eq_error_iff archive listed 0 fault
  rw [← start]
  simp only [survey, isArchive]
  cases openAll archive 0 listed with
  | ok entries => simp [Except.map]
  | error other => simp [Except.map]

end Survey
end JarAtlas
