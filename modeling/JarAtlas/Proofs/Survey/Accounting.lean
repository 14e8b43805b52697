/-
An account of every entry.

The report on entries that were opened is told by their fates in one pass: each
entry of interest adds to exactly one of the lists of the report, in the order
of the archive, and an entry that is skipped or ignored leaves the model alone.
-/
import JarAtlas.Proofs.Inventory.Attachment
import JarAtlas.Proofs.Survey.Fates
import JarAtlas.Proofs.Zip.Reading

namespace JarAtlas

namespace Survey

theorem classes_foldl_draw (fates : List Fate) (inventory : Inventory) :
    (fates.foldl Fate.draw inventory).classes =
      inventory.classes ++ fates.filterMap Fate.record? := by
  induction fates generalizing inventory with
  | nil => exact (List.append_nil _).symm
  | cons fate fates ih =>
      cases fate with
      | recorded extracted =>
          rw [List.foldl_cons, ih]
          exact (List.append_cons inventory.classes extracted.record _).symm
      | declared dependencies => exact ih (inventory.addExternal dependencies)
      | _ => exact ih inventory

theorem external_foldl_draw (fates : List Fate) (inventory : Inventory) :
    (fates.foldl Fate.draw inventory).external =
      inventory.external ++ (fates.filterMap Fate.dependencies?).flatten := by
  induction fates generalizing inventory with
  | nil => exact (List.append_nil _).symm
  | cons fate fates ih =>
      cases fate with
      | declared dependencies =>
          rw [List.foldl_cons, ih]
          exact List.append_assoc inventory.external dependencies _
      | recorded extracted => exact ih (inventory.addClass extracted)
      | _ => exact ih inventory

theorem foldl_draw_sound (fates : List Fate) (inventory : Inventory) :
    (fates.filter Fate.isSound).foldl Fate.draw inventory = fates.foldl Fate.draw inventory := by
  induction fates generalizing inventory with
  | nil => rfl
  | cons fate fates ih =>
      cases fate with
      | recorded extracted => exact ih _
      | declared dependencies => exact ih _
      | _ => exact ih inventory

/-! ### The report in one pass -/

variable (ns : Namespace) (archive : ByteArray)

def fatesOf (entries : List Zip.OpenEntry) : List Fate :=
  entries.map fun entry => fateOf ns (sightOf archive entry)

private theorem draw_of_agrees {finding : Finding} {fate : Fate} (inventory : Inventory)
    (agrees : Agrees (some finding) fate) : fate.draw inventory = draw inventory finding := by
  cases finding with
  | found extracted =>
      cases fate with
      | recorded recorded => rw [show extracted = recorded from agrees]; rfl
      | _ => exact agrees.elim
  | declared dependencies =>
      cases fate with
      | declared listed => rw [show dependencies = listed from agrees]; rfl
      | _ => exact agrees.elim
  | nothing => cases fate <;> exact agrees.elim
  | failed fault =>
      cases fate with
      | undecoded skipped => rfl
      | _ => exact agrees.elim

private theorem draw_of_agrees_none {fate : Fate} (inventory : Inventory)
    (agrees : Agrees none fate) : fate.draw inventory = inventory := by
  cases fate with
  | ignored => rfl
  | unread skipped => rfl
  | _ => exact agrees.elim

private theorem undecoded?_of_agrees {finding : Option Finding} {fate : Fate}
    (agrees : Agrees finding fate) : finding.bind Finding.skipped? = fate.undecoded? := by
  cases finding with
  | none => cases fate <;> first | rfl | exact agrees.elim
  | some finding =>
      cases finding with
      | failed fault =>
          cases fate with
          | undecoded skipped => exact congrArg some agrees
          | _ => exact agrees.elim
      | _ => cases fate <;> first | rfl | exact agrees.elim

private theorem foldl_findings (entries : List Zip.OpenEntry) (inventory : Inventory) :
    (entries.filterMap (findingOf? ns archive)).foldl draw inventory =
      (fatesOf ns archive entries).foldl Fate.draw inventory := by
  induction entries generalizing inventory with
  | nil => rfl
  | cons entry entries ih =>
      have agrees := (gather_agrees ns archive entry).2
      rw [fatesOf, List.map_cons, List.foldl_cons, ← fatesOf]
      cases found : findingOf? ns archive entry with
      | none =>
          rw [found] at agrees
          rw [List.filterMap_cons_none found, draw_of_agrees_none inventory agrees, ih]
      | some finding =>
          rw [found] at agrees
          rw [List.filterMap_cons_some found, List.foldl_cons, draw_of_agrees inventory agrees, ih]

theorem report_eq (label : String) (entries : List Zip.OpenEntry) :
    report label ns archive entries =
      { archive := label
        namespaceName := ns.name
        projectId := projectId ns archive
        model := ((fatesOf ns archive entries).foldl Fate.draw .empty).finish
        skipped :=
          (fatesOf ns archive entries).filterMap Fate.unread? ++
            (fatesOf ns archive entries).filterMap Fate.undecoded? } := by
  have findings :
      ((entries.filterMap (gather? ns archive)).filterMap Gathered.entry?).map (examine ns) =
        entries.filterMap (findingOf? ns archive) := by
    rw [List.filterMap_filterMap, List.map_filterMap]
    rfl
  have unread :
      (entries.filterMap (gather? ns archive)).filterMap Gathered.skipped? =
        (fatesOf ns archive entries).filterMap Fate.unread? := by
    rw [List.filterMap_filterMap, fatesOf, List.filterMap_map]
    exact congrArg (entries.filterMap ·) (funext fun entry => (gather_agrees ns archive entry).1)
  have undecoded :
      (entries.filterMap (findingOf? ns archive)).filterMap Finding.skipped? =
        (fatesOf ns archive entries).filterMap Fate.undecoded? := by
    rw [List.filterMap_filterMap, fatesOf, List.filterMap_map]
    exact congrArg (entries.filterMap ·)
      (funext fun entry => undecoded?_of_agrees (gather_agrees ns archive entry).2)
  simp only [report, findings, unread, undecoded, foldl_findings]

private theorem fatesOf_sights (entries : List Zip.OpenEntry) :
    fatesOf ns archive entries = (entries.map (sightOf archive)).map (fateOf ns) := by
  rw [List.map_map]
  rfl

private theorem soundFates_eq (entries : List Zip.OpenEntry) :
    (fatesOf ns archive entries).filter Fate.isSound =
      ((entries.map (sightOf archive)).filter fun sight => (fateOf ns sight).isSound).map
        (fateOf ns) := by
  rw [fatesOf_sights, List.filter_map]
  rfl

private theorem skipped_sound (fates : List Fate) :
    (fates.filter Fate.isSound).filterMap Fate.unread? ++
      (fates.filter Fate.isSound).filterMap Fate.undecoded? = [] := by
  have quiet (fate : Fate) (sound : fate.isSound = true) :
      fate.unread? = none ∧ fate.undecoded? = none := by
    cases fate with
    | recorded extracted => exact ⟨rfl, rfl⟩
    | declared dependencies => exact ⟨rfl, rfl⟩
    | _ => cases sound
  rw [List.append_eq_nil_iff, List.filterMap_eq_nil_iff, List.filterMap_eq_nil_iff]
  constructor
  · intro fate member
    exact (quiet fate (List.mem_filter.mp member).2).1
  · intro fate member
    exact (quiet fate (List.mem_filter.mp member).2).2

private theorem length_of_fates (fates : List Fate) :
    (fates.filter fun fate => !fate.isIgnored).length =
      (fates.filterMap Fate.record?).length + (fates.filterMap Fate.dependencies?).length +
        (fates.filterMap Fate.unread? ++ fates.filterMap Fate.undecoded?).length := by
  induction fates with
  | nil => rfl
  | cons fate fates ih =>
      rw [List.length_append] at ih ⊢
      have counted :
          (if fate.isIgnored then 0 else 1) =
            fate.record?.toList.length + fate.dependencies?.toList.length +
              (fate.unread?.toList.length + fate.undecoded?.toList.length) := by
        cases fate <;> rfl
      have step {α : Type} (told : Fate → Option α) :
          ((fate :: fates).filterMap told).length =
            (told fate).toList.length + (fates.filterMap told).length := by
        cases found : told fate with
        | none => rw [List.filterMap_cons_none found]; simp
        | some item => rw [List.filterMap_cons_some found]; simp; omega
      rw [step, step, step, step]
      cases ignored : fate.isIgnored with
      | true =>
          rw [List.filter_cons_of_neg (by simp [ignored]), ih]
          simp only [ignored, if_true] at counted
          omega
      | false =>
          rw [List.filter_cons_of_pos (by simp [ignored]), List.length_cons, ih]
          simp only [ignored, Bool.false_eq_true, if_false] at counted
          omega

private theorem isIgnored_iff (entry : Zip.OpenEntry) :
    (fateOf ns (sightOf archive entry)).isIgnored = true ↔
      (sightOf archive entry).kind ns = .other := by
  have fits := fateOf_fits ns (sightOf archive entry)
  cases fate : fateOf ns (sightOf archive entry) <;> rw [fate] at fits <;>
    simp_all [Fate.Fits, Fate.isIgnored]

private theorem length_of_interest (entries : List Zip.OpenEntry) :
    (entries.filter fun entry => (sightOf archive entry).kind ns ≠ .other).length =
      ((fatesOf ns archive entries).filter fun fate => !fate.isIgnored).length := by
  rw [fatesOf, List.filter_map, List.length_map]
  refine congrArg List.length (List.filter_congr fun entry _ => ?_)
  have ignored := isIgnored_iff ns archive entry
  cases fate : (fateOf ns (sightOf archive entry)).isIgnored <;> simp_all

/-! ### The account -/

/-- An archive all of whose entries open: they are the listed ones, each has a
fate that its kind allows, and the report lists them all.  Records and
dependencies come in the order of the archive, up to the children that are
attached to records at the end; skipped entries come in its order too, those
that could not be read before the others.  Without the entries that are ignored
or skipped the model is the same: for the report on the others, and for every
archive that shows just them. -/
theorem survey_accounts_for_every_entry (label : String) {listed : List Zip.Entry}
    (isArchive : Zip.directory? archive = some listed) (opens : AllOpen archive listed) :
    let entries := opened archive listed
    let fates := fatesOf ns archive entries
    let isSound := fun sight => (fateOf ns sight).isSound
    ∃ survey,
      Survey.survey label ns archive = .ok survey ∧
      entries.map Zip.OpenEntry.entry = listed ∧
      (∀ entry ∈ entries,
        (fateOf ns (sightOf archive entry)).Fits ((sightOf archive entry).kind ns)
          entry.entry.name) ∧
      survey.model.classes.map ClassRecord.withoutNested =
        (fates.filterMap Fate.record?).map ClassRecord.withoutNested ∧
      survey.model.externalDependencies = (fates.filterMap Fate.dependencies?).flatten ∧
      survey.skipped = fates.filterMap Fate.unread? ++ fates.filterMap Fate.undecoded? ∧
      (entries.filter fun entry => (sightOf archive entry).kind ns ≠ .other).length =
        survey.model.classes.length + (fates.filterMap Fate.dependencies?).length +
          survey.skipped.length ∧
      (report label ns archive (entries.filter (isSound ∘ sightOf archive))).model =
        survey.model ∧
      ∀ otherLabel other others,
        Zip.directory? other = some others → AllOpen other others →
        (opened other others).map (sightOf other) =
          (entries.map (sightOf archive)).filter isSound →
        ∃ shown,
          Survey.survey otherLabel ns other = .ok shown ∧
          shown.model = survey.model ∧ shown.skipped = [] := by
  intro entries fates isSound
  have told := report_eq ns archive label entries
  have classes : (fates.foldl Fate.draw .empty).classes = fates.filterMap Fate.record? :=
    classes_foldl_draw fates .empty
  have external : (fates.foldl Fate.draw .empty).external =
      (fates.filterMap Fate.dependencies?).flatten :=
    external_foldl_draw fates .empty
  have records : (report label ns archive entries).model.classes.map ClassRecord.withoutNested =
      (fates.filterMap Fate.record?).map ClassRecord.withoutNested := by
    rw [told, ← classes]
    exact Inventory.attach_withoutNested _ _
  have soundFates : fatesOf ns archive (entries.filter (isSound ∘ sightOf archive)) =
      fates.filter Fate.isSound := by
    rw [soundFates_eq, fatesOf_sights, List.filter_map]
  have counted : (entries.filter fun entry => (sightOf archive entry).kind ns ≠ .other).length =
      (report label ns archive entries).model.classes.length +
        (fates.filterMap Fate.dependencies?).length +
        (report label ns archive entries).skipped.length := by
    have recorded := congrArg List.length records
    rw [List.length_map, List.length_map] at recorded
    rw [length_of_interest, length_of_fates, recorded, told]
  refine ⟨report label ns archive entries, survey_of_allOpen label ns isArchive opens,
    opened_entries opens, fun entry _ => fateOf_fits ns (sightOf archive entry), records,
    ?_, ?_, counted, ?_, ?_⟩
  · rw [told]
    exact external
  · rw [told]
  · rw [report_eq, soundFates, foldl_draw_sound, told]
  · intro otherLabel other others otherArchive otherOpens sights
    have shownFates : fatesOf ns other (opened other others) = fates.filter Fate.isSound := by
      rw [soundFates_eq, fatesOf_sights, sights]
    refine ⟨report otherLabel ns other (opened other others),
      survey_of_allOpen otherLabel ns otherArchive otherOpens, ?_, ?_⟩
    · rw [report_eq, shownFates, foldl_draw_sound, told]
    · rw [report_eq, shownFates]
      exact skipped_sound fates

/-- An archive in which entries of every fate interleave: a directory, an empty class,
`a.A`, a text, a class whose checksum is wrong, a build descriptor with one dependency,
one that is cut, and `a.D`, which extends `a.A`. -/
def interleaved : ByteArray := ⟨#[
    80, 75, 3, 4, 10, 0, 0, 0, 0, 0, 0, 0, 0, 0, 0, 0, 0, 0, 0, 0, 0, 0, 0, 0, 0, 0, 2, 0, 0, 0,
    97, 47, 80, 75, 3, 4, 10, 0, 0, 0, 0, 0, 0, 0, 0, 0, 0, 0, 0, 0, 0, 0, 0, 0, 0, 0, 0, 0, 9,
    0, 0, 0, 97, 47, 67, 46, 99, 108, 97, 115, 115, 80, 75, 3, 4, 10, 0, 0, 0, 0, 0, 0, 0, 0, 0,
    241, 144, 218, 46, 33, 0, 0, 0, 33, 0, 0, 0, 9, 0, 0, 0, 97, 47, 65, 46, 99, 108, 97, 115,
    115, 202, 254, 186, 190, 0, 0, 0, 52, 0, 3, 1, 0, 3, 97, 47, 65, 7, 0, 1, 0, 33, 0, 2, 0, 0,
    0, 0, 0, 0, 0, 0, 0, 0, 80, 75, 3, 4, 10, 0, 0, 0, 0, 0, 0, 0, 0, 0, 172, 42, 147, 216, 2,
    0, 0, 0, 2, 0, 0, 0, 9, 0, 0, 0, 110, 111, 116, 101, 115, 46, 116, 120, 116, 104, 105, 80,
    75, 3, 4, 10, 0, 0, 0, 0, 0, 0, 0, 0, 0, 1, 0, 0, 0, 0, 0, 0, 0, 0, 0, 0, 0, 9, 0, 0, 0, 97,
    47, 66, 46, 99, 108, 97, 115, 115, 80, 75, 3, 4, 10, 0, 0, 0, 0, 0, 0, 0, 0, 0, 95, 81, 69,
    227, 45, 0, 0, 0, 45, 0, 0, 0, 7, 0, 0, 0, 112, 111, 109, 46, 120, 109, 108, 60, 100, 101,
    112, 101, 110, 100, 101, 110, 99, 121, 62, 60, 103, 114, 111, 117, 112, 73, 100, 62, 103,
    60, 47, 103, 114, 111, 117, 112, 73, 100, 62, 60, 47, 100, 101, 112, 101, 110, 100, 101,
    110, 99, 121, 62, 80, 75, 3, 4, 10, 0, 0, 0, 0, 0, 0, 0, 0, 0, 10, 147, 109, 253, 1, 0, 0,
    0, 1, 0, 0, 0, 9, 0, 0, 0, 98, 47, 112, 111, 109, 46, 120, 109, 108, 60, 80, 75, 3, 4, 10,
    0, 0, 0, 0, 0, 0, 0, 0, 0, 210, 52, 199, 86, 42, 0, 0, 0, 42, 0, 0, 0, 9, 0, 0, 0, 97, 47,
    68, 46, 99, 108, 97, 115, 115, 202, 254, 186, 190, 0, 0, 0, 52, 0, 5, 1, 0, 3, 97, 47, 68,
    7, 0, 1, 1, 0, 3, 97, 47, 65, 7, 0, 3, 0, 33, 0, 2, 0, 4, 0, 0, 0, 0, 0, 0, 0, 0, 80, 75, 1,
    2, 10, 0, 10, 0, 0, 0, 0, 0, 0, 0, 0, 0, 0, 0, 0, 0, 0, 0, 0, 0, 0, 0, 0, 0, 2, 0, 0, 0, 0,
    0, 0, 0, 0, 0, 0, 0, 0, 0, 0, 0, 0, 0, 97, 47, 80, 75, 1, 2, 10, 0, 10, 0, 0, 0, 0, 0, 0, 0,
    0, 0, 0, 0, 0, 0, 0, 0, 0, 0, 0, 0, 0, 0, 9, 0, 0, 0, 0, 0, 0, 0, 0, 0, 0, 0, 0, 0, 32, 0,
    0, 0, 97, 47, 67, 46, 99, 108, 97, 115, 115, 80, 75, 1, 2, 10, 0, 10, 0, 0, 0, 0, 0, 0, 0,
    0, 0, 241, 144, 218, 46, 33, 0, 0, 0, 33, 0, 0, 0, 9, 0, 0, 0, 0, 0, 0, 0, 0, 0, 0, 0, 0, 0,
    71, 0, 0, 0, 97, 47, 65, 46, 99, 108, 97, 115, 115, 80, 75, 1, 2, 10, 0, 10, 0, 0, 0, 0, 0,
    0, 0, 0, 0, 172, 42, 147, 216, 2, 0, 0, 0, 2, 0, 0, 0, 9, 0, 0, 0, 0, 0, 0, 0, 0, 0, 0, 0,
    0, 0, 143, 0, 0, 0, 110, 111, 116, 101, 115, 46, 116, 120, 116, 80, 75, 1, 2, 10, 0, 10, 0,
    0, 0, 0, 0, 0, 0, 0, 0, 1, 0, 0, 0, 0, 0, 0, 0, 0, 0, 0, 0, 9, 0, 0, 0, 0, 0, 0, 0, 0, 0, 0,
    0, 0, 0, 184, 0, 0, 0, 97, 47, 66, 46, 99, 108, 97, 115, 115, 80, 75, 1, 2, 10, 0, 10, 0, 0,
    0, 0, 0, 0, 0, 0, 0, 95, 81, 69, 227, 45, 0, 0, 0, 45, 0, 0, 0, 7, 0, 0, 0, 0, 0, 0, 0, 0,
    0, 0, 0, 0, 0, 223, 0, 0, 0, 112, 111, 109, 46, 120, 109, 108, 80, 75, 1, 2, 10, 0, 10, 0,
    0, 0, 0, 0, 0, 0, 0, 0, 10, 147, 109, 253, 1, 0, 0, 0, 1, 0, 0, 0, 9, 0, 0, 0, 0, 0, 0, 0,
    0, 0, 0, 0, 0, 0, 49, 1, 0, 0, 98, 47, 112, 111, 109, 46, 120, 109, 108, 80, 75, 1, 2, 10,
    0, 10, 0, 0, 0, 0, 0, 0, 0, 0, 0, 210, 52, 199, 86, 42, 0, 0, 0, 42, 0, 0, 0, 9, 0, 0, 0, 0,
    0, 0, 0, 0, 0, 0, 0, 0, 0, 89, 1, 0, 0, 97, 47, 68, 46, 99, 108, 97, 115, 115, 80, 75, 5, 6,
    0, 0, 0, 0, 8, 0, 8, 0, 175, 1, 0, 0, 170, 1, 0, 0, 0, 0
  ]⟩

def interleavedListed : List Zip.Entry :=
  [⟨"a/", false, false, 0, 0, 0, 0, 0⟩, ⟨"a/C.class", false, false, 0, 0, 0, 0, 32⟩,
    ⟨"a/A.class", false, false, 0, 786075889, 33, 33, 71⟩,
    ⟨"notes.txt", false, false, 0, 3633523372, 2, 2, 143⟩,
    ⟨"a/B.class", false, false, 0, 1, 0, 0, 184⟩,
    ⟨"pom.xml", false, false, 0, 3812970847, 45, 45, 223⟩,
    ⟨"b/pom.xml", false, false, 0, 4251816714, 1, 1, 305⟩,
    ⟨"a/D.class", false, false, 0, 1455895762, 42, 42, 345⟩]

theorem directory?_interleaved : Zip.directory? interleaved = some interleavedListed := by
  rw [Zip.directory?_eq]
  decide +kernel

theorem allOpen_interleaved : AllOpen interleaved interleavedListed := by
  unfold AllOpen
  decide +kernel

/-- Six of its eight entries are of interest. -/
theorem survey_accounts_for_interleaved_entries :
    Zip.directory? interleaved = some interleavedListed ∧
      AllOpen interleaved interleavedListed ∧
      ∃ survey,
        Survey.survey "app.jar" ⟨"a"⟩ interleaved = .ok survey ∧
        survey.model.classes.map ClassRecord.withoutNested =
          [⟨"a.A", .normal, "", [], [], [], [], false, .plain, []⟩,
            ⟨"a.D", .normal, "a.A", [], [], [], [], false, .plain, []⟩] ∧
        survey.model.externalDependencies = [⟨"g", "", "", ""⟩] ∧
        survey.skipped =
          [⟨"a/B.class", "failed to read entry"⟩,
            ⟨"a/C.class", "unreadable class a/C.class: failed to parse class file"⟩,
            ⟨"b/pom.xml", "malformed build descriptor b/pom.xml"⟩] ∧
        ((opened interleaved interleavedListed).filter fun entry =>
          (sightOf interleaved entry).kind ⟨"a"⟩ ≠ .other).length = 2 + 1 + 3 := by
  refine ⟨directory?_interleaved, allOpen_interleaved, ?_⟩
  obtain ⟨survey, told, _, _, classes, dependencies, skipped, counted, _⟩ :=
    survey_accounts_for_every_entry ⟨"a"⟩ interleaved "app.jar" directory?_interleaved
      allOpen_interleaved
  have fates :
      let fates := fatesOf ⟨"a"⟩ interleaved (opened interleaved interleavedListed)
      ((fates.filterMap Fate.record?).map ClassRecord.withoutNested,
          fates.filterMap Fate.dependencies?,
          fates.filterMap Fate.unread? ++ fates.filterMap Fate.undecoded?) =
        ([⟨"a.A", .normal, "", [], [], [], [], false, .plain, []⟩,
            ⟨"a.D", .normal, "a.A", [], [], [], [], false, .plain, []⟩],
          [[⟨"g", "", "", ""⟩]],
          [⟨"a/B.class", "failed to read entry"⟩,
            ⟨"a/C.class", "unreadable class a/C.class: failed to parse class file"⟩,
            ⟨"b/pom.xml", "malformed build descriptor b/pom.xml"⟩]) := by
    simp only [fatesOf, sightOf, Zip.OpenEntry.read, Zip.OpenEntry.content?,
      Zip.OpenEntry.data_eq, Crc32.checksum_eq]
    decide +kernel
  obtain ⟨recordFates, dependencyFates, skippedFates⟩ :
      _ ∧ _ ∧ _ := by simpa only [Prod.mk.injEq] using fates
  rw [recordFates] at classes
  rw [dependencyFates] at dependencies counted
  rw [skippedFates] at skipped
  rw [skipped, ← List.length_map ClassRecord.withoutNested, classes] at counted
  exact ⟨survey, told, classes, dependencies, skipped, counted⟩

end Survey
end JarAtlas
