/-
Why entries are skipped.

An entry is skipped because it cannot be read, because its bytes give no events
of a class, or because its text declares no dependencies.  There is no other
reason: whatever events the bytes of a class give, extraction accepts them.
-/
import JarAtlas.Proofs.ClassFile.Acceptance
import JarAtlas.Proofs.ClassFile.Assembly
import JarAtlas.Proofs.Survey.Opening

namespace JarAtlas
namespace Survey

variable (ns : Namespace)

theorem classOf_of_classEventsOf {entry : String} {bytes : Bytes} {events : List ClassEvent}
    (told : classEventsOf entry bytes = .ok events) :
    ∃ file extracted, ClassFile.read? bytes = some file ∧
      classOf entry ns events = .ok extracted ∧
      ClassFile.RecordsFile file extracted.record := by
  unfold classEventsOf at told
  cases read : ClassFile.eventsOfBytes bytes with
  | error fault =>
      rw [read] at told
      cases told
  | ok others =>
      rw [read] at told
      cases told
      unfold ClassFile.eventsOfBytes at read
      cases file : ClassFile.read? bytes with
      | none =>
          rw [file] at read
          cases read
      | some found =>
          rw [file] at read
          obtain ⟨extracted, accepted, records⟩ :=
            ClassFile.exists_extractClass_of_events ns read
          refine ⟨found, extracted, rfl, ?_, records⟩
          rw [classOf, accepted]

theorem examine_of_events {entry : ReadEntry} {events : List ClassEvent}
    (isClass : entry.kind = .classFile)
    (told : ClassFile.eventsOfBytes entry.content.data.toList = .ok events) :
    ∃ extracted, examine ns entry = .found extracted := by
  have eventsTold : classEventsOf entry.name entry.content.data.toList = .ok events := by
    rw [classEventsOf, told]
  obtain ⟨_, extracted, _, accepted, _⟩ := classOf_of_classEventsOf ns eventsTold
  refine ⟨extracted, ?_⟩
  simp only [examine, isClass, eventsTold, Except.bind, accepted]

theorem examine_of_fault {entry : ReadEntry} {cause : ClassFile.Fault}
    (isClass : entry.kind = .classFile)
    (failed : ClassFile.eventsOfBytes entry.content.data.toList = .error cause) :
    examine ns entry = .failed (.unreadableClass entry.name (.file cause)) := by
  simp only [examine, isClass, classEventsOf, failed, Except.bind]

/-- The reasons for which an entry that was opened is listed as skipped. -/
inductive SkippedFor (archive : ByteArray) (opened : Zip.OpenEntry) : SkippedEntry → Prop where
  | unread {skipped : SkippedEntry}
      (gathered : gather? ns archive opened = some (.unread skipped)) :
      SkippedFor archive opened skipped
  | classFile {entry : ReadEntry} {cause : ClassFile.Fault}
      (gathered : gather? ns archive opened = some (.read entry))
      (isClass : entry.kind = .classFile)
      (failed : ClassFile.eventsOfBytes entry.content.data.toList = .error cause) :
      SkippedFor archive opened
        ⟨entry.name, "unreadable class " ++ entry.name ++ ": " ++ cause.message⟩
  | buildDescriptor {entry : ReadEntry} {fault : EntryFault}
      (gathered : gather? ns archive opened = some (.read entry))
      (isDescriptor : entry.kind = .buildDescriptor)
      (failed : descriptorDependencies entry.name entry.content.data.toList = .error fault) :
      SkippedFor archive opened fault.skipped

variable {ns}

theorem skippedFor_of_examine {archive : ByteArray} {opened : Zip.OpenEntry} {entry : ReadEntry}
    {skipped : SkippedEntry} (gathered : gather? ns archive opened = some (.read entry))
    (listed : (examine ns entry).skipped? = some skipped) :
    SkippedFor ns archive opened skipped := by
  cases kind : entry.kind with
  | classFile =>
      cases told : ClassFile.eventsOfBytes entry.content.data.toList with
      | ok events =>
          obtain ⟨extracted, found⟩ := examine_of_events ns kind told
          rw [found] at listed
          cases listed
      | error cause =>
          rw [examine_of_fault ns kind told] at listed
          cases listed
          exact .classFile gathered kind told
  | buildDescriptor =>
      simp only [examine, kind] at listed
      cases told : descriptorDependencies entry.name entry.content.data.toList with
      | ok dependencies =>
          rw [told] at listed
          cases listed
      | error fault =>
          rw [told] at listed
          cases listed
          exact .buildDescriptor gathered kind told
  | other =>
      simp only [examine, kind] at listed
      cases listed

theorem mem_skipped_report_iff {label : String} {archive : ByteArray}
    {entries : List Zip.OpenEntry} {skipped : SkippedEntry} :
    skipped ∈ (report label ns archive entries).skipped ↔
      ∃ opened ∈ entries, SkippedFor ns archive opened skipped := by
  simp only [report, List.mem_append, List.mem_filterMap, List.mem_map]
  constructor
  · rintro (⟨gathered, ⟨opened, member, found⟩, listed⟩ |
      ⟨finding, ⟨entry, ⟨gathered, ⟨opened, member, found⟩, isRead⟩, rfl⟩, listed⟩)
    · cases gathered with
      | read entry => cases listed
      | unread other =>
          cases listed
          exact ⟨opened, member, .unread found⟩
    · cases gathered with
      | read other =>
          cases isRead
          exact ⟨opened, member, skippedFor_of_examine found listed⟩
      | unread other => cases isRead
  · rintro ⟨opened, member, reason⟩
    cases reason with
    | unread found => exact Or.inl ⟨_, ⟨opened, member, found⟩, rfl⟩
    | classFile found isClass failed =>
        refine Or.inr ⟨_, ⟨_, ⟨_, ⟨opened, member, found⟩, rfl⟩, rfl⟩, ?_⟩
        rw [examine_of_fault ns isClass failed]
        rfl
    | buildDescriptor found isDescriptor failed =>
        refine Or.inr ⟨_, ⟨_, ⟨_, ⟨opened, member, found⟩, rfl⟩, rfl⟩, ?_⟩
        simp only [examine, isDescriptor, failed]
        rfl

variable (ns)

/-- Whatever events the bytes of a class give, extraction accepts them, and the
record is that of the file: its name, its annotations, each field and each method
that is not left out, in order.  So among the entries of a survey a class that
was read is recorded if its bytes give events, and is skipped only for the fault
of its file. -/
theorem classOf_accepts_classEventsOf :
    (∀ entry bytes events, classEventsOf entry bytes = .ok events →
      ∃ file extracted, ClassFile.read? bytes = some file ∧
        classOf entry ns events = .ok extracted ∧
        ClassFile.RecordsFile file extracted.record) ∧
      (∀ entry : ReadEntry, entry.kind = .classFile →
        ((∃ extracted, examine ns entry = .found extracted) ↔
          ∃ events, ClassFile.eventsOfBytes entry.content.data.toList = .ok events)) ∧
      ∀ label archive told, survey label ns archive = .ok told →
        ∃ listed entries, Zip.directory? archive = some listed ∧
          openAll archive 0 listed = .ok entries ∧
          ∀ skipped, skipped ∈ told.skipped ↔
            ∃ opened ∈ entries, SkippedFor ns archive opened skipped := by
  refine ⟨fun _ _ _ told => classOf_of_classEventsOf ns told, ?_, ?_⟩
  · intro entry isClass
    constructor
    · rintro ⟨extracted, found⟩
      cases told : ClassFile.eventsOfBytes entry.content.data.toList with
      | ok events => exact ⟨events, rfl⟩
      | error cause =>
          rw [examine_of_fault ns isClass told] at found
          cases found
    · rintro ⟨events, told⟩
      exact examine_of_events ns isClass told
  · intro label archive told surveyed
    obtain ⟨listed, entries, isArchive, ended, rfl⟩ := exists_report_of_survey surveyed
    exact ⟨listed, entries, isArchive, ended, fun skipped => mem_skipped_report_iff⟩

open ClassFile in
/-- The field of the shop and its method, whose route is moved out of it. -/
theorem classOf_accepts_events_of_shop :
    let bytes := DeclaredClass.shop.layout.bytes
    let events := DeclaredClass.shop.events
    classEventsOf "a/Shop.class" bytes = .ok events ∧
      ∃ file extracted, ClassFile.read? bytes = some file ∧
        classOf "a/Shop.class" ⟨"a"⟩ events = .ok extracted ∧
        RecordsFile file extracted.record ∧
        extracted.record.fields = [⟨"items", "a.Item[]", false, true, ["@a.Own"]⟩] ∧
        extracted.record.methods = [⟨"list", false, ["@a.Seen(by = @a.Tag, on = a/Mode.SLOW)"]⟩] := by
  intro bytes events
  have told : classEventsOf "a/Shop.class" bytes = .ok events := by
    have read := ClassLayout.eventsOfBytes_of_denotes DeclaredClass.shop.denotes_layout
      DeclaredClass.isValid_shop (DeclaredClass.fits_layout DeclaredClass.fits_shop)
    rw [classEventsOf, read]
  obtain ⟨file, extracted, isFile, accepted, records⟩ :=
    (classOf_accepts_classEventsOf ⟨"a"⟩).1 "a/Shop.class" bytes events told
  have members : (classOf "a/Shop.class" ⟨"a"⟩ events).toOption.map
      (fun told => (told.record.fields, told.record.methods)) =
        some ([⟨"items", "a.Item[]", false, true, ["@a.Own"]⟩],
          [⟨"list", false, ["@a.Seen(by = @a.Tag, on = a/Mode.SLOW)"]⟩]) := by
    decide +kernel
  rw [accepted] at members
  obtain ⟨fields, methods⟩ := Prod.mk.inj (Option.some.inj members)
  exact ⟨told, file, extracted, isFile, accepted, records, fields, methods⟩

end Survey
end JarAtlas
