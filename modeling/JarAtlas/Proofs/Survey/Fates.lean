/-
What becomes of the entries of an archive.

A survey goes over the entries twice: it reads those of interest, and then
examines what it has read.  Seen entry by entry there is one fate for each: an
entry is ignored, recorded as a class, declares dependencies, or is skipped
before or after it was read.  The report is told by the fates in the order of
the archive, and its model by the fates that are sound.
-/
import JarAtlas.Proofs.Survey.Opening

namespace JarAtlas
namespace Survey

/-- What a survey learns of an entry: its name, whether it is a directory, and
what reading it gives. -/
structure Sight where
  name : String
  isDirectory : Bool
  content : Except Zip.ReadFault ByteArray

def sightOf (archive : ByteArray) (entry : Zip.OpenEntry) : Sight :=
  ⟨entry.entry.name, entry.entry.isDirectory, entry.read archive entryLimit⟩

def Sight.kind (ns : Namespace) (sight : Sight) : EntryKind :=
  if sight.isDirectory then .other else .ofName ns sight.name

inductive Fate where
  | ignored
  | recorded (extracted : ExtractedClass)
  | declared (dependencies : List DeclaredDependency)
  | unread (skipped : SkippedEntry)
  | undecoded (skipped : SkippedEntry)

def classFate (ns : Namespace) (name : String) (bytes : Bytes) : Fate :=
  match ClassFile.eventsOfBytes bytes with
  | .error fault =>
    .undecoded ⟨name, "unreadable class " ++ name ++ ": " ++ fault.message⟩
  | .ok events =>
    match extractClass ns events with
    | .error fault =>
      .undecoded ⟨name, "unreadable class " ++ name ++ ": " ++ fault.message⟩
    | .ok extracted => .recorded extracted

def descriptorFate (name : String) (bytes : Bytes) : Fate :=
  match Utf8.decode bytes with
  | .error fault =>
    .undecoded ⟨name, "malformed build descriptor " ++ name ++ (": " ++ fault.message)⟩
  | .ok text =>
    match Pom.dependencies? text with
    | none => .undecoded ⟨name, "malformed build descriptor " ++ name ++ ""⟩
    | some dependencies => .declared dependencies

def fateOf (ns : Namespace) (sight : Sight) : Fate :=
  match sight.kind ns with
  | .other => .ignored
  | .classFile =>
    match sight.content with
    | .error fault => .unread ⟨sight.name, fault.message⟩
    | .ok content => classFate ns sight.name content.data.toList
  | .buildDescriptor =>
    match sight.content with
    | .error fault => .unread ⟨sight.name, fault.message⟩
    | .ok content => descriptorFate sight.name content.data.toList

namespace Fate

def record? : Fate → Option ClassRecord
  | recorded extracted => some extracted.record
  | _ => none

def dependencies? : Fate → Option (List DeclaredDependency)
  | declared dependencies => some dependencies
  | _ => none

/-- The entry that a fate skips before it is read. -/
def unread? : Fate → Option SkippedEntry
  | unread skipped => some skipped
  | _ => none

/-- The entry that a fate skips after it was read. -/
def undecoded? : Fate → Option SkippedEntry
  | undecoded skipped => some skipped
  | _ => none

def isSound : Fate → Bool
  | recorded _ => true
  | declared _ => true
  | _ => false

def isIgnored : Fate → Bool
  | ignored => true
  | _ => false

def draw (inventory : Inventory) : Fate → Inventory
  | recorded extracted => inventory.addClass extracted
  | declared dependencies => inventory.addExternal dependencies
  | _ => inventory

/-- What the fate of an entry can be, given its kind and name. -/
def Fits (kind : EntryKind) (name : String) : Fate → Prop
  | ignored => kind = .other
  | recorded _ => kind = .classFile
  | declared _ => kind = .buildDescriptor
  | unread skipped => kind ≠ .other ∧ skipped.entry = name
  | undecoded skipped => kind ≠ .other ∧ skipped.entry = name

end Fate

private theorem classFate_fits (ns : Namespace) (name : String) (bytes : Bytes) :
    (classFate ns name bytes).Fits .classFile name := by
  unfold classFate
  cases ClassFile.eventsOfBytes bytes with
  | error fault => exact ⟨by simp, rfl⟩
  | ok events =>
      cases told : extractClass ns events with
      | error fault => simp [Fate.Fits, told]
      | ok extracted => simp [Fate.Fits, told]

theorem descriptorFate_fits (name : String) (bytes : Bytes) :
    (descriptorFate name bytes).Fits .buildDescriptor name := by
  unfold descriptorFate
  cases Utf8.decode bytes with
  | error fault => exact ⟨by simp, rfl⟩
  | ok text =>
      cases declares : Pom.dependencies? text with
      | none => simp [Fate.Fits, declares]
      | some dependencies => simp [Fate.Fits, declares]

theorem fateOf_fits (ns : Namespace) (sight : Sight) :
    (fateOf ns sight).Fits (sight.kind ns) sight.name := by
  unfold fateOf
  cases kind : sight.kind ns with
  | other => exact rfl
  | classFile =>
      cases sight.content with
      | error fault => exact ⟨by simp, rfl⟩
      | ok content => exact classFate_fits ns sight.name content.data.toList
  | buildDescriptor =>
      cases sight.content with
      | error fault => exact ⟨by simp, rfl⟩
      | ok content => exact descriptorFate_fits sight.name content.data.toList

/-! ### Two passes -/

def findingOf? (ns : Namespace) (archive : ByteArray) (entry : Zip.OpenEntry) : Option Finding :=
  ((gather? ns archive entry).bind Gathered.entry?).map (examine ns)

/-- Whether a finding, if there is one, stands for a fate. -/
def Agrees : Option Finding → Fate → Prop
  | none, .ignored => True
  | none, .unread _ => True
  | some (.found extracted), .recorded recorded => extracted = recorded
  | some (.declared dependencies), .declared listed => dependencies = listed
  | some (.failed fault), .undecoded skipped => fault.skipped = skipped
  | _, _ => False

private theorem examine_class_agrees (ns : Namespace) (name : String) (content : ByteArray) :
    Agrees (some (examine ns ⟨name, .classFile, content⟩))
      (classFate ns name content.data.toList) := by
  simp only [examine, classFate, classEventsOf]
  cases ClassFile.eventsOfBytes content.data.toList with
  | error fault => exact rfl
  | ok events =>
      simp only [Except.bind, classOf]
      cases extractClass ns events with
      | error fault => exact rfl
      | ok extracted => exact rfl

private theorem examine_descriptor_agrees (ns : Namespace) (name : String)
    (content : ByteArray) :
    Agrees (some (examine ns ⟨name, .buildDescriptor, content⟩))
      (descriptorFate name content.data.toList) := by
  simp only [examine, descriptorFate, descriptorDependencies, dependenciesOf]
  cases Utf8.decode content.data.toList with
  | error fault => exact rfl
  | ok text =>
      dsimp only
      cases Pom.dependencies? text with
      | none => exact rfl
      | some dependencies => exact rfl

private theorem gather_eq (ns : Namespace) (archive : ByteArray) (entry : Zip.OpenEntry) :
    gather? ns archive entry =
      let sight := sightOf archive entry
      if sight.kind ns = .other then none
      else
        match sight.content with
        | .ok content => some (.read ⟨sight.name, sight.kind ns, content⟩)
        | .error fault => some (.unread ⟨sight.name, fault.message⟩) := by
  simp only [gather?, sightOf, Sight.kind]
  by_cases directory : entry.entry.isDirectory = true
  · simp [directory]
  · by_cases other : EntryKind.ofName ns entry.entry.name = .other
    · simp [directory, other]
    · cases entry.read archive entryLimit with
      | ok content => simp [directory, other]
      | error fault => simp [directory, other]

private theorem unread?_of_agrees {finding : Finding} {fate : Fate}
    (agrees : Agrees (some finding) fate) : fate.unread? = none := by
  cases fate with
  | unread skipped => cases finding <;> exact agrees.elim
  | _ => rfl

/-- The first pass skips the entries that cannot be read, and the second finds
in the others what their fates say. -/
theorem gather_agrees (ns : Namespace) (archive : ByteArray) (entry : Zip.OpenEntry) :
    (gather? ns archive entry).bind Gathered.skipped? =
        (fateOf ns (sightOf archive entry)).unread? ∧
      Agrees (findingOf? ns archive entry) (fateOf ns (sightOf archive entry)) := by
  rw [findingOf?, gather_eq]
  generalize sightOf archive entry = sight
  dsimp only
  rw [fateOf]
  cases kind : sight.kind ns with
  | other => exact ⟨rfl, trivial⟩
  | classFile =>
      rw [if_neg (by simp)]
      cases sight.content with
      | error fault => exact ⟨rfl, trivial⟩
      | ok content =>
          have agrees := examine_class_agrees ns sight.name content
          exact ⟨(unread?_of_agrees agrees).symm, agrees⟩
  | buildDescriptor =>
      rw [if_neg (by simp)]
      cases sight.content with
      | error fault => exact ⟨rfl, trivial⟩
      | ok content =>
          have agrees := examine_descriptor_agrees ns sight.name content
          exact ⟨(unread?_of_agrees agrees).symm, agrees⟩

end Survey
end JarAtlas
