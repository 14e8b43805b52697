/-
The survey of an archive.

All entries are opened first; an entry that cannot be opened ends the survey.
Then the entries that hold classes or build descriptors are read, and what was
read is drawn into the inventory in the order of the archive.  An entry that
cannot be read or understood is skipped and listed with the reason.
-/
import JarAtlas.Digest.Sha256
import JarAtlas.EntryFault
import JarAtlas.EntryKind
import JarAtlas.Inventory
import JarAtlas.Zip.Content

namespace JarAtlas
namespace Survey

/-- The bytes that identify a project: the namespace, a zero, and the
archive. -/
def projectKey (ns : Namespace) (archive : ByteArray) : ByteArray :=
  ns.name.toUTF8.push 0 ++ archive

def projectId (ns : Namespace) (archive : ByteArray) : String :=
  hexOfBytes (Sha256.digest (projectKey ns archive)).toList

def entryLimit : Nat := 64 * 1024 * 1024

structure ReadEntry where
  name : String
  kind : EntryKind
  content : ByteArray

inductive Gathered where
  | read (entry : ReadEntry)
  | unread (skipped : SkippedEntry)

/-- Reads an entry, unless it is a directory or of no interest. -/
def gather? (ns : Namespace) (archive : ByteArray) (opened : Zip.OpenEntry) : Option Gathered :=
  let name := opened.entry.name
  let kind := EntryKind.ofName ns name
  if opened.entry.isDirectory || kind = .other then none
  else
    match opened.read archive entryLimit with
    | .ok content => some (.read ⟨name, kind, content⟩)
    | .error fault => some (.unread ⟨name, fault.message⟩)

inductive Finding where
  | found (extracted : ExtractedClass)
  | declared (dependencies : List DeclaredDependency)
  | nothing
  | failed (fault : EntryFault)

def descriptorDependencies (entry : String) (content : Bytes) :
    Except EntryFault (List DeclaredDependency) :=
  match Utf8.decode content with
  | .ok text => dependenciesOf entry text
  | .error fault => .error (.malformedDescriptor entry (.encoding fault))

def examine (ns : Namespace) (entry : ReadEntry) : Finding :=
  let bytes := entry.content.data.toList
  match entry.kind with
  | .classFile =>
    match (classEventsOf entry.name bytes).bind (classOf entry.name ns) with
    | .ok extracted => .found extracted
    | .error fault => .failed fault
  | .buildDescriptor =>
    match descriptorDependencies entry.name bytes with
    | .ok dependencies => .declared dependencies
    | .error fault => .failed fault
  | .other => .nothing

def draw (inventory : Inventory) : Finding → Inventory
  | .found extracted => inventory.addClass extracted
  | .declared dependencies => inventory.addExternal dependencies
  | .nothing => inventory
  | .failed _ => inventory

def Finding.skipped? : Finding → Option SkippedEntry
  | .failed fault => some fault.skipped
  | _ => none

def Gathered.entry? : Gathered → Option ReadEntry
  | .read entry => some entry
  | .unread _ => none

def Gathered.skipped? : Gathered → Option SkippedEntry
  | .read _ => none
  | .unread skipped => some skipped

/-- Why an archive cannot be surveyed.  Entries are numbered from zero. -/
inductive ArchiveFault where
  | noArchive
  | unopened (index : Nat)
  deriving DecidableEq, Repr

def ArchiveFault.message (label : String) : ArchiveFault → String
  | noArchive => "Failed to read zip structure: " ++ label
  | unopened index => "Failed to read entry #" ++ decimalText index ++ " of " ++ label

def openAll (archive : ByteArray) (index : Nat) :
    List Zip.Entry → Except ArchiveFault (List Zip.OpenEntry)
  | [] => .ok []
  | entry :: rest =>
    match entry.open? archive with
    | none => .error (.unopened index)
    | some opened => (openAll archive (index + 1) rest).map (opened :: ·)

def report (label : String) (ns : Namespace) (archive : ByteArray)
    (entries : List Zip.OpenEntry) : Report :=
  let gathered := entries.filterMap (gather? ns archive)
  let findings := (gathered.filterMap Gathered.entry?).map (examine ns)
  { archive := label
    namespaceName := ns.name
    projectId := projectId ns archive
    model := (findings.foldl draw .empty).finish
    skipped := gathered.filterMap Gathered.skipped? ++ findings.filterMap Finding.skipped? }

def survey (label : String) (ns : Namespace) (archive : ByteArray) :
    Except ArchiveFault Report :=
  match Zip.directory? archive with
  | none => .error .noArchive
  | some entries => (openAll archive 0 entries).map (report label ns archive)

end Survey
end JarAtlas
