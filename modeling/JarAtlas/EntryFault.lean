/-
Faults of single entries.

A class entry whose bytes tell no class, or a build descriptor that cannot be
read, is skipped; its fault says which entry and why.  No such fault ends a
survey.
-/
import JarAtlas.ClassFile.Events
import JarAtlas.Extraction
import JarAtlas.Pom
import JarAtlas.Report
import JarAtlas.Text.Utf8

namespace JarAtlas

inductive ClassFault where
  | file (fault : ClassFile.Fault)
  | stream (fault : StreamFault)
  deriving DecidableEq, Repr

def ClassFault.message : ClassFault → String
  | file fault => fault.message
  | stream fault => fault.message

inductive DescriptorFault where
  | encoding (fault : Utf8.Fault)
  | document
  deriving DecidableEq, Repr

def DescriptorFault.message : DescriptorFault → String
  | encoding fault => ": " ++ fault.message
  | document => ""

inductive EntryFault where
  | unreadableClass (entry : String) (cause : ClassFault)
  | malformedDescriptor (entry : String) (cause : DescriptorFault)
  deriving DecidableEq, Repr

namespace EntryFault

def entry : EntryFault → String
  | unreadableClass entry _ => entry
  | malformedDescriptor entry _ => entry

def message : EntryFault → String
  | unreadableClass entry cause => "unreadable class " ++ entry ++ ": " ++ cause.message
  | malformedDescriptor entry cause => "malformed build descriptor " ++ entry ++ cause.message

def skipped (fault : EntryFault) : SkippedEntry :=
  ⟨fault.entry, fault.message⟩

end EntryFault

def classEventsOf (entry : String) (bytes : Bytes) : Except EntryFault (List ClassEvent) :=
  match ClassFile.eventsOfBytes bytes with
  | .ok events => .ok events
  | .error fault => .error (.unreadableClass entry (.file fault))

def classOf (entry : String) (ns : Namespace) (events : List ClassEvent) :
    Except EntryFault ExtractedClass :=
  match extractClass ns events with
  | .ok extracted => .ok extracted
  | .error fault => .error (.unreadableClass entry (.stream fault))

def dependenciesOf (entry : String) (text : String) :
    Except EntryFault (List DeclaredDependency) :=
  match Pom.dependencies? text with
  | some dependencies => .ok dependencies
  | none => .error (.malformedDescriptor entry .document)

end JarAtlas
