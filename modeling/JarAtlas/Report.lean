/-
The report of a survey.

A report names the archive, the namespace and the project, and holds the model
together with the entries that were skipped.  A stored project is told by a
summary of its report.
-/
import JarAtlas.Model

namespace JarAtlas

structure SkippedEntry where
  entry : String
  reason : String
  deriving DecidableEq, Repr

structure Report where
  archive : String
  namespaceName : String
  projectId : String
  model : Model
  skipped : List SkippedEntry
  deriving DecidableEq, Repr

structure Summary where
  projectId : String
  archive : String
  namespaceName : String
  classCount : Nat
  externalCount : Nat
  skippedCount : Nat
  storedAt : Nat
  deriving DecidableEq, Repr

def Report.summary (report : Report) (storedAt : Nat) : Summary where
  projectId := report.projectId
  archive := report.archive
  namespaceName := report.namespaceName
  classCount := report.model.classNames.length
  externalCount := report.model.externalDependencies.length
  skippedCount := report.skipped.length
  storedAt := storedAt

end JarAtlas
