/-
Running commands.

A command finds its store through an option, a variable of the environment or a
place below the user's home, and its namespace through an option or a variable.
What it prints and how it ends is its outcome; a failure is told in one message
and ends with code one, an unsound command line with code two.
-/
import JarAtlas.Console.Arguments
import JarAtlas.Console.Host
import JarAtlas.Console.Path
import JarAtlas.Report.Text
import JarAtlas.Store.File
import JarAtlas.Survey

namespace JarAtlas
namespace Console

inductive Failure where
  | noNamespace
  | noHome
  | archiveMissing (path : String)
  | archiveUnmapped (path : String)
  | archive (label : String) (fault : Survey.ArchiveFault)
  | storeDirectory (path : String)
  | storeFile (path : String)
  | store (fault : StoreFault)
  | unknownProject (id : String)
  | outputDirectory (path : String)
  | outputFile (path : String)
  | kept (kind path : String)
  deriving DecidableEq, Repr

def Failure.message : Failure → String
  | noNamespace =>
    "No user namespace given (use --namespace or set CLASS_DEPS_NAMESPACE)"
  | noHome => "Failed to resolve data directory"
  | archiveMissing path => "Failed to open archive: " ++ path
  | archiveUnmapped path => "Failed to mmap archive: " ++ path
  | archive label fault => fault.message label
  | storeDirectory path => "Failed to create store directory: " ++ path
  | storeFile path => "Failed to create/open store: " ++ path
  | store fault => fault.message
  | unknownProject id => "Unknown project: " ++ id
  | outputDirectory path => "Failed to create directory: " ++ path
  | outputFile path => "Failed to write output: " ++ path
  | kept kind path => "Failed to remove " ++ kind ++ " file: " ++ path

structure Outcome where
  code : Nat
  output : String
  messages : List String
  deriving DecidableEq, Repr

/-! ### Places -/

section

variable {m : Type → Type} [Monad m] [Host m]

abbrev Attempt (m : Type → Type) := ExceptT Failure m

def require (succeeded : Bool) (failure : Failure) : Attempt m Unit :=
  if succeeded then pure () else throw failure

def storeVariable : String := "CLASS_DEPS_DB"

def namespaceVariable : String := "CLASS_DEPS_NAMESPACE"

def storeBelowData : String := "class-deps/db.lmdb"

def statedDirectory? (name : String) : Attempt m (Option String) := do
  let stated ← Host.setting? name
  return stated.filter fun path => path.toList.head? = some '/'

def home? : Attempt m (Option String) := do
  let stated ← Host.setting? "HOME"
  match stated.filter (· ≠ "") with
  | some path => return some path
  | none => Host.recordedHome?

/-- The directory for data: the one that is stated, or the usual one below the
user's home.  Without a home a stated directory for passing data serves. -/
def dataDirectory : Attempt m String := do
  match ← statedDirectory? "XDG_DATA_HOME" with
  | some path => return path
  | none =>
    match ← home? with
    | some path => return Path.join path ".local/share"
    | none =>
      match ← statedDirectory? "XDG_CACHE_HOME" with
      | some path => return path
      | none => throw .noHome

def storePath : Option String → Attempt m String
  | some path => return path
  | none => do
    let named ← Host.setting? storeVariable
    match named.filter fun path => !(trimBlanks path.toList).isEmpty with
    | some path => return path
    | none => return Path.join (← dataDirectory) storeBelowData

def namespaceOf : Option String → Attempt m Namespace
  | some text => return .ofText text
  | none => do
    match ← Host.setting? namespaceVariable with
    | some text => return .ofText text
    | none => throw .noNamespace

/-! ### The store -/

def guardPath (path : String) : String :=
  path ++ "-lock"

def guardContent : ByteArray :=
  "guard\n".toUTF8

structure OpenedStore where
  place : String
  content : Store

/-- Makes the directory in which a file is to stand.  A path without a
directory part needs none. -/
def makeParent (path : String) (failure : String → Failure) : Attempt m Unit :=
  match (Path.parent? path).filter (· ≠ "") with
  | none => return ()
  | some parent => do require (← Host.makeDirectories parent) (failure parent)

/-- The full path of a store that is there, or of one that is not there yet but
whose directory is stated and there. -/
def storePlace? (path : String) : Attempt m (Option String) := do
  match ← Host.resolve? path with
  | some place => return some place
  | none =>
    match Path.parent? path, Path.fileName? path with
    | some parent, some name =>
      match ← Host.resolve? parent with
      | none => return none
      | some directory =>
        let place := Path.join directory name
        match ← Host.look place with
        | .nothing => return some place
        | _ => return none
    | _, _ => return none

/-- Opens the store at a path, and makes it first if there is none.  Its guard
is written before the store is looked at. -/
def openStore (path : String) : Attempt m OpenedStore := do
  makeParent path .storeDirectory
  match ← storePlace? path with
  | none => throw (.storeFile path)
  | some place =>
    require (← Host.write (guardPath place) guardContent) (.storeFile path)
    match ← Host.look place with
    | .directory => throw (.storeFile path)
    | .device => throw (.storeFile path)
    | .nothing =>
      require (← Host.write place Store.empty.encode) (.storeFile path)
      return ⟨place, .empty⟩
    | .file content =>
      match Store.decode? content with
      | none => throw (.storeFile path)
      | some store => return ⟨place, store⟩

def removeFile (kind path : String) : Attempt m Unit := do
  match ← Host.look path with
  | .nothing => return ()
  | _ => require (← Host.remove path) (.kept kind path)

def ofStore {α : Type} : Except StoreFault α → Attempt m α
  | .ok value => return value
  | .error fault => throw (.store fault)

/-! ### Commands -/

def documentLines (document : Json) : String :=
  document.pretty ++ "\n"

def surveyAt (path : String) (ns : Namespace) : Attempt m Report := do
  match ← Host.look path with
  | .nothing => throw (.archiveMissing path)
  | .directory => throw (.archiveUnmapped path)
  | .device => throw (.archiveUnmapped path)
  | .file content =>
    match Survey.survey path ns content with
    | .ok report => return report
    | .error fault => throw (.archive path fault)

def saveReport (given : Option String) (report : Report) : Attempt m String := do
  let path ← storePath given
  let opened ← openStore path
  let (changed, summary) ← ofStore (opened.content.save (← Host.now) report)
  require (← Host.write opened.place changed.encode) (.storeFile path)
  return "[class-deps] saved project " ++ summary.projectId ++ " (" ++
    decimalText summary.classCount ++ " classes)"

def reportText (format : OutputFormat) (report : Report) : String :=
  match format with
  | .json => report.toJson.pretty
  | .text => report.text

def withLineBreak (text : String) : String :=
  if text.toList.getLast? = some '\n' then text else text ++ "\n"

def deliver (text : String) : Option String → Attempt m String
  | none => return withLineBreak text
  | some path => do
    makeParent path .outputDirectory
    require (← Host.write path text.toUTF8) (.outputFile path)
    return ""

def surveyAndSave (store : Option String) (order : AnalyzeOrder) :
    Attempt m (Report × List String) := do
  let ns ← namespaceOf order.namespaceText
  let report ← surveyAt order.archive ns
  if order.save then
    return (report, [← saveReport store report])
  else
    return (report, [])

def display (store : Option String) (id : String) (part : ModelPart) : Attempt m String := do
  let opened ← openStore (← storePath store)
  match ← ofStore (opened.content.model? id) with
  | none => throw (.unknownProject id)
  | some model => return part.text model ++ "\n"

def list (store : Option String) : Attempt m String := do
  let opened ← openStore (← storePath store)
  let summaries ← ofStore opened.content.projects
  return documentLines (.array (summaries.map Summary.toJson))

def statistics (path : String) (store : Store) : Json :=
  .object [("db_path", .string path), ("projects", .number store.projectCount)]

def stats (store : Option String) : Attempt m String := do
  let path ← storePath store
  let opened ← openStore path
  return documentLines (statistics path opened.content)

def clear (store : Option String) : Attempt m String := do
  let path ← storePath store
  removeFile "db" path
  removeFile "db lock" (guardPath path)
  return ""

def outcomeOf (messages : List String) : Except Failure String → Outcome
  | .ok output => ⟨0, output, messages⟩
  | .error failure => ⟨1, "", messages ++ ["Error: " ++ failure.message]⟩

/-- Runs a command.  What `analyze` told before it failed to write its report
stays told. -/
def Invocation.run (invocation : Invocation) : m Outcome := do
  let store := invocation.store
  match invocation.command with
  | .analyze order =>
    match ← (surveyAndSave store order).run with
    | .error failure => return outcomeOf [] (.error failure)
    | .ok (report, messages) =>
      let delivered ← (deliver (reportText order.format report) order.output).run
      return outcomeOf messages delivered
  | .display id part => return outcomeOf [] (← (display store id part).run)
  | .list => return outcomeOf [] (← (list store).run)
  | .stats => return outcomeOf [] (← (stats store).run)
  | .clear => return outcomeOf [] (← (clear store).run)

end

def usage : String :=
  "Usage: class-deps [--db FILE] [-v] COMMAND\n\n" ++
    "  analyze ARCHIVE [-n PREFIX] [--save] [-f json|text] [-o FILE]\n" ++
    "  show PROJECT_ID [--part all|internal|external|classes]\n" ++
    "  list\n" ++
    "  stats\n" ++
    "  clear\n"

def run {m : Type → Type} [Monad m] [Host m] (arguments : List String) : m Outcome :=
  match Invocation.ofArguments arguments with
  | .ok invocation => invocation.run
  | .error .usage => return ⟨2, "", [usage]⟩
  | .error .help => return ⟨0, usage, []⟩

end Console
end JarAtlas
