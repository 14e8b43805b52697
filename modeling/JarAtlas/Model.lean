/-
The model of a surveyed archive.

A model lists the recorded classes in the order in which they were met, the
third-party dependencies that the archive's build descriptors declare, and the
recorded names without repetition.
-/

namespace JarAtlas

inductive ClassKind where
  | normal
  | abstract
  | interface
  deriving DecidableEq, Repr

def ClassKind.word : ClassKind → String
  | normal => "normal"
  | abstract => "abstract"
  | interface => "interface"

structure Routes where
  basePath : String
  endpoints : List String
  deriving DecidableEq, Repr

inductive ClassRole where
  | plain
  | controller (routes : Routes)
  deriving DecidableEq, Repr

def ClassRole.routes? : ClassRole → Option Routes
  | plain => none
  | controller routes => some routes

structure FieldRecord where
  identifier : String
  datatype : String
  isStatic : Bool
  isAnnotated : Bool
  annotations : List String
  deriving DecidableEq, Repr

structure MethodRecord where
  name : String
  isStatic : Bool
  annotations : List String
  deriving DecidableEq, Repr

/-- A recorded class.  The superclass is empty unless it lies in the user's
namespace, and no interface is listed twice. -/
structure ClassRecord where
  name : String
  kind : ClassKind
  superclass : String
  interfaces : List String
  fields : List FieldRecord
  methods : List MethodRecord
  annotations : List String
  isNested : Bool
  role : ClassRole
  nestedClasses : List String
  deriving DecidableEq, Repr

structure DeclaredDependency where
  groupId : String
  artifactId : String
  version : String
  scope : String
  deriving DecidableEq, Repr

structure Model where
  classes : List ClassRecord
  externalDependencies : List DeclaredDependency
  classNames : List String
  deriving DecidableEq, Repr

def firstOccurrences {α : Type} [DecidableEq α] (xs : List α) : List α :=
  xs.foldl (fun seen x => if x ∈ seen then seen else seen ++ [x]) []

end JarAtlas
