/-
Extraction of a class record from its events.

Extraction holds the heading of the class that is open, the annotations and
members met so far, and a target: the place to which the next annotation goes.
The target is the class itself until a member is met, then the member met last,
and nothing at all after a method that is left out.  Everything that depends on
the whole class, above all whether it is a controller, is decided when its end
is reached; then extraction is emptied for the next class.
-/
import JarAtlas.Annotation.Route
import JarAtlas.ClassEvent
import JarAtlas.Model
import JarAtlas.Name.Namespace
import JarAtlas.Name.Qualified

namespace JarAtlas

namespace Member

/-- Whether a method is left out of the record: constructors, static
initialisers and the bodies of lambda expressions are. -/
def isLeftOut (name : String) : Bool :=
  name = "<init>" || name = "<clinit>" ||
    (afterStart? "lambda$".toList name.toList).isSome

end Member

namespace FieldRecord

def opened (name descriptor : String) (access : Access) : FieldRecord where
  identifier := name
  datatype := TypeDescriptor.decode descriptor
  isStatic := access.isStatic
  isAnnotated := false
  annotations := []

def annotate (field : FieldRecord) (mark : AnnotationUse) : FieldRecord :=
  { field with annotations := field.annotations ++ [mark.text] }

def finish (field : FieldRecord) : FieldRecord :=
  { field with isAnnotated := !field.annotations.isEmpty }

end FieldRecord

structure MethodMark where
  text : String
  isRoute : Bool
  deriving DecidableEq, Repr

def MethodMark.ofUse (mark : AnnotationUse) : MethodMark :=
  ⟨mark.text, Route.namesRoute mark.descriptor⟩

/-- A method under construction.  Its marks are held back until it is known
whether its class is a controller. -/
structure MethodDraft where
  name : String
  isStatic : Bool
  marks : List MethodMark
  deriving DecidableEq, Repr

namespace MethodDraft

def opened (name : String) (access : Access) : MethodDraft :=
  ⟨name, access.isStatic, []⟩

def annotate (draft : MethodDraft) (mark : AnnotationUse) : MethodDraft :=
  { draft with marks := draft.marks ++ [.ofUse mark] }

def sortMark (onController : Bool) (sorted : List String × List String) (mark : MethodMark) :
    List String × List String :=
  if onController && mark.isRoute then
    (sorted.1 ++ [Route.ofSignature mark.text], sorted.2)
  else
    (sorted.1, sorted.2 ++ [mark.text])

def finish (onController : Bool) (draft : MethodDraft) (endpoints : List String) :
    MethodRecord × List String :=
  let (endpoints, kept) := draft.marks.foldl (sortMark onController) (endpoints, [])
  (⟨draft.name, draft.isStatic, kept⟩, endpoints)

def finishAll (onController : Bool) :
    List MethodDraft → List String → List MethodRecord × List String
  | [], endpoints => ([], endpoints)
  | draft :: rest, endpoints =>
    let (record, endpoints) := draft.finish onController endpoints
    let (records, endpoints) := finishAll onController rest endpoints
    (record :: records, endpoints)

end MethodDraft

/-! ### Headings -/

structure Heading where
  recorded : RecordedName
  kind : ClassKind
  supertype : Supertype
  interfaces : List String
  deriving DecidableEq, Repr

namespace Heading

def kindOf (access : Access) : ClassKind :=
  if access.isInterface then .interface
  else if access.isAbstract then .abstract
  else .normal

/-- The heading of a class.  Interfaces outside the namespace are dropped, and
the others are listed once. -/
def ofHeader (ns : Namespace) (header : ClassHeader) : Heading where
  recorded := .ofInternal header.name
  kind := kindOf header.access
  supertype := .resolve ns header.superName
  interfaces := firstOccurrences ((header.interfaces.map dotted).filter ns.contains)

end Heading

/-! ### Controllers -/

def lowered (c : Char) : Char :=
  if 'A' ≤ c ∧ c ≤ 'Z' then Char.ofNat (c.toNat + 32) else c

/-- Whether an annotation marks a controller: its short name contains
`controller` in any mixture of capitals.  No character outside ASCII has a
small form with one of these letters, so ASCII capitals are all that matters. -/
def AnnotationUse.marksController (mark : AnnotationUse) : Bool :=
  occursIn "controller".toList
    ((AnnotationUse.shortName mark.descriptor).toList.map lowered)

def sortClassMark (onController : Bool) (sorted : String × List String) (mark : AnnotationUse) :
    String × List String :=
  if onController && Route.namesRoute mark.descriptor then
    (Route.ofSignature mark.text, sorted.2)
  else
    (sorted.1, sorted.2 ++ [mark.text])

/-! ### Streams -/

structure ExtractedClass where
  record : ClassRecord
  parent : Option String
  deriving DecidableEq, Repr

inductive StreamFault where
  | secondHeader
  | memberBeforeHeader
  | endBeforeHeader
  | eventAfterEnd
  | noEnd
  deriving DecidableEq, Repr

def StreamFault.message : StreamFault → String
  | secondHeader => "second class header in one stream"
  | memberBeforeHeader => "member event before the class header"
  | endBeforeHeader => "end of class before its header"
  | eventAfterEnd => "event after end of class"
  | noEnd => "stream ended without end of class"

inductive Target where
  | ofClass
  | field (index : Nat)
  | method (index : Nat)
  | nowhere
  deriving DecidableEq, Repr

/-- What extraction holds between two events.  There is a heading as long as a
class is open. -/
structure Extraction where
  heading : Option Heading
  target : Target
  annotations : List AnnotationUse
  fields : List FieldRecord
  methods : List MethodDraft
  deriving Repr

namespace Extraction

def idle : Extraction :=
  ⟨none, .ofClass, [], [], []⟩

def openField (state : Extraction) (field : FieldRecord) : Extraction :=
  { state with
    fields := state.fields ++ [field]
    target := .field state.fields.length }

def openMethod (state : Extraction) (draft : MethodDraft) : Extraction :=
  { state with
    methods := state.methods ++ [draft]
    target := .method state.methods.length }

def annotate (state : Extraction) (mark : AnnotationUse) : Extraction :=
  match state.target with
  | .ofClass => { state with annotations := state.annotations ++ [mark] }
  | .field index => { state with fields := state.fields.modify index (·.annotate mark) }
  | .method index => { state with methods := state.methods.modify index (·.annotate mark) }
  | .nowhere => state

/-- The class that was open under a heading, and extraction emptied of it.  The
last route annotation of a controller gives its base path. -/
def finish (state : Extraction) (heading : Heading) : ExtractedClass × Extraction :=
  let onController := state.annotations.any AnnotationUse.marksController
  let (basePath, annotations) :=
    state.annotations.foldl (sortClassMark onController) ("", [])
  let (methods, endpoints) := MethodDraft.finishAll onController state.methods []
  let record : ClassRecord :=
    { name := heading.recorded.name
      kind := heading.kind
      superclass := heading.supertype.insideName?.getD ""
      interfaces := heading.interfaces
      fields := state.fields.map FieldRecord.finish
      methods
      annotations
      isNested := heading.recorded.isNested
      role := if onController then .controller ⟨basePath, endpoints⟩ else .plain
      nestedClasses := [] }
  (⟨record, heading.recorded.parent⟩,
    { state with annotations := [], fields := [], methods := [], target := .ofClass })

/-- Takes one event.  The answer is a fault, or the finished class when the
event was its end, or nothing; with it comes the next state. -/
def feed (ns : Namespace) (state : Extraction) :
    ClassEvent → Except StreamFault (Option ExtractedClass) × Extraction
  | .header header =>
    if state.heading.isSome then (.error .secondHeader, state)
    else (.ok none, { state with heading := some (.ofHeader ns header) })
  | .field name descriptor access =>
    if state.heading.isNone then (.error .memberBeforeHeader, state)
    else (.ok none, state.openField (.opened name descriptor access))
  | .method name access =>
    if state.heading.isNone then (.error .memberBeforeHeader, state)
    else if Member.isLeftOut name then (.ok none, { state with target := .nowhere })
    else (.ok none, state.openMethod (.opened name access))
  | .annotated mark =>
    if state.heading.isNone then (.error .memberBeforeHeader, state)
    else (.ok none, state.annotate mark)
  | .done =>
    match state.heading with
    | none => (.error .endBeforeHeader, state)
    | some heading =>
      let (extracted, emptied) := { state with heading := none }.finish heading
      (.ok (some extracted), emptied)

def feedAll (ns : Namespace) :
    Extraction → List ClassEvent → List (Except StreamFault (Option ExtractedClass))
  | _, [] => []
  | state, event :: rest =>
    let (answer, next) := state.feed ns event
    answer :: feedAll ns next rest

/-- The class told by the events that remain, from a given state.  Once a class
is finished no event may follow. -/
def classFrom (ns : Namespace) :
    Extraction → Option ExtractedClass → List ClassEvent → Except StreamFault ExtractedClass
  | _, none, [] => .error .noEnd
  | _, some extracted, [] => .ok extracted
  | _, some _, _ :: _ => .error .eventAfterEnd
  | state, none, event :: rest =>
    match state.feed ns event with
    | (.error fault, _) => .error fault
    | (.ok finished, next) => classFrom ns next finished rest

end Extraction

def extractClass (ns : Namespace) (events : List ClassEvent) :
    Except StreamFault ExtractedClass :=
  Extraction.idle.classFrom ns none events

end JarAtlas
