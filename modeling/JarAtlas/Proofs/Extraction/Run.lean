/-
Runs of extraction.

What one event does is said once, as one lemma for each kind of event; runs are
folds of events.  While a class is open every inner event is accepted, and a
whole group of events adds its field or method with all of its annotations, so
the state before the end of a class is told by the cut of its body.
-/
import JarAtlas.Proofs.Extraction.Groups

namespace JarAtlas
namespace Extraction

variable {ns : Namespace} {state : Extraction}

def after (ns : Namespace) (state : Extraction) (events : List ClassEvent) : Extraction :=
  events.foldl (fun state event => (state.feed ns event).2) state

@[simp] theorem after_nil : after ns state [] = state := rfl

@[simp] theorem after_cons (event : ClassEvent) (rest : List ClassEvent) :
    after ns state (event :: rest) = after ns (state.feed ns event).2 rest := rfl

theorem after_append (front back : List ClassEvent) :
    after ns state (front ++ back) = after ns (after ns state front) back :=
  List.foldl_append

theorem feed_header (header : ClassHeader) (closed : state.heading = none) :
    state.feed ns (.header header) =
      (.ok none, { state with heading := some (.ofHeader ns header) }) := by
  simp only [feed, closed, Option.isSome_none, Bool.false_eq_true, if_false]

theorem feed_header_open (header : ClassHeader) (isOpen : state.heading.isSome = true) :
    state.feed ns (.header header) = (.error .secondHeader, state) := by
  simp only [feed, isOpen, if_true]

theorem feed_inner_closed {event : ClassEvent} (inner : event.isInner = true)
    (closed : state.heading = none) :
    state.feed ns event = (.error .memberBeforeHeader, state) := by
  cases event with
  | header header => cases inner
  | done => cases inner
  | _ => simp only [feed, closed, Option.isNone_none, if_true]

theorem feed_field (name descriptor : String) (access : Access)
    (isOpen : state.heading.isSome = true) :
    state.feed ns (.field name descriptor access) =
      (.ok none, state.openField (.opened name descriptor access)) := by
  obtain ⟨heading, present⟩ := Option.isSome_iff_exists.mp isOpen
  simp only [feed, present, Option.isNone_some, Bool.false_eq_true, if_false]

theorem feed_method (name : String) (access : Access) (isOpen : state.heading.isSome = true) :
    state.feed ns (.method name access) =
      (.ok none,
        if Member.isLeftOut name then { state with target := .nowhere }
        else state.openMethod (.opened name access)) := by
  obtain ⟨heading, present⟩ := Option.isSome_iff_exists.mp isOpen
  simp only [feed, present, Option.isNone_some, Bool.false_eq_true, if_false]
  split <;> rfl

theorem feed_annotated (mark : AnnotationUse) (isOpen : state.heading.isSome = true) :
    state.feed ns (.annotated mark) = (.ok none, state.annotate mark) := by
  obtain ⟨heading, present⟩ := Option.isSome_iff_exists.mp isOpen
  simp only [feed, present, Option.isNone_some, Bool.false_eq_true, if_false]

theorem feed_done_closed (closed : state.heading = none) :
    state.feed ns .done = (.error .endBeforeHeader, state) := by
  simp only [feed, closed]

theorem feed_done {heading : Heading} (isOpen : state.heading = some heading) :
    state.feed ns .done =
      (.ok (some ({ state with heading := none }.finish heading).1),
        ⟨none, .ofClass, [], [], []⟩) := by
  simp only [feed, isOpen, finish]

@[simp] theorem annotate_heading (mark : AnnotationUse) :
    (state.annotate mark).heading = state.heading := by
  unfold annotate
  split <;> rfl

theorem feed_inner (ns : Namespace) {event : ClassEvent} (inner : event.isInner = true)
    (isOpen : state.heading.isSome = true) :
    (state.feed ns event).1 = .ok none ∧
      (state.feed ns event).2.heading = state.heading := by
  cases event with
  | header header => cases inner
  | field name descriptor access =>
      rw [feed_field name descriptor access isOpen]
      exact ⟨rfl, rfl⟩
  | method name access =>
      rw [feed_method name access isOpen]
      refine ⟨rfl, ?_⟩
      dsimp only
      split <;> rfl
  | annotated mark =>
      rw [feed_annotated mark isOpen]
      exact ⟨rfl, annotate_heading mark⟩
  | done => cases inner

theorem after_inner_heading {events : List ClassEvent}
    (inner : ∀ event ∈ events, event.isInner = true) (isOpen : state.heading.isSome = true) :
    (after ns state events).heading = state.heading := by
  induction events generalizing state with
  | nil => rfl
  | cons event rest ih =>
      have kept := (feed_inner ns (inner event List.mem_cons_self) isOpen).2
      have later : ∀ other ∈ rest, other.isInner = true :=
        fun other member => inner other (List.mem_cons_of_mem event member)
      rw [after_cons, ih later (by rw [kept]; exact isOpen), kept]

theorem classFrom_inner {events : List ClassEvent} (rest : List ClassEvent)
    (inner : ∀ event ∈ events, event.isInner = true) (isOpen : state.heading.isSome = true) :
    classFrom ns state none (events ++ rest) = classFrom ns (after ns state events) none rest := by
  induction events generalizing state with
  | nil => rfl
  | cons event events ih =>
      obtain ⟨accepted, kept⟩ := feed_inner ns (inner event List.mem_cons_self) isOpen
      have later : ∀ other ∈ events, other.isInner = true :=
        fun other member => inner other (List.mem_cons_of_mem event member)
      have step : state.feed ns event = (.ok none, (state.feed ns event).2) := by
        rw [← accepted]
      rw [List.cons_append, classFrom, step, after_cons]
      exact ih later (by rw [kept]; exact isOpen)

theorem after_marks (marks : List AnnotationUse) (isOpen : state.heading.isSome = true) :
    after ns state (marks.map .annotated) = marks.foldl annotate state := by
  induction marks generalizing state with
  | nil => rfl
  | cons mark marks ih =>
      rw [List.map_cons, after_cons, feed_annotated mark isOpen, List.foldl_cons]
      exact ih (by rw [annotate_heading]; exact isOpen)

private theorem modify_last {α : Type} (front : List α) (last : α) (change : α → α) :
    (front ++ [last]).modify front.length change = front ++ [change last] := by
  rw [List.modify_eq_take_cons_drop (by simp)]
  simp

private theorem foldl_annotate_ofClass (marks : List AnnotationUse)
    (atClass : state.target = .ofClass) :
    marks.foldl annotate state = { state with annotations := state.annotations ++ marks } := by
  induction marks generalizing state with
  | nil => rw [List.foldl_nil, List.append_nil]
  | cons mark marks ih =>
      have step : state.annotate mark =
          { state with annotations := state.annotations ++ [mark] } := by
        simp only [annotate, atClass]
      rw [List.foldl_cons, step, ih (by exact atClass)]
      simp only [List.append_assoc, List.singleton_append]

private theorem foldl_annotate_field {fields : List FieldRecord} {field : FieldRecord}
    (marks : List AnnotationUse) (atField : state.target = .field fields.length)
    (last : state.fields = fields ++ [field]) :
    marks.foldl annotate state =
      { state with fields := fields ++ [marks.foldl FieldRecord.annotate field] } := by
  induction marks generalizing state field with
  | nil => rw [List.foldl_nil, List.foldl_nil, ← last]
  | cons mark marks ih =>
      have step : state.annotate mark =
          { state with fields := fields ++ [field.annotate mark] } := by
        simp only [annotate, atField, last, modify_last]
      rw [List.foldl_cons, step]
      exact ih atField rfl

private theorem foldl_annotate_method {methods : List MethodDraft} {draft : MethodDraft}
    (marks : List AnnotationUse) (atMethod : state.target = .method methods.length)
    (last : state.methods = methods ++ [draft]) :
    marks.foldl annotate state =
      { state with methods := methods ++ [marks.foldl MethodDraft.annotate draft] } := by
  induction marks generalizing state draft with
  | nil => rw [List.foldl_nil, List.foldl_nil, ← last]
  | cons mark marks ih =>
      have step : state.annotate mark =
          { state with methods := methods ++ [draft.annotate mark] } := by
        simp only [annotate, atMethod, last, modify_last]
      rw [List.foldl_cons, step]
      exact ih atMethod rfl

private theorem foldl_annotate_nowhere (marks : List AnnotationUse)
    (ignoring : state.target = .nowhere) :
    marks.foldl annotate state = state := by
  induction marks with
  | nil => rfl
  | cons mark marks ih =>
      have step : state.annotate mark = state := by
        simp only [annotate, ignoring]
      rw [List.foldl_cons, step, ih]

private theorem foldl_annotate_fieldRecord (field : FieldRecord) (marks : List AnnotationUse) :
    marks.foldl FieldRecord.annotate field =
      { field with annotations := field.annotations ++ marks.map AnnotationUse.text } := by
  induction marks generalizing field with
  | nil => simp
  | cons mark marks ih => simp [FieldRecord.annotate, ih]

private theorem foldl_annotate_methodDraft (draft : MethodDraft) (marks : List AnnotationUse) :
    marks.foldl MethodDraft.annotate draft =
      { draft with marks := draft.marks ++ marks.map .ofUse } := by
  induction marks generalizing draft with
  | nil => simp
  | cons mark marks ih => simp [MethodDraft.annotate, ih]

/-! ### Groups -/

/-- The field of a group as it stands before the end of its class: whether it
is annotated is not settled. -/
def unsettledField? (group : MemberGroup) : Option FieldRecord :=
  group.field?.map fun field => { field with isAnnotated := false }

theorem after_group (ns : Namespace) (group : MemberGroup)
    (isOpen : state.heading.isSome = true) :
    after ns state group.events =
      { state with
        target := (after ns state group.events).target
        fields := state.fields ++ (unsettledField? group).toList
        methods := state.methods ++ group.draft?.toList } := by
  obtain ⟨head, marks⟩ := group
  cases head with
  | field name descriptor access =>
      simp only [MemberGroup.events, MemberHead.event, after_cons,
        feed_field name descriptor access isOpen]
      rw [after_marks marks (by exact isOpen), foldl_annotate_field marks rfl rfl,
        foldl_annotate_fieldRecord]
      simp [openField, unsettledField?, MemberGroup.field?, MemberGroup.draft?,
        FieldRecord.opened]
  | method name access =>
      simp only [MemberGroup.events, MemberHead.event, after_cons,
        feed_method name access isOpen]
      by_cases leftOut : Member.isLeftOut name = true
      · rw [if_pos leftOut, after_marks marks (by exact isOpen),
          foldl_annotate_nowhere marks rfl]
        simp [unsettledField?, MemberGroup.field?, MemberGroup.draft?, leftOut]
      · rw [if_neg leftOut, after_marks marks (by exact isOpen),
          foldl_annotate_method marks rfl rfl, foldl_annotate_methodDraft]
        simp [openMethod, unsettledField?, MemberGroup.field?, MemberGroup.draft?, leftOut,
          MethodDraft.opened]

theorem after_groups (groups : List MemberGroup) (isOpen : state.heading.isSome = true) :
    after ns state (groups.flatMap MemberGroup.events) =
      { state with
        target := (after ns state (groups.flatMap MemberGroup.events)).target
        fields := state.fields ++ groups.filterMap unsettledField?
        methods := state.methods ++ groups.filterMap MemberGroup.draft? } := by
  induction groups generalizing state with
  | nil => simp
  | cons group groups ih =>
      have first := after_group ns group isOpen
      have stillOpen : (after ns state group.events).heading.isSome = true := by
        rw [first]
        exact isOpen
      rw [List.flatMap_cons, after_append, ih stillOpen, first]
      simp only [filterMap_cons_eq_append, List.append_assoc]

theorem after_header_body (ns : Namespace) (header : ClassHeader) (body : ClassBody) :
    after ns idle (.header header :: body.events) =
      { heading := some (.ofHeader ns header)
        target := (after ns idle (.header header :: body.events)).target
        annotations := body.marks
        fields := body.groups.filterMap unsettledField?
        methods := body.groups.filterMap MemberGroup.draft? } := by
  rw [after_cons, feed_header header rfl, ClassBody.events, after_append, after_marks _ (by rfl),
    foldl_annotate_ofClass _ (by rfl), after_groups _ (by rfl)]
  simp only [idle, List.nil_append]

theorem isOpen_after_header (ns : Namespace) (header : ClassHeader) {body : List ClassEvent}
    (inner : ∀ event ∈ body, event.isInner = true) :
    (after ns idle (.header header :: body)).heading = some (.ofHeader ns header) := by
  rw [after_cons, feed_header header rfl, after_inner_heading inner (by rfl)]

theorem extractClass_header_body (ns : Namespace) (header : ClassHeader)
    {body : List ClassEvent} (inner : ∀ event ∈ body, event.isInner = true)
    (rest : List ClassEvent) :
    extractClass ns (.header header :: (body ++ rest)) =
      classFrom ns (after ns idle (.header header :: body)) none rest := by
  have opened : idle.feed ns (.header header) =
      (.ok none, { idle with heading := some (.ofHeader ns header) }) :=
    feed_header header rfl
  rw [extractClass, classFrom, after_cons, opened]
  exact classFrom_inner rest inner rfl

theorem extractClass_eq_finish (header : ClassHeader) {body : List ClassEvent}
    (inner : ∀ event ∈ body, event.isInner = true) :
    extractClass ns (.header header :: (body ++ [.done])) =
      .ok ({ after ns idle (.header header :: body) with heading := none }.finish
        (.ofHeader ns header)).1 := by
  rw [extractClass_header_body ns header inner [.done], classFrom,
    feed_done (isOpen_after_header ns header inner)]
  rfl

end Extraction
end JarAtlas
