/-
The body of a class, cut before each member.

Between the header and the end of a class stand its members and annotations.
Cut before each member, such a body is a run of annotations, those of the class
itself, followed by groups: a member and the annotations up to the next one.
Nothing is lost by the cut, and every list of groups is the cut of some body.
-/
import JarAtlas.Extraction

namespace JarAtlas

theorem filterMap_cons_eq_append {α β : Type} (keep : α → Option β) (x : α)
    (rest : List α) :
    (x :: rest).filterMap keep = (keep x).toList ++ rest.filterMap keep := by
  cases kept : keep x with
  | none => rw [List.filterMap_cons_none kept, Option.toList_none, List.nil_append]
  | some y => rw [List.filterMap_cons_some kept, Option.toList_some, List.singleton_append]

def ClassEvent.isInner : ClassEvent → Bool
  | .header _ => false
  | .field _ _ _ => true
  | .method _ _ => true
  | .annotated _ => true
  | .done => false

inductive MemberHead where
  | field (name descriptor : String) (access : Access)
  | method (name : String) (access : Access)

def MemberHead.event : MemberHead → ClassEvent
  | .field name descriptor access => .field name descriptor access
  | .method name access => .method name access

/-- A member and the annotations up to the next member. -/
structure MemberGroup where
  head : MemberHead
  marks : List AnnotationUse

namespace MemberGroup

def events (group : MemberGroup) : List ClassEvent :=
  group.head.event :: group.marks.map .annotated

def isLeftOut (group : MemberGroup) : Bool :=
  match group.head with
  | .field _ _ _ => false
  | .method name _ => Member.isLeftOut name

def field? (group : MemberGroup) : Option FieldRecord :=
  match group.head with
  | .field name descriptor access =>
    some
      { identifier := name
        datatype := TypeDescriptor.decode descriptor
        isStatic := access.isStatic
        isAnnotated := !group.marks.isEmpty
        annotations := group.marks.map AnnotationUse.text }
  | .method _ _ => none

/-- The method that a group stands for before any route is moved out of it,
with all annotations of the group. -/
def draft? (group : MemberGroup) : Option MethodDraft :=
  match group.head with
  | .field _ _ _ => none
  | .method name access =>
    if Member.isLeftOut name then none
    else some ⟨name, access.isStatic, group.marks.map .ofUse⟩

end MemberGroup

structure ClassBody where
  marks : List AnnotationUse
  groups : List MemberGroup

namespace ClassBody

def events (body : ClassBody) : List ClassEvent :=
  body.marks.map .annotated ++ body.groups.flatMap MemberGroup.events

/-- Cuts events before each member.  Events that no body holds are passed
over. -/
def cut : List ClassEvent → ClassBody
  | [] => ⟨[], []⟩
  | .annotated mark :: rest =>
    let body := cut rest
    ⟨mark :: body.marks, body.groups⟩
  | .field name descriptor access :: rest =>
    let body := cut rest
    ⟨[], ⟨.field name descriptor access, body.marks⟩ :: body.groups⟩
  | .method name access :: rest =>
    let body := cut rest
    ⟨[], ⟨.method name access, body.marks⟩ :: body.groups⟩
  | .header _ :: rest => cut rest
  | .done :: rest => cut rest

theorem events_cut {body : List ClassEvent} (inner : ∀ event ∈ body, event.isInner = true) :
    (cut body).events = body := by
  induction body with
  | nil => rfl
  | cons event rest ih =>
      have here : event.isInner = true := inner event List.mem_cons_self
      have later := ih fun other member => inner other (List.mem_cons_of_mem event member)
      unfold events at later
      cases event with
      | header header => cases here
      | field name descriptor access =>
          simp only [cut, events, List.map_nil, List.nil_append, List.flatMap_cons,
            MemberGroup.events, MemberHead.event, List.cons_append, later]
      | method name access =>
          simp only [cut, events, List.map_nil, List.nil_append, List.flatMap_cons,
            MemberGroup.events, MemberHead.event, List.cons_append, later]
      | annotated mark =>
          simp only [cut, events, List.map_cons, List.cons_append, later]
      | done => cases here

private theorem isInner_of_mem_marks {marks : List AnnotationUse} {event : ClassEvent}
    (member : event ∈ marks.map ClassEvent.annotated) : event.isInner = true := by
  obtain ⟨mark, _, rfl⟩ := List.mem_map.mp member
  rfl

theorem isInner_of_mem_events {body : ClassBody} {event : ClassEvent}
    (member : event ∈ body.events) : event.isInner = true := by
  rcases List.mem_append.mp member with ofClass | ofMember
  · exact isInner_of_mem_marks ofClass
  · obtain ⟨group, _, inGroup⟩ := List.mem_flatMap.mp ofMember
    rcases List.mem_cons.mp inGroup with rfl | ofGroup
    · cases group.head <;> rfl
    · exact isInner_of_mem_marks ofGroup

private theorem cut_marks (marks : List AnnotationUse) (rest : List ClassEvent) :
    cut (marks.map .annotated ++ rest) = ⟨marks ++ (cut rest).marks, (cut rest).groups⟩ := by
  induction marks with
  | nil => rfl
  | cons mark marks ih => simp only [List.map_cons, List.cons_append, cut, ih]

private theorem cut_groups (groups : List MemberGroup) :
    cut (groups.flatMap MemberGroup.events) = ⟨[], groups⟩ := by
  induction groups with
  | nil => rfl
  | cons group groups ih =>
      obtain ⟨head, marks⟩ := group
      cases head <;>
        simp only [List.flatMap_cons, MemberGroup.events, MemberHead.event, List.cons_append,
          cut, cut_marks, ih, List.append_nil]

theorem cut_events (body : ClassBody) : cut body.events = body := by
  rw [events, cut_marks, cut_groups, List.append_nil]

end ClassBody
end JarAtlas
