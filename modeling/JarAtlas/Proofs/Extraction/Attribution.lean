/-
Whose annotation is it?

An annotation belongs to whatever was opened last: the class itself before any
member, the most recent member otherwise.  The annotations of a method that is
left out are dropped with it; no neighbour and not the class takes them over.
-/
import JarAtlas.Proofs.Extraction.Record

namespace JarAtlas
namespace ClassBody

/-- A body without the methods that are left out and without what stands on
them. -/
def withoutLeftOut (body : ClassBody) : ClassBody :=
  { body with groups := body.groups.filter fun group => !group.isLeftOut }

private theorem filterMap_kept_groups {α : Type} {told : MemberGroup → Option α}
    (silent : ∀ group, group.isLeftOut = true → told group = none) (groups : List MemberGroup) :
    (groups.filter fun group => !group.isLeftOut).filterMap told = groups.filterMap told := by
  rw [List.filterMap_filter]
  refine congrArg (groups.filterMap ·) (funext fun group => ?_)
  cases leftOut : group.isLeftOut with
  | false => rfl
  | true => exact (silent group leftOut).symm

private theorem flatMap_kept_groups {α : Type} {told : MemberGroup → List α}
    (silent : ∀ group, group.isLeftOut = true → told group = []) (groups : List MemberGroup) :
    (groups.filter fun group => !group.isLeftOut).flatMap told = groups.flatMap told := by
  induction groups with
  | nil => rfl
  | cons group groups ih =>
      cases leftOut : group.isLeftOut with
      | false =>
          rw [List.filter_cons_of_pos (by rw [leftOut]; rfl), List.flatMap_cons,
            List.flatMap_cons, ih]
      | true =>
          rw [List.filter_cons_of_neg (by rw [leftOut]; simp), List.flatMap_cons,
            silent group leftOut, List.nil_append, ih]

theorem extracted_withoutLeftOut (ns : Namespace) (header : ClassHeader) (body : ClassBody) :
    body.withoutLeftOut.extracted ns header = body.extracted ns header := by
  have noField : ∀ group : MemberGroup, group.isLeftOut = true → group.field? = none := by
    rintro ⟨head, marks⟩ leftOut
    cases head with
    | field name descriptor access => cases leftOut
    | method name access => rfl
  have noMethod : ∀ group : MemberGroup, group.isLeftOut = true →
      group.method? body.onController = none := by
    rintro ⟨head, marks⟩ leftOut
    cases head with
    | field name descriptor access => rfl
    | method name access => exact if_pos leftOut
  have noEndpoint : ∀ group : MemberGroup, group.isLeftOut = true →
      group.endpoints true = [] := by
    rintro ⟨head, marks⟩ leftOut
    cases head with
    | field name descriptor access => rfl
    | method name access => exact if_pos leftOut
  have sameRole : body.withoutLeftOut.onController = body.onController := rfl
  unfold extracted
  rw [sameRole]
  unfold withoutLeftOut
  simp only [filterMap_kept_groups noField, filterMap_kept_groups noMethod,
    flatMap_kept_groups noEndpoint]

end ClassBody

/-- Cut the body of a class before each member; there is no other way to part it
into annotations and members with theirs.  The annotations before the first
member are those of the class.  The fields and methods are the members in
order, each with exactly the annotations of its own group; before the end no
route has been moved out of them.  Methods that are left out might as well not
be there, and neither might the annotations on them. -/
theorem extractClass_attributes_annotations (ns : Namespace) (header : ClassHeader)
    {body : List ClassEvent} (inner : ∀ event ∈ body, event.isInner = true) :
    let parts := ClassBody.cut body
    let before := Extraction.after ns .idle (.header header :: body)
    parts.events = body ∧
      (∀ other : ClassBody, other.events = body → other = parts) ∧
      before.annotations = parts.marks ∧
      before.methods = parts.groups.filterMap MemberGroup.draft? ∧
      ∃ extracted,
        extractClass ns (.header header :: (body ++ [.done])) = .ok extracted ∧
        extracted.record.annotations = keptTexts parts.onController parts.marks ∧
        extracted.record.fields = parts.groups.filterMap MemberGroup.field? ∧
        extracted.record.methods =
          parts.groups.filterMap (MemberGroup.method? parts.onController) ∧
        extractClass ns (.header header :: (parts.withoutLeftOut.events ++ [.done])) =
          .ok extracted := by
  intro parts before
  have whole : parts.events = body := ClassBody.events_cut inner
  have state := Extraction.after_header_body ns header parts
  rw [whole] at state
  have unique : ∀ other : ClassBody, other.events = body → other = parts := by
    intro other same
    rw [← other.cut_events, same]
  refine ⟨whole, unique, congrArg Extraction.annotations state, congrArg Extraction.methods state,
    parts.extracted ns header, ?_, rfl, rfl, rfl, ?_⟩
  · rw [← whole]
    exact parts.extractClass_events ns header
  · rw [← parts.extracted_withoutLeftOut ns header]
    exact parts.withoutLeftOut.extractClass_events ns header

/-- A controller with an annotated constructor between its own annotation and a
field, and a route on its method. -/
theorem extractClass_attributes_annotations_of_controller :
    let lost : AnnotationUse := ⟨"LLost;", []⟩
    let body : List ClassEvent :=
      [.annotated ⟨"LRestController;", []⟩, .method "<init>" ⟨0⟩, .annotated lost,
        .field "size" "[I" ⟨8⟩, .annotated ⟨"LUnit;", []⟩, .method "run" ⟨0⟩,
        .annotated ⟨"LGetMapping;", []⟩, .annotated ⟨"LKept;", []⟩]
    (∀ event ∈ body, event.isInner = true) ∧
      ∃ extracted,
        extractClass ⟨"a"⟩ (.header ⟨"a/Api", ⟨1⟩, none, []⟩ :: (body ++ [.done])) =
          .ok extracted ∧
        extracted.record.annotations = ["@RestController"] ∧
        extracted.record.fields = [⟨"size", "int[]", true, true, ["@Unit"]⟩] ∧
        extracted.record.methods = [⟨"run", false, ["@Kept"]⟩] := by
  intro lost body
  have inner : ∀ event ∈ body, event.isInner = true := by decide
  obtain ⟨_, _, _, _, extracted, told, annotations, fields, methods, _⟩ :=
    extractClass_attributes_annotations ⟨"a"⟩ ⟨"a/Api", ⟨1⟩, none, []⟩ inner
  refine ⟨inner, extracted, told, annotations.trans ?_, fields.trans ?_, methods.trans ?_⟩
  · decide +kernel
  · decide +kernel
  · decide +kernel

end JarAtlas
