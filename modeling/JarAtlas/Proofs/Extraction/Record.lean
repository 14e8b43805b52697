/-
The record of a class body.

The loops at the end of a class part its annotations: on a controller the route
annotations are moved out, and everything else stays in order.  With them the
record of a class is told by its header and the cut of its body alone: each
member owns the annotations of its own group, and the group of a method that is
left out reaches no record at all.
-/
import JarAtlas.Proofs.Extraction.Run

namespace JarAtlas

def keptTexts (onController : Bool) (marks : List AnnotationUse) : List String :=
  (marks.filter fun mark => !(onController && Route.namesRoute mark.descriptor)).map
    AnnotationUse.text

def movedRoutes (onController : Bool) (marks : List AnnotationUse) : List String :=
  (marks.filter fun mark => onController && Route.namesRoute mark.descriptor).map
    fun mark => Route.ofSignature mark.text

section Parting

variable {onController : Bool} {mark : AnnotationUse}

private theorem keptTexts_cons_of_moves (marks : List AnnotationUse)
    (moves : (onController && Route.namesRoute mark.descriptor) = true) :
    keptTexts onController (mark :: marks) = keptTexts onController marks := by
  rw [keptTexts, List.filter_cons_of_neg (by simp only [moves, Bool.not_true, Bool.false_eq_true,
    not_false_eq_true]), keptTexts]

private theorem keptTexts_cons_of_stays (marks : List AnnotationUse)
    (stays : ¬(onController && Route.namesRoute mark.descriptor) = true) :
    keptTexts onController (mark :: marks) = mark.text :: keptTexts onController marks := by
  rw [keptTexts, List.filter_cons_of_pos (by simp only [stays, Bool.not_false]),
    List.map_cons, keptTexts]

private theorem movedRoutes_cons_of_moves (marks : List AnnotationUse)
    (moves : (onController && Route.namesRoute mark.descriptor) = true) :
    movedRoutes onController (mark :: marks) =
      Route.ofSignature mark.text :: movedRoutes onController marks := by
  rw [movedRoutes, List.filter_cons_of_pos (by exact moves), List.map_cons, movedRoutes]

private theorem movedRoutes_cons_of_stays (marks : List AnnotationUse)
    (stays : ¬(onController && Route.namesRoute mark.descriptor) = true) :
    movedRoutes onController (mark :: marks) = movedRoutes onController marks := by
  rw [movedRoutes, List.filter_cons_of_neg (by exact stays), movedRoutes]

theorem foldl_sortMark (marks : List AnnotationUse) (endpoints kept : List String) :
    (marks.map MethodMark.ofUse).foldl (MethodDraft.sortMark onController) (endpoints, kept) =
      (endpoints ++ movedRoutes onController marks, kept ++ keptTexts onController marks) := by
  induction marks generalizing endpoints kept with
  | nil => simp [movedRoutes, keptTexts]
  | cons mark marks ih =>
      rw [List.map_cons, List.foldl_cons]
      by_cases moves : (onController && Route.namesRoute mark.descriptor) = true
      · rw [MethodDraft.sortMark, MethodMark.ofUse, if_pos moves, ih,
          movedRoutes_cons_of_moves marks moves, keptTexts_cons_of_moves marks moves,
          List.append_assoc, List.singleton_append]
      · rw [MethodDraft.sortMark, MethodMark.ofUse, if_neg moves, ih,
          movedRoutes_cons_of_stays marks moves, keptTexts_cons_of_stays marks moves,
          List.append_assoc, List.singleton_append]

theorem foldl_sortClassMark (marks : List AnnotationUse) (basePath : String)
    (kept : List String) :
    marks.foldl (sortClassMark onController) (basePath, kept) =
      ((movedRoutes onController marks).getLastD basePath,
        kept ++ keptTexts onController marks) := by
  induction marks generalizing basePath kept with
  | nil => simp [movedRoutes, keptTexts]
  | cons mark marks ih =>
      rw [List.foldl_cons]
      by_cases moves : (onController && Route.namesRoute mark.descriptor) = true
      · rw [sortClassMark, if_pos moves, ih, movedRoutes_cons_of_moves marks moves,
          keptTexts_cons_of_moves marks moves, List.getLastD_cons]
      · rw [sortClassMark, if_neg moves, ih, movedRoutes_cons_of_stays marks moves,
          keptTexts_cons_of_stays marks moves, List.append_assoc, List.singleton_append]

end Parting

namespace MemberGroup

def method? (onController : Bool) (group : MemberGroup) : Option MethodRecord :=
  match group.head with
  | .field _ _ _ => none
  | .method name access =>
    if Member.isLeftOut name then none
    else some ⟨name, access.isStatic, keptTexts onController group.marks⟩

def endpoints (onController : Bool) (group : MemberGroup) : List String :=
  match group.head with
  | .field _ _ _ => []
  | .method name _ =>
    if Member.isLeftOut name then [] else movedRoutes onController group.marks

private theorem finish_unsettledField (group : MemberGroup) :
    (Extraction.unsettledField? group).map FieldRecord.finish = group.field? := by
  obtain ⟨head, marks⟩ := group
  cases head with
  | field name descriptor access =>
      simp [Extraction.unsettledField?, field?, FieldRecord.finish]
  | method name access => rfl

private theorem finishAll_drafts (onController : Bool) (groups : List MemberGroup)
    (endpoints : List String) :
    MethodDraft.finishAll onController (groups.filterMap draft?) endpoints =
      (groups.filterMap (method? onController),
        endpoints ++ groups.flatMap (MemberGroup.endpoints onController)) := by
  induction groups generalizing endpoints with
  | nil => simp [MethodDraft.finishAll]
  | cons group groups ih =>
      obtain ⟨head, marks⟩ := group
      simp only [filterMap_cons_eq_append, List.flatMap_cons]
      cases head with
      | field name descriptor access =>
          simp [draft?, method?, MemberGroup.endpoints, ih]
      | method name access =>
          by_cases leftOut : Member.isLeftOut name = true
          · simp [draft?, method?, MemberGroup.endpoints, leftOut, ih]
          · simp [draft?, method?, MemberGroup.endpoints, leftOut, MethodDraft.finishAll,
              MethodDraft.finish, foldl_sortMark, ih]

end MemberGroup

namespace ClassBody

def onController (body : ClassBody) : Bool :=
  body.marks.any AnnotationUse.marksController

def extracted (ns : Namespace) (header : ClassHeader) (body : ClassBody) : ExtractedClass :=
  let heading := Heading.ofHeader ns header
  { record :=
      { name := heading.recorded.name
        kind := heading.kind
        superclass := heading.supertype.insideName?.getD ""
        interfaces := heading.interfaces
        fields := body.groups.filterMap MemberGroup.field?
        methods := body.groups.filterMap (MemberGroup.method? body.onController)
        annotations := keptTexts body.onController body.marks
        isNested := heading.recorded.isNested
        role :=
          if body.onController then
            .controller
              { basePath := (movedRoutes true body.marks).getLastD ""
                endpoints := body.groups.flatMap (MemberGroup.endpoints true) }
          else
            .plain
        nestedClasses := [] }
    parent := heading.recorded.parent }

theorem extractClass_events (ns : Namespace) (header : ClassHeader) (body : ClassBody) :
    extractClass ns (.header header :: (body.events ++ [.done])) =
      .ok (body.extracted ns header) := by
  rw [Extraction.extractClass_eq_finish header fun _ member => isInner_of_mem_events member,
    Extraction.after_header_body]
  have fields : (body.groups.filterMap Extraction.unsettledField?).map FieldRecord.finish =
      body.groups.filterMap MemberGroup.field? := by
    rw [List.map_filterMap]
    exact congrArg (body.groups.filterMap ·) (funext MemberGroup.finish_unsettledField)
  unfold Extraction.finish extracted onController
  simp only [fields, foldl_sortClassMark, MemberGroup.finishAll_drafts, List.nil_append]
  by_cases controller : body.marks.any AnnotationUse.marksController = true
  · rw [controller]
  · rw [Bool.not_eq_true] at controller
    rw [controller]
    simp only [Bool.false_eq_true, if_false]

end ClassBody
end JarAtlas
