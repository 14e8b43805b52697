/-
The order of the annotations of a class.

Whether a class is a controller is decided at its end, so a mark of a controller may
stand before a route or behind it.  If at most one annotation of the class is a route,
the order of its annotations decides nothing but the order in which they are listed.
With several routes the base path is that of the last one, and would depend on it.
-/
import JarAtlas.Proofs.Extraction.Routes
import Mathlib.Data.List.FinRange

namespace JarAtlas

theorem filter_eq_of_perm_of_countP_le_one {α : Type} {keep : α → Bool} {xs ys : List α}
    (moved : xs.Perm ys) (single : ys.countP keep ≤ 1) : xs.filter keep = ys.filter keep := by
  have kept := moved.filter keep
  rw [List.countP_eq_length_filter] at single
  cases found : ys.filter keep with
  | nil =>
      rw [found] at kept
      exact List.perm_nil.mp kept
  | cons y rest =>
      rw [found, List.length_cons] at single
      have alone : rest = [] := List.length_eq_zero_iff.mp (by omega)
      rw [found, alone] at kept
      rw [alone]
      exact List.perm_singleton.mp kept

theorem keptTexts_eq_filterMap (onController : Bool) (marks : List AnnotationUse) :
    keptTexts onController marks = marks.filterMap fun mark =>
      if onController && mark.isRoute then none else some mark.text := by
  rw [keptTexts, ← List.filterMap_eq_map, List.filterMap_filter]
  refine congrArg (marks.filterMap ·) (funext fun mark => ?_)
  unfold AnnotationUse.isRoute
  cases onController && Route.namesRoute mark.descriptor <;> rfl

namespace ClassBody

variable (body : ClassBody)

/-- The annotations of the class in another order.  In each place stands the
annotation from the place that the order tells. -/
def reordered (order : Equiv.Perm (Fin body.marks.length)) : ClassBody :=
  { body with
    marks := (List.finRange body.marks.length).map fun place => body.marks.get (order place) }

/-- The text with which the annotation at a place is listed.  On a controller a
route is not listed. -/
def listed? (place : Fin body.marks.length) : Option String :=
  let mark := body.marks.get place
  if body.onController && mark.isRoute then none else some mark.text

variable (order : Equiv.Perm (Fin body.marks.length))

theorem perm_marks_reordered : (body.reordered order).marks.Perm body.marks := by
  have places := order.map_finRange_perm.map body.marks.get
  rwa [List.map_map, List.map_get_finRange] at places

theorem onController_reordered : (body.reordered order).onController = body.onController :=
  (body.perm_marks_reordered order).any_eq

theorem keptTexts_marks :
    keptTexts body.onController body.marks =
      (List.finRange body.marks.length).filterMap body.listed? := by
  rw [keptTexts_eq_filterMap]
  conv_lhs => rw [← List.map_get_finRange body.marks]
  rw [List.filterMap_map]
  rfl

theorem keptTexts_marks_reordered :
    keptTexts body.onController (body.reordered order).marks =
      ((List.finRange body.marks.length).map order).filterMap body.listed? := by
  rw [keptTexts_eq_filterMap, reordered, List.filterMap_map, List.filterMap_map]
  rfl

variable {body}

theorem movedRoutes_marks_reordered (single : body.marks.countP AnnotationUse.isRoute ≤ 1) :
    movedRoutes true (body.reordered order).marks = movedRoutes true body.marks :=
  congrArg (List.map AnnotationUse.route)
    (filter_eq_of_perm_of_countP_le_one (body.perm_marks_reordered order) single)

theorem extracted_reordered (ns : Namespace) (header : ClassHeader)
    (single : body.marks.countP AnnotationUse.isRoute ≤ 1) :
    let extracted := body.extracted ns header
    (body.reordered order).extracted ns header =
      { extracted with
        record :=
          { extracted.record with
            annotations :=
              ((List.finRange body.marks.length).map order).filterMap body.listed? } } := by
  unfold extracted
  dsimp only
  rw [onController_reordered, keptTexts_marks_reordered, movedRoutes_marks_reordered order single]
  rfl

end ClassBody

/-- Put the annotations of a class into another order.  If at most one of them is a
route, the class that is told differs in the list of its annotations alone, and this
list is in the new order: it has the texts that it had before, each for the place from
which its annotation came. -/
theorem extractClass_of_reordered_marks (ns : Namespace) (header : ClassHeader)
    {body : List ClassEvent} (inner : ∀ event ∈ body, event.isInner = true)
    (order : Equiv.Perm (Fin (ClassBody.cut body).marks.length))
    (single : (ClassBody.cut body).marks.countP AnnotationUse.isRoute ≤ 1) :
    let parts := ClassBody.cut body
    let places := List.finRange parts.marks.length
    parts.events = body ∧
      ∃ extracted,
        extractClass ns (.header header :: (body ++ [.done])) = .ok extracted ∧
        extracted.record.annotations = places.filterMap parts.listed? ∧
        extractClass ns (.header header :: ((parts.reordered order).events ++ [.done])) =
          .ok
            { extracted with
              record :=
                { extracted.record with
                  annotations := (places.map order).filterMap parts.listed? } } := by
  intro parts places
  have whole : parts.events = body := ClassBody.events_cut inner
  have told := parts.extractClass_events ns header
  rw [whole] at told
  refine ⟨whole, parts.extracted ns header, told, parts.keptTexts_marks, ?_⟩
  rw [ClassBody.extractClass_events, ClassBody.extracted_reordered order ns header single]

/-- A controller whose mark stands behind its route, and before it where the
annotations are turned round. -/
theorem extractClass_of_reordered_marks_of_controller :
    let api : AnnotationUse := ⟨"LRequestMapping;", [.plain (some "value") "/api"]⟩
    let members : List ClassEvent :=
      [.method "run" ⟨0⟩, .annotated ⟨"LGetMapping;", [.plain (some "value") "/a"]⟩]
    let body : List ClassEvent :=
      .annotated api :: .annotated ⟨"LKept;", []⟩ :: .annotated ⟨"LRestController;", []⟩ ::
        members
    let turned : List ClassEvent :=
      .annotated ⟨"LRestController;", []⟩ :: .annotated ⟨"LKept;", []⟩ :: .annotated api ::
        members
    let header : ClassHeader := ⟨"a/Api", ⟨1⟩, none, []⟩
    (∀ event ∈ body, event.isInner = true) ∧
      (ClassBody.cut body).marks.countP AnnotationUse.isRoute ≤ 1 ∧
      ∃ extracted,
        extractClass ⟨"a"⟩ (.header header :: (body ++ [.done])) = .ok extracted ∧
        extracted.record.role = .controller ⟨"/api", ["/a"]⟩ ∧
        extracted.record.annotations = ["@Kept", "@RestController"] ∧
        extractClass ⟨"a"⟩ (.header header :: (turned ++ [.done])) =
          .ok
            { extracted with
              record :=
                { extracted.record with annotations := ["@RestController", "@Kept"] } } := by
  intro api members body turned header
  let round : Equiv.Perm (Fin 3) := Fin.revPerm
  have inner : ∀ event ∈ body, event.isInner = true := by decide
  have single : (ClassBody.cut body).marks.countP AnnotationUse.isRoute ≤ 1 := by
    decide +kernel
  obtain ⟨_, extracted, told, annotations, toldTurned⟩ :=
    extractClass_of_reordered_marks ⟨"a"⟩ header inner round single
  have role : (extractClass ⟨"a"⟩ (.header header :: (body ++ [.done]))).toOption.map
      (fun extracted => extracted.record.role) = some (.controller ⟨"/api", ["/a"]⟩) := by
    decide +kernel
  have isTurned : ((ClassBody.cut body).reordered round).events = turned := rfl
  have listed : ((List.finRange 3).map round).filterMap (ClassBody.cut body).listed? =
      ["@RestController", "@Kept"] := by
    decide +kernel
  rw [told] at role
  rw [isTurned] at toldTurned
  refine ⟨inner, single, extracted, told, Option.some.inj role, annotations.trans ?_,
    toldTurned.trans ?_⟩
  · decide +kernel
  · exact congrArg (fun texts => Except.ok
      { extracted with record := { extracted.record with annotations := texts } }) listed

end JarAtlas
