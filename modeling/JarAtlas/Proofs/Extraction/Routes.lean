/-
Where the annotations of a class go.

A class is a controller if one of its own annotations says so.  On a plain class
every annotation stays where it was met.  On a controller the route annotations
of the class and of its methods are moved out, into the base path and the
endpoints, and all others stay; on a field every annotation stays in either case.
-/
import JarAtlas.Proofs.Extraction.Record

namespace JarAtlas

theorem lowered_eq_toLower (c : Char) : lowered c = c.toLower := by
  unfold lowered Char.toLower
  by_cases capital : 'A' ≤ c ∧ c ≤ 'Z'
  · have most : c.val.toNat ≤ 90 := UInt32.le_iff_toNat_le.mp capital.2
    have shifted : (c.val + ('a'.val - 'A'.val)).toNat = c.toNat + 32 := by
      have distance : ('a'.val - 'A'.val).toNat = 32 := by decide
      rw [UInt32.toNat_add, distance]
      exact Nat.mod_eq_of_lt (by omega)
    have within : c.val ≥ 'A'.val ∧ c.val ≤ 'Z'.val := capital
    rw [if_pos capital, dif_pos within, ← shifted]
    exact Char.ofNat_toNat (Char.mk _ _)
  · have outside : ¬(c.val ≥ 'A'.val ∧ c.val ≤ 'Z'.val) := capital
    rw [if_neg capital, dif_neg outside]

/-- Whether the short name of an annotation, in small letters, has `controller`
in it. -/
def NamesController (mark : AnnotationUse) : Prop :=
  "controller".toList <:+: (AnnotationUse.shortName mark.descriptor).toList.map Char.toLower

theorem marksController_iff {mark : AnnotationUse} :
    mark.marksController = true ↔ NamesController mark := by
  rw [AnnotationUse.marksController, occursIn_iff, NamesController,
    funext lowered_eq_toLower]

def AnnotationUse.isRoute (mark : AnnotationUse) : Bool :=
  Route.namesRoute mark.descriptor

def AnnotationUse.route (mark : AnnotationUse) : String :=
  Route.ofSignature mark.text

theorem keptTexts_false (marks : List AnnotationUse) :
    keptTexts false marks = marks.map AnnotationUse.text := by
  have all : (marks.filter fun mark => !(false && Route.namesRoute mark.descriptor)) = marks :=
    List.filter_eq_self.mpr fun _ _ => rfl
  rw [keptTexts, all]

theorem getLastD_movedRoutes (marks : List AnnotationUse) :
    (movedRoutes true marks).getLastD "" =
      match (marks.filter AnnotationUse.isRoute).getLast? with
      | some mark => mark.route
      | none => "" := by
  have routes : movedRoutes true marks =
      (marks.filter AnnotationUse.isRoute).map AnnotationUse.route := rfl
  rw [routes, List.getLastD_eq_getLast?, List.getLast?_map]
  cases (marks.filter AnnotationUse.isRoute).getLast? <;> rfl

structure KeptMethod where
  name : String
  access : Access
  marks : List AnnotationUse

def KeptMethod.record (onController : Bool) (method : KeptMethod) : MethodRecord :=
  ⟨method.name, method.access.isStatic, keptTexts onController method.marks⟩

namespace MemberGroup

def kept? (group : MemberGroup) : Option KeptMethod :=
  match group.head with
  | .field _ _ _ => none
  | .method name access =>
    if Member.isLeftOut name then none else some ⟨name, access, group.marks⟩

theorem method?_eq_map_kept? (onController : Bool) (group : MemberGroup) :
    group.method? onController = group.kept?.map (KeptMethod.record onController) := by
  obtain ⟨head, marks⟩ := group
  cases head with
  | field name descriptor access => rfl
  | method name access =>
      simp only [method?, kept?]
      cases Member.isLeftOut name <;> rfl

theorem endpoints_eq_flatMap_kept? (group : MemberGroup) :
    group.endpoints true = group.kept?.toList.flatMap fun method =>
      (method.marks.filter AnnotationUse.isRoute).map AnnotationUse.route := by
  obtain ⟨head, marks⟩ := group
  cases head with
  | field name descriptor access => rfl
  | method name access =>
      simp only [endpoints, kept?]
      cases Member.isLeftOut name with
      | true => rfl
      | false => exact (List.append_nil _).symm

end MemberGroup

namespace ClassBody

def keptMethods (body : ClassBody) : List KeptMethod :=
  body.groups.filterMap MemberGroup.kept?

theorem methods_eq (onController : Bool) (body : ClassBody) :
    body.groups.filterMap (MemberGroup.method? onController) =
      body.keptMethods.map (KeptMethod.record onController) := by
  rw [keptMethods, List.map_filterMap]
  exact congrArg (body.groups.filterMap ·) (funext (MemberGroup.method?_eq_map_kept? onController))

theorem endpoints_eq (body : ClassBody) :
    body.groups.flatMap (MemberGroup.endpoints true) = body.keptMethods.flatMap fun method =>
      (method.marks.filter AnnotationUse.isRoute).map AnnotationUse.route := by
  unfold keptMethods
  induction body.groups with
  | nil => rfl
  | cons group groups ih =>
      rw [List.flatMap_cons, filterMap_cons_eq_append, List.flatMap_append, ih,
        MemberGroup.endpoints_eq_flatMap_kept?]

theorem onController_iff (body : ClassBody) :
    body.onController = true ↔ ∃ mark ∈ body.marks, NamesController mark := by
  rw [onController, List.any_eq_true]
  exact exists_congr fun mark => and_congr_right fun _ => marksController_iff

theorem record_of_plain (ns : Namespace) (header : ClassHeader) {body : ClassBody}
    (plain : body.onController = false) :
    let record := (body.extracted ns header).record
    record.role = .plain ∧
      record.annotations = body.marks.map AnnotationUse.text ∧
      record.methods = body.keptMethods.map fun method =>
        ⟨method.name, method.access.isStatic, method.marks.map AnnotationUse.text⟩ := by
  unfold extracted
  rw [plain]
  dsimp only
  rw [methods_eq]
  refine ⟨rfl, keptTexts_false body.marks, List.map_congr_left fun method _ => ?_⟩
  rw [KeptMethod.record, keptTexts_false]

theorem record_of_controller (ns : Namespace) (header : ClassHeader) {body : ClassBody}
    (controller : body.onController = true) :
    let record := (body.extracted ns header).record
    ∃ routes, record.role = .controller routes ∧
      routes.endpoints = (body.keptMethods.flatMap fun method =>
        (method.marks.filter AnnotationUse.isRoute).map AnnotationUse.route) ∧
      (record.methods = body.keptMethods.map fun method =>
        ⟨method.name, method.access.isStatic,
          (method.marks.filter fun mark => !mark.isRoute).map AnnotationUse.text⟩) ∧
      record.annotations = (body.marks.filter fun mark => !mark.isRoute).map AnnotationUse.text ∧
      routes.basePath =
        match (body.marks.filter AnnotationUse.isRoute).getLast? with
        | some mark => mark.route
        | none => "" := by
  unfold extracted
  rw [controller]
  dsimp only
  rw [methods_eq]
  exact ⟨_, rfl, body.endpoints_eq, rfl, rfl, getLastD_movedRoutes body.marks⟩

end ClassBody

/-- Cut the body of a class before each member.  The class is a controller
exactly if one of its own annotations names one.  If it is plain, every
annotation stays in order.  If it is a controller, exactly the route annotations
are taken from the class and from each method that is kept: those of the methods
give the endpoints, in order, and the last of the class gives the base path.
Fields keep all of their annotations. -/
theorem extractClass_parts_annotations (ns : Namespace) (header : ClassHeader)
    {body : List ClassEvent} (inner : ∀ event ∈ body, event.isInner = true) :
    let parts := ClassBody.cut body
    parts.events = body ∧
      ∃ extracted, extractClass ns (.header header :: (body ++ [.done])) = .ok extracted ∧
        ((∃ routes, extracted.record.role = .controller routes) ↔
          ∃ mark ∈ parts.marks, NamesController mark) ∧
        (extracted.record.role = .plain →
          extracted.record.annotations = parts.marks.map AnnotationUse.text ∧
          extracted.record.methods = parts.keptMethods.map fun method =>
            ⟨method.name, method.access.isStatic, method.marks.map AnnotationUse.text⟩) ∧
        (∀ routes, extracted.record.role = .controller routes →
          routes.endpoints = (parts.keptMethods.flatMap fun method =>
            (method.marks.filter AnnotationUse.isRoute).map AnnotationUse.route) ∧
          (extracted.record.methods = parts.keptMethods.map fun method =>
            ⟨method.name, method.access.isStatic,
              (method.marks.filter fun mark => !mark.isRoute).map AnnotationUse.text⟩) ∧
          extracted.record.annotations =
            (parts.marks.filter fun mark => !mark.isRoute).map AnnotationUse.text ∧
          routes.basePath =
            match (parts.marks.filter AnnotationUse.isRoute).getLast? with
            | some mark => mark.route
            | none => "") ∧
        extracted.record.fields = parts.groups.filterMap MemberGroup.field? := by
  intro parts
  have whole : parts.events = body := ClassBody.events_cut inner
  have told := parts.extractClass_events ns header
  rw [whole] at told
  refine ⟨whole, parts.extracted ns header, told, ?_⟩
  rw [← parts.onController_iff]
  cases sort : parts.onController with
  | false =>
      obtain ⟨role, annotations, methods⟩ := ClassBody.record_of_plain ns header sort
      refine ⟨?_, fun _ => ⟨annotations, methods⟩, ?_, rfl⟩
      · constructor
        · rintro ⟨routes, controller⟩
          rw [role] at controller
          cases controller
        · intro impossible
          cases impossible
      · intro routes controller
        rw [role] at controller
        cases controller
  | true =>
      obtain ⟨routes, role, parted⟩ := ClassBody.record_of_controller ns header sort
      refine ⟨⟨fun _ => rfl, fun _ => ⟨routes, role⟩⟩, ?_, ?_, rfl⟩
      · intro plain
        rw [role] at plain
        cases plain
      · intro others controller
        rw [role] at controller
        cases controller
        exact parted

/-- A controller with two routes of its own, a route on a field, on a constructor
and on a method. -/
theorem extractClass_parts_annotations_of_controller :
    let get (path : String) : AnnotationUse := ⟨"LGetMapping;", [.plain (some "value") path]⟩
    let body : List ClassEvent :=
      [.annotated (get "/old"), .annotated ⟨"Lweb/MyControllerAdvice;", []⟩,
        .annotated (get "/api"), .field "path" "I" ⟨0⟩, .annotated (get "/field"),
        .method "<init>" ⟨0⟩, .annotated (get "/new"), .method "run" ⟨8⟩,
        .annotated (get "/a"), .annotated ⟨"LKept;", []⟩, .annotated (get "/b"),
        .method "stop" ⟨0⟩, .annotated (get "/c")]
    (∀ event ∈ body, event.isInner = true) ∧
      ∃ extracted, extractClass ⟨"a"⟩ (.header ⟨"a/Api", ⟨1⟩, none, []⟩ :: (body ++ [.done])) =
          .ok extracted ∧
        extracted.record.role = .controller ⟨"/api", ["/a", "/b", "/c"]⟩ ∧
        extracted.record.annotations = ["@web.MyControllerAdvice"] ∧
        extracted.record.methods = [⟨"run", true, ["@Kept"]⟩, ⟨"stop", false, []⟩] ∧
        extracted.record.fields =
          [⟨"path", "int", false, true, ["@GetMapping(value = /field)"]⟩] := by
  intro get body
  have inner : ∀ event ∈ body, event.isInner = true := by decide
  obtain ⟨_, extracted, told, isController, _, onController, fields⟩ :=
    extractClass_parts_annotations ⟨"a"⟩ ⟨"a/Api", ⟨1⟩, none, []⟩ inner
  have advice : NamesController ⟨"Lweb/MyControllerAdvice;", []⟩ :=
    marksController_iff.mp (by decide +kernel)
  obtain ⟨routes, role⟩ := isController.mpr
    ⟨_, List.mem_cons_of_mem _ List.mem_cons_self, advice⟩
  obtain ⟨endpoints, methods, annotations, basePath⟩ := onController routes role
  have isApi : routes.basePath = "/api" := basePath.trans (by decide +kernel)
  have areThree : routes.endpoints = ["/a", "/b", "/c"] := endpoints.trans (by decide +kernel)
  refine ⟨inner, extracted, told, ?_, annotations.trans ?_, methods.trans ?_, fields.trans ?_⟩
  · rw [role, ← isApi, ← areThree]
  · decide +kernel
  · decide +kernel
  · decide +kernel

end JarAtlas
