/-
Class files, told to extraction.

Whenever all names of a class file can be looked up, its events are a class
stream: the header, the annotations of the class, each field and each method
with its annotations, in order, and an end.  Extraction accepts such a stream,
and the record has the fields and the methods of the file.  So an entry with a
class that was read can only be skipped for a name that cannot be looked up, or
because the bytes hold no class file.
-/
import JarAtlas.Proofs.Extraction.Record
import JarAtlas.Proofs.Traversal
import JarAtlas.Survey

namespace JarAtlas

namespace ClassFile

section

variable {pool : ConstantPool} {events : List ClassEvent}

/-- Whether annotations are what written annotations resolve to, one by one. -/
def Resolves (pool : ConstantPool) (written : List WrittenAnnotation)
    (marks : List AnnotationUse) : Prop :=
  List.Forall₂ (fun mark use => mark.resolve pool = .ok use) written marks

structure TellsField (pool : ConstantPool) (field : WrittenMember) (group : MemberGroup) :
    Prop where
  head : ∃ name descriptor, pool.utf8? field.name = some name ∧
    pool.utf8? field.descriptor = some descriptor ∧
    group.head = .field name descriptor ⟨field.access.toUInt16⟩
  marks : Resolves pool field.annotations group.marks

structure TellsMethod (pool : ConstantPool) (method : WrittenMember) (group : MemberGroup) :
    Prop where
  head : ∃ name, pool.utf8? method.name = some name ∧
    group.head = .method name ⟨method.access.toUInt16⟩
  marks : Resolves pool method.annotations group.marks

theorem ConstantPool.utf8?_of_utf8 {number : Nat} {text : String}
    (found : pool.utf8 number = .ok text) : pool.utf8? number = some text := by
  rw [utf8] at found
  split at found
  · next held =>
      rw [held]
      exact congrArg some (Except.ok.inj found)
  · cases found

theorem resolves_of_annotationEvents {written : List WrittenAnnotation}
    (told : annotationEvents pool written = .ok events) :
    ∃ marks, events = marks.map .annotated ∧ Resolves pool written marks := by
  apply exists_map_of_forall₂
  refine (mapM_ok_iff.mp told).imp ?_
  intro mark event resolved
  obtain ⟨use, found, rest⟩ := exists_of_bind_ok resolved
  exact ⟨use, (Except.ok.inj rest).symm, found⟩

theorem tellsField_of_fieldEvents {field : WrittenMember}
    (told : fieldEvents pool field = .ok events) :
    ∃ group, events = group.events ∧ TellsField pool field group := by
  obtain ⟨name, named, told⟩ := exists_of_bind_ok told
  obtain ⟨descriptor, described, told⟩ := exists_of_bind_ok told
  obtain ⟨_, resolved, told⟩ := exists_of_bind_ok told
  obtain ⟨marks, rfl, same⟩ := resolves_of_annotationEvents resolved
  cases told
  exact ⟨⟨.field name descriptor ⟨field.access.toUInt16⟩, marks⟩, rfl,
    ⟨name, descriptor, ConstantPool.utf8?_of_utf8 named,
      ConstantPool.utf8?_of_utf8 described, rfl⟩, same⟩

theorem tellsMethod_of_methodEvents {method : WrittenMember}
    (told : methodEvents pool method = .ok events) :
    ∃ group, events = group.events ∧ TellsMethod pool method group := by
  obtain ⟨name, named, told⟩ := exists_of_bind_ok told
  obtain ⟨_, resolved, told⟩ := exists_of_bind_ok told
  obtain ⟨marks, rfl, same⟩ := resolves_of_annotationEvents resolved
  cases told
  exact ⟨⟨.method name ⟨method.access.toUInt16⟩, marks⟩, rfl,
    ⟨name, ConstantPool.utf8?_of_utf8 named, rfl⟩, same⟩

theorem exists_groups {Tells : WrittenMember → MemberGroup → Prop}
    {eventsOf : WrittenMember → Except Fault (List ClassEvent)} {members : List WrittenMember}
    {streams : List (List ClassEvent)} (told : members.mapM eventsOf = .ok streams)
    (each : ∀ {member events}, eventsOf member = .ok events →
      ∃ group : MemberGroup, events = group.events ∧ Tells member group) :
    ∃ groups, streams.flatten = groups.flatMap MemberGroup.events ∧
      List.Forall₂ Tells members groups := by
  obtain ⟨groups, rfl, same⟩ :=
    exists_map_of_forall₂ ((mapM_ok_iff.mp told).imp fun _ _ found => each found)
  exact ⟨groups, List.flatMap_def.symm, same⟩

theorem exists_body_of_events {file : ClassFile} (told : file.events = .ok events) :
    ∃ header marks fields methods,
      events = .header header :: ((ClassBody.mk marks (fields ++ methods)).events ++ [.done]) ∧
      file.header = .ok header ∧ Resolves file.pool file.annotations marks ∧
      List.Forall₂ (TellsField file.pool) file.fields fields ∧
      List.Forall₂ (TellsMethod file.pool) file.methods methods := by
  obtain ⟨header, headed, told⟩ := exists_of_bind_ok told
  obtain ⟨_, resolved, told⟩ := exists_of_bind_ok told
  obtain ⟨_, fieldsTold, told⟩ := exists_of_bind_ok told
  obtain ⟨_, methodsTold, told⟩ := exists_of_bind_ok told
  obtain ⟨marks, rfl, sameMarks⟩ := resolves_of_annotationEvents resolved
  obtain ⟨fields, fieldStream, sameFields⟩ := exists_groups fieldsTold tellsField_of_fieldEvents
  obtain ⟨methods, methodStream, sameMethods⟩ :=
    exists_groups methodsTold tellsMethod_of_methodEvents
  cases told
  refine ⟨header, marks, fields, methods, ?_, headed, sameMarks, sameFields, sameMethods⟩
  rw [fieldStream, methodStream, ClassBody.events, List.flatMap_append]
  simp only [List.append_assoc]

structure RecordsField (pool : ConstantPool) (written : WrittenMember) (field : FieldRecord) :
    Prop where
  identifier : pool.utf8? written.name = some field.identifier
  datatype : ∃ descriptor, pool.utf8? written.descriptor = some descriptor ∧
    field.datatype = TypeDescriptor.decode descriptor
  isStatic : field.isStatic = (Access.mk written.access.toUInt16).isStatic
  annotations : ∃ marks, Resolves pool written.annotations marks ∧
    field.annotations = marks.map AnnotationUse.text

structure RecordsMethod (pool : ConstantPool) (onController : Bool) (written : WrittenMember)
    (method : MethodRecord) : Prop where
  name : pool.utf8? written.name = some method.name
  isStatic : method.isStatic = (Access.mk written.access.toUInt16).isStatic
  annotations : ∃ marks, Resolves pool written.annotations marks ∧
    method.annotations = keptTexts onController marks

def WrittenMember.isLeftOut (pool : ConstantPool) (method : WrittenMember) : Bool :=
  (pool.utf8? method.name).any Member.isLeftOut

/-- Whether a record has the name of a class file, its annotations, each of its
fields and each of its methods that is not left out, all in the order of the
file. -/
structure RecordsFile (file : ClassFile) (record : ClassRecord) : Prop where
  name : ∃ internal, file.pool.typeName? file.name = some internal ∧
    record.name = (RecordedName.ofInternal internal).name
  annotations : ∃ marks, Resolves file.pool file.annotations marks ∧
    record.annotations = keptTexts record.role.routes?.isSome marks
  fields : List.Forall₂ (RecordsField file.pool) file.fields record.fields
  methods : List.Forall₂ (RecordsMethod file.pool record.role.routes?.isSome)
    (file.methods.filter fun method => !method.isLeftOut file.pool) record.methods

theorem records_of_tellsField {fields : List WrittenMember} {groups : List MemberGroup}
    (onController : Bool) (told : List.Forall₂ (TellsField pool) fields groups) :
    List.Forall₂ (RecordsField pool) fields (groups.filterMap MemberGroup.field?) ∧
      groups.filterMap (MemberGroup.method? onController) = [] := by
  induction told with
  | nil => exact ⟨.nil, rfl⟩
  | @cons field group _ _ same _ ih =>
      obtain ⟨head, marks⟩ := group
      obtain ⟨⟨name, descriptor, named, described, rfl⟩, resolved⟩ := same
      exact ⟨.cons ⟨named, ⟨descriptor, described, rfl⟩, rfl, ⟨marks, resolved, rfl⟩⟩ ih.1, ih.2⟩

theorem records_of_tellsMethod {methods : List WrittenMember} {groups : List MemberGroup}
    (onController : Bool) (told : List.Forall₂ (TellsMethod pool) methods groups) :
    groups.filterMap MemberGroup.field? = [] ∧
      List.Forall₂ (RecordsMethod pool onController)
        (methods.filter fun method => !method.isLeftOut pool)
        (groups.filterMap (MemberGroup.method? onController)) := by
  induction told with
  | nil => exact ⟨rfl, .nil⟩
  | @cons method group _ _ same _ ih =>
      obtain ⟨head, marks⟩ := group
      obtain ⟨⟨name, named, rfl⟩, resolved⟩ := same
      refine ⟨ih.1, ?_⟩
      have sameName : method.isLeftOut pool = Member.isLeftOut name := by
        rw [WrittenMember.isLeftOut, named, Option.any_some]
      cases leftOut : Member.isLeftOut name with
      | true =>
          rw [List.filter_cons_of_neg (by rw [sameName, leftOut]; exact Bool.false_ne_true),
            List.filterMap_cons_none (by exact if_pos leftOut)]
          exact ih.2
      | false =>
          have told : MemberGroup.method? onController
              ⟨.method name ⟨method.access.toUInt16⟩, marks⟩ =
                some ⟨name, (Access.mk method.access.toUInt16).isStatic,
                  keptTexts onController marks⟩ :=
            if_neg (by rw [leftOut]; exact Bool.false_ne_true)
          rw [List.filter_cons_of_pos (by rw [sameName, leftOut]; rfl),
            List.filterMap_cons_some told]
          exact .cons ⟨named, rfl, ⟨marks, resolved, rfl⟩⟩ ih.2

theorem typeName?_of_header {file : ClassFile} {opened : ClassHeader}
    (told : file.header = .ok opened) : file.pool.typeName? file.name = some opened.name := by
  rw [header] at told
  split at told
  · next name found =>
      obtain ⟨_, same, told⟩ := exists_of_bind_ok told
      cases same
      split at told
      · obtain ⟨superName, _, told⟩ := exists_of_bind_ok told
        obtain ⟨interfaces, _, told⟩ := exists_of_bind_ok told
        cases told
        exact found
      · obtain ⟨superName, _, told⟩ := exists_of_bind_ok told
        obtain ⟨interfaces, _, told⟩ := exists_of_bind_ok told
        cases told
        exact found
  · cases told

theorem exists_extractClass_of_events (ns : Namespace) {file : ClassFile}
    (told : file.events = .ok events) :
    ∃ extracted, extractClass ns events = .ok extracted ∧ RecordsFile file extracted.record := by
  obtain ⟨header, marks, fields, methods, rfl, headed, sameMarks, sameFields, sameMethods⟩ :=
    exists_body_of_events told
  let body : ClassBody := ⟨marks, fields ++ methods⟩
  have sorted : (body.extracted ns header).record.role.routes?.isSome = body.onController := by
    unfold ClassBody.extracted
    cases body.onController <;> rfl
  obtain ⟨fieldRecords, noMethod⟩ := records_of_tellsField body.onController sameFields
  obtain ⟨noField, methodRecords⟩ := records_of_tellsMethod body.onController sameMethods
  refine ⟨body.extracted ns header, body.extractClass_events ns header, ?_⟩
  refine ⟨⟨header.name, typeName?_of_header headed, rfl⟩, ⟨marks, sameMarks, ?_⟩, ?_, ?_⟩
  · rw [sorted]
    rfl
  · have same : body.groups.filterMap MemberGroup.field? =
        fields.filterMap MemberGroup.field? := by
      rw [List.filterMap_append, noField, List.append_nil]
    rw [← same] at fieldRecords
    exact fieldRecords
  · have same : body.groups.filterMap (MemberGroup.method? body.onController) =
        methods.filterMap (MemberGroup.method? body.onController) := by
      rw [List.filterMap_append, noMethod, List.nil_append]
    rw [← same] at methodRecords
    rw [sorted]
    exact methodRecords

end

end ClassFile
end JarAtlas
