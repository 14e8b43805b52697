/-
The texts of elements inside arrays.

An element that is resolved to a value has a flat text as well, and it is the first
parameter that the value records in a signature.  The text of an array is made of the
flat texts of its items.  So a constant of an enumeration and the type of a nested
annotation are written in one way, whether they stand alone or in an array; only what
a nested annotation holds is left out in an array.
-/
import JarAtlas.ClassFile.Events
import JarAtlas.Proofs.Annotation.Parameters
import JarAtlas.Proofs.Traversal

namespace JarAtlas

/-- Whether a text is the first of the parameters that a value records, whatever the
signature holds already. -/
def AnnotationValue.RecordsFirst (value : AnnotationValue) (text : String) : Prop :=
  ∀ signature : Signature, ∃ later,
    (signature.apply value).parameters = signature.parameters ++ text :: later

theorem AnnotationValue.recordsFirst_iff {value : AnnotationValue} {text : String} :
    value.RecordsFirst text ↔ ∃ later, value.parameters = text :: later := by
  constructor
  · intro records
    obtain ⟨later, recorded⟩ := records (Signature.ofTypeName "")
    rw [Signature.apply_eq_pushAll] at recorded
    exact ⟨later, recorded⟩
  · rintro ⟨later, first⟩ signature
    refine ⟨later, ?_⟩
    rw [Signature.apply_eq_pushAll, Signature.pushAll, first]

namespace ClassFile
namespace Element

variable {pool : ConstantPool} {element : Element} {items : List Element}
  {name : Option String} {value : AnnotationValue}

theorem exists_text_of_value (resolved : element.value pool name = .ok value) :
    ∃ text, element.text pool = .ok text ∧
      value.RecordsFirst (Signature.labelled name text) := by
  cases element with
  | enumeration descriptor constantName =>
      rw [Element.value] at resolved
      obtain ⟨type, typeFound, resolved⟩ := exists_of_bind_ok resolved
      obtain ⟨constant, found, resolved⟩ := exists_of_bind_ok resolved
      cases resolved
      refine ⟨Signature.constantText type constant, ?_,
        AnnotationValue.recordsFirst_iff.mpr ⟨[], ?_⟩⟩
      · rw [Element.text, typeFound, found]
        rfl
      · rw [AnnotationValue.parameters]
  | nested descriptor pairs =>
      rw [Element.value] at resolved
      obtain ⟨type, typeFound, resolved⟩ := exists_of_bind_ok resolved
      obtain ⟨values, -, resolved⟩ := exists_of_bind_ok resolved
      cases resolved
      refine ⟨Signature.nestedText type, ?_,
        AnnotationValue.recordsFirst_iff.mpr ⟨AnnotationValue.parametersOf values, ?_⟩⟩
      · rw [Element.text, typeFound]
        rfl
      · rw [AnnotationValue.parameters]
  | _ =>
      rw [Element.value] at resolved
      · obtain ⟨text, flat, resolved⟩ := exists_of_bind_ok resolved
        cases resolved
        refine ⟨text, flat, AnnotationValue.recordsFirst_iff.mpr ⟨[], ?_⟩⟩
        rw [AnnotationValue.parameters]
      · nofun
      · nofun

theorem textAll_eq_mapM (pool : ConstantPool) (items : List Element) :
    textAll pool items = items.mapM (text pool) := by
  induction items with
  | nil =>
      rw [textAll]
      rfl
  | cons item items ih => rw [textAll, List.mapM_cons, ih]

theorem text_array_eq_ok_iff {text : String} :
    (array items).text pool = .ok text ↔ ∃ texts, text = arrayText texts ∧
      List.Forall₂ (fun item first => item.text pool = .ok first) items texts := by
  rw [Element.text, textAll_eq_mapM]
  constructor
  · intro told
    obtain ⟨texts, each, told⟩ := exists_of_bind_ok told
    cases told
    exact ⟨texts, rfl, mapM_ok_iff.mp each⟩
  · rintro ⟨texts, rfl, each⟩
    rw [mapM_ok_iff.mpr each]
    rfl

theorem exists_texts_of_values {values : List AnnotationValue}
    (resolved : List.Forall₂ (fun item value => item.value pool none = .ok value) items values) :
    ∃ texts, (array items).text pool = .ok (arrayText texts) ∧
      List.Forall₂ AnnotationValue.RecordsFirst values texts := by
  have told : ∃ texts, List.Forall₂ (fun item first => item.text pool = .ok first) items texts ∧
      List.Forall₂ AnnotationValue.RecordsFirst values texts := by
    induction resolved with
    | nil => exact ⟨[], .nil, .nil⟩
    | cons first _ ih =>
        obtain ⟨text, flat, records⟩ := exists_text_of_value first
        obtain ⟨texts, others, later⟩ := ih
        exact ⟨text :: texts, .cons flat others, .cons records later⟩
  obtain ⟨texts, each, records⟩ := told
  exact ⟨texts, text_array_eq_ok_iff.mpr ⟨texts, rfl, each⟩, records⟩

theorem recordsFirst_of_text {text : String} (flat : element.text pool = .ok text)
    (resolved : element.value pool none = .ok value) : value.RecordsFirst text := by
  obtain ⟨other, otherFlat, records⟩ := exists_text_of_value resolved
  cases flat.symm.trans otherFlat
  exact records

/-- An element with a value has a flat text, and the value records it first.  The
text of an array, to whatever depth arrays stand in it, lists the texts that the values
of its items record first.  An array may have a text although one of its items has no
value; each item with a value is written in the same way there. -/
theorem text_is_recorded_first (pool : ConstantPool) :
    (∀ (element : Element) (value : AnnotationValue), element.value pool none = .ok value →
        ∃ text, element.text pool = .ok text ∧ value.RecordsFirst text) ∧
      (∀ (items : List Element) (values : List AnnotationValue),
        List.Forall₂ (fun item value => item.value pool none = .ok value) items values →
          ∃ texts, (array items).text pool = .ok (arrayText texts) ∧
            List.Forall₂ AnnotationValue.RecordsFirst values texts) ∧
      ∀ (items : List Element) (text : String), (array items).text pool = .ok text →
        ∃ texts, text = arrayText texts ∧
          List.Forall₂ (fun item first => item.text pool = .ok first ∧
            ∀ value, item.value pool none = .ok value → value.RecordsFirst first) items texts := by
  refine ⟨fun element value resolved => exists_text_of_value resolved,
    fun items values resolved => exists_texts_of_values resolved, fun items text told => ?_⟩
  obtain ⟨texts, rfl, each⟩ := text_array_eq_ok_iff.mp told
  refine ⟨texts, rfl, each.imp fun {item first} flat => ⟨flat, fun value resolved => ?_⟩⟩
  exact recordsFirst_of_text flat resolved

def notePool : ConstantPool :=
  ⟨[none, some (.utf8 "La/Unit;"), some (.utf8 "DAYS"), some (.utf8 "La/Note;"),
    some (.utf8 "size"), some (.integer 7)]⟩

def noteItems : List Element :=
  [enumeration 1 2, nested 3 [(4, constant 5)], array [enumeration 1 2]]

def noteValues : List AnnotationValue :=
  [.constant none "La/Unit;" "DAYS", .nested none "La/Note;" [.plain (some "size") "7"],
    .plain none "\x7ba/Unit.DAYS\x7d"]

/-- A constant stands alone and in an inner array.  With a name that is no constant of
the pool, the annotation has no value, but the array has its text. -/
theorem text_is_recorded_first_of_notes :
    List.Forall₂ (fun item value => item.value notePool none = .ok value) noteItems noteValues ∧
      (∃ texts, (array noteItems).text notePool = .ok (arrayText texts) ∧
        List.Forall₂ AnnotationValue.RecordsFirst noteValues texts) ∧
      (array noteItems).text notePool =
        .ok "\x7ba/Unit.DAYS, @a.Note, \x7ba/Unit.DAYS\x7d\x7d" ∧
      (nested 3 [(6, constant 5)]).value notePool none = .error (.badText 6) ∧
      (array [nested 3 [(6, constant 5)]]).text notePool = .ok "\x7b@a.Note\x7d" := by
  have resolved : List.Forall₂ (fun item value => item.value notePool none = .ok value)
      noteItems noteValues :=
    .cons (by rfl) (.cons (by rfl) (.cons (by rfl) .nil))
  have recorded := (text_is_recorded_first notePool).2.1 noteItems noteValues resolved
  refine ⟨resolved, recorded, by decide +kernel, by rfl, by decide +kernel⟩

end Element
end ClassFile
end JarAtlas
