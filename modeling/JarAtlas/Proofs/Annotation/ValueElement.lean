/-
The route of an annotation and its `value` element.

Where no sign stands before the `value` element, the route is the first item of
this element, and nothing behind it matters.  Other elements matter if they stand
before it and have a sign in their texts: then the route is taken from the first
of these, and the `value` element is not looked at.
-/
import JarAtlas.Proofs.Annotation.FirstItem
import JarAtlas.Proofs.Annotation.ValueSign

namespace JarAtlas
namespace Route

open AnnotationUse (typeName)
open AnnotationValue (parametersOf)
open ClassFile.Element (arrayText)

def ofItem (item : List Char) : String :=
  if item = [] then default else String.ofList item

theorem ofItem_eq_default_iff {item : List Char} :
    ofItem item = default ↔ item = [] ∨ item = ['/'] := by
  unfold ofItem
  by_cases empty : item = []
  · simp only [empty, if_true, true_or]
  · have slash : default = String.ofList ['/'] := rfl
    rw [if_neg empty, or_iff_right empty, slash, String.ofList_inj]

theorem ofSignature_eq (text : String) :
    ofSignature text =
      ((afterFirstValueSign? false text.toList).map fun rest => ofItem (firstItem rest)).getD
        default := by
  unfold ofSignature
  cases afterFirstValueSign? false text.toList with
  | none => rfl
  | some rest =>
      dsimp only [Option.map_some, Option.getD_some]
      cases firstItem rest <;> rfl

def ofValues (descriptor : String) (values : List AnnotationValue) : String :=
  ofSignature (AnnotationUse.mk descriptor values).text

def valueElement (text : String) : AnnotationValue :=
  .plain (some "value") text

theorem afterFirstValueSign?_of_sign {text item : List Char}
    (sign : afterValueSign? text = some item) : afterFirstValueSign? false text = some item := by
  cases text with
  | nil => cases sign
  | cons c rest => rw [afterFirstValueSign?_cons, if_neg Bool.false_ne_true, sign, Option.some_or]

theorem afterFirstValueSign?_valueElement (text : String) :
    afterFirstValueSign? false (Signature.labelled (some "value") text).toList =
      some (text.toList.dropWhile isBlank) := by
  have written : (Signature.labelled (some "value") text).toList =
      valueWord ++ ([' '] ++ '=' :: ' ' :: text.toList) := by
    rw [Signature.labelled, String.toList_append, String.toList_append, List.append_assoc]
    rfl
  have blank : isBlank ' ' = true := by decide
  apply afterFirstValueSign?_of_sign
  rw [written]
  refine afterValueSign?_eq_some_iff.mpr
    ⟨[' '], ' ' :: text.toList, rfl, List.forall_mem_singleton.mpr blank, ?_⟩
  rw [List.dropWhile_cons_of_pos blank]

theorem dropBlanks_arrayText (items : List String) :
    (arrayText items).toList.dropWhile isBlank = (arrayText items).toList := by
  have opened : (arrayText items).toList =
      '{' :: (", ".intercalate items ++ "\x7d").toList := by
    rw [arrayText, String.append_assoc, String.toList_append]
    rfl
  have noBlank : isBlank '{' = false := by decide
  rw [opened, dropWhile_cons_of_kept noBlank]

section

variable {descriptor : String} (plain : '=' ∉ (typeName descriptor).toList)

include plain

theorem ofValues_eq (values : List AnnotationValue) :
    ofValues descriptor values =
      ((firstSigned? (parametersOf values)).map fun rest => ofItem (firstItem rest)).getD
        default := by
  have searched : afterFirstValueSign? false (AnnotationUse.mk descriptor values).text.toList =
      firstSigned? (parametersOf values) := afterFirstValueSign?_text plain
  rw [ofValues, ofSignature_eq, searched]

theorem ofValues_of_signed {values : List AnnotationValue} {front back : List String}
    {parameter : String} {item : List Char}
    (given : parametersOf values = front ++ parameter :: back)
    (unsigned : ∀ other ∈ front, ¬HasValueSign false other.toList)
    (signed : afterFirstValueSign? false parameter.toList = some item) :
    ofValues descriptor values = ofItem (firstItem (item ++ closedBy ')' back)) := by
  rw [ofValues_eq plain, given, firstSigned?_append unsigned, firstSigned?_of_signed signed,
    Option.map_some, Option.getD_some]

theorem ofValues_of_valueElement {before : List AnnotationValue}
    (unsigned : ∀ parameter ∈ parametersOf before, ¬HasValueSign false parameter.toList)
    (text : String) (behind : List AnnotationValue) :
    ofValues descriptor (before ++ valueElement text :: behind) =
      ofItem (firstItem (text.toList.dropWhile isBlank ++ closedBy ')' (parametersOf behind))) :=
  ofValues_of_signed plain (AnnotationValue.parametersOf_append before _) unsigned
    (afterFirstValueSign?_valueElement text)

theorem ofValues_of_leading (text : String) (behind : List AnnotationValue) :
    ofValues descriptor (valueElement text :: behind) =
      ofItem (firstItem (text.toList.dropWhile isBlank ++ closedBy ')' (parametersOf behind))) := by
  rw [← List.nil_append (_ :: behind)]
  exact ofValues_of_valueElement plain (fun _ member => absurd member List.not_mem_nil) text behind

theorem ofValues_of_leading_list {items : List String}
    (isItem : ∀ item ∈ items.head?, IsItem item) (behind : List AnnotationValue) :
    ofValues descriptor (valueElement (arrayText items) :: behind) =
      ofItem (trimBlanks (items.headD "").toList) := by
  rw [ofValues_of_leading plain, dropBlanks_arrayText, firstItem_arrayText isItem]

theorem ofValues_of_leading_item {text : String} (isItem : IsItem text)
    (bare : (text.toList.dropWhile isBlank).head? ≠ some '{') (behind : List AnnotationValue) :
    ofValues descriptor (valueElement text :: behind) = ofItem (trimBlanks text.toList) := by
  rw [ofValues_of_leading plain, firstItem_text isItem bare (endsItem_closedBy _)]

/-- The route of an annotation that starts with its `value` element is the first
text of a list, or the whole text where it is no list, without the blanks around
it; if nothing is left, the route is the default. -/
theorem ofValues_of_leading_value (behind : List AnnotationValue) :
    (∀ items : List String, (∀ item ∈ items.head?, IsItem item) →
        ofValues descriptor (valueElement (arrayText items) :: behind) =
          ofItem (trimBlanks (items.headD "").toList)) ∧
      ∀ text : String, IsItem text → (text.toList.dropWhile isBlank).head? ≠ some '{' →
        ofValues descriptor (valueElement text :: behind) =
          ofItem (trimBlanks text.toList) :=
  ⟨fun _ isItem => ofValues_of_leading_list plain isItem behind,
    fun _ isItem bare => ofValues_of_leading_item plain isItem bare behind⟩

end

/-- A list with a path variable, and other elements with signs behind it. -/
theorem ofValues_of_leading_pathVariable :
    '=' ∉ (typeName "Lweb/GetMapping;").toList ∧
      (∀ item ∈ ["/\x7bid:[0-9]\x7b1,3\x7d\x7d", "/b"].head?, IsItem item) ∧
      ofValues "Lweb/GetMapping;"
          [valueElement (arrayText ["/\x7bid:[0-9]\x7b1,3\x7d\x7d", "/b"]),
            .plain (some "params") "\x7bvalue=1\x7d"] = "/\x7bid:[0-9]\x7b1,3\x7d\x7d" ∧
      IsItem " /list " ∧ (" /list ".toList.dropWhile isBlank).head? ≠ some '{' ∧
      ofValues "Lweb/GetMapping;" [valueElement " /list "] = "/list" := by
  have plain : '=' ∉ (typeName "Lweb/GetMapping;").toList := by decide +kernel
  have isItem : ∀ item ∈ ["/\x7bid:[0-9]\x7b1,3\x7d\x7d", "/b"].head?, IsItem item := by
    decide +kernel
  have isBareItem : IsItem " /list " := by decide +kernel
  have bare : (" /list ".toList.dropWhile isBlank).head? ≠ some '{' := by decide +kernel
  refine ⟨plain, isItem, ?_, isBareItem, bare, ?_⟩
  · rw [(ofValues_of_leading_value plain _).1 _ isItem]
    decide +kernel
  · rw [(ofValues_of_leading_value plain _).2 _ isBareItem bare]
    decide +kernel

/-! ### Other elements -/

/-- Whether an item can be taken from the text of a `value` element: a list whose
first text is an item, or a text that starts with one. -/
def Readable (text : String) : Prop :=
  (∃ items, text = arrayText items ∧ ∀ item ∈ items.head?, IsItem item) ∨
    ∃ item more, text.toList = item ++ more ∧ Closes 0 item ∧ EndsItem more

theorem firstItem_of_readable {text : String} (readable : Readable text)
    (rest other : List String) :
    firstItem (text.toList.dropWhile isBlank ++ closedBy ')' rest) =
      firstItem (text.toList.dropWhile isBlank ++ closedBy ')' other) := by
  rcases readable with ⟨items, rfl, isItem⟩ | ⟨item, more, whole, closes, ends⟩
  · rw [dropBlanks_arrayText, firstItem_arrayText isItem, firstItem_arrayText isItem]
  · rw [whole, ends.dropBlanks_append, List.append_assoc, List.append_assoc]
    by_cases list : (item.dropWhile isBlank).head? = some '{'
    · have trimmed := closes.dropBlanks
      obtain ⟨inner, braced⟩ := List.head?_eq_some_iff.mp list
      rw [braced] at trimmed ⊢
      rw [firstItem_braced trimmed, firstItem_braced trimmed]
    · have here := firstItem_text closes list (ends.append (endsItem_closedBy rest))
      have there := firstItem_text closes list (ends.append (endsItem_closedBy other))
      rw [here, there]

theorem readable_of_isItem {text : String} (isItem : IsItem text) : Readable text :=
  Or.inr ⟨text.toList, [], (List.append_nil _).symm, isItem, fun _ found => nomatch found⟩

/-- Whether behind the given values only the `value` element matters for the
route. -/
def ValueDecides (descriptor : String) (before : List AnnotationValue) : Prop :=
  ∀ text behind, Readable text →
    ofValues descriptor (before ++ valueElement text :: behind) =
      ofValues descriptor [valueElement text]

section

variable {descriptor : String} (plain : '=' ∉ (typeName descriptor).toList)

include plain

theorem valueDecides_of_unsigned {before : List AnnotationValue}
    (unsigned : ∀ parameter ∈ parametersOf before, ¬HasValueSign false parameter.toList) :
    ValueDecides descriptor before := by
  intro text behind readable
  rw [ofValues_of_valueElement plain unsigned, ofValues_of_leading plain]
  exact congrArg ofItem (firstItem_of_readable readable (parametersOf behind) [])

/-- Behind a sign two different `value` elements give one route, or a route with
the comma before the `value` element in it. -/
theorem ofValues_behind_sign {before : List AnnotationValue}
    (signed : ¬∀ parameter ∈ parametersOf before, ¬HasValueSign false parameter.toList) :
    (∀ text other, ofValues descriptor (before ++ [valueElement text]) =
        ofValues descriptor (before ++ [valueElement other])) ∨
      ∀ text, ',' ∈ (ofValues descriptor (before ++ [valueElement text])).toList := by
  obtain ⟨front, parameter, back, item, given, unsigned, found⟩ := exists_first_signed signed
  obtain ⟨between, closed⟩ := exists_closedBy_append ')' back
  have route (text : String) : ∃ later, ofValues descriptor (before ++ [valueElement text]) =
      ofItem (firstItem ((item ++ between) ++ ',' :: later)) := by
    have parts : parametersOf (before ++ [valueElement text]) = front ++ parameter ::
        (back ++ Signature.labelled (some "value") text :: []) := by
      rw [AnnotationValue.parametersOf_append, given, List.append_assoc]
      rfl
    refine ⟨' ' :: ((Signature.labelled (some "value") text).toList ++ closedBy ')' []), ?_⟩
    rw [ofValues_of_signed plain parts unsigned found, closed, List.append_assoc]
  rcases firstItem_before_comma (item ++ between) with same | comma
  · refine Or.inl fun text other => ?_
    obtain ⟨later, here⟩ := route text
    obtain ⟨elsewhere, there⟩ := route other
    rw [here, there, same later elsewhere]
  · refine Or.inr fun text => ?_
    obtain ⟨later, here⟩ := route text
    have taken := comma later
    rw [here, ofItem, if_neg (List.ne_nil_of_mem taken), String.toList_ofList]
    exact taken

theorem unsigned_of_valueDecides {before : List AnnotationValue}
    (decides : ValueDecides descriptor before) :
    ∀ parameter ∈ parametersOf before, ¬HasValueSign false parameter.toList := by
  by_contra signed
  have short (text : String) (isItem : IsItem text)
      (bare : (text.toList.dropWhile isBlank).head? ≠ some '{') :
      ofValues descriptor (before ++ [valueElement text]) = ofItem (trimBlanks text.toList) := by
    rw [decides text [] (readable_of_isItem isItem), ofValues_of_leading_item plain isItem bare]
  have first := short "a" (by decide +kernel) (by decide +kernel)
  have second := short "b" (by decide +kernel) (by decide +kernel)
  rcases ofValues_behind_sign plain signed with same | comma
  · have collapsed := same "a" "b"
    rw [first, second] at collapsed
    exact absurd collapsed (by decide +kernel)
  · have taken := comma "a"
    rw [first] at taken
    exact absurd taken (by decide +kernel)

theorem ofValues_eq_default_iff (values : List AnnotationValue) :
    ofValues descriptor values = default ↔
      ∀ rest ∈ firstSigned? (parametersOf values), firstItem rest = [] ∨ firstItem rest = ['/'] := by
  rw [ofValues_eq plain]
  cases firstSigned? (parametersOf values) with
  | none => exact ⟨fun _ _ found => absurd found nofun, fun _ => rfl⟩
  | some rest =>
      rw [Option.map_some, Option.getD_some, ofItem_eq_default_iff]
      constructor
      · intro noPath other found
        rw [← Option.some.inj found]
        exact noPath
      · exact fun noPath => noPath rest rfl

/-- The route depends on the `value` element alone exactly if no sign stands
before it.  With any values, a `value` element among them or not, it is the
default exactly if there is no sign in them or no path behind the first one. -/
theorem valueDecides_iff_unsigned (before : List AnnotationValue) :
    (ValueDecides descriptor before ↔
        ∀ parameter ∈ parametersOf before, ¬HasValueSign false parameter.toList) ∧
      ∀ values : List AnnotationValue, ofValues descriptor values = default ↔
        ∀ rest ∈ firstSigned? (parametersOf values), firstItem rest = [] ∨ firstItem rest = ['/'] :=
  ⟨⟨unsigned_of_valueDecides plain, valueDecides_of_unsigned plain⟩,
    ofValues_eq_default_iff plain⟩

end

/-- The word alone is no sign, nor is one inside a longer word. -/
theorem valueDecides_behind_values :
    '=' ∉ (typeName "Lweb/GetMapping;").toList ∧
      ValueDecides "Lweb/GetMapping;"
        [.plain (some "params") "\x7bvalue, myvalue=1\x7d",
          .nested (some "extra") "Ldoc/Note;" [.plain (some "values") "2"]] ∧
      ofValues "Lweb/GetMapping;" [.plain (some "params") "\x7bvalue, myvalue=1\x7d"] =
        default := by
  have plain : '=' ∉ (typeName "Lweb/GetMapping;").toList := by decide +kernel
  refine ⟨plain, (valueDecides_iff_unsigned plain _).1.mpr (by decide +kernel), ?_⟩
  apply ((valueDecides_iff_unsigned plain []).2 _).mpr
  decide +kernel

/-- A sign in the text of another element is taken for that of the `value`
element, whether the annotation has one or not. -/
theorem not_valueDecides_behind_sign :
    '=' ∉ (typeName "Lweb/GetMapping;").toList ∧ Readable "\x7b/a\x7d" ∧
      ofValues "Lweb/GetMapping;" [valueElement "\x7b/a\x7d"] = "/a" ∧
      ofValues "Lweb/GetMapping;"
        [.plain (some "params") "\x7bvalue=1\x7d", valueElement "\x7b/a\x7d"] = "1\x7d" ∧
      ofValues "Lweb/GetMapping;" [.plain (some "params") "\x7bvalue=1\x7d"] = "1\x7d" ∧
      ¬ValueDecides "Lweb/GetMapping;" [.plain (some "params") "\x7bvalue=1\x7d"] := by
  have readable : Readable "\x7b/a\x7d" := Or.inl ⟨["/a"], by decide +kernel, by decide +kernel⟩
  have alone : ofValues "Lweb/GetMapping;" [valueElement "\x7b/a\x7d"] = "/a" := by
    decide +kernel
  have behind : ofValues "Lweb/GetMapping;"
      [.plain (some "params") "\x7bvalue=1\x7d", valueElement "\x7b/a\x7d"] = "1\x7d" := by
    decide +kernel
  refine ⟨by decide +kernel, readable, alone, behind, by decide +kernel, fun decides => ?_⟩
  have same := (behind.symm.trans (decides _ [] readable)).trans alone
  exact absurd same (by decide +kernel)

end Route
end JarAtlas
