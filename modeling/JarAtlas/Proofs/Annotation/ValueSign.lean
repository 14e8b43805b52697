/-
Where the value of an annotation is looked for.

A value sign is the word `value` and an equals sign, with only blanks between
them, at the start of a word.  The first one in the text of an annotation is
taken for that of its `value` element.  No sign reaches over the marks that part
the parameters, so it is the first one in the first parameter that has any.
-/
import JarAtlas.Annotation.Route
import JarAtlas.Proofs.Annotation.Parameters
import JarAtlas.Proofs.Text.Trimming

namespace JarAtlas
namespace Route

def valueWord : List Char := ['v', 'a', 'l', 'u', 'e']

/-- Whether a text ends inside a word; where it is empty, what stands before it
decides. -/
def endsInWord (insideWord : Bool) (text : List Char) : Bool :=
  (text.getLast?.map isWordCharacter).getD insideWord

def HasValueSign (insideWord : Bool) (text : List Char) : Prop :=
  ∃ before blanks after, text = before ++ (valueWord ++ (blanks ++ '=' :: after)) ∧
    (∀ c ∈ blanks, isBlank c = true) ∧ endsInWord insideWord before = false

theorem endsInWord_cons (insideWord : Bool) (c : Char) (text : List Char) :
    endsInWord insideWord (c :: text) = endsInWord (isWordCharacter c) text := by
  unfold endsInWord
  rw [List.getLast?_cons]
  cases text.getLast? <;> rfl

theorem isBlank_equals : isBlank '=' = false := by
  decide

theorem afterValueSign?_eq_some_iff {text item : List Char} :
    afterValueSign? text = some item ↔
      ∃ blanks after, text = valueWord ++ (blanks ++ '=' :: after) ∧
        (∀ c ∈ blanks, isBlank c = true) ∧ item = after.dropWhile isBlank := by
  have skipped {blanks : List Char} (blank : ∀ c ∈ blanks, isBlank c = true)
      (after : List Char) : (blanks ++ '=' :: after).dropWhile isBlank = '=' :: after := by
    rw [List.dropWhile_append_of_pos blank, dropWhile_cons_of_kept isBlank_equals]
  constructor
  · intro found
    unfold afterValueSign? at found
    split at found
    · cases found
    · next rest started =>
        have whole := afterStart?_eq_some_iff.mp started
        split at found
        · next after rested =>
            refine ⟨rest.takeWhile isBlank, after, ?_, ?_, (Option.some.inj found).symm⟩
            · rw [whole, ← rested, List.takeWhile_append_dropWhile]
              rfl
            · exact List.all_eq_true.mp List.all_takeWhile
        · cases found
  · rintro ⟨blanks, after, rfl, blank, rfl⟩
    have started : afterStart? ['v', 'a', 'l', 'u', 'e']
        (valueWord ++ (blanks ++ '=' :: after)) = some (blanks ++ '=' :: after) :=
      afterStart?_eq_some_iff.mpr rfl
    rw [afterValueSign?, started]
    dsimp only
    rw [skipped blank]
    rfl

theorem afterFirstValueSign?_cons (insideWord : Bool) (c : Char) (rest : List Char) :
    afterFirstValueSign? insideWord (c :: rest) =
      ((if insideWord then none else afterValueSign? (c :: rest)).or
        (afterFirstValueSign? (isWordCharacter c) rest)) := by
  rw [afterFirstValueSign?]
  split
  · next found => rw [found, Option.some_or]
  · next missing => rw [missing, Option.none_or]

theorem isSome_afterFirstValueSign?_iff {insideWord : Bool} {text : List Char} :
    (afterFirstValueSign? insideWord text).isSome = true ↔ HasValueSign insideWord text := by
  induction text generalizing insideWord with
  | nil =>
      refine ⟨nofun, ?_⟩
      rintro ⟨before, blanks, after, whole, -⟩
      exact absurd (List.append_eq_nil_iff.mp whole.symm).2 nofun
  | cons c rest ih =>
      rw [afterFirstValueSign?_cons, Option.isSome_or, Bool.or_eq_true, ih]
      constructor
      · rintro (here | ⟨before, blanks, after, rfl, blank, apart⟩)
        · cases insideWord with
          | true => cases here
          | false =>
              obtain ⟨item, found⟩ := Option.isSome_iff_exists.mp here
              obtain ⟨blanks, after, whole, blank, -⟩ := afterValueSign?_eq_some_iff.mp found
              exact ⟨[], blanks, after, whole, blank, rfl⟩
        · exact ⟨c :: before, blanks, after, rfl, blank, (endsInWord_cons ..).trans apart⟩
      · rintro ⟨before, blanks, after, whole, blank, apart⟩
        cases before with
        | nil =>
            have atStart : insideWord = false := apart
            have found := afterValueSign?_eq_some_iff.mpr ⟨blanks, after, whole, blank, rfl⟩
            exact Or.inl (by rw [atStart, if_neg Bool.false_ne_true, found]; rfl)
        | cons first before =>
            obtain ⟨rfl, rfl⟩ := List.cons.inj whole
            exact Or.inr ⟨before, blanks, after, rfl, blank, (endsInWord_cons ..).symm.trans apart⟩

instance {insideWord : Bool} {text : List Char} : Decidable (HasValueSign insideWord text) :=
  decidable_of_iff _ isSome_afterFirstValueSign?_iff

theorem afterFirstValueSign?_eq_none_iff {insideWord : Bool} {text : List Char} :
    afterFirstValueSign? insideWord text = none ↔ ¬HasValueSign insideWord text := by
  rw [← isSome_afterFirstValueSign?_iff, Option.not_isSome_iff_eq_none]

theorem not_hasValueSign_of_no_equals {insideWord : Bool} {text : List Char}
    (free : '=' ∉ text) : ¬HasValueSign insideWord text := by
  rintro ⟨before, blanks, after, rfl, -⟩
  apply free
  simp only [List.mem_append, List.mem_cons, true_or, or_true]

/-- Whether no value sign reaches over a character. -/
structure PartsSigns (c : Char) : Prop where
  notInWord : c ∉ valueWord
  notEquals : c ≠ '='
  notBlank : isBlank c = false

theorem partsSigns_comma : PartsSigns ',' :=
  ⟨by decide, by decide, by decide⟩

theorem partsSigns_opening : PartsSigns '(' :=
  ⟨by decide, by decide, by decide⟩

theorem partsSigns_closing : PartsSigns ')' :=
  ⟨by decide, by decide, by decide⟩

section

variable {c : Char}

theorem afterStart?_append {front : List Char} (free : c ∉ front) (text rest : List Char) :
    afterStart? front (text ++ c :: rest) = (afterStart? front text).map (· ++ c :: rest) := by
  induction front generalizing text with
  | nil => rfl
  | cons x front ih =>
      rw [List.mem_cons, not_or] at free
      cases text with
      | nil => simp only [List.nil_append, afterStart?, Ne.symm free.1, if_false, Option.map_none]
      | cons y text =>
          simp only [List.cons_append, afterStart?]
          split
          · exact ih free.2 text
          · rfl

theorem afterValueSign?_append (parts : PartsSigns c) (text rest : List Char) :
    afterValueSign? (text ++ c :: rest) = (afterValueSign? text).map (· ++ c :: rest) := by
  have started := afterStart?_append parts.notInWord text rest
  unfold afterValueSign?
  rw [valueWord] at started
  rw [started]
  cases afterStart? ['v', 'a', 'l', 'u', 'e'] text with
  | none => rfl
  | some found =>
      dsimp only [Option.map_some]
      rw [dropWhile_append_of_kept parts.notBlank]
      cases found.dropWhile isBlank with
      | nil =>
          rw [List.nil_append]
          split
          · next item same => exact absurd (List.cons.inj same).1 parts.notEquals
          · rfl
      | cons first item =>
          rw [List.cons_append]
          split
          · next later same =>
              obtain ⟨rfl, rfl⟩ := List.cons.inj same
              exact congrArg some (dropWhile_append_of_kept parts.notBlank item rest)
          · next other =>
              split
              · next later same =>
                  obtain ⟨rfl, rfl⟩ := List.cons.inj same
                  exact absurd rfl (other _)
              · rfl

theorem afterFirstValueSign?_mark (parts : PartsSigns c) (insideWord : Bool) (rest : List Char) :
    afterFirstValueSign? insideWord (c :: rest) =
      afterFirstValueSign? (isWordCharacter c) rest := by
  have missing : afterValueSign? (c :: rest) = none := afterValueSign?_append parts [] rest
  rw [afterFirstValueSign?_cons, missing, ite_self, Option.none_or]

theorem afterFirstValueSign?_append (parts : PartsSigns c) (insideWord : Bool)
    (text rest : List Char) :
    afterFirstValueSign? insideWord (text ++ c :: rest) =
      ((afterFirstValueSign? insideWord text).map (· ++ c :: rest)).or
        (afterFirstValueSign? (isWordCharacter c) rest) := by
  induction text generalizing insideWord with
  | nil => exact afterFirstValueSign?_mark parts insideWord rest
  | cons first text ih =>
      rw [List.cons_append, afterFirstValueSign?_cons, afterFirstValueSign?_cons, ih,
        ← List.cons_append, afterValueSign?_append parts]
      cases insideWord with
      | true => rfl
      | false => cases afterValueSign? (first :: text) <;> rfl

end

/-! ### Signs in parameters -/

/-- The text after the first value sign in a list of parameters, up to the end of
the annotation. -/
def firstSigned? : List String → Option (List Char)
  | [] => none
  | parameter :: rest =>
    ((afterFirstValueSign? false parameter.toList).map (· ++ closedBy ')' rest)).or
      (firstSigned? rest)

theorem afterFirstValueSign?_append_closedBy (insideWord : Bool) (text : List Char)
    (rest : List String) :
    afterFirstValueSign? insideWord (text ++ closedBy ')' rest) =
      ((afterFirstValueSign? insideWord text).map (· ++ closedBy ')' rest)).or
        (afterFirstValueSign? false (closedBy ')' rest)) := by
  obtain ⟨stop, later, closed, isMark⟩ := exists_closedBy_eq_cons ')' rest
  have parts : PartsSigns stop := by
    rcases isMark with rfl | rfl
    · exact partsSigns_comma
    · exact partsSigns_closing
  rw [closed, afterFirstValueSign?_append parts, afterFirstValueSign?_mark parts]

theorem afterFirstValueSign?_blank (insideWord : Bool) (rest : List Char) :
    afterFirstValueSign? insideWord (' ' :: rest) = afterFirstValueSign? false rest := by
  have missing : afterValueSign? (' ' :: rest) = none := rfl
  have apart : isWordCharacter ' ' = false := by decide +kernel
  rw [afterFirstValueSign?_cons, missing, ite_self, Option.none_or, apart]

theorem afterFirstValueSign?_closedBy (parameters : List String) :
    afterFirstValueSign? false (closedBy ')' parameters) = firstSigned? parameters := by
  induction parameters with
  | nil => exact afterFirstValueSign?_mark partsSigns_closing false []
  | cons parameter rest ih =>
      rw [closedBy, afterFirstValueSign?_mark partsSigns_comma, afterFirstValueSign?_blank,
        afterFirstValueSign?_append_closedBy, ih, firstSigned?]

theorem afterFirstValueSign?_text {mark : AnnotationUse}
    (plain : '=' ∉ (AnnotationUse.typeName mark.descriptor).toList) :
    afterFirstValueSign? false mark.text.toList =
      firstSigned? (AnnotationValue.parametersOf mark.values) := by
  have nameless {before : List Char} (free : '=' ∉ before) :
      afterFirstValueSign? false before = none :=
    afterFirstValueSign?_eq_none_iff.mpr (not_hasValueSign_of_no_equals free)
  have front : '=' ∉ '@' :: (AnnotationUse.typeName mark.descriptor).toList := by
    rw [List.mem_cons, not_or]
    exact ⟨by decide, plain⟩
  cases given : AnnotationValue.parametersOf mark.values with
  | nil =>
      rw [AnnotationUse.text_of_no_parameters given, String.toList_append]
      exact nameless front
  | cons parameter rest =>
      have apart : isWordCharacter '(' = false := by decide +kernel
      rw [AnnotationUse.toList_text_of_parameters given,
        afterFirstValueSign?_append partsSigns_opening, nameless front, Option.map_none,
        Option.none_or, apart, afterFirstValueSign?_append_closedBy,
        afterFirstValueSign?_closedBy, firstSigned?]

theorem firstSigned?_append {front : List String}
    (unsigned : ∀ parameter ∈ front, ¬HasValueSign false parameter.toList)
    (back : List String) : firstSigned? (front ++ back) = firstSigned? back := by
  induction front with
  | nil => rfl
  | cons parameter front ih =>
      have here := afterFirstValueSign?_eq_none_iff.mpr (unsigned parameter List.mem_cons_self)
      have later := ih fun other member => unsigned other (List.mem_cons_of_mem parameter member)
      rw [List.cons_append, firstSigned?, here, Option.map_none, Option.none_or, later]

theorem firstSigned?_of_signed {parameter : String} {item : List Char}
    (signed : afterFirstValueSign? false parameter.toList = some item) (rest : List String) :
    firstSigned? (parameter :: rest) = some (item ++ closedBy ')' rest) := by
  rw [firstSigned?, signed, Option.map_some, Option.some_or]

theorem exists_first_signed {parameters : List String}
    (signed : ¬∀ parameter ∈ parameters, ¬HasValueSign false parameter.toList) :
    ∃ front parameter back item, parameters = front ++ parameter :: back ∧
      (∀ other ∈ front, ¬HasValueSign false other.toList) ∧
      afterFirstValueSign? false parameter.toList = some item := by
  induction parameters with
  | nil => exact absurd (fun _ member => absurd member List.not_mem_nil) signed
  | cons parameter rest ih =>
      cases here : afterFirstValueSign? false parameter.toList with
      | some item =>
          exact ⟨[], parameter, rest, item, rfl, fun _ member => absurd member List.not_mem_nil,
            here⟩
      | none =>
          have unsigned := afterFirstValueSign?_eq_none_iff.mp here
          have later : ¬∀ other ∈ rest, ¬HasValueSign false other.toList := by
            intro none
            refine signed fun other member => ?_
            rcases List.mem_cons.mp member with rfl | inRest
            · exact unsigned
            · exact none other inRest
          obtain ⟨front, first, back, item, rfl, before, found⟩ := ih later
          refine ⟨parameter :: front, first, back, item, rfl, ?_, found⟩
          intro other member
          rcases List.mem_cons.mp member with rfl | inFront
          · exact unsigned
          · exact before other inFront

end Route
end JarAtlas
