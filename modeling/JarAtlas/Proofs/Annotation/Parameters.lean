/-
The parameters of an annotation.

The values of an annotation, nested ones after the head of their annotation, give
one list of parameters.  Parameters are parted by a comma and a blank, so after
each of them the text goes on with a comma or with the closing parenthesis.
-/
import JarAtlas.Annotation.Signature

namespace JarAtlas

mutual

def AnnotationValue.parameters : AnnotationValue → List String
  | .plain name text => [Signature.labelled name text]
  | .constant name descriptor constantName =>
    [Signature.labelled name (Signature.constantText descriptor constantName)]
  | .nested name descriptor values =>
    Signature.labelled name (Signature.nestedText descriptor) :: parametersOf values

/-- The parameters that values give, each value followed by those nested in
it. -/
def AnnotationValue.parametersOf : List AnnotationValue → List String
  | [] => []
  | value :: rest => value.parameters ++ parametersOf rest

end

theorem AnnotationValue.parametersOf_append (front back : List AnnotationValue) :
    parametersOf (front ++ back) = parametersOf front ++ parametersOf back := by
  induction front with
  | nil => rfl
  | cons value front ih => rw [List.cons_append, parametersOf, parametersOf, ih, List.append_assoc]

namespace Signature

def pushAll (signature : Signature) (parameters : List String) : Signature :=
  { signature with parameters := signature.parameters ++ parameters }

theorem pushAll_nil (signature : Signature) : signature.pushAll [] = signature := by
  rw [pushAll, List.append_nil]

theorem pushAll_append (signature : Signature) (front back : List String) :
    signature.pushAll (front ++ back) = (signature.pushAll front).pushAll back := by
  rw [pushAll, pushAll, pushAll, List.append_assoc]

mutual

theorem apply_eq_pushAll (signature : Signature) :
    ∀ value : AnnotationValue, signature.apply value = signature.pushAll value.parameters
  | .plain name text => by
      rw [apply, AnnotationValue.parameters]
      rfl
  | .constant name descriptor constantName => by
      rw [apply, AnnotationValue.parameters]
      rfl
  | .nested name descriptor values => by
      rw [apply, AnnotationValue.parameters, applyAll_eq_pushAll, ← List.singleton_append,
        pushAll_append]
      rfl

theorem applyAll_eq_pushAll (signature : Signature) :
    ∀ values : List AnnotationValue,
      signature.applyAll values = signature.pushAll (AnnotationValue.parametersOf values)
  | [] => by
      rw [applyAll, AnnotationValue.parametersOf, pushAll_nil]
  | value :: rest => by
      rw [applyAll, AnnotationValue.parametersOf, pushAll_append, ← apply_eq_pushAll,
        applyAll_eq_pushAll]

end

end Signature

/-- What stands after one part of a list of texts: the parts that follow, each
after a comma and a blank, and a mark at the end. -/
def closedBy (mark : Char) : List String → List Char
  | [] => [mark]
  | part :: rest => ',' :: ' ' :: (part.toList ++ closedBy mark rest)

theorem toList_intercalate_closed (mark : Char) (part : String) (rest : List String) :
    (", ".intercalate (part :: rest)).toList ++ [mark] = part.toList ++ closedBy mark rest := by
  induction rest generalizing part with
  | nil => rw [String.intercalate_singleton, closedBy]
  | cons next rest ih =>
      rw [String.intercalate_cons_cons, String.toList_append, String.toList_append,
        List.append_assoc, ih, closedBy, List.append_assoc]
      rfl

theorem exists_closedBy_eq_cons (mark : Char) (rest : List String) :
    ∃ stop later, closedBy mark rest = stop :: later ∧ (stop = ',' ∨ stop = mark) := by
  cases rest with
  | nil => exact ⟨mark, [], rfl, Or.inr rfl⟩
  | cons part rest => exact ⟨',', _, rfl, Or.inl rfl⟩

theorem exists_closedBy_append (mark : Char) (front : List String) :
    ∃ between, ∀ part back, closedBy mark (front ++ part :: back) =
      between ++ ',' :: ' ' :: (part.toList ++ closedBy mark back) := by
  induction front with
  | nil => exact ⟨[], fun part back => rfl⟩
  | cons first front ih =>
      obtain ⟨between, whole⟩ := ih
      refine ⟨',' :: ' ' :: (first.toList ++ between), fun part back => ?_⟩
      rw [List.cons_append, closedBy, whole]
      simp only [List.cons_append, List.append_assoc]

namespace AnnotationUse

theorem text_of_no_parameters {mark : AnnotationUse}
    (none : AnnotationValue.parametersOf mark.values = []) :
    mark.text = "@" ++ typeName mark.descriptor := by
  rw [text, Signature.applyAll_eq_pushAll, none, Signature.pushAll_nil]
  rfl

theorem text_of_parameters {mark : AnnotationUse} {parameter : String} {rest : List String}
    (some : AnnotationValue.parametersOf mark.values = parameter :: rest) :
    mark.text =
      "@" ++ typeName mark.descriptor ++ "(" ++ ", ".intercalate (parameter :: rest) ++ ")" := by
  rw [text, Signature.applyAll_eq_pushAll, some]
  rfl

theorem toList_text_of_parameters {mark : AnnotationUse} {parameter : String}
    {rest : List String} (some : AnnotationValue.parametersOf mark.values = parameter :: rest) :
    mark.text.toList =
      ('@' :: (typeName mark.descriptor).toList) ++
        '(' :: (parameter.toList ++ closedBy ')' rest) := by
  rw [text_of_parameters some, ← toList_intercalate_closed]
  simp only [String.toList_append, List.append_assoc]
  rfl

end AnnotationUse
end JarAtlas
