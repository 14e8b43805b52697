/-
Signatures as flattened values.

The text of an annotation lists the values of all depths in the order in which they
are visited, each nested annotation before the values that it holds.  A signature
can also be made call by call; there is but one list of parameters, so calls on what
a nested annotation opens are calls on the signature itself.
-/
import JarAtlas.Proofs.Annotation.Parameters

namespace JarAtlas

namespace AnnotationValue

mutual

/-- A value and all values inside it, in the order in which they are visited. -/
def visited : AnnotationValue → List AnnotationValue
  | .plain name text => [.plain name text]
  | .constant name descriptor constantName => [.constant name descriptor constantName]
  | .nested name descriptor values => .nested name descriptor values :: visitedAll values

def visitedAll : List AnnotationValue → List AnnotationValue
  | [] => []
  | value :: rest => visited value ++ visitedAll rest

end

mutual

def count : AnnotationValue → Nat
  | .plain _ _ => 1
  | .constant _ _ _ => 1
  | .nested _ _ values => countAll values + 1

def countAll : List AnnotationValue → Nat
  | [] => 0
  | value :: rest => count value + countAll rest

end

def name? : AnnotationValue → Option String
  | .plain name _ => name
  | .constant name _ _ => name
  | .nested name _ _ => name

def bareText : AnnotationValue → String
  | .plain _ text => text
  | .constant _ descriptor constantName =>
    TypeDescriptor.unwrap descriptor ++ "." ++ constantName
  | .nested _ descriptor _ => "@" ++ dotted (TypeDescriptor.unwrap descriptor)

def headText (value : AnnotationValue) : String :=
  match value.name? with
  | some name => name ++ " = " ++ value.bareText
  | none => value.bareText

theorem labelled_eq_headText (value : AnnotationValue) :
    Signature.labelled value.name? value.bareText = value.headText := by
  unfold headText
  cases value.name? <;> rfl

mutual

theorem parameters_eq_map_visited :
    ∀ value : AnnotationValue, value.parameters = value.visited.map headText
  | .plain name text => by
      rw [parameters, visited, List.map_singleton, ← labelled_eq_headText]
      rfl
  | .constant name descriptor constantName => by
      rw [parameters, visited, List.map_singleton, ← labelled_eq_headText]
      rfl
  | .nested name descriptor values => by
      rw [parameters, visited, List.map_cons, ← labelled_eq_headText,
        parametersOf_eq_map_visitedAll]
      rfl

theorem parametersOf_eq_map_visitedAll :
    ∀ values : List AnnotationValue, parametersOf values = (visitedAll values).map headText
  | [] => by
      rw [parametersOf, visitedAll, List.map_nil]
  | value :: rest => by
      rw [parametersOf, visitedAll, List.map_append, parameters_eq_map_visited,
        parametersOf_eq_map_visitedAll]

end

mutual

theorem length_visited : ∀ value : AnnotationValue, value.visited.length = value.count
  | .plain name text => by
      rw [visited, count, List.length_singleton]
  | .constant name descriptor constantName => by
      rw [visited, count, List.length_singleton]
  | .nested name descriptor values => by
      rw [visited, count, List.length_cons, length_visitedAll]

theorem length_visitedAll :
    ∀ values : List AnnotationValue, (visitedAll values).length = countAll values
  | [] => by
      rw [visitedAll, countAll, List.length_nil]
  | value :: rest => by
      rw [visitedAll, countAll, List.length_append, length_visited, length_visitedAll]

end

theorem exists_parameters_eq_cons (value : AnnotationValue) :
    ∃ parameter rest, value.parameters = parameter :: rest := by
  cases value with
  | plain name text => exact ⟨_, [], by rw [parameters]⟩
  | constant name descriptor constantName => exact ⟨_, [], by rw [parameters]⟩
  | nested name descriptor values => exact ⟨_, parametersOf values, by rw [parameters]⟩

end AnnotationValue

namespace AnnotationUse

theorem text_eq_flattened (mark : AnnotationUse) :
    mark.text =
      if mark.values.isEmpty then "@" ++ typeName mark.descriptor
      else
        "@" ++ typeName mark.descriptor ++ "(" ++
          ", ".intercalate
            ((AnnotationValue.visitedAll mark.values).map AnnotationValue.headText) ++ ")" := by
  rw [← AnnotationValue.parametersOf_eq_map_visitedAll]
  cases values : mark.values with
  | nil =>
      apply text_of_no_parameters
      rw [values, AnnotationValue.parametersOf]
  | cons value rest =>
      obtain ⟨parameter, others, listed⟩ := value.exists_parameters_eq_cons
      have parameters : AnnotationValue.parametersOf mark.values =
          parameter :: (others ++ AnnotationValue.parametersOf rest) := by
        rw [values, AnnotationValue.parametersOf, listed, List.cons_append]
      rw [text_of_parameters parameters, ← values, parameters, values]
      rfl

end AnnotationUse

namespace Signature

theorem parameterCount_applyAll (signature : Signature) (values : List AnnotationValue) :
    (signature.applyAll values).parameterCount =
      signature.parameterCount + AnnotationValue.countAll values := by
  rw [applyAll_eq_pushAll, pushAll, parameterCount, List.length_append, parameterCount,
    AnnotationValue.parametersOf_eq_map_visitedAll, List.length_map,
    AnnotationValue.length_visitedAll]

/-! ### Calls on one signature -/

namespace Step

mutual

/-- A call and the calls on what it opens, made one after another on the signature
itself. -/
def leveled : Step → List Step
  | .plain name text => [.plain name text]
  | .constant name descriptor constantName => [.constant name descriptor constantName]
  | .value applied => [.value applied]
  | .nested name descriptor steps => .nested name descriptor [] :: leveledAll steps

def leveledAll : List Step → List Step
  | [] => []
  | step :: rest => leveled step ++ leveledAll rest

end

mutual

/-- The value that a call records.  Calls on what it opens record the values that it
holds. -/
def recorded : Step → AnnotationValue
  | .plain name text => .plain name text
  | .constant name descriptor constantName => .constant name descriptor constantName
  | .value applied => applied
  | .nested name descriptor steps => .nested name descriptor (recordedAll steps)

def recordedAll : List Step → List AnnotationValue
  | [] => []
  | step :: rest => recorded step :: recordedAll rest

end

def isLevel : Step → Bool
  | .nested _ _ steps => steps.isEmpty
  | _ => true

mutual

theorem all_isLevel_leveled : ∀ step : Step, step.leveled.all isLevel = true
  | .plain name text => by
      rw [leveled]
      rfl
  | .constant name descriptor constantName => by
      rw [leveled]
      rfl
  | .value applied => by
      rw [leveled]
      rfl
  | .nested name descriptor steps => by
      rw [leveled, List.all_cons, all_isLevel_leveledAll]
      rfl

theorem all_isLevel_leveledAll : ∀ steps : List Step, (leveledAll steps).all isLevel = true
  | [] => by
      rw [leveledAll]
      rfl
  | step :: rest => by
      rw [leveledAll, List.all_append, all_isLevel_leveled, all_isLevel_leveledAll]
      rfl

end

end Step

private theorem getLastD_append {α : Type} (front back : List α) (last : α) :
    (front ++ back).getLastD last = back.getLastD (front.getLastD last) := by
  induction front generalizing last with
  | nil => rfl
  | cons first front ih => rw [List.cons_append, List.getLastD_cons, ih, List.getLastD_cons]

mutual

theorem getLastD_stages (signature : Signature) :
    ∀ step : Step, (signature.stages step).getLastD signature = signature.apply step.recorded
  | .plain name text => by
      rw [stages, Step.recorded, apply]
      rfl
  | .constant name descriptor constantName => by
      rw [stages, Step.recorded, apply]
      rfl
  | .value applied => by
      rw [stages, Step.recorded]
      rfl
  | .nested name descriptor steps => by
      rw [stages, Step.recorded, apply, List.getLastD_cons, getLastD_stagesAll]

theorem getLastD_stagesAll (signature : Signature) :
    ∀ steps : List Step,
      (signature.stagesAll steps).getLastD signature =
        signature.applyAll (Step.recordedAll steps)
  | [] => by
      rw [stagesAll, Step.recordedAll, applyAll]
      rfl
  | step :: rest => by
      rw [stagesAll, Step.recordedAll, applyAll, getLastD_append, getLastD_stages,
        getLastD_stagesAll]

end

theorem stagesAll_append (signature : Signature) (front back : List Step) :
    signature.stagesAll (front ++ back) =
      signature.stagesAll front ++
        ((signature.stagesAll front).getLastD signature).stagesAll back := by
  induction front generalizing signature with
  | nil =>
      rw [stagesAll]
      rfl
  | cons step front ih =>
      rw [List.cons_append, stagesAll, stagesAll, ih, getLastD_append, List.append_assoc]

theorem stagesAll_singleton (signature : Signature) (step : Step) :
    signature.stagesAll [step] = signature.stages step := by
  rw [stagesAll, stagesAll, List.append_nil]

theorem stagesAll_nested_cons (signature : Signature) (name : Option String)
    (descriptor : String) (inner : List Step) :
    signature.stagesAll (.nested name descriptor [] :: inner) =
      signature.stages (.nested name descriptor inner) := by
  rw [stagesAll, stages, stages, stagesAll]
  rfl

mutual

theorem stagesAll_leveled (signature : Signature) :
    ∀ step : Step, signature.stagesAll step.leveled = signature.stages step
  | .plain name text => by
      rw [Step.leveled, stagesAll_singleton]
  | .constant name descriptor constantName => by
      rw [Step.leveled, stagesAll_singleton]
  | .value applied => by
      rw [Step.leveled, stagesAll_singleton]
  | .nested name descriptor steps => by
      rw [Step.leveled, stagesAll_nested_cons, stages, stages, stagesAll_leveledAll]

theorem stagesAll_leveledAll (signature : Signature) :
    ∀ steps : List Step, signature.stagesAll (Step.leveledAll steps) = signature.stagesAll steps
  | [] => by
      rw [Step.leveledAll]
  | step :: rest => by
      rw [Step.leveledAll, stagesAll_append, stagesAll_leveled, stagesAll_leveledAll, stagesAll]

end

/-- Calls on what a nested annotation opens have the effect of the same calls on the
signature, at whatever point of the script they are made. -/
theorem stagesAll_inner (signature : Signature) (before : List Step) (name : Option String)
    (descriptor : String) (inner behind : List Step) :
    signature.stagesAll (before ++ .nested name descriptor inner :: behind) =
      signature.stagesAll (before ++ .nested name descriptor [] :: (inner ++ behind)) := by
  have level (reached : Signature) :
      reached.stagesAll (.nested name descriptor [] :: (inner ++ behind)) =
        reached.stagesAll (.nested name descriptor inner :: behind) := by
    rw [← List.cons_append, stagesAll_append, stagesAll_nested_cons, stagesAll]
  rw [stagesAll_append, stagesAll_append, level]

/-- The text of an annotation is its dotted type and, if it has values, the texts of
the values of all depths in visit order, parted by commas; it has as many parameters
as there are values at all depths.  An enumeration constant is written with the
slashes of its type, a nested annotation with dots.  In a script of calls, those on
what a nested annotation opens could be made on the signature itself, at this point
and at any depth: the signature is the same after every call, and in the end it has
got the texts of the values of all calls, again in visit order. -/
theorem text_flattens_values :
    (∀ mark : AnnotationUse,
      (mark.text =
        if mark.values.isEmpty then "@" ++ dotted (TypeDescriptor.unwrap mark.descriptor)
        else
          "@" ++ dotted (TypeDescriptor.unwrap mark.descriptor) ++ "(" ++
            ", ".intercalate
              ((AnnotationValue.visitedAll mark.values).map AnnotationValue.headText) ++ ")") ∧
      ((ofDescriptor mark.descriptor).applyAll mark.values).parameterCount =
        AnnotationValue.countAll mark.values) ∧
      (∀ (name : Option String) (type constantName : String) (values : List AnnotationValue),
        (AnnotationValue.constant name ("L" ++ type ++ ";") constantName).bareText =
            type ++ "." ++ constantName ∧
          (AnnotationValue.nested name ("L" ++ type ++ ";") values).bareText =
            "@" ++ dotted type) ∧
      (∀ (signature : Signature) (before : List Step) (name : Option String)
          (descriptor : String) (inner behind : List Step),
        signature.stagesAll (before ++ .nested name descriptor inner :: behind) =
          signature.stagesAll (before ++ .nested name descriptor [] :: (inner ++ behind))) ∧
      ∀ (signature : Signature) (script : List Step),
        signature.stagesAll (Step.leveledAll script) = signature.stagesAll script ∧
          (Step.leveledAll script).all Step.isLevel = true ∧
          ((signature.stagesAll script).getLastD signature).parameters =
            signature.parameters ++
              (AnnotationValue.visitedAll (Step.recordedAll script)).map
                AnnotationValue.headText := by
  refine ⟨fun mark => ⟨mark.text_eq_flattened, ?_⟩, fun name type constantName values => ?_,
    stagesAll_inner, fun signature script => ?_⟩
  · rw [parameterCount_applyAll]
    exact Nat.zero_add _
  · rw [AnnotationValue.bareText, AnnotationValue.bareText, TypeDescriptor.unwrap_object]
    exact ⟨rfl, rfl⟩
  · refine ⟨signature.stagesAll_leveledAll script, Step.all_isLevel_leveledAll script, ?_⟩
    rw [getLastD_stagesAll, applyAll_eq_pushAll, pushAll,
      AnnotationValue.parametersOf_eq_map_visitedAll]

example :
    (AnnotationUse.mk "La/Outer;"
      [.nested (some "inner") "La/Inner;" [.plain (some "size") "2", .nested none "La/Deep;" []],
        .constant (some "unit") "La/Unit;" "DAYS"]).text =
      "@a.Outer(inner = @a.Inner, size = 2, @a.Deep, unit = a/Unit.DAYS)" := by
  decide +kernel

end Signature
end JarAtlas
