/-
JSON documents, read after writing.

The line that is written for a value spells it without a gap, and the lines of
its other form with line breaks and indentation between the parts.  So the
reader gives back every value from either form.
-/
import JarAtlas.Proofs.Json.Spelling

namespace JarAtlas
namespace Json

theorem compactChars_number (value : Nat) :
    (number value).compactChars = Nat.toDigits 10 value := by
  rw [compactChars]
  exact String.toList_ofList

theorem compactItems_false_cons (item : Json) (rest : List Json) :
    compactItems false (item :: rest) = ',' :: compactItems true (item :: rest) := by
  rw [compactItems, compactItems]
  rfl

theorem compactFields_false_cons (field : String × Json) (rest : List (String × Json)) :
    compactFields false (field :: rest) = ',' :: compactFields true (field :: rest) := by
  rw [compactFields, compactFields]
  rfl

mutual

theorem spells_compactChars (value : Json) : Spells value value.compactChars := by
  match value with
  | null => exact .null
  | bool true => exact .true
  | bool false => exact .false
  | number value =>
      rw [compactChars_number]
      exact .number value
  | string text =>
      rw [compactChars]
      exact .string text
  | array [] => exact .emptyArray isGap_nil
  | array (item :: items) =>
      rw [compactChars]
      exact .array (spells_compactItems (item :: items) (List.cons_ne_nil _ _))
  | object [] => exact .emptyObject isGap_nil
  | object (field :: fields) =>
      rw [compactChars]
      exact .object (spells_compactFields (field :: fields) (List.cons_ne_nil _ _))

theorem spells_compactItems (items : List Json) (notEmpty : items ≠ []) :
    SpellsItems items (compactItems true items) := by
  match items with
  | [item] => exact .last isGap_nil (spells_compactChars item) isGap_nil
  | item :: next :: rest =>
      rw [compactItems, compactItems_false_cons]
      exact .more isGap_nil (spells_compactChars item) isGap_nil
        (spells_compactItems (next :: rest) (List.cons_ne_nil _ _))

theorem spells_compactFields (fields : List (String × Json)) (notEmpty : fields ≠ []) :
    SpellsFields fields (compactFields true fields) := by
  match fields with
  | [(name, value)] =>
      exact .last isGap_nil isGap_nil isGap_nil (spells_compactChars value) isGap_nil
  | (name, value) :: next :: rest =>
      rw [compactFields, compactFields_false_cons]
      exact .more isGap_nil isGap_nil isGap_nil (spells_compactChars value) isGap_nil
        (spells_compactFields (next :: rest) (List.cons_ne_nil _ _))

end

theorem ofText?_compact (value : Json) : ofText? value.compact = some value :=
  ofText?_of_spells (spells_compactChars value)

theorem exists_compactChars_eq_cons (value : Json) :
    ∃ c rest, value.compactChars = c :: rest ∧ Begins c :=
  (spells_compactChars value).exists_eq_cons

theorem isGap_lineBreak (level : Nat) : IsGap (lineBreak level) := by
  intro c member
  rcases List.mem_cons.mp member with rfl | indentation
  · rfl
  · rw [List.eq_of_mem_replicate indentation]
    rfl

theorem isGap_space : IsGap [' '] := by
  intro c member
  rw [List.mem_singleton.mp member]
  rfl

-- Written items and fields begin with a comma, except that the first stand behind a bracket.
mutual

theorem spells_prettyChars (level : Nat) (value : Json) :
    Spells value (prettyChars level value) := by
  match value with
  | null => exact .null
  | bool true => exact .true
  | bool false => exact .false
  | number value =>
      rw [prettyChars, decimalText, String.toList_ofList]
      exact .number value
  | string text =>
      rw [prettyChars]
      exact .string text
  | array [] =>
      rw [prettyChars]
      exact .emptyArray isGap_nil
  | array (item :: items) =>
      have inner := spells_prettyItems level (item :: items) (List.cons_ne_nil _ _)
      rw [prettyItems, List.tail_cons] at inner
      rw [prettyChars]
      exact .array inner
  | object [] =>
      rw [prettyChars]
      exact .emptyObject isGap_nil
  | object ((name, value) :: fields) =>
      have inner := spells_prettyFields level ((name, value) :: fields) (List.cons_ne_nil _ _)
      rw [prettyFields, List.tail_cons] at inner
      rw [prettyChars]
      exact .object inner

theorem spells_prettyItems (level : Nat) (items : List Json) (notEmpty : items ≠ []) :
    SpellsItems items (prettyItems level items).tail := by
  match items with
  | [item] =>
      rw [prettyItems, prettyItems, List.tail_cons]
      exact .last (isGap_lineBreak _) (spells_prettyChars (level + 1) item) (isGap_lineBreak level)
  | item :: next :: rest =>
      have others := spells_prettyItems level (next :: rest) (List.cons_ne_nil _ _)
      rw [prettyItems, List.tail_cons] at others
      rw [prettyItems, prettyItems, List.tail_cons]
      exact .more (isGap_lineBreak _) (spells_prettyChars (level + 1) item) isGap_nil others

theorem spells_prettyFields (level : Nat) (fields : List (String × Json))
    (notEmpty : fields ≠ []) : SpellsFields fields (prettyFields level fields).tail := by
  match fields with
  | [(name, value)] =>
      rw [prettyFields, prettyFields, List.tail_cons]
      exact .last (isGap_lineBreak _) isGap_nil isGap_space
        (spells_prettyChars (level + 1) value) (isGap_lineBreak level)
  | (name, value) :: (nextName, next) :: rest =>
      have others := spells_prettyFields level ((nextName, next) :: rest) (List.cons_ne_nil _ _)
      rw [prettyFields, List.tail_cons] at others
      rw [prettyFields, prettyFields, List.tail_cons]
      exact .more (isGap_lineBreak _) isGap_nil isGap_space
        (spells_prettyChars (level + 1) value) isGap_nil others

end

theorem ofText?_pretty (value : Json) : ofText? value.pretty = some value :=
  ofText?_of_spells (spells_prettyChars 0 value)

end Json
end JarAtlas
