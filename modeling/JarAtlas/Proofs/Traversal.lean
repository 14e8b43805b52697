/-
Lists gone through item by item.

A step that can fail, made for each item of a list, succeeds with the results of
the single steps in order, or fails.  What relates items to results one by one
is said by `List.Forall₂`.
-/
import Mathlib.Data.List.Forall2

namespace JarAtlas

section

variable {ε α β : Type}

theorem exists_of_bind_ok {first : Except ε α} {next : α → Except ε β} {result : β}
    (ended : (first >>= next) = .ok result) :
    ∃ value, first = .ok value ∧ next value = .ok result := by
  cases first with
  | error fault => cases ended
  | ok value => exact ⟨value, rfl, ended⟩

theorem mapM_ok_iff {step : α → Except ε β} {items : List α} {results : List β} :
    items.mapM step = .ok results ↔
      List.Forall₂ (fun item result => step item = .ok result) items results := by
  constructor
  · intro ended
    induction items generalizing results with
    | nil =>
        cases ended
        exact .nil
    | cons item items ih =>
        rw [List.mapM_cons] at ended
        obtain ⟨first, firstTold, ended⟩ := exists_of_bind_ok ended
        obtain ⟨others, othersTold, ended⟩ := exists_of_bind_ok ended
        cases ended
        exact .cons firstTold (ih othersTold)
  · intro told
    induction told with
    | nil => rfl
    | cons first _ ih =>
        rw [List.mapM_cons, first, ih]
        rfl

end

section

variable {α β γ : Type}

theorem exists_of_forall₂ {Related : α → β → Prop} {items : List α} {others : List β}
    (related : List.Forall₂ Related items others) {item : α} (member : item ∈ items) :
    ∃ other ∈ others, Related item other := by
  induction related with
  | nil => cases member
  | @cons first second _ others same _ ih =>
      rcases List.mem_cons.mp member with rfl | later
      · exact ⟨second, List.mem_cons_self, same⟩
      · obtain ⟨other, found, same⟩ := ih later
        exact ⟨other, List.mem_cons_of_mem second found, same⟩

theorem forall₂_map_self {Related : β → α → Prop} {meant : α → β} {items : List α}
    (each : ∀ item ∈ items, Related (meant item) item) :
    List.Forall₂ Related (items.map meant) items :=
  List.forall₂_map_left_iff.mpr (List.forall₂_same.mpr each)

theorem exists_map_of_forall₂ {Related : α → γ → Prop} {write : γ → β} {items : List α}
    {results : List β}
    (related : List.Forall₂ (fun item result => ∃ told, result = write told ∧ Related item told)
      items results) :
    ∃ told, results = told.map write ∧ List.Forall₂ Related items told := by
  induction related with
  | nil => exact ⟨[], rfl, .nil⟩
  | cons first _ ih =>
      obtain ⟨told, rfl, same⟩ := first
      obtain ⟨others, rfl, later⟩ := ih
      exact ⟨told :: others, rfl, .cons same later⟩

end

end JarAtlas
