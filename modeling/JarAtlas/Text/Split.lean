/-
Cutting a list in two.

Names, paths and declarations are cut at the first or the last separator, and
marks are taken off their ends.  The functions work on any list with decidable
equality; text is cut as its list of characters.  The small lemmas below say
that nothing is lost by a cut.
-/

namespace JarAtlas

def cutAtFirst? {α : Type} [DecidableEq α] (sep : α) : List α → Option (List α × List α)
  | [] => none
  | x :: rest =>
    if x = sep then
      some ([], rest)
    else
      (cutAtFirst? sep rest).map fun (before, after) => (x :: before, after)

def cutAtLast? {α : Type} [DecidableEq α] (sep : α) : List α → Option (List α × List α)
  | [] => none
  | x :: rest =>
    match cutAtLast? sep rest with
    | some (before, after) => some (x :: before, after)
    | none => if x = sep then some ([], rest) else none

def afterLast {α : Type} [DecidableEq α] (sep : α) (xs : List α) : List α :=
  match cutAtLast? sep xs with
  | some (_, after) => after
  | none => xs

theorem cutAtFirst?_eq_append {α : Type} [DecidableEq α] {sep : α}
    {xs before after : List α} (cut : cutAtFirst? sep xs = some (before, after)) :
    xs = before ++ sep :: after := by
  induction xs generalizing before after with
  | nil => simp [cutAtFirst?] at cut
  | cons x rest ih =>
      by_cases isSep : x = sep
      · simp [cutAtFirst?, isSep] at cut
        simp [← cut.1, ← cut.2, isSep]
      · simp only [cutAtFirst?, isSep, if_false, Option.map_eq_some_iff] at cut
        obtain ⟨⟨front, back⟩, found, same⟩ := cut
        simp only [Prod.mk.injEq] at same
        rw [ih found, ← same.1, ← same.2]
        rfl

theorem cutAtFirst?_before_free {α : Type} [DecidableEq α] {sep : α}
    {xs before after : List α} (cut : cutAtFirst? sep xs = some (before, after)) :
    sep ∉ before := by
  induction xs generalizing before after with
  | nil => simp [cutAtFirst?] at cut
  | cons x rest ih =>
      by_cases isSep : x = sep
      · simp [cutAtFirst?, isSep] at cut
        simp [cut.1]
      · simp only [cutAtFirst?, isSep, if_false, Option.map_eq_some_iff] at cut
        obtain ⟨⟨front, back⟩, found, same⟩ := cut
        simp only [Prod.mk.injEq] at same
        rw [← same.1]
        simp [ih found, Ne.symm isSep]

theorem cutAtFirst?_eq_none_iff {α : Type} [DecidableEq α] {sep : α} {xs : List α} :
    cutAtFirst? sep xs = none ↔ sep ∉ xs := by
  induction xs with
  | nil => simp [cutAtFirst?]
  | cons x rest ih =>
      by_cases isSep : x = sep
      · simp [cutAtFirst?, isSep]
      · simp [cutAtFirst?, isSep, ih, Ne.symm isSep]

theorem cutAtFirst?_append {α : Type} [DecidableEq α] {sep : α} {before : List α}
    (free : sep ∉ before) (after : List α) :
    cutAtFirst? sep (before ++ sep :: after) = some (before, after) := by
  induction before with
  | nil => simp [cutAtFirst?]
  | cons x before ih =>
      rw [List.mem_cons, not_or] at free
      simp [cutAtFirst?, Ne.symm free.1, ih free.2]

theorem cutAtLast?_eq_none_iff {α : Type} [DecidableEq α] {sep : α} {xs : List α} :
    cutAtLast? sep xs = none ↔ sep ∉ xs := by
  induction xs with
  | nil => simp [cutAtLast?]
  | cons x rest ih =>
      cases found : cutAtLast? sep rest with
      | some parts =>
          have here : sep ∈ rest := by
            by_cases member : sep ∈ rest
            · exact member
            · rw [ih.mpr member] at found
              contradiction
          simp [cutAtLast?, found, here]
      | none =>
          have absent := ih.mp found
          by_cases isSep : x = sep
          · simp [cutAtLast?, found, isSep]
          · simp [cutAtLast?, found, isSep, absent, Ne.symm isSep]

theorem cutAtLast?_eq_append {α : Type} [DecidableEq α] {sep : α}
    {xs before after : List α} (cut : cutAtLast? sep xs = some (before, after)) :
    xs = before ++ sep :: after := by
  induction xs generalizing before after with
  | nil => simp [cutAtLast?] at cut
  | cons x rest ih =>
      cases found : cutAtLast? sep rest with
      | some parts =>
          simp only [cutAtLast?, found, Option.some.injEq, Prod.mk.injEq] at cut
          rw [← cut.1, ← cut.2, ih found]
          rfl
      | none =>
          by_cases isSep : x = sep
          · simp [cutAtLast?, found, isSep] at cut
            simp [← cut.1, ← cut.2, isSep]
          · simp [cutAtLast?, found, isSep] at cut

theorem cutAtLast?_after_free {α : Type} [DecidableEq α] {sep : α}
    {xs before after : List α} (cut : cutAtLast? sep xs = some (before, after)) :
    sep ∉ after := by
  induction xs generalizing before after with
  | nil => simp [cutAtLast?] at cut
  | cons x rest ih =>
      cases found : cutAtLast? sep rest with
      | some parts =>
          simp only [cutAtLast?, found, Option.some.injEq, Prod.mk.injEq] at cut
          rw [← cut.2]
          exact ih found
      | none =>
          by_cases isSep : x = sep
          · simp [cutAtLast?, found, isSep] at cut
            rw [← cut.2]
            exact cutAtLast?_eq_none_iff.mp found
          · simp [cutAtLast?, found, isSep] at cut

theorem cutAtLast?_append {α : Type} [DecidableEq α] {sep : α} {after : List α}
    (free : sep ∉ after) (before : List α) :
    cutAtLast? sep (before ++ sep :: after) = some (before, after) := by
  induction before with
  | nil => simp [cutAtLast?, cutAtLast?_eq_none_iff.mpr free]
  | cons x before ih => simp [cutAtLast?, ih]

/-! ### Taking marks off the ends -/

def afterStart? {α : Type} [DecidableEq α] : List α → List α → Option (List α)
  | [], xs => some xs
  | _ :: _, [] => none
  | y :: front, x :: xs => if y = x then afterStart? front xs else none

theorem afterStart?_eq_some_iff {α : Type} [DecidableEq α] {front xs rest : List α} :
    afterStart? front xs = some rest ↔ xs = front ++ rest := by
  induction front generalizing xs with
  | nil => simp [afterStart?, eq_comm]
  | cons y front ih =>
      cases xs with
      | nil => simp [afterStart?]
      | cons x xs =>
          by_cases same : y = x
          · simp [afterStart?, same, ih]
          · simp [afterStart?, same, Ne.symm same]

def beforeEnd? {α : Type} [DecidableEq α] (back xs : List α) : Option (List α) :=
  (afterStart? back.reverse xs.reverse).map List.reverse

theorem beforeEnd?_eq_some_iff {α : Type} [DecidableEq α] {back xs rest : List α} :
    beforeEnd? back xs = some rest ↔ xs = rest ++ back := by
  simp only [beforeEnd?, Option.map_eq_some_iff, afterStart?_eq_some_iff]
  constructor
  · rintro ⟨reversed, shape, rfl⟩
    have := congrArg List.reverse shape
    simpa using this
  · rintro rfl
    exact ⟨rest.reverse, by simp, by simp⟩

def dropWhileEnd {α : Type} (drop : α → Bool) (xs : List α) : List α :=
  (xs.reverse.dropWhile drop).reverse

def stripBoth {α : Type} (drop : α → Bool) (xs : List α) : List α :=
  dropWhileEnd drop (xs.dropWhile drop)

def occursIn {α : Type} [BEq α] (part : List α) : List α → Bool
  | [] => part.isEmpty
  | x :: rest => part.isPrefixOf (x :: rest) || occursIn part rest

theorem occursIn_iff {α : Type} [BEq α] [LawfulBEq α] {part xs : List α} :
    occursIn part xs = true ↔ part <:+: xs := by
  induction xs with
  | nil => simp [occursIn]
  | cons x rest ih =>
      simp [occursIn, ih, List.infix_cons_iff]

end JarAtlas
