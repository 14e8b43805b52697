/-
Trimming.

A text is trimmed if it neither starts nor ends with a character to be dropped.
Taking such characters off both ends gives a trimmed text and leaves trimmed
texts alone, so doing it twice is doing it once.  What is left is the one trimmed
text with dropped characters around it that makes up the whole.
-/
import JarAtlas.Text.CharacterClass

namespace JarAtlas

variable {α : Type} {drop : α → Bool} {xs : List α}

structure Trimmed (drop : α → Bool) (xs : List α) : Prop where
  first : ∀ x ∈ xs.head?, drop x = false
  last : ∀ x ∈ xs.getLast?, drop x = false

theorem dropWhile_cons_of_kept {x : α} (kept : drop x = false) (rest : List α) :
    (x :: rest).dropWhile drop = x :: rest :=
  List.dropWhile_cons_of_neg (by rw [kept]; exact Bool.false_ne_true)

theorem dropWhile_of_first (kept : ∀ x ∈ xs.head?, drop x = false) :
    xs.dropWhile drop = xs := by
  cases xs with
  | nil => rfl
  | cons x rest => exact dropWhile_cons_of_kept (kept x rfl) rest

theorem first_dropWhile (drop : α → Bool) (xs : List α) :
    ∀ x ∈ (xs.dropWhile drop).head?, drop x = false := by
  induction xs with
  | nil => exact fun _ found => nomatch found
  | cons x rest ih =>
      cases dropped : drop x with
      | true =>
          rw [List.dropWhile_cons_of_pos dropped]
          exact ih
      | false =>
          rw [dropWhile_cons_of_kept dropped]
          intro y same
          rw [← Option.some.inj same]
          exact dropped

theorem dropWhile_append_of_kept {x : α} (kept : drop x = false) (xs rest : List α) :
    (xs ++ x :: rest).dropWhile drop = xs.dropWhile drop ++ x :: rest := by
  rw [List.dropWhile_append]
  split
  · next empty =>
      rw [List.isEmpty_iff.mp empty, List.nil_append, dropWhile_cons_of_kept kept]
  · rfl

theorem dropWhileEnd_of_last (kept : ∀ x ∈ xs.getLast?, drop x = false) :
    dropWhileEnd drop xs = xs := by
  rw [← List.head?_reverse] at kept
  rw [dropWhileEnd, dropWhile_of_first kept, List.reverse_reverse]

theorem last_dropWhileEnd (drop : α → Bool) (xs : List α) :
    ∀ x ∈ (dropWhileEnd drop xs).getLast?, drop x = false := by
  rw [dropWhileEnd, List.getLast?_reverse]
  exact first_dropWhile drop xs.reverse

theorem dropWhileEnd_prefix (drop : α → Bool) (xs : List α) : dropWhileEnd drop xs <+: xs := by
  rw [← List.reverse_suffix, dropWhileEnd, List.reverse_reverse]
  exact List.dropWhile_suffix drop

theorem trimmed_stripBoth (drop : α → Bool) (xs : List α) : Trimmed drop (stripBoth drop xs) where
  first x found := by
    obtain ⟨rest, whole⟩ := dropWhileEnd_prefix drop (xs.dropWhile drop)
    have here : (dropWhileEnd drop (xs.dropWhile drop)).head? = some x := found
    apply first_dropWhile drop xs
    rw [← whole, List.head?_append, here]
    rfl
  last := last_dropWhileEnd drop (xs.dropWhile drop)

theorem Trimmed.stripBoth_eq (trimmed : Trimmed drop xs) : stripBoth drop xs = xs := by
  rw [stripBoth, dropWhile_of_first trimmed.first, dropWhileEnd_of_last trimmed.last]

theorem stripBoth_dropWhile (drop : α → Bool) (xs : List α) :
    stripBoth drop (xs.dropWhile drop) = stripBoth drop xs := by
  rw [stripBoth, dropWhile_of_first (first_dropWhile drop xs), stripBoth]

theorem trimmed_of_forall (kept : ∀ x ∈ xs, drop x = false) : Trimmed drop xs where
  first x found := kept x (List.mem_of_mem_head? found)
  last x found := kept x (List.mem_of_mem_getLast? found)

theorem stripBoth_sublist (drop : α → Bool) (xs : List α) : (stripBoth drop xs).Sublist xs := by
  have inner := dropWhileEnd_prefix drop (xs.dropWhile drop)
  exact inner.sublist.trans (List.dropWhile_sublist drop)

theorem mem_of_mem_stripBoth {x : α} (member : x ∈ stripBoth drop xs) : x ∈ xs :=
  (stripBoth_sublist drop xs).subset member

theorem mem_dropWhile_of_kept {x : α} (kept : drop x = false) (member : x ∈ xs) :
    x ∈ xs.dropWhile drop := by
  rw [← List.takeWhile_append_dropWhile (p := drop) (l := xs)] at member
  rcases List.mem_append.mp member with taken | left
  · rw [List.all_eq_true.mp List.all_takeWhile x taken] at kept
    cases kept
  · exact left

theorem mem_stripBoth_of_kept {x : α} (kept : drop x = false) (member : x ∈ xs) :
    x ∈ stripBoth drop xs := by
  rw [stripBoth, dropWhileEnd, List.mem_reverse]
  exact mem_dropWhile_of_kept kept (List.mem_reverse.mpr (mem_dropWhile_of_kept kept member))

theorem dropWhileEnd_append_of_dropped {back : List α} (dropped : ∀ x ∈ back, drop x = true)
    (rest : List α) : dropWhileEnd drop (rest ++ back) = dropWhileEnd drop rest := by
  have reversed : ∀ x ∈ back.reverse, drop x = true :=
    fun x member => dropped x (List.mem_reverse.mp member)
  rw [dropWhileEnd, List.reverse_append, List.dropWhile_append_of_pos reversed, dropWhileEnd]

theorem stripBoth_surrounded {front back : List α} (frontDropped : ∀ x ∈ front, drop x = true)
    (backDropped : ∀ x ∈ back, drop x = true) (trimmed : Trimmed drop xs) :
    stripBoth drop (front ++ (xs ++ back)) = xs := by
  rw [stripBoth, List.dropWhile_append_of_pos frontDropped]
  cases xs with
  | nil =>
      rw [List.nil_append, ← List.append_nil back, List.dropWhile_append_of_pos backDropped]
      rfl
  | cons x rest =>
      rw [List.cons_append, dropWhile_cons_of_kept (trimmed.first x rfl), ← List.cons_append,
        dropWhileEnd_append_of_dropped backDropped, dropWhileEnd_of_last trimmed.last]

theorem exists_surrounding (drop : α → Bool) (xs : List α) :
    ∃ front back, xs = front ++ (stripBoth drop xs ++ back) ∧
      (∀ x ∈ front, drop x = true) ∧ ∀ x ∈ back, drop x = true := by
  refine ⟨xs.takeWhile drop, ((xs.dropWhile drop).reverse.takeWhile drop).reverse, ?_, ?_, ?_⟩
  · rw [stripBoth, dropWhileEnd, ← List.reverse_append, List.takeWhile_append_dropWhile,
      List.reverse_reverse, List.takeWhile_append_dropWhile]
  · exact List.all_eq_true.mp List.all_takeWhile
  · exact fun x member => List.all_eq_true.mp List.all_takeWhile x (List.mem_reverse.mp member)

section

variable {β : Type} (place : β → α)

theorem stripBoth_map (drop : α → Bool) (ys : List β) :
    stripBoth drop (ys.map place) = (stripBoth (drop ∘ place) ys).map place := by
  rw [stripBoth, List.dropWhile_map, dropWhileEnd, ← List.map_reverse, List.dropWhile_map,
    ← List.map_reverse, stripBoth, dropWhileEnd]

theorem trimmed_map_iff {drop : α → Bool} {ys : List β} :
    Trimmed drop (ys.map place) ↔ Trimmed (drop ∘ place) ys := by
  constructor
  · intro trimmed
    refine ⟨fun y found => trimmed.first (place y) ?_, fun y found => trimmed.last (place y) ?_⟩
    · rw [List.head?_map, found]
      rfl
    · rw [List.getLast?_map, found]
      rfl
  · intro trimmed
    refine ⟨fun x found => ?_, fun x found => ?_⟩
    · rw [List.head?_map] at found
      obtain ⟨y, first, rfl⟩ := Option.map_eq_some_iff.mp found
      exact trimmed.first y first
    · rw [List.getLast?_map] at found
      obtain ⟨y, last, rfl⟩ := Option.map_eq_some_iff.mp found
      exact trimmed.last y last

end

end JarAtlas
