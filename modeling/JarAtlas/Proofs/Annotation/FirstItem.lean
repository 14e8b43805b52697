/-
The first item of an element value.

An item may hold braces of its own, as path variables do.  If it closes every
brace that it opens, has no quote, and has commas and closing parentheses only
inside its braces, then it is taken whole and nothing behind it is taken, however
deep the braces are nested and whatever the text behind it is.
-/
import Mathlib.Data.List.Infix
import JarAtlas.Annotation.Route
import JarAtlas.ClassFile.Events
import JarAtlas.Proofs.Annotation.Parameters
import JarAtlas.Proofs.Text.Trimming

namespace JarAtlas
namespace Route

/-- Whether a text without quotes closes its own braces and `depth` braces opened
before it, and no comma or parenthesis in it could end an item. -/
structure Closes (depth : Nat) (text : List Char) : Prop where
  neverMoreClosed : ∀ front, front <+: text → front.count '}' ≤ depth + front.count '{'
  noneLeftOpen : text.count '}' = depth + text.count '{'
  noQuote : '"' ∉ text
  stopsInside : ∀ front stop, front ++ [stop] <+: text → stop = ',' ∨ stop = ')' →
    front.count '}' < depth + front.count '{'

/-- Whether a text can be an item: it closes exactly the braces that it opens. -/
def IsItem (text : String) : Prop :=
  Closes 0 text.toList

section

variable {depth next : Nat} {c : Char} {text : List Char}

theorem Closes.tail (closes : Closes depth (c :: text))
    (step : next + (if c = '}' then 1 else 0) = depth + (if c = '{' then 1 else 0)) :
    Closes next text where
  neverMoreClosed front within := by
    have bound := closes.neverMoreClosed (c :: front) (List.cons_prefix_cons.mpr ⟨rfl, within⟩)
    simp only [List.count_cons, beq_iff_eq] at bound
    omega
  noneLeftOpen := by
    have total := closes.noneLeftOpen
    simp only [List.count_cons, beq_iff_eq] at total
    omega
  noQuote := fun member => closes.noQuote (List.mem_cons_of_mem c member)
  stopsInside front stop within isStop := by
    have bound := closes.stopsInside (c :: front) stop (List.cons_prefix_cons.mpr ⟨rfl, within⟩)
      isStop
    simp only [List.count_cons, beq_iff_eq] at bound
    omega

theorem Closes.ne_quote (closes : Closes depth (c :: text)) : c ≠ '"' :=
  fun same => closes.noQuote (same ▸ List.mem_cons_self)

theorem Closes.opened (closes : Closes depth ('{' :: text)) : Closes (depth + 1) text :=
  closes.tail rfl

theorem Closes.closed (closes : Closes depth ('}' :: text)) :
    ∃ outer, depth = outer + 1 ∧ Closes outer text := by
  have bound := closes.neverMoreClosed ['}'] (List.cons_prefix_cons.mpr ⟨rfl, List.nil_prefix⟩)
  have positive : 1 ≤ depth := bound
  obtain ⟨outer, rfl⟩ := Nat.exists_eq_add_of_le' positive
  exact ⟨outer, rfl, closes.tail rfl⟩

theorem Closes.other (closes : Closes depth (c :: text)) (notOpening : c ≠ '{')
    (notClosing : c ≠ '}') : Closes depth text :=
  closes.tail (by rw [if_neg notOpening, if_neg notClosing])

theorem Closes.stop_inside (closes : Closes depth (c :: text)) (isStop : c = ',' ∨ c = ')') :
    0 < depth :=
  closes.stopsInside [] c (List.cons_prefix_cons.mpr ⟨rfl, List.nil_prefix⟩) isStop

theorem Closes.depth_eq_zero (closes : Closes depth []) : depth = 0 :=
  closes.noneLeftOpen.symm

theorem closes_iff_inits :
    Closes depth text ↔
      (∀ front ∈ text.inits, front.count '}' ≤ depth + front.count '{') ∧
        text.count '}' = depth + text.count '{' ∧ '"' ∉ text ∧
        ∀ whole ∈ text.inits, whole.getLast? = some ',' ∨ whole.getLast? = some ')' →
          whole.dropLast.count '}' < depth + whole.dropLast.count '{' := by
  constructor
  · intro closes
    refine ⟨fun front within => closes.neverMoreClosed front ((List.mem_inits _ _).mp within),
      closes.noneLeftOpen, closes.noQuote, fun whole within isStop => ?_⟩
    have started : whole ≠ [] := by
      rintro rfl
      rcases isStop with last | last
      · cases last
      · cases last
    obtain ⟨front, stop, rfl⟩ := (List.eq_nil_or_concat' whole).resolve_left started
    rw [List.getLast?_concat, Option.some_inj, Option.some_inj] at isStop
    rw [List.dropLast_concat]
    exact closes.stopsInside front stop ((List.mem_inits _ _).mp within) isStop
  · rintro ⟨bounded, total, noQuote, stops⟩
    refine ⟨fun front within => bounded front ((List.mem_inits _ _).mpr within), total, noQuote,
      fun front stop within isStop => ?_⟩
    have inside := stops (front ++ [stop]) ((List.mem_inits _ _).mpr within)
    rw [List.getLast?_concat, Option.some_inj, Option.some_inj, List.dropLast_concat] at inside
    exact inside isStop

instance : Decidable (Closes depth text) :=
  decidable_of_iff _ closes_iff_inits.symm

instance {text : String} : Decidable (IsItem text) :=
  inferInstanceAs (Decidable (Closes 0 text.toList))

end

/-! ### Taking an item -/

theorem takeItem_append {depth : Nat} {item : List Char} (closes : Closes depth item)
    (inList : Bool) (rest : List Char) :
    takeItem inList depth false (item ++ rest) = item ++ takeItem inList 0 false rest := by
  induction item generalizing depth with
  | nil => rw [closes.depth_eq_zero, List.nil_append, List.nil_append]
  | cons c item ih =>
      rw [List.cons_append, takeItem, if_neg closes.ne_quote, if_neg Bool.false_ne_true,
        List.cons_append]
      by_cases opening : c = '{'
      · subst opening
        rw [if_pos rfl, ih closes.opened]
      · rw [if_neg opening]
        by_cases closing : c = '}'
        · subst closing
          obtain ⟨outer, rfl, inner⟩ := closes.closed
          rw [if_pos rfl, if_pos (Nat.succ_pos outer), Nat.add_sub_cancel, ih inner]
        · have notStop : ¬((c = ',' ∨ c = ')') ∧ depth = 0) := by
            rintro ⟨isStop, outside⟩
            exact absurd outside (Nat.ne_of_gt (closes.stop_inside isStop))
          rw [if_neg closing, if_neg notStop, ih (closes.other opening closing)]

theorem takeItem_append_of_list_closed {depth : Nat} {text : List Char}
    (closes : Closes (depth + 1) text) (rest : List Char) :
    takeItem true depth false (text ++ rest) = takeItem true depth false text := by
  induction text generalizing depth with
  | nil => exact absurd closes.depth_eq_zero (Nat.succ_ne_zero depth)
  | cons c text ih =>
      rw [List.cons_append, takeItem, takeItem, if_neg closes.ne_quote, if_neg closes.ne_quote,
        if_neg Bool.false_ne_true, if_neg Bool.false_ne_true]
      by_cases opening : c = '{'
      · subst opening
        rw [if_pos rfl, if_pos rfl, ih closes.opened]
      · rw [if_neg opening, if_neg opening]
        by_cases closing : c = '}'
        · subst closing
          obtain ⟨outer, same, inner⟩ := closes.closed
          obtain rfl := Nat.succ.inj same
          rw [if_pos (rfl : '}' = '}'), if_pos (rfl : '}' = '}')]
          cases depth with
          | zero => rfl
          | succ around =>
              rw [if_pos (Nat.succ_pos around), if_pos (Nat.succ_pos around),
                Nat.add_sub_cancel, ih inner]
        · rw [if_neg closing, if_neg closing, ih (closes.other opening closing)]

theorem takeItem_before_comma (inList : Bool) (depth : Nat) (quoted : Bool)
    (text : List Char) :
    (∀ rest other, takeItem inList depth quoted (text ++ ',' :: rest) =
        takeItem inList depth quoted (text ++ ',' :: other)) ∨
      ∀ rest, ',' ∈ takeItem inList depth quoted (text ++ ',' :: rest) := by
  induction text generalizing depth quoted with
  | nil =>
      simp only [List.nil_append]
      cases quoted with
      | true => exact Or.inr fun rest => List.mem_cons_self
      | false =>
          cases depth with
          | zero => exact Or.inl fun rest other => rfl
          | succ around => exact Or.inr fun rest => List.mem_cons_self
  | cons c text ih =>
      have goesOn : ∀ depth quoted,
          (∀ rest other, c :: takeItem inList depth quoted (text ++ ',' :: rest) =
              c :: takeItem inList depth quoted (text ++ ',' :: other)) ∨
            ∀ rest, ',' ∈ c :: takeItem inList depth quoted (text ++ ',' :: rest) := by
        intro depth quoted
        rcases ih depth quoted with same | taken
        · exact Or.inl fun rest other => congrArg (c :: ·) (same rest other)
        · exact Or.inr fun rest => List.mem_cons_of_mem c (taken rest)
      simp only [List.cons_append, takeItem]
      split
      · exact goesOn depth _
      · split
        · exact goesOn depth _
        · split
          · exact goesOn (depth + 1) _
          · split
            · split
              · exact goesOn (depth - 1) _
              · split
                · exact Or.inl fun rest other => rfl
                · exact goesOn depth _
            · split
              · exact Or.inl fun rest other => rfl
              · exact goesOn depth _

/-! ### First items -/

def bareItem (item : List Char) : List Char :=
  trimBlanks (stripBoth (· = '"') (trimBlanks item))

theorem bareItem_of_no_quote {item : List Char} (noQuote : '"' ∉ item) :
    bareItem item = trimBlanks item := by
  have unquoted : Trimmed (fun c => decide (c = '"')) (trimBlanks item) :=
    trimmed_of_forall fun c member =>
      decide_eq_false fun same => noQuote (same ▸ mem_of_mem_stripBoth member)
  rw [bareItem, unquoted.stripBoth_eq]
  exact (trimmed_stripBoth isBlank item).stripBoth_eq

theorem firstItem_list (list : List Char) :
    firstItem ('{' :: list) = bareItem (takeItem true 0 false list) :=
  rfl

theorem firstItem_bare {text : List Char} (bare : text.head? ≠ some '{') :
    firstItem text = bareItem (takeItem false 0 false text) := by
  have noList : afterStart? ['{'] text = none := by
    cases text with
    | nil => rfl
    | cons c rest =>
        have different : c ≠ '{' := fun same => bare (congrArg some same)
        rw [afterStart?, if_neg different.symm]
  rw [firstItem, noList, bareItem]

theorem comma_mem_bareItem {item : List Char} (taken : ',' ∈ item) : ',' ∈ bareItem item := by
  have trimmed : ',' ∈ trimBlanks item := mem_stripBoth_of_kept (by decide) taken
  have unquoted : ',' ∈ stripBoth (fun c => decide (c = '"')) (trimBlanks item) :=
    mem_stripBoth_of_kept (by decide) trimmed
  exact mem_stripBoth_of_kept (by decide) unquoted

/-- A first item that does not end before a comma has the comma in it; otherwise
it is the same whatever stands behind the comma. -/
theorem firstItem_before_comma (text : List Char) :
    (∀ rest other, firstItem (text ++ ',' :: rest) = firstItem (text ++ ',' :: other)) ∨
      ∀ rest, ',' ∈ firstItem (text ++ ',' :: rest) := by
  obtain ⟨inList, start, taken⟩ : ∃ inList start, ∀ rest, firstItem (text ++ ',' :: rest) =
      bareItem (takeItem inList 0 false (start ++ ',' :: rest)) := by
    by_cases list : text.head? = some '{'
    · obtain ⟨start, rfl⟩ := List.head?_eq_some_iff.mp list
      exact ⟨true, start, fun rest => firstItem_list _⟩
    · refine ⟨false, text, fun rest => firstItem_bare ?_⟩
      cases text with
      | nil => exact fun same => absurd (Option.some.inj same) (by decide)
      | cons c text => exact list
  rcases takeItem_before_comma inList 0 false start with same | comma
  · exact Or.inl fun rest other => by rw [taken, taken, same rest other]
  · exact Or.inr fun rest => by rw [taken]; exact comma_mem_bareItem (comma rest)

/-- Whether an item ends before a text, or the text is empty. -/
def EndsItem (behind : List Char) : Prop :=
  ∀ stop ∈ behind.head?, stop = ',' ∨ stop = ')'

theorem endsItem_closedBy (rest : List String) : EndsItem (closedBy ')' rest) := by
  obtain ⟨stop, later, closed, isStop⟩ := exists_closedBy_eq_cons ')' rest
  rw [EndsItem, closed]
  intro first same
  rw [← Option.some.inj same]
  exact isStop

theorem EndsItem.append {front back : List Char} (frontEnds : EndsItem front)
    (backEnds : EndsItem back) : EndsItem (front ++ back) := by
  cases front with
  | nil => exact backEnds
  | cons c front => exact frontEnds

theorem EndsItem.takeItem_eq_nil {behind : List Char} (ends : EndsItem behind)
    (inList : Bool) : takeItem inList 0 false behind = [] := by
  cases behind with
  | nil => rfl
  | cons stop later => rcases ends stop rfl with rfl | rfl <;> rfl

theorem EndsItem.dropBlanks_append {behind : List Char} (ends : EndsItem behind)
    (text : List Char) :
    (text ++ behind).dropWhile isBlank = text.dropWhile isBlank ++ behind := by
  cases behind with
  | nil => rw [List.append_nil, List.append_nil]
  | cons stop later =>
      have noBlank : isBlank stop = false := by
        rcases ends stop rfl with rfl | rfl
        · decide
        · decide
      exact dropWhile_append_of_kept noBlank text later

theorem firstItem_arrayText {items : List String} (first : ∀ item ∈ items.head?, IsItem item)
    (behind : List Char) :
    firstItem ((ClassFile.Element.arrayText items).toList ++ behind) =
      trimBlanks (items.headD "").toList := by
  cases items with
  | nil => rfl
  | cons item rest =>
      have isItem := first item rfl
      have written : (ClassFile.Element.arrayText (item :: rest)).toList =
          '{' :: (item.toList ++ closedBy '}' rest) := by
        rw [ClassFile.Element.arrayText, String.toList_append, String.toList_append,
          List.append_assoc, ← toList_intercalate_closed]
        rfl
      have ended : takeItem true 0 false (closedBy '}' rest ++ behind) = [] := by
        obtain ⟨stop, later, closed, isMark⟩ := exists_closedBy_eq_cons '}' rest
        rw [closed]
        rcases isMark with rfl | rfl
        · rfl
        · rfl
      rw [written, List.cons_append, firstItem_list, List.append_assoc, takeItem_append isItem,
        ended, List.append_nil, bareItem_of_no_quote isItem.noQuote]
      rfl

theorem Closes.dropBlanks {depth : Nat} {text : List Char} (closes : Closes depth text) :
    Closes depth (text.dropWhile isBlank) := by
  induction text with
  | nil => exact closes
  | cons c text ih =>
      by_cases blank : isBlank c = true
      · rw [List.dropWhile_cons_of_pos blank]
        refine ih (closes.other ?_ ?_)
        · rintro rfl
          exact absurd blank (by decide)
        · rintro rfl
          exact absurd blank (by decide)
      · rw [List.dropWhile_cons_of_neg blank]
        exact closes

theorem firstItem_text {item : List Char} (closes : Closes 0 item)
    (bare : (item.dropWhile isBlank).head? ≠ some '{') {behind : List Char}
    (ends : EndsItem behind) :
    firstItem (item.dropWhile isBlank ++ behind) = trimBlanks item := by
  have stillBare : (item.dropWhile isBlank ++ behind).head? ≠ some '{' := by
    cases left : item.dropWhile isBlank with
    | nil =>
        intro opened
        have stopped := ends '{' opened
        exact absurd stopped (by decide)
    | cons c others =>
        rw [left] at bare
        exact bare
  rw [firstItem_bare stillBare, takeItem_append closes.dropBlanks, ends.takeItem_eq_nil,
    List.append_nil, bareItem_of_no_quote closes.dropBlanks.noQuote]
  exact stripBoth_dropWhile isBlank item

theorem firstItem_braced {text : List Char} (closes : Closes 0 ('{' :: text))
    (behind : List Char) :
    firstItem ('{' :: text ++ behind) = bareItem (takeItem true 0 false text) := by
  rw [List.cons_append, firstItem_list, takeItem_append_of_list_closed closes.opened]

end Route
end JarAtlas
