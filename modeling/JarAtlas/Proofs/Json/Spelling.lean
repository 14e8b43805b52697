/-
Spellings of JSON documents.

A value can be spelled in many ways, which differ in the blanks between its
parts.  The reader takes every spelling of a value for this value, whatever
follows, as long as it does not lengthen a number.  The induction is on the
spelling, over values, items and fields at once; each of them costs the reader
one unit of fuel and takes at least one character from the text.
-/
import JarAtlas.Proofs.Json.Text

namespace JarAtlas
namespace Json

def IsGap (text : List Char) : Prop :=
  ∀ c ∈ text, isSpace c = true

mutual

inductive Spells : Json → List Char → Prop
  | null : Spells .null "null".toList
  | true : Spells (.bool true) "true".toList
  | false : Spells (.bool false) "false".toList
  | number (value : Nat) : Spells (.number value) (Nat.toDigits 10 value)
  | string (text : String) : Spells (.string text) (quoted text)
  | emptyArray {gap : List Char} (isGap : IsGap gap) :
      Spells (.array []) ('[' :: (gap ++ [']']))
  | array {items : List Json} {inner : List Char} (spelled : SpellsItems items inner) :
      Spells (.array items) ('[' :: inner)
  | emptyObject {gap : List Char} (isGap : IsGap gap) :
      Spells (.object []) ('{' :: (gap ++ ['}']))
  | object {fields : List (String × Json)} {inner : List Char}
      (spelled : SpellsFields fields inner) : Spells (.object fields) ('{' :: inner)

/-- The items of an array, one or more, up to and with the closing bracket. -/
inductive SpellsItems : List Json → List Char → Prop
  | last {item : Json} {before text after : List Char} (beforeGap : IsGap before)
      (spelled : Spells item text) (afterGap : IsGap after) :
      SpellsItems [item] (before ++ (text ++ (after ++ [']'])))
  | more {item : Json} {items : List Json} {before text after others : List Char}
      (beforeGap : IsGap before) (spelled : Spells item text) (afterGap : IsGap after)
      (othersSpelled : SpellsItems items others) :
      SpellsItems (item :: items) (before ++ (text ++ (after ++ ',' :: others)))

/-- The fields of an object, one or more, up to and with the closing brace. -/
inductive SpellsFields : List (String × Json) → List Char → Prop
  | last {name : String} {value : Json} {before named inside text after : List Char}
      (beforeGap : IsGap before) (namedGap : IsGap named) (insideGap : IsGap inside)
      (spelled : Spells value text) (afterGap : IsGap after) :
      SpellsFields [(name, value)]
        (before ++ (quoted name ++ (named ++ ':' :: (inside ++ (text ++ (after ++ ['}']))))))
  | more {name : String} {value : Json} {fields : List (String × Json)}
      {before named inside text after others : List Char}
      (beforeGap : IsGap before) (namedGap : IsGap named) (insideGap : IsGap inside)
      (spelled : Spells value text) (afterGap : IsGap after)
      (othersSpelled : SpellsFields fields others) :
      SpellsFields ((name, value) :: fields)
        (before ++ (quoted name ++ (named ++ ':' :: (inside ++ (text ++ (after ++ ',' :: others))))))

end

theorem isGap_nil : IsGap [] := nofun

theorem dropWhile_isSpace_of_false {c : Char} (noSpace : isSpace c = false) (rest : List Char) :
    (c :: rest).dropWhile isSpace = c :: rest :=
  List.dropWhile_cons_of_neg (by rw [noSpace]; exact Bool.false_ne_true)

theorem dropWhile_isSpace_gap {gap : List Char} (isGap : IsGap gap) (rest : List Char) :
    (gap ++ rest).dropWhile isSpace = rest.dropWhile isSpace :=
  List.dropWhile_append_of_pos isGap

theorem dropWhile_isSpace_gap_cons {gap : List Char} (isGap : IsGap gap) {c : Char}
    (noSpace : isSpace c = false) (rest : List Char) :
    (gap ++ c :: rest).dropWhile isSpace = c :: rest := by
  rw [dropWhile_isSpace_gap isGap, dropWhile_isSpace_of_false noSpace]

theorem endsNumber_gap {gap : List Char} (isGap : IsGap gap) {c : Char}
    (noDigit : isDecimalDigit c = false) (rest : List Char) :
    EndsNumber (gap ++ c :: rest) := by
  cases gap with
  | nil => exact endsNumber_cons noDigit rest
  | cons space gap =>
      refine endsNumber_cons ?_ _
      have blank := isGap space List.mem_cons_self
      simp only [isSpace, Bool.or_eq_true, decide_eq_true_eq] at blank
      rcases blank with ((rfl | rfl) | rfl) | rfl <;> decide

theorem readValue?_gap {gap : List Char} (isGap : IsGap gap) (fuel : Nat) (text : List Char) :
    readValue? fuel (gap ++ text) = readValue? fuel text := by
  cases fuel with
  | zero => rfl
  | succ fuel => rw [readValue?, readValue?, dropWhile_isSpace_gap isGap]

/-- A character that begins a value: no blank, and not the end of a list. -/
def Begins (c : Char) : Prop :=
  isSpace c = false ∧ c ≠ ']'

theorem begins_of_isDecimalDigit {c : Char} (digit : isDecimalDigit c = true) : Begins c := by
  constructor
  · rw [Bool.eq_false_iff]
    intro space
    simp only [isSpace, Bool.or_eq_true, decide_eq_true_eq] at space
    rcases space with ((rfl | rfl) | rfl) | rfl <;> revert digit <;> decide
  · rintro rfl
    revert digit
    decide

theorem exists_toDigits_eq_cons (number : Nat) :
    ∃ c rest, Nat.toDigits 10 number = c :: rest ∧ isDecimalDigit c = true := by
  cases digits : Nat.toDigits 10 number with
  | nil => exact (Nat.toDigits_ne_nil digits).elim
  | cons c rest => exact ⟨c, rest, rfl, isDecimalDigit_of_mem (digits ▸ List.mem_cons_self)⟩

theorem Spells.exists_eq_cons {value : Json} {text : List Char} (spelled : Spells value text) :
    ∃ c rest, text = c :: rest ∧ Begins c := by
  cases spelled with
  | null => exact ⟨'n', _, rfl, by decide, by decide⟩
  | true => exact ⟨'t', _, rfl, by decide, by decide⟩
  | false => exact ⟨'f', _, rfl, by decide, by decide⟩
  | number value =>
      obtain ⟨c, rest, digits, digit⟩ := exists_toDigits_eq_cons value
      exact ⟨c, rest, digits, begins_of_isDecimalDigit digit⟩
  | string text => exact ⟨'"', _, rfl, by decide, by decide⟩
  | emptyArray _ => exact ⟨'[', _, rfl, by decide, by decide⟩
  | array _ => exact ⟨'[', _, rfl, by decide, by decide⟩
  | emptyObject _ => exact ⟨'{', _, rfl, by decide, by decide⟩
  | object _ => exact ⟨'{', _, rfl, by decide, by decide⟩

theorem SpellsItems.exists_eq_gap {items : List Json} {text : List Char}
    (spelled : SpellsItems items text) :
    ∃ gap c rest, text = gap ++ c :: rest ∧ IsGap gap ∧ Begins c := by
  cases spelled with
  | @last _ before _ after beforeGap first _ =>
      obtain ⟨c, rest, rfl, begins⟩ := first.exists_eq_cons
      exact ⟨before, c, rest ++ (after ++ [']']), rfl, beforeGap, begins⟩
  | @more _ _ before _ after others beforeGap first _ _ =>
      obtain ⟨c, rest, rfl, begins⟩ := first.exists_eq_cons
      exact ⟨before, c, rest ++ (after ++ ',' :: others), rfl, beforeGap, begins⟩

theorem SpellsFields.exists_eq_gap {fields : List (String × Json)} {text : List Char}
    (spelled : SpellsFields fields text) :
    ∃ gap rest, text = gap ++ '"' :: rest ∧ IsGap gap := by
  cases spelled with
  | last beforeGap _ _ _ _ => exact ⟨_, _, rfl, beforeGap⟩
  | more beforeGap _ _ _ _ _ => exact ⟨_, _, rfl, beforeGap⟩

/-! ### Steps of the reader -/

theorem readValue?_quote (fuel : Nat) (rest : List Char) :
    readValue? (fuel + 1) ('"' :: rest) =
      (quotedRest? [] rest).map fun (content, after) => (.string content, after) :=
  rfl

theorem readValue?_bracket (fuel : Nat) (rest : List Char) :
    readValue? (fuel + 1) ('[' :: rest) =
      match rest.dropWhile isSpace with
      | ']' :: after => some (.array [], after)
      | _ => readItems? fuel [] rest :=
  rfl

theorem readValue?_brace (fuel : Nat) (rest : List Char) :
    readValue? (fuel + 1) ('{' :: rest) =
      match rest.dropWhile isSpace with
      | '}' :: after => some (.object [], after)
      | _ => readFields? fuel [] rest :=
  rfl

theorem readValue?_quoted (fuel : Nat) (text : String) (rest : List Char) :
    readValue? (fuel + 1) (quoted text ++ rest) = some (.string text, rest) := by
  obtain ⟨inner, shape, read⟩ := quotedRest?_quoted text rest
  rw [shape, readValue?_quote, read, Option.map_some]

theorem readValue?_start {c : Char} (begins : Begins c) (notQuote : c ≠ '"')
    (notArray : c ≠ '[') (notObject : c ≠ '{') (fuel : Nat) (more : List Char) :
    readValue? (fuel + 1) (c :: more) = (readNumber? (c :: more)).or (readWord? (c :: more)) := by
  rw [readValue?, dropWhile_isSpace_of_false begins.1]
  split <;> grind

theorem readValue?_number (fuel value : Nat) {rest : List Char} (ends : EndsNumber rest) :
    readValue? (fuel + 1) (Nat.toDigits 10 value ++ rest) = some (.number value, rest) := by
  have read := readNumber?_toDigits value ends
  obtain ⟨c, more, digits, digit⟩ := exists_toDigits_eq_cons value
  rw [digits, List.cons_append] at read
  have ne : ∀ other, isDecimalDigit other = false → c ≠ other := by
    rintro other noDigit rfl
    exact Bool.false_ne_true (noDigit.symm.trans digit)
  rw [digits, List.cons_append,
    readValue?_start (begins_of_isDecimalDigit digit) (ne _ (by decide)) (ne _ (by decide))
      (ne _ (by decide)), read, Option.some_or]

theorem readValue?_emptyArray {gap : List Char} (isGap : IsGap gap) (fuel : Nat)
    (rest : List Char) :
    readValue? (fuel + 1) ('[' :: (gap ++ ']' :: rest)) = some (.array [], rest) := by
  rw [readValue?_bracket, dropWhile_isSpace_gap_cons isGap (by decide)]
  rfl

theorem readValue?_array {gap : List Char} (isGap : IsGap gap) {c : Char} (begins : Begins c)
    (fuel : Nat) (more : List Char) :
    readValue? (fuel + 1) ('[' :: (gap ++ c :: more)) = readItems? fuel [] (gap ++ c :: more) := by
  obtain ⟨noSpace, notEnd⟩ := begins
  rw [readValue?_bracket, dropWhile_isSpace_gap_cons isGap noSpace]
  split <;> grind

theorem readValue?_emptyObject {gap : List Char} (isGap : IsGap gap) (fuel : Nat)
    (rest : List Char) :
    readValue? (fuel + 1) ('{' :: (gap ++ '}' :: rest)) = some (.object [], rest) := by
  rw [readValue?_brace, dropWhile_isSpace_gap_cons isGap (by decide)]
  rfl

theorem readValue?_object {gap : List Char} (isGap : IsGap gap) (fuel : Nat)
    (more : List Char) :
    readValue? (fuel + 1) ('{' :: (gap ++ '"' :: more)) =
      readFields? fuel [] (gap ++ '"' :: more) := by
  rw [readValue?_brace, dropWhile_isSpace_gap_cons isGap (by decide)]
  rfl

theorem fieldName?_quoted {before named : List Char} (beforeGap : IsGap before)
    (namedGap : IsGap named) (name : String) (rest : List Char) :
    fieldName? (before ++ (quoted name ++ (named ++ ':' :: rest))) = some (name, rest) := by
  obtain ⟨inner, shape, read⟩ := quotedRest?_quoted name (named ++ ':' :: rest)
  rw [shape, fieldName?, dropWhile_isSpace_gap_cons beforeGap (by decide)]
  simp only [read, dropWhile_isSpace_gap_cons (c := ':') namedGap (by decide)]

section

variable {fuel : Nat} {text after rest : List Char} {value : Json}

theorem readItems?_of_read (read : readValue? fuel text = some (value, rest))
    (done : List Json) :
    readItems? (fuel + 1) done text =
      match rest.dropWhile isSpace with
      | ',' :: after => readItems? fuel (value :: done) after
      | ']' :: after => some (.array (value :: done).reverse, after)
      | _ => none := by
  rewrite [readItems?, read]
  rfl

theorem readItems?_comma (afterGap : IsGap after)
    (read : readValue? fuel text = some (value, after ++ ',' :: rest)) (done : List Json) :
    readItems? (fuel + 1) done text = readItems? fuel (value :: done) rest := by
  rw [readItems?_of_read read, dropWhile_isSpace_gap_cons afterGap (by decide)]
  rfl

theorem readItems?_end (afterGap : IsGap after)
    (read : readValue? fuel text = some (value, after ++ ']' :: rest)) (done : List Json) :
    readItems? (fuel + 1) done text = some (.array (done.reverse ++ [value]), rest) := by
  rw [readItems?_of_read read, dropWhile_isSpace_gap_cons afterGap (by decide),
    ← List.reverse_cons]
  rfl

theorem readFields?_of_read {start : List Char} {name : String}
    (named : fieldName? text = some (name, start))
    (read : readValue? fuel start = some (value, rest)) (done : List (String × Json)) :
    readFields? (fuel + 1) done text =
      match rest.dropWhile isSpace with
      | ',' :: after => readFields? fuel ((name, value) :: done) after
      | '}' :: after => some (.object ((name, value) :: done).reverse, after)
      | _ => none := by
  rewrite [readFields?, named]
  dsimp only
  rewrite [read]
  rfl

theorem readFields?_comma {start : List Char} {name : String}
    (named : fieldName? text = some (name, start)) (afterGap : IsGap after)
    (read : readValue? fuel start = some (value, after ++ ',' :: rest))
    (done : List (String × Json)) :
    readFields? (fuel + 1) done text = readFields? fuel ((name, value) :: done) rest := by
  rw [readFields?_of_read named read, dropWhile_isSpace_gap_cons afterGap (by decide)]
  rfl

theorem readFields?_end {start : List Char} {name : String}
    (named : fieldName? text = some (name, start)) (afterGap : IsGap after)
    (read : readValue? fuel start = some (value, after ++ '}' :: rest))
    (done : List (String × Json)) :
    readFields? (fuel + 1) done text = some (.object (done.reverse ++ [(name, value)]), rest) := by
  rw [readFields?_of_read named read, dropWhile_isSpace_gap_cons afterGap (by decide),
    ← List.reverse_cons]
  rfl

end

/-! ### Whole documents -/

mutual

theorem readValue?_of_spells {value : Json} {text : List Char} (spelled : Spells value text)
    {fuel : Nat} (enough : text.length < fuel) {rest : List Char} (ends : EndsNumber rest) :
    readValue? fuel (text ++ rest) = some (value, rest) := by
  cases fuel with
  | zero => exact (Nat.not_lt_zero _ enough).elim
  | succ fuel =>
      match spelled with
      | .null => rfl
      | .true => rfl
      | .false => rfl
      | .number value => exact readValue?_number fuel value ends
      | .string text => exact readValue?_quoted fuel text rest
      | .emptyArray isGap =>
          rw [List.cons_append, List.append_assoc]
          exact readValue?_emptyArray isGap fuel rest
      | .array items =>
          have read := readItems?_of_spells items (Nat.lt_of_succ_lt_succ enough) [] rest
          obtain ⟨gap, c, more, rfl, isGap, begins⟩ := items.exists_eq_gap
          rw [List.append_assoc, List.cons_append] at read
          rw [List.cons_append, List.append_assoc, List.cons_append,
            readValue?_array isGap begins, read]
          rfl
      | .emptyObject isGap =>
          rw [List.cons_append, List.append_assoc]
          exact readValue?_emptyObject isGap fuel rest
      | .object fields =>
          have read := readFields?_of_spells fields (Nat.lt_of_succ_lt_succ enough) [] rest
          obtain ⟨gap, more, rfl, isGap⟩ := fields.exists_eq_gap
          rw [List.append_assoc, List.cons_append] at read
          rw [List.cons_append, List.append_assoc, List.cons_append,
            readValue?_object isGap, read]
          rfl

theorem readItems?_of_spells {items : List Json} {text : List Char}
    (spelled : SpellsItems items text) {fuel : Nat} (enough : text.length < fuel)
    (done : List Json) (rest : List Char) :
    readItems? fuel done (text ++ rest) = some (.array (done.reverse ++ items), rest) := by
  cases fuel with
  | zero => exact (Nat.not_lt_zero _ enough).elim
  | succ fuel =>
      match spelled with
      | @SpellsItems.last _ _ inner _ beforeGap item afterGap =>
          simp only [List.length_append, List.length_cons, List.length_nil] at enough
          have small : inner.length < fuel := by omega
          have read := readValue?_of_spells item small
            (endsNumber_gap afterGap (c := ']') (by decide) rest)
          rw [← readValue?_gap beforeGap] at read
          simp only [List.append_assoc, List.singleton_append]
          exact readItems?_end afterGap read done
      | @SpellsItems.more _ _ _ inner _ others beforeGap item afterGap more =>
          simp only [List.length_append, List.length_cons] at enough
          have small : inner.length < fuel := by omega
          have read := readValue?_of_spells item small
            (endsNumber_gap afterGap (c := ',') (by decide) (others ++ rest))
          rw [← readValue?_gap beforeGap] at read
          simp only [List.append_assoc, List.cons_append]
          rw [readItems?_comma afterGap read, readItems?_of_spells more (by omega),
            List.reverse_cons, List.append_assoc, List.singleton_append]

theorem readFields?_of_spells {fields : List (String × Json)} {text : List Char}
    (spelled : SpellsFields fields text) {fuel : Nat} (enough : text.length < fuel)
    (done : List (String × Json)) (rest : List Char) :
    readFields? fuel done (text ++ rest) = some (.object (done.reverse ++ fields), rest) := by
  cases fuel with
  | zero => exact (Nat.not_lt_zero _ enough).elim
  | succ fuel =>
      match spelled with
      | @SpellsFields.last name _ _ _ _ inner _ beforeGap namedGap insideGap value afterGap =>
          simp only [List.length_append, List.length_cons, List.length_nil] at enough
          have small : inner.length < fuel := by omega
          have read := readValue?_of_spells value small
            (endsNumber_gap afterGap (c := '}') (by decide) rest)
          rw [← readValue?_gap insideGap] at read
          simp only [List.append_assoc, List.cons_append, List.nil_append]
          exact readFields?_end (fieldName?_quoted beforeGap namedGap name _) afterGap read done
      | @SpellsFields.more name _ _ _ _ _ inner _ others beforeGap namedGap insideGap value
          afterGap more =>
          simp only [List.length_append, List.length_cons] at enough
          have small : inner.length < fuel := by omega
          have read := readValue?_of_spells value small
            (endsNumber_gap afterGap (c := ',') (by decide) (others ++ rest))
          rw [← readValue?_gap insideGap] at read
          simp only [List.append_assoc, List.cons_append]
          rw [readFields?_comma (fieldName?_quoted beforeGap namedGap name _) afterGap read,
            readFields?_of_spells more (by omega), List.reverse_cons, List.append_assoc,
            List.singleton_append]

end

theorem ofText?_of_spells {value : Json} {text : List Char} (spelled : Spells value text) :
    ofText? (String.ofList text) = some value := by
  have read := readValue?_of_spells spelled (Nat.lt_succ_self _) endsNumber_nil
  rw [List.append_nil] at read
  rw [ofText?, String.toList_ofList]
  simp only [read, List.all_nil, if_true]

end Json
end JarAtlas
