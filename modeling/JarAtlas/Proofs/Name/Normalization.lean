/-
Namespaces from texts.

The namespace that a text means is found in two steps: the blanks around the text are
dropped, and after that the separators around the rest.  The second step can lay blanks
open that the first one would have dropped.  Then the name of the namespace has a blank
at an end, and read as a text itself it means another namespace.  This happens exactly
if some of the separators around the name stand outside of blanks.
-/
import JarAtlas.Proofs.Name.Admission
import JarAtlas.Proofs.Name.Segments

namespace JarAtlas

theorem isBlank_replace {old new : Char} (oldKept : isBlank old = false)
    (newKept : isBlank new = false) :
    (isBlank ∘ fun c => if c = old then new else c) = isBlank := by
  funext c
  rw [Function.comp_apply]
  split
  · next replaced => rw [newKept, replaced, oldKept]
  · rfl

theorem trimBlanks_slashed (name : String) :
    trimBlanks (slashed name).toList =
      (slashed (String.ofList (trimBlanks name.toList))).toList := by
  rw [slashed, slashed, String.toList_map, String.toList_map, String.toList_ofList, trimBlanks,
    stripBoth_map, isBlank_replace (by decide) (by decide), trimBlanks]

theorem slash_not_mem_trimBlanks {name : String} (free : '/' ∉ name.toList) :
    '/' ∉ (String.ofList (trimBlanks name.toList)).toList := by
  rw [String.toList_ofList]
  exact fun member => free (mem_of_mem_stripBoth member)

theorem trimmed_dotted_iff {name : List Char} :
    Trimmed isBlank (dotted (String.ofList name)).toList ↔ Trimmed isBlank name := by
  rw [dotted, String.toList_map, String.toList_ofList, trimmed_map_iff,
    isBlank_replace (by decide) (by decide)]

namespace Namespace

def isSeparator (c : Char) : Bool :=
  c = '.' || c = '/'

theorem isBlank_of_isSeparator {c : Char} (separates : isSeparator c = true) :
    isBlank c = false := by
  rw [isSeparator, Bool.or_eq_true, decide_eq_true_eq, decide_eq_true_eq] at separates
  rcases separates with rfl | rfl <;> decide

theorem stripBoth_dotted (name : List Char) :
    stripBoth (· = '.') (dotted (String.ofList name)).toList =
      (dotted (String.ofList (stripBoth isSeparator name))).toList := by
  have drops : ((fun c : Char => decide (c = '.')) ∘ fun c => if c = '/' then '.' else c) =
      isSeparator := by
    funext c
    rw [Function.comp_apply, isSeparator]
    by_cases slash : c = '/'
    · rw [if_pos slash, decide_eq_true slash, Bool.or_true]
      rfl
    · rw [if_neg slash, decide_eq_false slash, Bool.or_false]
  rw [dotted, dotted, String.toList_map, String.toList_map, String.toList_ofList,
    String.toList_ofList, stripBoth_map, drops]

/-- Whether a text is a name with separators right around it, and with blanks only
outside of these. -/
def IsNeat (text : String) : Prop :=
  ∃ blanks separators name moreSeparators moreBlanks,
    text.toList = blanks ++ ((separators ++ (name ++ moreSeparators)) ++ moreBlanks) ∧
      (∀ c ∈ blanks ++ moreBlanks, isBlank c = true) ∧
      (∀ c ∈ separators ++ moreSeparators, isSeparator c = true) ∧
      Trimmed (fun c => isBlank c || isSeparator c) name

theorem trimmed_or_iff {first second : Char → Bool} {name : List Char} :
    Trimmed (fun c => first c || second c) name ↔ Trimmed first name ∧ Trimmed second name := by
  constructor
  · intro trimmed
    have start (c : Char) (found : c ∈ name.head?) := Bool.or_eq_false_iff.mp (trimmed.first c found)
    have finish (c : Char) (found : c ∈ name.getLast?) :=
      Bool.or_eq_false_iff.mp (trimmed.last c found)
    exact ⟨⟨fun c found => (start c found).1, fun c found => (finish c found).1⟩,
      ⟨fun c found => (start c found).2, fun c found => (finish c found).2⟩⟩
  · rintro ⟨trimmed, other⟩
    exact ⟨fun c found => Bool.or_eq_false_iff.mpr ⟨trimmed.first c found, other.first c found⟩,
      fun c found => Bool.or_eq_false_iff.mpr ⟨trimmed.last c found, other.last c found⟩⟩

theorem trimmed_isBlank_surrounded {separators name more : List Char}
    (separate : ∀ c ∈ separators ++ more, isSeparator c = true) (trimmed : Trimmed isBlank name) :
    Trimmed isBlank (separators ++ (name ++ more)) := by
  have outer {c : Char} (member : c ∈ separators ++ more) : isBlank c = false :=
    isBlank_of_isSeparator (separate c member)
  constructor
  · intro c found
    rw [List.head?_append, List.head?_append, Option.mem_def, Option.or_eq_some_iff,
      Option.or_eq_some_iff] at found
    rcases found with inFront | ⟨-, inName | ⟨-, inBack⟩⟩
    · exact outer (List.mem_append_left _ (List.mem_of_mem_head? inFront))
    · exact trimmed.first c inName
    · exact outer (List.mem_append_right _ (List.mem_of_mem_head? inBack))
  · intro c found
    rw [List.getLast?_append, List.getLast?_append, Option.mem_def, Option.or_eq_some_iff,
      Option.or_eq_some_iff] at found
    rcases found with (inBack | ⟨-, inName⟩) | ⟨-, inFront⟩
    · exact outer (List.mem_append_right _ (List.mem_of_mem_getLast? inBack))
    · exact trimmed.last c inName
    · exact outer (List.mem_append_left _ (List.mem_of_mem_getLast? inFront))

theorem isNeat_iff {text : String} :
    IsNeat text ↔ Trimmed isBlank (stripBoth isSeparator (trimBlanks text.toList)) := by
  constructor
  · rintro ⟨blanks, separators, name, moreSeparators, moreBlanks, whole, areBlanks, separate,
      trimmed⟩
    obtain ⟨noBlank, noSeparator⟩ := trimmed_or_iff.mp trimmed
    obtain ⟨before, after⟩ := List.forall_mem_append.mp areBlanks
    obtain ⟨inFront, inBack⟩ := List.forall_mem_append.mp separate
    rw [whole, trimBlanks,
      stripBoth_surrounded before after (trimmed_isBlank_surrounded separate noBlank),
      stripBoth_surrounded inFront inBack noSeparator]
    exact noBlank
  · intro noBlank
    obtain ⟨blanks, moreBlanks, whole, before, after⟩ := exists_surrounding isBlank text.toList
    obtain ⟨separators, moreSeparators, inner, inFront, inBack⟩ :=
      exists_surrounding isSeparator (trimBlanks text.toList)
    refine ⟨blanks, separators, _, moreSeparators, moreBlanks, ?_,
      List.forall_mem_append.mpr ⟨before, after⟩, List.forall_mem_append.mpr ⟨inFront, inBack⟩,
      trimmed_or_iff.mpr ⟨noBlank, trimmed_stripBoth _ _⟩⟩
    rw [← inner]
    exact whole

theorem name_ofText (text : String) :
    (ofText text).name =
      dotted (String.ofList (stripBoth isSeparator (trimBlanks text.toList))) := by
  apply String.toList_injective
  rw [ofText, String.toList_ofList, stripBoth_dotted]

theorem ofText_dots_off (text : String) : Trimmed (· = '.') (ofText text).name.toList := by
  rw [ofText, String.toList_ofList]
  exact trimmed_stripBoth _ _

theorem trimmed_name_iff (text : String) :
    Trimmed isBlank (ofText text).name.toList ↔ IsNeat text := by
  rw [name_ofText, trimmed_dotted_iff, isNeat_iff]

theorem mem_name_ofText {c : Char} {text : String} (member : c ∈ (ofText text).name.toList) :
    c ∈ text.toList ∨ c = '.' := by
  rw [name_ofText, dotted, String.toList_map, String.toList_ofList] at member
  obtain ⟨spelled, kept, rfl⟩ := List.mem_map.mp member
  split
  · exact Or.inr rfl
  · exact Or.inl (mem_of_mem_stripBoth (mem_of_mem_stripBoth kept))

theorem not_mem_name_ofText {c : Char} {text : String} (free : c ∉ text.toList)
    (noDot : c ≠ '.') : c ∉ (ofText text).name.toList := by
  intro member
  rcases mem_name_ofText member with inText | dot
  · exact free inText
  · exact noDot dot

variable {ns : Namespace}

theorem ofText_path (slashFree : '/' ∉ ns.name.toList) : ofText ns.path = ofText ns.name := by
  have trimmedFree := slash_not_mem_trimBlanks slashFree
  rw [ofText, ofText, path, trimBlanks_slashed, String.ofList_toList, dotted_slashed trimmedFree,
    dotted_of_slash_free trimmedFree]

theorem ofText_name_iff (slashFree : '/' ∉ ns.name.toList)
    (dotsOff : Trimmed (· = '.') ns.name.toList) :
    ofText ns.name = ns ↔ Trimmed isBlank ns.name.toList := by
  have trimmedFree := slash_not_mem_trimBlanks slashFree
  have again : (ofText ns.name).name.toList = stripBoth (· = '.') (trimBlanks ns.name.toList) := by
    rw [ofText, String.toList_ofList, dotted_of_slash_free trimmedFree, String.toList_ofList]
  constructor
  · intro same
    rw [same] at again
    have kept : ns.name.toList.Sublist (trimBlanks ns.name.toList) := by
      have inner := stripBoth_sublist (· = '.') (trimBlanks ns.name.toList)
      rwa [← again] at inner
    have whole : trimBlanks ns.name.toList = ns.name.toList :=
      (stripBoth_sublist isBlank ns.name.toList).antisymm kept
    rw [← whole]
    exact trimmed_stripBoth isBlank ns.name.toList
  · intro blanksOff
    rw [trimBlanks, blanksOff.stripBoth_eq, dotsOff.stripBoth_eq] at again
    cases ns
    exact congrArg mk (String.toList_injective again)

theorem ofText_name_ofText_iff (text : String) :
    ofText (ofText text).name = ofText text ↔ IsNeat text := by
  rw [ofText_name_iff (ofText_slash_free text) (ofText_dots_off text), trimmed_name_iff]

theorem ofText_path_ofText_iff (text : String) :
    ofText (ofText text).path = ofText text ↔ IsNeat text := by
  rw [ofText_path (ofText_slash_free text), ofText_name_ofText_iff]

end Namespace
end JarAtlas
