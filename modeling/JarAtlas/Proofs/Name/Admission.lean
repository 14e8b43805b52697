/-
Entries of classes and the namespace.

A class stands in an archive under its name with slashes, at the top or below a
class root.  Its entry is admitted if the namespace is empty or is one of the
packages around the class.  The namespace also holds the class whose full name it
is, and only this class is held but not admitted.
-/
import JarAtlas.Proofs.Name.Covering
import JarAtlas.Proofs.Text.Trimming
import JarAtlas.Text.Digits

namespace JarAtlas

theorem map_replace_back {old new : Char} {text : List Char} (free : new ∉ text) :
    (text.map fun c => if c = old then new else c).map (fun c => if c = new then old else c) =
      text := by
  rw [List.map_map]
  refine (List.map_congr_left fun c member => ?_).trans (List.map_id _)
  have kept : c ≠ new := fun same => free (same ▸ member)
  by_cases replaced : c = old
  · rw [Function.comp_apply, if_pos replaced, if_pos rfl, replaced, id]
  · rw [Function.comp_apply, if_neg replaced, if_neg kept, id]

theorem dotted_slashed {name : String} (slashFree : '/' ∉ name.toList) :
    dotted (slashed name) = name := by
  apply String.toList_injective
  rw [dotted, slashed, String.toList_map, String.toList_map, map_replace_back slashFree]

theorem slashed_dotted {name : String} (dotFree : '.' ∉ name.toList) :
    slashed (dotted name) = name := by
  apply String.toList_injective
  rw [dotted, slashed, String.toList_map, String.toList_map, map_replace_back dotFree]

theorem slashed_dot_free (name : String) : '.' ∉ (slashed name).toList := by
  simp only [slashed, String.toList_map, List.mem_map, not_exists, not_and]
  intro c _
  split <;> simp_all

theorem append_classEnding_eq_iff {name front later : List Char} :
    name ++ EntryKind.classEnding = front ++ '/' :: later ↔
      ∃ inner, name = front ++ '/' :: inner ∧ later = inner ++ EntryKind.classEnding := by
  constructor
  · intro whole
    rcases List.append_eq_append_iff.mp whole with ⟨overlap, _, short⟩ | ⟨inner, parted, cut⟩
    · have inEnding : '/' ∈ EntryKind.classEnding :=
        short ▸ List.mem_append_right overlap List.mem_cons_self
      exact absurd inEnding (by decide)
    · cases inner with
      | nil => exact absurd (List.cons.inj cut).1 (by decide)
      | cons c inner =>
          obtain ⟨rfl, rest⟩ := List.cons.inj cut
          exact ⟨inner, parted, rest⟩
  · rintro ⟨inner, rfl, rfl⟩
    rw [List.append_assoc, List.cons_append]

namespace Namespace

theorem ofText_slash_free (text : String) : '/' ∉ (ofText text).name.toList := by
  intro member
  rw [ofText, String.toList_ofList] at member
  exact dotted_slash_free _ (mem_of_mem_stripBoth member)

/-- Whether a namespace is empty or is a package around a dotted name. -/
def Encloses (ns : Namespace) (name : String) : Prop :=
  ns.name = "" ∨ ∃ rest, name.toList = ns.name.toList ++ '.' :: rest

variable {ns : Namespace}

theorem contains_iff {name : String} :
    ns.contains name = true ↔ ns.Encloses name ∨ name = ns.name := by
  rw [contains, covers_iff, Encloses, String.toList_eq_nil_iff, or_assoc]
  refine or_congr_right ?_
  constructor
  · rintro ⟨rest, whole, rfl | ⟨later, rfl⟩⟩
    · exact Or.inr (String.toList_injective (by rw [whole, List.append_nil]))
    · exact Or.inl ⟨later, whole⟩
  · rintro (⟨later, whole⟩ | rfl)
    · exact ⟨_, whole, Or.inr ⟨later, rfl⟩⟩
    · exact ⟨[], (List.append_nil _).symm, Or.inl rfl⟩

theorem Encloses.ne_name {name : String} (encloses : ns.Encloses name) (named : ns.name ≠ "") :
    name ≠ ns.name := by
  rintro rfl
  obtain ⟨rest, whole⟩ := encloses.resolve_left named
  simpa using congrArg List.length whole

theorem containsPath_classFile_iff (slashFree : '/' ∉ ns.name.toList) {name : String}
    (dotFree : '.' ∉ name.toList) :
    ns.containsPath (name ++ ".class") = true ↔ ns.Encloses (dotted name) := by
  have ending : ".class".toList = EntryKind.classEnding := rfl
  rw [containsPath, covers_iff, Encloses, path, String.toList_append, ending]
  have unnamed : (slashed ns.name).toList = [] ↔ ns.name = "" := by
    rw [slashed, String.toList_map, List.map_eq_nil_iff, String.toList_eq_nil_iff]
  rw [unnamed]
  refine or_congr_right ?_
  constructor
  · rintro ⟨rest, whole, rfl | ⟨later, rfl⟩⟩
    · refine absurd ?_ (slashed_dot_free ns.name)
      rw [← List.append_nil (slashed ns.name).toList, ← whole]
      exact List.mem_append_right _ List.mem_cons_self
    · obtain ⟨inner, parted, _⟩ := append_classEnding_eq_iff.mp whole
      refine ⟨(dotted (String.ofList inner)).toList, ?_⟩
      rw [← dotted_slashed slashFree]
      simp only [dotted, String.toList_map, parted, List.map_append, List.map_cons,
        String.toList_ofList]
      rfl
  · rintro ⟨rest, whole⟩
    refine ⟨_, append_classEnding_eq_iff.mpr ⟨(slashed (String.ofList rest)).toList, ?_, rfl⟩,
      Or.inr ⟨_, rfl⟩⟩
    rw [← slashed_dotted dotFree]
    simp only [slashed, String.toList_map, whole, List.map_append, List.map_cons,
      String.toList_ofList]
    rfl

end Namespace

/-! ### File names -/

section

variable {α : Type} [DecidableEq α] {sep : α}

theorem afterLast_append_of_free {back : List α} (free : sep ∉ back) (xs : List α) :
    afterLast sep (xs ++ back) = afterLast sep xs ++ back := by
  unfold afterLast
  cases cut : cutAtLast? sep xs with
  | none =>
      have absent : sep ∉ xs ++ back :=
        List.not_mem_append (cutAtLast?_eq_none_iff.mp cut) free
      rw [cutAtLast?_eq_none_iff.mpr absent]
  | some parts =>
      obtain ⟨before, after⟩ := parts
      have later : sep ∉ after ++ back := List.not_mem_append (cutAtLast?_after_free cut) free
      rw [cutAtLast?_eq_append cut, List.append_assoc, List.cons_append,
        cutAtLast?_append later]

theorem afterLast_after_sep (front xs : List α) :
    afterLast sep (front ++ sep :: xs) = afterLast sep xs := by
  unfold afterLast
  cases cut : cutAtLast? sep xs with
  | none => rw [cutAtLast?_append (cutAtLast?_eq_none_iff.mp cut)]
  | some parts =>
      obtain ⟨before, after⟩ := parts
      rw [cutAtLast?_eq_append cut, ← List.cons_append, ← List.append_assoc,
        cutAtLast?_append (cutAtLast?_after_free cut)]

theorem mem_of_mem_afterLast {x : α} {xs : List α} (member : x ∈ afterLast sep xs) : x ∈ xs := by
  unfold afterLast at member
  cases cut : cutAtLast? sep xs with
  | none => rwa [cut] at member
  | some parts =>
      obtain ⟨before, after⟩ := parts
      rw [cut] at member
      rw [cutAtLast?_eq_append cut]
      exact List.mem_append_right _ (List.mem_cons_of_mem _ member)

end

namespace EntryKind

/-- Whether a dollar sign and at least one digit stand at the end of a segment, and
nothing but digits behind this sign. -/
def EndsInNumber (segment : List Char) : Prop :=
  ∃ front digits, segment = front ++ '$' :: digits ∧ digits ≠ [] ∧
    ∀ c ∈ digits, isDecimalDigit c = true

theorem stemOf_append_classEnding {segment : List Char} (dotFree : '.' ∉ segment) (fuel : Nat) :
    stemOf (fuel + 1) (segment ++ classEnding) = segment := by
  have noEnding : beforeEnd? classEnding segment = none := by
    rw [Option.eq_none_iff_forall_ne_some]
    intro rest found
    rw [beforeEnd?_eq_some_iff] at found
    exact dotFree (found ▸ List.mem_append_right rest List.mem_cons_self)
  rw [stemOf, beforeEnd?_eq_some_iff.mpr rfl]
  dsimp only
  cases fuel with
  | zero => rw [stemOf]
  | succ fuel => rw [stemOf, noEnding]

theorem isAnonymous_iff {segment : List Char} (dotFree : '.' ∉ segment) :
    isAnonymous (segment ++ classEnding) = true ↔ EndsInNumber segment := by
  have stem : stemOf (segment ++ classEnding).length (segment ++ classEnding) = segment := by
    have long : (segment ++ classEnding).length = segment.length + 5 + 1 := by
      rw [List.length_append]
      rfl
    rw [long, stemOf_append_classEnding dotFree]
  have noDollar {digits : List Char} (numbers : ∀ c ∈ digits, isDecimalDigit c = true) :
      '$' ∉ digits :=
    fun member => absurd (numbers '$' member) (by decide)
  rw [isAnonymous, stem]
  constructor
  · intro anonymous
    cases cut : cutAtLast? '$' segment with
    | none =>
        rw [cut] at anonymous
        cases anonymous
    | some parts =>
        obtain ⟨front, digits⟩ := parts
        rw [cut] at anonymous
        obtain ⟨nonempty, numbers⟩ := Bool.and_eq_true_iff.mp anonymous
        refine ⟨front, digits, cutAtLast?_eq_append cut, ?_, List.all_eq_true.mp numbers⟩
        rintro rfl
        cases nonempty
  · rintro ⟨front, digits, rfl, nonempty, numbers⟩
    rw [cutAtLast?_append (noDollar numbers)]
    refine Bool.and_eq_true_iff.mpr ⟨?_, List.all_eq_true.mpr numbers⟩
    cases digits with
    | nil => exact absurd rfl nonempty
    | cons c digits => rfl

/-! ### Entries -/

/-- The places in an archive at which classes stand. -/
def placings : List String := ["", "BOOT-INF/classes/", "WEB-INF/classes/"]

/-- Whether a name without dots does not start with a class root itself. -/
structure IsPathName (name : String) : Prop where
  dotFree : '.' ∉ name.toList
  offRoots : ∀ root ∈ classRoots, ¬root <+: name.toList

/-- Whether a name is that of a class which has a type and a name of its own. -/
structure IsClassName (name : String) : Prop extends IsPathName name where
  typed : afterLast '/' name.toList ∉ ["module-info".toList, "package-info".toList]
  unnumbered : ¬EndsInNumber (afterLast '/' name.toList)

variable {root name : String}

theorem isClassName_iff :
    IsClassName name ↔ IsPathName name ∧
      afterLast '/' name.toList ∉ ["module-info".toList, "package-info".toList] ∧
      isAnonymous (afterLast '/' name.toList ++ classEnding) = false := by
  have dotFreeSegment (isPath : IsPathName name) : '.' ∉ afterLast '/' name.toList :=
    fun member => isPath.dotFree (mem_of_mem_afterLast member)
  constructor
  · intro isClass
    refine ⟨isClass.toIsPathName, isClass.typed, ?_⟩
    rw [← Bool.not_eq_true, isAnonymous_iff (dotFreeSegment isClass.toIsPathName)]
    exact isClass.unnumbered
  · rintro ⟨isPath, typed, unnumbered⟩
    refine ⟨isPath, typed, ?_⟩
    rw [← isAnonymous_iff (dotFreeSegment isPath), Bool.not_eq_true]
    exact unnumbered

instance (name : String) : Decidable (IsPathName name) :=
  decidable_of_iff ('.' ∉ name.toList ∧ ∀ root ∈ classRoots, ¬root <+: name.toList)
    ⟨fun path => ⟨path.1, path.2⟩, fun path => ⟨path.dotFree, path.offRoots⟩⟩

instance (name : String) : Decidable (IsClassName name) :=
  decidable_of_iff _ isClassName_iff.symm

theorem toList_entryName (root name : String) :
    (root ++ name ++ ".class").toList = root.toList ++ (name.toList ++ classEnding) := by
  rw [String.toList_append, String.toList_append, List.append_assoc]
  rfl

theorem eq_nil_or_mem_classRoots (placed : root ∈ placings) :
    root.toList = [] ∨ root.toList ∈ classRoots := by
  simp only [placings, List.mem_cons, List.not_mem_nil, or_false] at placed
  rcases placed with rfl | rfl | rfl
  · exact Or.inl rfl
  · exact Or.inr List.mem_cons_self
  · exact Or.inr (List.mem_cons_of_mem _ List.mem_cons_self)

theorem exists_eq_append_slash {classRoot : List Char} (isRoot : classRoot ∈ classRoots) :
    ∃ front, classRoot = front ++ ['/'] := by
  simp only [classRoots, List.mem_cons, List.not_mem_nil, or_false] at isRoot
  rcases isRoot with rfl | rfl
  · exact ⟨"BOOT-INF/classes".toList, rfl⟩
  · exact ⟨"WEB-INF/classes".toList, rfl⟩

theorem afterLast_entryName (placed : root ∈ placings) (name : String) :
    afterLast '/' (root ++ name ++ ".class").toList =
      afterLast '/' name.toList ++ classEnding := by
  have slashFree : '/' ∉ classEnding := by decide
  rw [toList_entryName, ← afterLast_append_of_free slashFree]
  rcases eq_nil_or_mem_classRoots placed with top | below
  · rw [top, List.nil_append]
  · obtain ⟨front, slash⟩ := exists_eq_append_slash below
    rw [slash, List.append_assoc, List.singleton_append, afterLast_after_sep]

theorem afterStart?_classRoot (isPath : IsPathName name) {classRoot : List Char}
    (isRoot : classRoot ∈ classRoots) :
    afterStart? classRoot (name.toList ++ classEnding) = none := by
  obtain ⟨front, rfl⟩ := exists_eq_append_slash isRoot
  rw [Option.eq_none_iff_forall_ne_some]
  intro rest found
  rw [afterStart?_eq_some_iff, List.append_assoc, List.singleton_append] at found
  obtain ⟨inner, starts, _⟩ := append_classEnding_eq_iff.mp found
  refine isPath.offRoots _ isRoot ⟨inner, ?_⟩
  rw [starts, List.append_assoc, List.singleton_append]

theorem belowRoot_entryName (placed : root ∈ placings) (isPath : IsPathName name) :
    belowRoot (root ++ name ++ ".class").toList = name.toList ++ classEnding := by
  rw [toList_entryName, belowRoot, classRoots, List.findSome?_cons, List.findSome?_cons,
    List.findSome?_nil]
  simp only [placings, List.mem_cons, List.not_mem_nil, or_false] at placed
  rcases placed with rfl | rfl | rfl
  · rw [String.toList_empty, List.nil_append, afterStart?_classRoot isPath List.mem_cons_self,
      afterStart?_classRoot isPath (List.mem_cons_of_mem _ List.mem_cons_self)]
    rfl
  · rw [afterStart?_eq_some_iff.mpr rfl]
    rfl
  · have notBoot : afterStart? "BOOT-INF/classes/".toList
        ("WEB-INF/classes/".toList ++ (name.toList ++ classEnding)) = none := rfl
    rw [notBoot, afterStart?_eq_some_iff.mpr rfl]
    rfl

theorem ofName_entryName (ns : Namespace) (placed : root ∈ placings) (isPath : IsPathName name) :
    let fileName := afterLast '/' name.toList ++ classEnding
    ofName ns (root ++ name ++ ".class") =
      if typelessNames.contains fileName || isAnonymous fileName then .other
      else if ns.containsPath (name ++ ".class") then .classFile else .other := by
  intro fileName
  have notDescriptor : fileName ≠ descriptorName := by
    intro same
    have ending : classEnding <:+ descriptorName := ⟨_, same⟩
    exact absurd ending (by decide)
  have ends : beforeEnd? classEnding (root ++ name ++ ".class").toList =
      some (root.toList ++ name.toList) := by
    rw [beforeEnd?_eq_some_iff, toList_entryName, List.append_assoc]
  have path : String.ofList (name.toList ++ classEnding) = name ++ ".class" := by
    apply String.toList_injective
    rw [String.toList_ofList, String.toList_append]
    rfl
  unfold ofName
  simp only [afterLast_entryName placed, belowRoot_entryName placed isPath, ends, path,
    Option.isNone_some, Bool.false_or]
  rw [if_neg notDescriptor]

theorem containsPath_of_ofName {ns : Namespace} (placed : root ∈ placings)
    (isPath : IsPathName name) (isClass : ofName ns (root ++ name ++ ".class") = .classFile) :
    ns.containsPath (name ++ ".class") = true := by
  rw [ofName_entryName ns placed isPath] at isClass
  split at isClass
  · cases isClass
  · split at isClass
    · assumption
    · cases isClass

theorem ofName_of_className (ns : Namespace) (placed : root ∈ placings)
    (isClass : IsClassName name) :
    ofName ns (root ++ name ++ ".class") =
      if ns.containsPath (name ++ ".class") then .classFile else .other := by
  obtain ⟨isPath, named, unnumbered⟩ := isClassName_iff.mp isClass
  have typed : typelessNames.contains (afterLast '/' name.toList ++ classEnding) = false := by
    rw [← Bool.not_eq_true, List.contains_iff_mem]
    intro listed
    have listedNames : typelessNames =
        ["module-info".toList, "package-info".toList].map (· ++ classEnding) := rfl
    rw [listedNames, List.mem_map] at listed
    obtain ⟨segment, member, same⟩ := listed
    exact named (List.append_cancel_right same ▸ member)
  rw [ofName_entryName ns placed isPath, typed, unnumbered]
  rfl

theorem ofName_eq_classFile_iff {ns : Namespace} (slashFree : '/' ∉ ns.name.toList)
    (placed : root ∈ placings) (isClass : IsClassName name) :
    ofName ns (root ++ name ++ ".class") = .classFile ↔ ns.Encloses (dotted name) := by
  rw [ofName_of_className ns placed isClass,
    ← Namespace.containsPath_classFile_iff slashFree isClass.dotFree]
  split
  · next held => exact iff_of_true rfl held
  · next outside => exact iff_of_false nofun outside

/-- Whether the entry of a class, wherever it stands, is admitted exactly if the
namespace holds the class. -/
def FiltersAgree (ns : Namespace) (name : String) : Prop :=
  ∀ root ∈ placings,
    (ofName ns (root ++ name ++ ".class") = .classFile ↔ ns.contains (dotted name) = true)

/-- The two filters agree on a class unless the namespace is the full name of the
class.  Then the namespace holds the class, but its entry is not admitted. -/
theorem filtersAgree_iff (text : String) (isClass : IsClassName name) :
    let ns := Namespace.ofText text
    (FiltersAgree ns name ↔ ns.name = "" ∨ dotted name ≠ ns.name) ∧
      ∀ root ∈ placings,
        (ofName ns (root ++ name ++ ".class") = .classFile ↔
          ns.contains (dotted name) = true ∧ (ns.name = "" ∨ dotted name ≠ ns.name)) := by
  intro ns
  have admitted {root : String} (placed : root ∈ placings) :
      ofName ns (root ++ name ++ ".class") = .classFile ↔ ns.Encloses (dotted name) :=
    ofName_eq_classFile_iff (Namespace.ofText_slash_free text) placed isClass
  have apart (encloses : ns.Encloses (dotted name)) : ns.name = "" ∨ dotted name ≠ ns.name := by
    by_cases unnamed : ns.name = ""
    · exact Or.inl unnamed
    · exact Or.inr (encloses.ne_name unnamed)
  have exactly {root : String} (placed : root ∈ placings) :
      ofName ns (root ++ name ++ ".class") = .classFile ↔
        ns.contains (dotted name) = true ∧ (ns.name = "" ∨ dotted name ≠ ns.name) := by
    rw [admitted placed, Namespace.contains_iff]
    constructor
    · exact fun encloses => ⟨Or.inl encloses, apart encloses⟩
    · rintro ⟨encloses | same, different⟩
      · exact encloses
      · exact Or.inl (different.resolve_right fun other => other same)
  refine ⟨⟨fun agrees => ?_, fun different root placed => ?_⟩, fun root placed => exactly placed⟩
  · by_cases same : dotted name = ns.name
    · have held : ns.contains (dotted name) = true := Namespace.contains_iff.mpr (Or.inr same)
      exact ((exactly List.mem_cons_self).mp ((agrees "" List.mem_cons_self).mpr held)).2
    · exact Or.inr same
  · exact (exactly placed).trans (and_iff_left different)

theorem filtersAgree_on_nested :
    IsClassName "com/example/Outer$2b" ∧
      FiltersAgree (.ofText "com/example") "com/example/Outer$2b" := by
  have isClass : IsClassName "com/example/Outer$2b" := by decide +kernel
  exact ⟨isClass, (filtersAgree_iff "com/example" isClass).1.mpr (by decide +kernel)⟩

/-- `com.example` may be a class beside the package, and then it lies in the
namespace of this name. -/
theorem not_filtersAgree_on_namesake :
    IsClassName "com/example" ∧
      Namespace.contains (.ofText "com.example") (dotted "com/example") = true ∧
      ofName (.ofText "com.example") "com/example.class" = .other ∧
      ¬FiltersAgree (.ofText "com.example") "com/example" := by
  have isClass : IsClassName "com/example" := by decide +kernel
  have held : Namespace.contains (.ofText "com.example") (dotted "com/example") = true := by
    decide +kernel
  have left : ofName (.ofText "com.example") "com/example.class" = .other := by decide +kernel
  refine ⟨isClass, held, left, fun agrees => ?_⟩
  have admitted := (agrees "" List.mem_cons_self).mpr held
  exact absurd admitted (by decide +kernel)

end EntryKind
end JarAtlas
