/-
Surveys under a narrower namespace.

A namespace decides which supertypes a record names and which entries are taken
for classes, and nothing else.  Extraction under two namespaces, one inside the
other, goes in lockstep: the two states differ in the supertypes of the open
heading alone, so the records differ in nothing else.
-/
import JarAtlas.EntryFault
import JarAtlas.Proofs.Name.Covering
import Mathlib.Data.List.Induction

namespace JarAtlas

theorem filter_firstOccurrences {α : Type} [DecidableEq α] (keep : α → Bool) (xs : List α) :
    (firstOccurrences xs).filter keep = firstOccurrences (xs.filter keep) := by
  unfold firstOccurrences
  induction xs using List.reverseRecOn with
  | nil => rfl
  | append_singleton xs last ih =>
      rw [List.foldl_append, List.foldl_cons, List.foldl_nil, List.filter_append,
        List.foldl_append, ← ih]
      cases kept : keep last with
      | false =>
          have dropped : [last].filter keep = [] :=
            List.filter_cons_of_neg (by rw [kept]; exact Bool.false_ne_true)
          rw [dropped, List.foldl_nil]
          split
          · rfl
          · rw [List.filter_append, dropped, List.append_nil]
      | true =>
          have single : [last].filter keep = [last] := List.filter_cons_of_pos kept
          have known : ∀ seen : List α, last ∈ seen.filter keep ↔ last ∈ seen := fun seen => by
            rw [List.mem_filter, and_iff_left kept]
          rw [single, List.foldl_cons, List.foldl_nil]
          simp only [known]
          split
          · rfl
          · rw [List.filter_append, single]

def Supertype.narrowedTo (ns : Namespace) : Supertype → Supertype
  | root => root
  | inside name => if ns.contains name then inside name else outside name
  | outside name => outside name

def Heading.narrowedTo (ns : Namespace) (heading : Heading) : Heading :=
  { heading with
    supertype := heading.supertype.narrowedTo ns
    interfaces := heading.interfaces.filter ns.contains }

def ExtractedClass.narrowedTo (ns : Namespace) (extracted : ExtractedClass) : ExtractedClass :=
  { extracted with
    record :=
      { extracted.record with
        superclass :=
          if ns.contains extracted.record.superclass then extracted.record.superclass else ""
        interfaces := extracted.record.interfaces.filter ns.contains } }

def Extraction.narrowedTo (ns : Namespace) (state : Extraction) : Extraction :=
  { state with heading := state.heading.map (Heading.narrowedTo ns) }

section

variable {inner outer : Namespace}

theorem Supertype.resolve_narrowed (within : inner.Within outer) (raw : Option String) :
    resolve inner raw = (resolve outer raw).narrowedTo inner := by
  cases raw with
  | none => rfl
  | some raw =>
      by_cases isRoot : raw = "" ∨ raw = rootName
      · rw [resolve, if_pos isRoot, resolve, if_pos isRoot, narrowedTo]
      · rw [resolve, if_neg isRoot, resolve, if_neg isRoot]
        by_cases held : inner.contains (dotted raw) = true
        · rw [if_pos held, if_pos (within.contains held), narrowedTo, if_pos held]
        · rw [if_neg held]
          split
          · rw [narrowedTo, if_neg held]
          · rw [narrowedTo]

theorem Heading.ofHeader_narrowed (within : inner.Within outer) (header : ClassHeader) :
    ofHeader inner header = (ofHeader outer header).narrowedTo inner := by
  have twice : ∀ name : String, (inner.contains name && outer.contains name) =
      inner.contains name := by
    intro name
    cases held : inner.contains name with
    | false => rfl
    | true => rw [within.contains held, Bool.and_self]
  have interfaces : firstOccurrences ((header.interfaces.map dotted).filter inner.contains) =
      (firstOccurrences ((header.interfaces.map dotted).filter outer.contains)).filter
        inner.contains := by
    rw [filter_firstOccurrences, List.filter_filter]
    simp only [twice]
  unfold ofHeader narrowedTo
  rw [interfaces, Supertype.resolve_narrowed within]

theorem Supertype.superclass_narrowed (ns : Namespace) (supertype : Supertype) :
    (supertype.narrowedTo ns).insideName?.getD "" =
      if ns.contains (supertype.insideName?.getD "") then supertype.insideName?.getD ""
      else "" := by
  cases supertype with
  | root => exact (ite_self "").symm
  | outside name => exact (ite_self "").symm
  | inside name =>
      by_cases held : ns.contains name = true
      · rw [narrowedTo, if_pos held]
        exact (if_pos held).symm
      · rw [narrowedTo, if_neg held]
        exact (if_neg held).symm

namespace Extraction

theorem finish_narrowed (ns : Namespace) (state : Extraction) (heading : Heading) :
    (state.narrowedTo ns).finish (heading.narrowedTo ns) =
      ((state.finish heading).1.narrowedTo ns, (state.finish heading).2.narrowedTo ns) := by
  have superclass := heading.supertype.superclass_narrowed ns
  unfold finish ExtractedClass.narrowedTo
  dsimp only [narrowedTo, Heading.narrowedTo]
  rw [superclass]

theorem annotate_narrowed (ns : Namespace) (state : Extraction) (mark : AnnotationUse) :
    (state.narrowedTo ns).annotate mark = (state.annotate mark).narrowedTo ns := by
  obtain ⟨heading, target, annotations, fields, methods⟩ := state
  cases target <;> rfl

/-- One event, taken in two states of which one is the other narrowed: the
answers and the next states differ in the same way. -/
theorem feed_narrowed (within : inner.Within outer) (state : Extraction) (event : ClassEvent) :
    (state.narrowedTo inner).feed inner event =
      ((state.feed outer event).1.map (Option.map (ExtractedClass.narrowedTo inner)),
        (state.feed outer event).2.narrowedTo inner) := by
  have openAlike : (state.narrowedTo inner).heading.isSome = state.heading.isSome :=
    Option.isSome_map
  have closedAlike : (state.narrowedTo inner).heading.isNone = state.heading.isNone :=
    Option.isNone_map
  cases event with
  | header header =>
      rw [feed, feed, openAlike]
      split
      · rfl
      · rw [Heading.ofHeader_narrowed within]
        rfl
  | field name descriptor access =>
      rw [feed, feed, closedAlike]
      split <;> rfl
  | method name access =>
      rw [feed, feed, closedAlike]
      split
      · rfl
      · split <;> rfl
  | annotated mark =>
      rw [feed, feed, closedAlike, annotate_narrowed]
      split <;> rfl
  | done =>
      obtain ⟨heading, target, annotations, fields, methods⟩ := state
      cases heading with
      | none => rfl
      | some heading =>
          have finished := finish_narrowed inner ⟨none, target, annotations, fields, methods⟩ heading
          unfold feed narrowedTo
          dsimp only [Option.map_some]
          rw [narrowedTo, Option.map_none] at finished
          rw [finished]
          rfl

theorem classFrom_narrowed (within : inner.Within outer) (state : Extraction)
    (finished : Option ExtractedClass) (events : List ClassEvent) :
    (state.narrowedTo inner).classFrom inner
        (finished.map (ExtractedClass.narrowedTo inner)) events =
      (state.classFrom outer finished events).map (ExtractedClass.narrowedTo inner) := by
  induction events generalizing state finished with
  | nil => cases finished <;> rfl
  | cons event rest ih =>
      cases finished with
      | some extracted => rfl
      | none =>
          have step := feed_narrowed within state event
          rw [Option.map_none, classFrom, step, classFrom]
          cases answer : state.feed outer event with
          | mk result next =>
              cases result with
              | error fault => rfl
              | ok told => exact ih next told

end Extraction

theorem extractClass_narrowed (within : inner.Within outer) (events : List ClassEvent) :
    extractClass inner events =
      (extractClass outer events).map (ExtractedClass.narrowedTo inner) :=
  Extraction.classFrom_narrowed within .idle none events

theorem classOf_narrowed (within : inner.Within outer) (entry : String)
    (events : List ClassEvent) :
    classOf entry inner events =
      (classOf entry outer events).map (ExtractedClass.narrowedTo inner) := by
  rw [classOf, classOf, extractClass_narrowed within]
  cases extractClass outer events <;> rfl

/-- Under a namespace inside another one no entry becomes a class that was none,
and the build descriptors are the same.  Every stream of events fails alike under
both, or tells the same class, except that of its supertypes only those inside
the narrower namespace are named. -/
theorem narrowing_only_restricts (within : inner.Within outer) :
    (∀ entryName, EntryKind.ofName inner entryName = .classFile →
        EntryKind.ofName outer entryName = .classFile) ∧
      (∀ entryName, EntryKind.ofName inner entryName = .buildDescriptor ↔
        EntryKind.ofName outer entryName = .buildDescriptor) ∧
      ∀ entry events,
        (∃ fault, classOf entry inner events = .error fault ∧
          classOf entry outer events = .error fault) ∨
        ∃ narrow wide, classOf entry inner events = .ok narrow ∧
          classOf entry outer events = .ok wide ∧
          narrow.parent = wide.parent ∧
          narrow.record =
            { wide.record with
              interfaces := wide.record.interfaces.filter inner.contains
              superclass :=
                if inner.contains wide.record.superclass then wide.record.superclass else "" } := by
  refine ⟨fun entryName => ?_, fun entryName => ?_, fun entry events => ?_⟩
  · exact EntryKind.ofName_eq_classFile_of_containsPath fun path => within.containsPath
  · rw [EntryKind.ofName_eq_buildDescriptor_iff, EntryKind.ofName_eq_buildDescriptor_iff]
  · rw [classOf_narrowed within]
    cases classOf entry outer events with
    | error fault => exact Or.inl ⟨fault, rfl, rfl⟩
    | ok wide => exact Or.inr ⟨wide.narrowedTo inner, wide, rfl, rfl, rfl, rfl⟩

/-- A nested class with a superclass and an interface in `a` but not in `a.b`, and
an interface that is declared twice. -/
theorem narrowing_only_restricts_supertypes_of_nested :
    let inner : Namespace := ⟨"a.b"⟩
    let outer : Namespace := ⟨"a"⟩
    let events : List ClassEvent :=
      [.header ⟨"a/b/Top$In", ⟨1⟩, some "a/Base", ["a/b/I", "x/K", "a/J", "a/b/I"]⟩, .done]
    inner.Within outer ∧
      EntryKind.ofName outer "a/b/Top$In.class" = .classFile ∧
      ∃ narrow wide, classOf "a/b/Top$In.class" inner events = .ok narrow ∧
        classOf "a/b/Top$In.class" outer events = .ok wide ∧
        (wide.record.superclass, wide.record.interfaces) = ("a.Base", ["a.b.I", "a.J"]) ∧
        (narrow.record.superclass, narrow.record.interfaces) = ("", ["a.b.I"]) ∧
        narrow.parent = some "a.b.Top" := by
  intro inner outer events
  have within : inner.Within outer := Or.inr (by decide +kernel)
  obtain ⟨classes, -, streams⟩ := narrowing_only_restricts within
  have told : (classOf "a/b/Top$In.class" outer events).toOption.map (fun wide =>
      ((wide.record.superclass, wide.record.interfaces), wide.parent)) =
        some (("a.Base", ["a.b.I", "a.J"]), some "a.b.Top") := by
    decide +kernel
  refine ⟨within, classes _ (by decide +kernel), ?_⟩
  rcases streams "a/b/Top$In.class" events with ⟨fault, -, failed⟩ |
    ⟨narrow, wide, isNarrow, isWide, parent, record⟩
  · rw [failed] at told
    cases told
  · rw [isWide] at told
    obtain ⟨supertypes, nested⟩ := Prod.mk.inj (Option.some.inj told)
    obtain ⟨superclass, interfaces⟩ := Prod.mk.inj supertypes
    refine ⟨narrow, wide, isNarrow, isWide, supertypes, ?_, parent.trans nested⟩
    rw [record]
    dsimp only
    rw [superclass, interfaces]
    decide +kernel

end

end JarAtlas
