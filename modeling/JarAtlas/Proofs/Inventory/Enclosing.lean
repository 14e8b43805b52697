/-
Children and the classes around them.

A child is registered under the full name of the class around it, but a parent
is found by its recorded name, from which the classes around it are dropped.  A
nested class can so be taken for the parent of children that are not its own.
The children are with the right classes exactly if the class recorded last under
the name of a parent is this parent, and no other class has this full name.
-/
import JarAtlas.Proofs.Inventory.Outcome
import JarAtlas.Proofs.Name.Nesting

namespace JarAtlas

structure ClassStream where
  header : ClassHeader
  body : ClassBody

namespace ClassStream

def events (stream : ClassStream) : List ClassEvent :=
  .header stream.header :: (stream.body.events ++ [.done])

def fullName (stream : ClassStream) : String :=
  dotted stream.header.name

def recorded (stream : ClassStream) : RecordedName :=
  .ofInternal stream.header.name

def extracted (ns : Namespace) (stream : ClassStream) : ExtractedClass :=
  stream.body.extracted ns stream.header

theorem extractClass_events (ns : Namespace) (stream : ClassStream) :
    extractClass ns stream.events = .ok (stream.extracted ns) :=
  stream.body.extractClass_events ns stream.header

def addition (ns : Namespace) (stream : ClassStream) : Inventory.Addition :=
  .ofClass (stream.extracted ns) ⟨ns, stream.events, stream.extractClass_events ns⟩

def ofName (internalName : String) : ClassStream :=
  ⟨⟨internalName, ⟨1⟩, none, []⟩, ⟨[], []⟩⟩

end ClassStream

namespace Inventory

/-- Extracts each stream and adds the class that it tells. -/
def ofStreams (ns : Namespace) (streams : List ClassStream) : Inventory :=
  streams.foldl (fun inventory stream =>
    match extractClass ns stream.events with
    | .ok extracted => inventory.addClass extracted
    | .error _ => inventory) empty

theorem ofStreams_eq_after (ns : Namespace) (streams : List ClassStream) :
    ofStreams ns streams = after (streams.map (ClassStream.addition ns)) := by
  unfold ofStreams after
  rw [List.foldl_map]
  congr 1
  funext inventory stream
  rw [stream.extractClass_events ns]
  rfl

theorem holds_ofStreams (ns : Namespace) (streams : List ClassStream) :
    Holds (streams.map (ClassStream.extracted ns)) [] (ofStreams ns streams) := by
  have holds := holds_after (streams.map (ClassStream.addition ns))
  rw [← ofStreams_eq_after, List.filterMap_map, List.flatMap_map] at holds
  have classes : streams.filterMap (Addition.class? ∘ ClassStream.addition ns) =
      streams.map (ClassStream.extracted ns) := by
    rw [← List.filterMap_eq_map]
    rfl
  have external : streams.flatMap (fun stream => (stream.addition ns).dependencies) = [] := by
    rw [List.flatMap_eq_nil_iff]
    intro stream _
    rfl
  rwa [classes, external] at holds

/-- Each record lists the names of the classes whose parent is the full name of
its own class, and no other name. -/
def ChildrenAttached (ns : Namespace) (streams : List ClassStream) : Prop :=
  ∀ (position : Nat) (stream : ClassStream), streams[position]? = some stream →
    ∃ record, (ofStreams ns streams).finish.classes[position]? = some record ∧
      ∀ name, name ∈ record.nestedClasses ↔
        ∃ child ∈ streams, child.recorded.parent = some stream.fullName ∧
          child.recorded.name = name

section

variable {ns : Namespace} {streams : List ClassStream}

def namesOf (streams : List ClassStream) : List String :=
  streams.map fun stream => stream.recorded.name

theorem recordedNames_extracted (ns : Namespace) (streams : List ClassStream) :
    recordedNames (streams.map (ClassStream.extracted ns)) = namesOf streams := by
  rw [recordedNames, List.map_map]
  rfl

theorem mem_childNames_extracted (ns : Namespace) (streams : List ClassStream)
    (parent name : String) :
    name ∈ childNames (streams.map (ClassStream.extracted ns)) parent ↔
      ∃ child ∈ streams, child.recorded.parent = some parent ∧ child.recorded.name = name := by
  rw [mem_childNames]
  simp only [List.mem_map, exists_exists_and_eq_and]
  exact Iff.rfl

theorem exists_record (ns : Namespace) {position : Nat} {stream : ClassStream}
    (here : streams[position]? = some stream) :
    ∃ record, (ofStreams ns streams).finish.classes[position]? = some record ∧
      ∀ name, name ∈ record.nestedClasses ↔
        LastAt (namesOf streams) stream.recorded.name position ∧
          ∃ child ∈ streams, child.recorded.parent = some stream.recorded.name ∧
            child.recorded.name = name := by
  have holds := holds_ofStreams ns streams
  have fresh : ∀ extracted ∈ streams.map (ClassStream.extracted ns),
      extracted.record.nestedClasses = [] := by
    intro extracted member
    obtain ⟨stream, _, rfl⟩ := List.mem_map.mp member
    rfl
  have shown := congrArg (·[position]?) (holds.classes_finish fresh)
  simp only [List.getElem?_map, here, Option.map_some] at shown
  obtain ⟨record, atPosition, bare⟩ := Option.map_eq_some_iff.mp shown
  have name : record.name = stream.recorded.name :=
    record.name_withoutNested.symm.trans (congrArg ClassRecord.name bare)
  obtain ⟨listed, empty⟩ := holds.nestedClasses_finish fresh atPosition
  rw [recordedNames_extracted, name] at listed empty
  refine ⟨record, atPosition, fun child => ?_⟩
  by_cases last : LastAt (namesOf streams) stream.recorded.name position
  · rw [(listed last).mem_iff, mem_childNames_extracted, and_iff_right last]
  · rw [empty last]
    exact ⟨fun found => (List.not_mem_nil found).elim, fun found => (last found.1).elim⟩

/-- Position by position: what the last record of a name finds under it must be
the children of the full name of its class, and a class with an earlier record
must have none. -/
theorem childrenAttached_iff_listed :
    ChildrenAttached ns streams ↔
      ∀ (position : Nat) (stream : ClassStream), streams[position]? = some stream → ∀ name,
        (LastAt (namesOf streams) stream.recorded.name position ∧
            ∃ child ∈ streams, child.recorded.parent = some stream.recorded.name ∧
              child.recorded.name = name) ↔
          ∃ child ∈ streams, child.recorded.parent = some stream.fullName ∧
            child.recorded.name = name := by
  constructor
  · intro attached position stream here name
    obtain ⟨record, found, right⟩ := attached position stream here
    obtain ⟨same, sameFound, listed⟩ := exists_record ns here
    rw [Option.some.inj (found.symm.trans sameFound)] at right
    rw [← listed, right]
  · intro agrees position stream here
    obtain ⟨record, found, listed⟩ := exists_record ns here
    exact ⟨record, found, fun name => (listed name).trans (agrees position stream here name)⟩

end

/-- The children are with the right classes exactly if, for every parent of a
class that was added, whichever class was recorded last under the parent's name
is the parent itself, and no other class has its full name. -/
theorem childrenAttached_iff (ns : Namespace) (streams : List ClassStream) :
    ChildrenAttached ns streams ↔
      ∀ child ∈ streams, ∀ parent, child.recorded.parent = some parent →
        ∀ position, LastAt (namesOf streams) parent position →
          ∀ (other : Nat) (stream : ClassStream), streams[other]? = some stream →
            (stream.fullName = parent ↔ other = position) := by
  rw [childrenAttached_iff_listed]
  constructor
  · intro agrees child member parent nested position last other stream here
    have standing := last.1
    rw [namesOf, List.getElem?_map] at standing
    obtain ⟨holder, atPosition, holderName⟩ := Option.map_eq_some_iff.mp standing
    have holderIsParent : holder.fullName = parent := by
      rw [← holderName] at last nested
      obtain ⟨other, _, ofHolder, _⟩ :=
        (agrees position holder atPosition _).mp ⟨last, child, member, nested, rfl⟩
      have recorded := RecordedName.ofInternal_of_parent ofHolder rfl
      exact (congrArg RecordedName.name recorded).symm.trans holderName
    constructor
    · intro isParent
      have otherLast : LastAt (namesOf streams) stream.recorded.name other :=
        ((agrees other stream here _).mpr ⟨child, member, isParent ▸ nested, rfl⟩).1
      rw [ClassStream.recorded, RecordedName.ofInternal_of_parent nested isParent] at otherLast
      exact otherLast.unique last
    · rintro rfl
      rw [← Option.some.inj (atPosition.symm.trans here)]
      exact holderIsParent
  · intro condition position stream here name
    constructor
    · rintro ⟨last, child, member, nested, same⟩
      have isParent := (condition child member _ nested position last position stream here).mpr rfl
      exact ⟨child, member, by rw [isParent]; exact nested, same⟩
    · rintro ⟨child, member, nested, same⟩
      have recorded : stream.recorded.name = stream.fullName :=
        congrArg RecordedName.name (RecordedName.ofInternal_of_parent nested rfl)
      have isNamed : stream.fullName ∈ namesOf streams :=
        List.mem_map.mpr ⟨stream, List.mem_of_getElem? here, recorded⟩
      obtain ⟨place, last⟩ := exists_lastAt isNamed
      have isLast := (condition child member _ nested place last position stream here).mp rfl
      rw [recorded, isLast]
      exact ⟨last, child, member, nested, same⟩

/-- `a.Inner` and the class `Inner` in `a.Outer` are recorded under one name.
The class added last takes the child of the other. -/
theorem not_childrenAttached_of_shared_name :
    let streams : List ClassStream :=
      [.ofName "a/Inner", .ofName "a/Outer$Inner", .ofName "a/Inner$Deep"]
    (streams.map fun stream => stream.header.name).Nodup ∧
      ¬ChildrenAttached ⟨"a"⟩ streams := by
  intro streams
  have around : (ClassStream.ofName "a/Inner").fullName = "a.Inner" := by decide +kernel
  have outside : (ClassStream.ofName "a/Inner").recorded.name = "a.Inner" := by decide +kernel
  have inside : (ClassStream.ofName "a/Outer$Inner").recorded.name = "a.Inner" := by
    decide +kernel
  have nested : (ClassStream.ofName "a/Inner$Deep").recorded = ⟨"a.Deep", some "a.Inner"⟩ := by
    decide +kernel
  refine ⟨by decide +kernel, fun attached => ?_⟩
  have isChild : ∃ child ∈ streams,
      child.recorded.parent = some (ClassStream.ofName "a/Inner").fullName ∧
        child.recorded.name = "a.Deep" := by
    refine ⟨.ofName "a/Inner$Deep", ?_, by rw [nested, around], by rw [nested]⟩
    exact List.mem_cons_of_mem _ (List.mem_cons_of_mem _ List.mem_cons_self)
  obtain ⟨last, _⟩ := (childrenAttached_iff_listed.mp attached 0 _ rfl "a.Deep").mpr isChild
  refine last.2 1 Nat.zero_lt_one ?_
  rw [outside, ← inside]
  rfl

end Inventory
end JarAtlas
