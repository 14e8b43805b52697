/-
The names of admitted classes.

If the entry of a class is admitted, the namespace is empty or a package around
the class.  Recording a class changes its last segment alone, so its recorded name
and its parent stay in this package.  Supertypes are recorded only where they lie
in the namespace, each interface once, in the order of the header.
-/
import JarAtlas.EntryFault
import JarAtlas.Proofs.Extraction.Narrowing
import JarAtlas.Proofs.Extraction.Run
import JarAtlas.Proofs.Inventory.Appearance
import JarAtlas.Proofs.Name.Admission
import JarAtlas.Proofs.Name.Nesting

namespace JarAtlas

namespace Namespace

variable {ns : Namespace}

theorem Encloses.of_package {name : String} {package segment : List Char}
    (encloses : ns.Encloses name) (whole : name.toList = package ++ segment)
    (dotFree : '.' ∉ segment) (other : List Char) :
    ns.Encloses (String.ofList (package ++ other)) := by
  refine encloses.imp_right ?_
  rintro ⟨rest, inside⟩
  rw [whole] at inside
  have noDot (front back : List Char) : segment ≠ front ++ '.' :: back :=
    fun same => dotFree (same ▸ List.mem_append_right front List.mem_cons_self)
  rcases List.append_eq_append_iff.mp inside with ⟨overlap, _, late⟩ | ⟨inner, early, cut⟩
  · exact absurd late (noDot overlap rest)
  · cases inner with
    | nil => exact absurd cut.symm (noDot [] rest)
    | cons c inner =>
        obtain ⟨rfl, -⟩ := List.cons.inj cut
        refine ⟨inner ++ other, ?_⟩
        rw [String.toList_ofList, early, List.append_assoc, List.cons_append]

theorem Encloses.contains {name : String} (encloses : ns.Encloses name) :
    ns.contains name = true :=
  contains_iff.mpr (Or.inl encloses)

theorem Encloses.recorded {internalName : String} (encloses : ns.Encloses (dotted internalName)) :
    ns.Encloses (RecordedName.ofInternal internalName).name ∧
      ∀ parent, (RecordedName.ofInternal internalName).parent = some parent →
        ns.Encloses parent := by
  rcases RecordedName.ofInternal_eq_or internalName with
    top | ⟨package, outer, own, _, dotFree, _, whole, nested⟩
  · rw [top]
    exact ⟨encloses, nofun⟩
  · rw [nested]
    refine ⟨encloses.of_package whole dotFree own, ?_⟩
    rintro parent same
    cases same
    exact encloses.of_package whole dotFree outer

end Namespace

theorem Supertype.contains_of_insideName? {ns : Namespace} {raw : Option String} {name : String}
    (inside : (resolve ns raw).insideName? = some name) : ns.contains name = true := by
  cases raw with
  | none => cases inside
  | some raw =>
      rw [resolve] at inside
      split at inside
      · cases inside
      · split at inside
        · next held =>
            cases inside
            exact held
        · cases inside

/-- Whether all names of a class and its supertypes lie in the namespace, and its
interfaces are those of the declared ones that do, each once and in their order. -/
structure StaysInside (ns : Namespace) (declared : List String) (extracted : ExtractedClass) :
    Prop where
  name : ns.contains extracted.record.name = true
  parent : ∀ parent, extracted.parent = some parent → ns.contains parent = true
  superclass : extracted.record.superclass ≠ "" →
    ns.contains extracted.record.superclass = true
  interfaces : ∀ interface, interface ∈ extracted.record.interfaces ↔
    interface ∈ declared ∧ ns.contains interface = true
  distinct : extracted.record.interfaces.Nodup
  ordered : extracted.record.interfaces.Pairwise fun first second =>
    declared.idxOf first < declared.idxOf second

theorem staysInside_of_encloses {ns : Namespace} {header : ClassHeader}
    (encloses : ns.Encloses (dotted header.name)) (state : Extraction) :
    StaysInside ns (header.interfaces.map dotted) (state.finish (.ofHeader ns header)).1 := by
  have recorded := encloses.recorded
  let declared := header.interfaces.map dotted
  have listed : (state.finish (.ofHeader ns header)).1.record.interfaces =
      (firstOccurrences declared).filter ns.contains :=
    (filter_firstOccurrences ns.contains declared).symm
  have once := listsOnce_firstOccurrences declared
  refine ⟨recorded.1.contains, fun parent isParent => (recorded.2 parent isParent).contains, ?_, ?_,
    listed ▸ once.distinct.filter _, listed ▸ once.ordered.filter _⟩
  · intro named
    have inside : (state.finish (.ofHeader ns header)).1.record.superclass =
        (Supertype.resolve ns header.superName).insideName?.getD "" := rfl
    rw [inside] at named ⊢
    cases resolved : (Supertype.resolve ns header.superName).insideName? with
    | none => exact absurd (by rw [resolved, Option.getD_none]) named
    | some name => exact Supertype.contains_of_insideName? resolved
  · intro interface
    rw [listed, List.mem_filter, once.mem_iff]

/-- A class whose entry is admitted is extracted from any stream that tells it, and
its names stay in the namespace. -/
theorem classOf_admitted (text : String) {root : String} {header : ClassHeader}
    (placed : root ∈ EntryKind.placings) (isPath : EntryKind.IsPathName header.name)
    (admitted : EntryKind.ofName (.ofText text) (root ++ header.name ++ ".class") = .classFile)
    {body : List ClassEvent} (inner : ∀ event ∈ body, event.isInner = true) (entry : String) :
    ∃ extracted,
      classOf entry (.ofText text) (.header header :: (body ++ [.done])) = .ok extracted ∧
      StaysInside (.ofText text) (header.interfaces.map dotted) extracted := by
  have encloses := (Namespace.containsPath_classFile_iff (Namespace.ofText_slash_free text)
    isPath.dotFree).mp (EntryKind.containsPath_of_ofName placed isPath admitted)
  have told : ∃ state : Extraction,
      extractClass (.ofText text) (.header header :: (body ++ [.done])) =
        .ok (state.finish (.ofHeader (.ofText text) header)).1 :=
    ⟨_, Extraction.extractClass_eq_finish header inner⟩
  obtain ⟨state, told⟩ := told
  refine ⟨_, ?_, staysInside_of_encloses encloses state⟩
  rw [classOf, told]

/-- A class that is nested twice, with an interface from elsewhere and another one
that is declared twice. -/
def deeplyNested : ClassHeader :=
  ⟨"com/example/Outer$Inner$Deep", ⟨1⟩, some "com/example/Base",
    ["com/example/Second", "java/io/Serializable", "com/example/First", "com/example/Second"]⟩

theorem classOf_admitted_deeplyNested :
    EntryKind.ofName (.ofText "com.example")
        ("BOOT-INF/classes/" ++ deeplyNested.name ++ ".class") = .classFile ∧
      ∃ extracted,
        classOf "Deep.class" (.ofText "com.example")
            (.header deeplyNested :: ([.method "run" ⟨1⟩] ++ [.done])) = .ok extracted ∧
          StaysInside (.ofText "com.example") (deeplyNested.interfaces.map dotted) extracted := by
  have admitted : EntryKind.ofName (.ofText "com.example")
      ("BOOT-INF/classes/" ++ deeplyNested.name ++ ".class") = .classFile := by
    decide +kernel
  have isPath : EntryKind.IsPathName deeplyNested.name := by decide +kernel
  exact ⟨admitted, classOf_admitted "com.example" (List.mem_cons_of_mem _ List.mem_cons_self)
    isPath admitted (List.forall_mem_singleton.mpr rfl) "Deep.class"⟩

end JarAtlas
