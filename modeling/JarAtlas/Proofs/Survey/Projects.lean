/-
Projects and their identifiers.

The identifier of a project is the digest of its namespace and its archive in
hexadecimal digits, and a store takes every such identifier for a key.  What is digested
tells the namespace and the archive, so two projects share an identifier only where the
digests collide.  A report names its namespace; a survey under the namespace that this
name means gives the report once more exactly if the namespace was read from a text with
no blanks between the separators and the name.
-/
import JarAtlas.Proofs.Name.Normalization
import JarAtlas.Proofs.Store.History
import JarAtlas.Proofs.Survey.Identity

namespace JarAtlas

def lowerHexDigits : List Char :=
  "0123456789abcdef".toList

theorem hexDigit_mem {value : Nat} (small : value < 16) : hexDigit value ∈ lowerHexDigits := by
  have every : ∀ digit : Fin 16, hexDigit digit.val ∈ lowerHexDigits := by decide +kernel
  exact every ⟨value, small⟩

theorem toNat_le_of_mem_lowerHexDigits {c : Char} (member : c ∈ lowerHexDigits) :
    c.toNat ≤ 127 := by
  have every : lowerHexDigits.all (fun c => c.toNat ≤ 127) = true := by rfl
  exact of_decide_eq_true (List.all_eq_true.mp every c member)

theorem mem_lowerHexDigits_of_hexOfBytes {bytes : List UInt8} {c : Char}
    (member : c ∈ (hexOfBytes bytes).toList) : c ∈ lowerHexDigits := by
  rw [hexOfBytes, String.toList_ofList] at member
  obtain ⟨byte, -, digit⟩ := List.mem_flatMap.mp member
  have bound := byte.toNat_lt
  rcases List.mem_cons.mp digit with rfl | low
  · exact hexDigit_mem (by omega)
  · rw [List.mem_singleton.mp low]
    exact hexDigit_mem (by omega)

theorem length_hexOfBytes (bytes : List UInt8) :
    (hexOfBytes bytes).toList.length = 2 * bytes.length := by
  rw [hexOfBytes, String.toList_ofList]
  induction bytes with
  | nil => rfl
  | cons byte bytes ih =>
      rw [List.flatMap_cons, List.length_append, ih, List.length_cons, List.length_cons,
        List.length_cons, List.length_nil]
      omega

theorem utf8ByteSize_of_small {text : String} (small : ∀ c ∈ text.toList, c.toNat ≤ 127) :
    text.utf8ByteSize = text.toList.length := by
  have bytes : text.utf8ByteSize = (Utf8.encode text).length := by
    rw [Utf8.encode, Array.length_toList]
    rfl
  rw [bytes, Utf8.encode_eq]
  generalize text.toList = chars at small ⊢
  induction chars with
  | nil => rfl
  | cons c rest ih =>
      have one := Utf8.utf8EncodeChar_one (small c List.mem_cons_self)
      have others := ih fun d member => small d (List.mem_cons_of_mem c member)
      rw [List.flatMap_cons, List.length_append, others, one, List.length_singleton,
        List.length_cons, Nat.add_comm]

namespace Survey

open Namespace (ofText IsNeat)

variable (ns : Namespace) (archive : ByteArray)

/-! ### Identifiers -/

theorem length_projectId : (projectId ns archive).toList.length = 64 := by
  rw [projectId, length_hexOfBytes, Vector.length_toList]

theorem mem_lowerHexDigits_of_projectId :
    ∀ c ∈ (projectId ns archive).toList, c ∈ lowerHexDigits :=
  fun _ member => mem_lowerHexDigits_of_hexOfBytes member

theorem isKey_projectId : Store.isKey (projectId ns archive) = true := by
  have size : (projectId ns archive).utf8ByteSize = 64 := by
    rw [← length_projectId ns archive]
    exact utf8ByteSize_of_small fun c member =>
      toNat_le_of_mem_lowerHexDigits (mem_lowerHexDigits_of_projectId ns archive c member)
  rw [Store.isKey, size]
  rfl

variable {ns} {archive}

/-- What is digested for two projects is the same exactly if their namespaces and
their archives are, and then or by a collision of digests they have one identifier.
An identifier consists of 64 digits, and a report under it can always be saved. -/
theorem projectKey_tells_project :
    (∀ (text other : String) (archive otherArchive : ByteArray),
      '\x00' ∉ text.toList → '\x00' ∉ other.toList →
        let key := projectKey (ofText text) archive
        let otherKey := projectKey (ofText other) otherArchive
        (key = otherKey ↔ ofText text = ofText other ∧ archive = otherArchive) ∧
          (projectId (ofText text) archive = projectId (ofText other) otherArchive ↔
            (ofText text = ofText other ∧ archive = otherArchive) ∨
              (key ≠ otherKey ∧ Sha256.digest key = Sha256.digest otherKey))) ∧
      ∀ (ns : Namespace) (archive : ByteArray),
        (projectId ns archive).toList.length = 64 ∧
          (∀ c ∈ (projectId ns archive).toList, c ∈ lowerHexDigits) ∧
          ∀ (store : Store) (now : Nat) (report : Report),
            report.projectId = projectId ns archive →
              ∃ changed, store.save now report = .ok (changed, report.summary now) := by
  constructor
  · intro text other archive otherArchive free otherFree key otherKey
    have nameFree : '\x00' ∉ (ofText text).name.toList :=
      Namespace.not_mem_name_ofText free (by decide)
    have otherNameFree : '\x00' ∉ (ofText other).name.toList :=
      Namespace.not_mem_name_ofText otherFree (by decide)
    have told : key = otherKey ↔ ofText text = ofText other ∧ archive = otherArchive := by
      constructor
      · exact eq_of_projectKey_eq nameFree otherNameFree
      · rintro ⟨names, archives⟩
        exact congrArg₂ projectKey names archives
    refine ⟨told, ?_⟩
    rw [projectId_eq_iff, ← told]
    constructor
    · intro same
      by_cases keys : key = otherKey
      · exact Or.inl keys
      · exact Or.inr ⟨keys, same⟩
    · rintro (keys | ⟨-, same⟩)
      · exact congrArg Sha256.digest keys
      · exact same
  · intro ns archive
    refine ⟨length_projectId ns archive, mem_lowerHexDigits_of_projectId ns archive, ?_⟩
    intro store now report named
    have key : Store.isKey report.projectId = true := by
      rw [named]
      exact isKey_projectId ns archive
    exact ⟨_, Store.save_of_isKey key store now⟩

/-- The archive may start with the character that parts the two. -/
theorem projectKey_tells_archive_after_zero :
    '\x00' ∉ "com/a".toList ∧ '\x00' ∉ " com.a".toList ∧
      projectKey (ofText "com/a") ⟨#[0, 98]⟩ = projectKey (ofText " com.a") ⟨#[0, 98]⟩ ∧
      projectKey (ofText "com/a") ⟨#[0, 98]⟩ ≠ projectKey (ofText " com.a") ⟨#[98]⟩ ∧
      ∃ changed, Store.empty.save 0
          ⟨"a.jar", "com.a", projectId (ofText "com/a") ⟨#[0, 98]⟩, ⟨[], [], []⟩, []⟩ =
        .ok (changed, ⟨projectId (ofText "com/a") ⟨#[0, 98]⟩, "a.jar", "com.a", 0, 0, 0, 0⟩) := by
  have free : '\x00' ∉ "com/a".toList := by decide
  have otherFree : '\x00' ∉ " com.a".toList := by decide
  have name : (ofText "com/a").name = "com.a" := by decide +kernel
  have otherName : (ofText " com.a").name = "com.a" := by decide +kernel
  have names : ofText "com/a" = ofText " com.a" :=
    congrArg Namespace.mk (name.trans otherName.symm)
  have bytes : (⟨#[0, 98]⟩ : ByteArray) ≠ ⟨#[98]⟩ := by decide
  obtain ⟨told, identified⟩ := projectKey_tells_project
  refine ⟨free, otherFree, ?_, ?_, (identified (ofText "com/a") ⟨#[0, 98]⟩).2.2 _ 0 _ rfl⟩
  · exact (told _ _ ⟨#[0, 98]⟩ ⟨#[0, 98]⟩ free otherFree).1.mpr ⟨names, rfl⟩
  · exact fun same => bytes ((told _ _ ⟨#[0, 98]⟩ ⟨#[98]⟩ free otherFree).1.mp same).2

/-- With a zero character in a namespace one key may stand for two projects. -/
example : projectKey ⟨"a\x00"⟩ ⟨#[98]⟩ = projectKey ⟨"a"⟩ ⟨#[0, 98]⟩ :=
  rfl

theorem namespaceName_of_survey {label : String} {told : Report}
    (surveyed : survey label ns archive = .ok told) : told.namespaceName = ns.name := by
  obtain ⟨_, entries, -, -, rfl⟩ := exists_report_of_survey surveyed
  rfl

/-- What is expected of the namespace that a text means: it is read back from its name
and from its path, nothing is left at the ends of its name that is dropped there, and a
survey under the namespace that a report names gives the same project and report. -/
structure IsNormal (text : String) : Prop where
  fromName : ofText (ofText text).name = ofText text
  fromPath : ofText (ofText text).path = ofText text
  slashFree : '/' ∉ (ofText text).name.toList
  dotsOff : Trimmed (· = '.') (ofText text).name.toList
  blanksOff : Trimmed isBlank (ofText text).name.toList
  again : ∀ (label : String) (archive : ByteArray) (told : Report),
    survey label (ofText text) archive = .ok told →
      projectId (ofText told.namespaceName) archive = told.projectId ∧
        survey label (ofText told.namespaceName) archive = .ok told

theorem survey_again_iff {label text : String} {told : Report}
    (surveyed : survey label (ofText text) archive = .ok told) :
    survey label (ofText told.namespaceName) archive = .ok told ↔
      IsNeat text := by
  rw [← Namespace.ofText_name_ofText_iff, namespaceName_of_survey surveyed]
  constructor
  · intro again
    have name := namespaceName_of_survey again
    rw [namespaceName_of_survey surveyed] at name
    cases read : ofText (ofText text).name
    cases meant : ofText text
    rw [read, meant] at name
    exact congrArg Namespace.mk name.symm
  · intro same
    rw [same]
    exact surveyed

/-- The name of a namespace never has slashes in it or dots at its ends.  All else
that is expected of it is met exactly by a text with its separators right around the name
and its blanks outside of these; otherwise the name has a blank at an end, is read as
another namespace, and every survey gives another report the second time. -/
theorem isNormal_iff (text : String) :
    let ns := ofText text
    ('/' ∉ ns.name.toList ∧ Trimmed (· = '.') ns.name.toList) ∧
      (IsNormal text ↔ IsNeat text) ∧
      (Trimmed isBlank ns.name.toList ↔ IsNeat text) ∧
      (ofText ns.name = ns ↔ IsNeat text) ∧
      (ofText ns.path = ns ↔ IsNeat text) ∧
      ∀ (label : String) (archive : ByteArray) (told : Report),
        survey label ns archive = .ok told →
          (survey label (ofText told.namespaceName) archive = .ok told ↔
            IsNeat text) := by
  intro ns
  have slashFree : '/' ∉ ns.name.toList := Namespace.ofText_slash_free text
  have dotsOff : Trimmed (· = '.') ns.name.toList := Namespace.ofText_dots_off text
  have blanksOff := Namespace.trimmed_name_iff text
  have fromName := Namespace.ofText_name_ofText_iff text
  have fromPath := Namespace.ofText_path_ofText_iff text
  refine ⟨⟨slashFree, dotsOff⟩, ⟨fun normal => blanksOff.mp normal.blanksOff, fun neat => ?_⟩,
    blanksOff, fromName, fromPath, fun label archive told surveyed => survey_again_iff surveyed⟩
  refine ⟨fromName.mpr neat, fromPath.mpr neat, slashFree, dotsOff, blanksOff.mpr neat, ?_⟩
  intro label archive told surveyed
  refine ⟨?_, (survey_again_iff surveyed).mpr neat⟩
  rw [namespaceName_of_survey surveyed, fromName.mpr neat, projectId_of_survey surveyed]

/-- Behind the first slash a blank is laid open, and with it a separator that stands
around the name. -/
theorem not_isNormal_of_inner_blank :
    (ofText "/ /com/example").name = " .com.example" ∧
      (ofText " .com.example").name = "com.example" ∧
      (ofText "/ /com/example").contains "com.example.Shop" = false ∧
      ¬IsNormal "/ /com/example" := by
  have name : (ofText "/ /com/example").name = " .com.example" := by decide +kernel
  have again : (ofText " .com.example").name = "com.example" := by decide +kernel
  refine ⟨name, again, by decide +kernel, fun normal => ?_⟩
  have same := congrArg Namespace.name normal.fromName
  rw [name, again] at same
  exact absurd same (by decide)

end Survey
end JarAtlas
