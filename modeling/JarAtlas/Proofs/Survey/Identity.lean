/-
The identity of a project.

A project is named by the digest of its namespace and the bytes of its archive.
No namespace holds the character that parts the two, so what is digested tells
both; and both tell the model, whatever the archive is called.
-/
import JarAtlas.Proofs.Extraction.Grammar
import JarAtlas.Proofs.Inventory.Appearance
import JarAtlas.Proofs.Model.Document
import JarAtlas.Proofs.Survey.Accounting
import JarAtlas.Proofs.Text.Utf8Order
import Mathlib.Tactic.IntervalCases

namespace JarAtlas

theorem digitValue_hexDigit {value : Nat} (small : value < 16) :
    digitValue (hexDigit value) = value := by
  interval_cases value <;> rfl

theorem eq_of_hexDigits_eq {byte other : UInt8}
    (high : hexDigit (byte.toNat / 16) = hexDigit (other.toNat / 16))
    (low : hexDigit (byte.toNat % 16) = hexDigit (other.toNat % 16)) : byte = other := by
  have bound := byte.toNat_lt
  have otherBound := other.toNat_lt
  have highs := congrArg digitValue high
  have lows := congrArg digitValue low
  rw [digitValue_hexDigit (by omega), digitValue_hexDigit (by omega)] at highs lows
  apply UInt8.toNat_inj.mp
  omega

theorem hexOfBytes_injective : Function.Injective hexOfBytes := by
  intro bytes others same
  have digits := String.ofList_inj.mp same
  clear same
  induction bytes generalizing others with
  | nil =>
      cases others with
      | nil => rfl
      | cons other others => cases digits
  | cons byte bytes ih =>
      cases others with
      | nil => cases digits
      | cons other others =>
          simp only [List.flatMap_cons, List.cons_append, List.nil_append, List.cons.injEq]
            at digits
          rw [eq_of_hexDigits_eq digits.1 digits.2.1, ih digits.2.2]

theorem Utf8.zero_mem_utf8EncodeChar {c : Char} (zero : 0 ∈ String.utf8EncodeChar c) :
    c = '\x00' := by
  have number : 0 ∈ (String.utf8EncodeChar c).map UInt8.toNat :=
    List.mem_map.mpr ⟨0, zero, rfl⟩
  rw [toNat_utf8EncodeChar] at number
  apply Char.toNat_inj.mp
  split_ifs at number <;> simp at number
  exact number.symm

theorem Utf8.zero_not_mem_encode {text : String} (free : '\x00' ∉ text.toList) :
    0 ∉ encode text := by
  intro zero
  rw [encode_eq] at zero
  obtain ⟨c, member, here⟩ := List.mem_flatMap.mp zero
  exact free (zero_mem_utf8EncodeChar here ▸ member)

namespace Survey

theorem toList_projectKey (ns : Namespace) (archive : ByteArray) :
    (projectKey ns archive).data.toList =
      Utf8.encode ns.name ++ 0 :: archive.data.toList := by
  rw [projectKey, ByteArray.data_append, ByteArray.data_push, Array.toList_append,
    Array.toList_push, List.append_assoc]
  rfl

theorem eq_of_projectKey_eq {ns other : Namespace} {archive otherArchive : ByteArray}
    (free : '\x00' ∉ ns.name.toList) (otherFree : '\x00' ∉ other.name.toList)
    (same : projectKey ns archive = projectKey other otherArchive) :
    ns = other ∧ archive = otherArchive := by
  have bytes : Utf8.encode ns.name ++ 0 :: archive.data.toList =
      Utf8.encode other.name ++ 0 :: otherArchive.data.toList := by
    rw [← toList_projectKey, ← toList_projectKey, same]
  have cuts := congrArg (cutAtFirst? 0) bytes
  rw [cutAtFirst?_append (Utf8.zero_not_mem_encode free),
    cutAtFirst?_append (Utf8.zero_not_mem_encode otherFree)] at cuts
  obtain ⟨names, archives⟩ := Prod.mk.inj (Option.some.inj cuts)
  constructor
  · cases ns
    cases other
    exact congrArg Namespace.mk (Utf8.encode_injective names)
  · exact ByteArray.ext (Array.toList_inj.mp archives)

theorem projectId_eq_iff {ns other : Namespace} {archive otherArchive : ByteArray} :
    projectId ns archive = projectId other otherArchive ↔
      Sha256.digest (projectKey ns archive) = Sha256.digest (projectKey other otherArchive) := by
  constructor
  · intro same
    exact Vector.toList_inj.mp (hexOfBytes_injective same)
  · intro same
    rw [projectId, projectId, same]

theorem projectKey_eq_of_projectId_eq {ns other : Namespace} {archive otherArchive : ByteArray}
    (apart : Sha256.digest (projectKey ns archive) =
        Sha256.digest (projectKey other otherArchive) →
      projectKey ns archive = projectKey other otherArchive)
    (same : projectId ns archive = projectId other otherArchive) :
    projectKey ns archive = projectKey other otherArchive :=
  apart (projectId_eq_iff.mp same)

theorem survey_relabeled (label other : String) (ns : Namespace) (archive : ByteArray) :
    survey label ns archive =
      (survey other ns archive).map fun report => { report with archive := label } := by
  unfold survey
  cases Zip.directory? archive with
  | none => rfl
  | some listed =>
      dsimp only
      cases openAll archive 0 listed <;> rfl

theorem projectId_of_survey {label : String} {ns : Namespace} {archive : ByteArray}
    {told : Report} (surveyed : survey label ns archive = .ok told) :
    told.projectId = projectId ns archive := by
  obtain ⟨_, entries, -, -, rfl⟩ := exists_report_of_survey surveyed
  rfl

theorem model_eq_of_survey {label other : String} {ns : Namespace} {archive : ByteArray}
    {told otherTold : Report} (surveyed : survey label ns archive = .ok told)
    (otherSurveyed : survey other ns archive = .ok otherTold) : told.model = otherTold.model := by
  rw [survey_relabeled label other, otherSurveyed] at surveyed
  cases surveyed
  rfl

theorem nodup_interfaces_of_extractClass {ns : Namespace} {events : List ClassEvent}
    {extracted : ExtractedClass} (told : extractClass ns events = .ok extracted) :
    extracted.record.interfaces.Nodup := by
  obtain ⟨header, body, inner, rfl⟩ :=
    (exists_extractClass_ok_iff ns events).mp ⟨extracted, told⟩
  rw [Extraction.extractClass_eq_finish header inner] at told
  cases told
  exact (listsOnce_firstOccurrences _).distinct

theorem exists_extractClass_of_classFate {ns : Namespace} {name : String} {bytes : Bytes}
    {extracted : ExtractedClass} (fate : classFate ns name bytes = .recorded extracted) :
    ∃ events, extractClass ns events = .ok extracted := by
  rw [classFate] at fate
  split at fate
  · cases fate
  · rename_i events _
    split at fate
    · cases fate
    · rename_i told extracts
      cases fate
      exact ⟨events, extracts⟩

theorem exists_extractClass_of_fate {ns : Namespace} {sight : Sight}
    {extracted : ExtractedClass} (fate : fateOf ns sight = .recorded extracted) :
    ∃ events, extractClass ns events = .ok extracted := by
  rw [fateOf] at fate
  split at fate
  · cases fate
  · split at fate
    · cases fate
    · exact exists_extractClass_of_classFate fate
  · split at fate
    · cases fate
    · rename_i content _
      have fits := descriptorFate_fits sight.name content.data.toList
      rw [fate] at fits
      cases fits

theorem nodup_interfaces_of_fate {ns : Namespace} {sight : Sight} {record : ClassRecord}
    (told : (fateOf ns sight).record? = some record) : record.interfaces.Nodup := by
  cases fate : fateOf ns sight with
  | recorded extracted =>
      rw [fate] at told
      cases told
      obtain ⟨events, extracts⟩ := exists_extractClass_of_fate fate
      exact nodup_interfaces_of_extractClass extracts
  | _ =>
      rw [fate] at told
      cases told

theorem hasDistinctInterfaces_of_survey {label : String} {ns : Namespace} {archive : ByteArray}
    {told : Report} (surveyed : survey label ns archive = .ok told) :
    told.model.HasDistinctInterfaces := by
  obtain ⟨_, entries, -, -, rfl⟩ := exists_report_of_survey surveyed
  intro record member
  have drawn : record.withoutNested ∈
      ((fatesOf ns archive entries).filterMap Fate.record?).map ClassRecord.withoutNested := by
    rw [report_eq] at member
    have kept := List.mem_map_of_mem (f := ClassRecord.withoutNested) member
    rw [Inventory.finish, Inventory.attach_withoutNested, classes_foldl_draw] at kept
    exact kept
  obtain ⟨plain, plainMember, same⟩ := List.mem_map.mp drawn
  obtain ⟨fate, fateMember, told⟩ := List.mem_filterMap.mp plainMember
  obtain ⟨entry, -, rfl⟩ := List.mem_map.mp fateMember
  have distinct : plain.interfaces.Nodup := nodup_interfaces_of_fate told
  have kept : plain.withoutNested.interfaces.Nodup := distinct
  rw [same] at kept
  exact kept

end Survey
end JarAtlas
