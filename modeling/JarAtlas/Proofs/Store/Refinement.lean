/-
Stores as maps from identifiers to models.

After any history the lookups of an identifier tell the model of the last save
under it since the store was last cleared, and the listing tells the summary of
that save.  A refused save leaves no trace in later answers, and a save under
one identifier none in the answers about another.
-/
import JarAtlas.Proofs.Store.History

namespace JarAtlas
namespace Store

theorem model?_congr {store other : Store} {id : String}
    (same : store.models.get? id = other.models.get? id) : store.model? id = other.model? id := by
  rw [model?, model?, find, find, same]

theorem model?_of_get?_none {store : Store} {id : String} (notEmpty : id ≠ "")
    (absent : store.models.get? id = none) : store.model? id = .ok none := by
  rw [model?, find, if_neg notEmpty, absent]
  rfl

theorem model?_of_get?_some {store : Store} {id : String} {model : Model} (notEmpty : id ≠ "")
    (distinct : model.HasDistinctInterfaces)
    (present : store.models.get? id = some model.toJson.compact) :
    store.model? id = .ok (some model) := by
  have read : (Json.ofText? model.toJson.compact).bind Model.ofJson? = some model := by
    rw [Json.ofText?_compact, Option.bind_some, Model.ofJson?_toJson distinct]
  have found : find store.models id = .ok (some model.toJson.compact) := by
    rw [find, if_neg notEmpty, present]
  simp only [model?, found, bind, Except.bind, read]
  rfl

def lastModel? (id : String) (requests : List Request) : Option Model :=
  (lastSave? id requests).map fun (_, report) => report.model

theorem model?_after (requests : List Request) {id : String} (notEmpty : id ≠ "") :
    (after requests).model? id = .ok (lastModel? id requests) := by
  have held := (holds_after requests).models id
  rw [lastModel?]
  cases last : lastSave? id requests with
  | none =>
      rw [last] at held
      exact model?_of_get?_none notEmpty held
  | some save =>
      rw [last] at held
      exact model?_of_get?_some notEmpty (lastSave?_sound last).2.2 held

def summaryRow (summary : Summary) : String × String :=
  (summary.projectId, summary.toJson.compact)

theorem ofText?_compact_summary (summary : Summary) :
    (Json.ofText? summary.toJson.compact).bind Summary.ofJson? = some summary := by
  rw [Json.ofText?_compact, Option.bind_some, Summary.ofJson?_toJson]

theorem compact_summary_injective :
    Function.Injective fun summary : Summary => summary.toJson.compact := by
  intro summary other same
  have text : summary.toJson.compact = other.toJson.compact := same
  have read := ofText?_compact_summary summary
  rw [text, ofText?_compact_summary] at read
  exact (Option.some.inj read).symm

theorem summaryOf_summaryRow (summary : Summary) :
    summaryOf (summaryRow summary) = .ok summary := by
  rw [summaryOf, summaryRow, ofText?_compact_summary]

theorem lookup_map_summaryRow (summaries : List Summary) (id : String) :
    (summaries.map summaryRow).lookup id =
      (summaries.find? fun summary => summary.projectId = id).map (·.toJson.compact) := by
  induction summaries with
  | nil => rfl
  | cons summary summaries ih =>
      rw [List.map_cons, summaryRow, List.lookup_cons, List.find?_cons]
      by_cases same : summary.projectId = id
      · rw [beq_iff_eq.mpr same.symm, decide_eq_true same]
        rfl
      · rw [beq_false_of_ne (Ne.symm same), decide_eq_false same]
        exact ih

theorem exists_map_summaryRow {rows : List (String × String)}
    (summarized : ∀ row ∈ rows, ∃ summary, summaryRow summary = row) :
    ∃ summaries : List Summary, summaries.map summaryRow = rows := by
  induction rows with
  | nil => exact ⟨[], rfl⟩
  | cons row rows ih =>
      obtain ⟨summary, first⟩ := summarized row List.mem_cons_self
      obtain ⟨summaries, rest⟩ := ih fun other member =>
        summarized other (List.mem_cons_of_mem row member)
      exact ⟨summary :: summaries, by rw [List.map_cons, first, rest]⟩

theorem exists_projects_after (requests : List Request) :
    ∃ summaries, (after requests).projects = .ok summaries ∧
      (after requests).summaries.rows = summaries.map summaryRow := by
  have held := (holds_after requests).summaries
  obtain ⟨summaries, rows⟩ := exists_map_summaryRow fun row member => by
    have present := (held row.1).symm.trans
      (Table.lookup_of_mem (after requests).summaries.ordered member)
    obtain ⟨⟨now, report⟩, last, text⟩ := Option.map_eq_some_iff.mp present
    exact ⟨report.summary now, Prod.ext (lastSave?_sound last).1 text⟩
  refine ⟨summaries, ?_, rows.symm⟩
  rw [projects, ← rows]
  exact mapM_map_eq_pure fun summary _ => summaryOf_summaryRow summary

theorem projects_after (requests : List Request) :
    ∃ summaries, (after requests).projects = .ok summaries ∧
      summaries.Pairwise (fun a b => a.projectId < b.projectId) ∧
      ∀ id, (summaries.find? fun summary => summary.projectId = id) =
        (lastSave? id requests).map fun (now, report) => report.summary now := by
  obtain ⟨summaries, listed, rows⟩ := exists_projects_after requests
  refine ⟨summaries, listed, ?_, ?_⟩
  · have ordered := (after requests).summaries.ordered
    rw [rows, List.pairwise_map] at ordered
    exact ordered
  · intro id
    have told := (holds_after requests).summaries id
    rw [Table.get?, rows, lookup_map_summaryRow] at told
    refine Option.map_injective compact_summary_injective (told.trans ?_)
    rw [Option.map_map]
    rfl

def listed? (store : Store) (id : String) : Except StoreFault (Option Summary) :=
  store.projects.map fun summaries => summaries.find? fun summary => summary.projectId = id

theorem listed?_after (requests : List Request) (id : String) :
    (after requests).listed? id =
      .ok ((lastSave? id requests).map fun (now, report) => report.summary now) := by
  obtain ⟨summaries, listed, -, found⟩ := projects_after requests
  rw [listed?, listed, ← found id]
  rfl

/-! ### Histories -/

/-- Whether two stores tell the same about an id. -/
structure AlikeFor (id : String) (store other : Store) : Prop where
  model : store.model? id = other.model? id
  classes : store.classes? id = other.classes? id
  externalDependencies : store.externalDependencies? id = other.externalDependencies? id
  classNames : store.classNames? id = other.classNames? id
  listed : store.listed? id = other.listed? id

theorem alikeFor_of_lastSave?_eq {requests others : List Request} {id : String}
    (same : lastSave? id requests = lastSave? id others) :
    AlikeFor id (after requests) (after others) := by
  have model : (after requests).model? id = (after others).model? id := by
    apply model?_congr
    rw [(holds_after requests).models, (holds_after others).models, same]
  exact {
    model
    classes := by rw [classes?, classes?, model]
    externalDependencies := by rw [externalDependencies?, externalDependencies?, model]
    classNames := by rw [classNames?, classNames?, model]
    listed := by rw [listed?_after, listed?_after, same] }

/-- A store answers as a map from ids to models.  At the end of every history,
whatever has been asked before:

* a lookup of an id tells the model of the last save under it since the store
  was last cleared, or the part of this model that was asked for; the empty id
  cannot be looked up;
* a save under an id of 1 to 511 bytes succeeds, and any other save fails and
  changes no later answer;
* a save changes no answer about another id, whatever is asked after it;
* reopening finds the store as it was. -/
theorem store_refines_map (requests : List Request) :
    (∀ id, id ≠ "" →
      (after requests).model? id = .ok (lastModel? id requests) ∧
      (after requests).classes? id = .ok ((lastModel? id requests).map (·.classes)) ∧
      (after requests).externalDependencies? id =
        .ok ((lastModel? id requests).map (·.externalDependencies)) ∧
      (after requests).classNames? id = .ok ((lastModel? id requests).map (·.classNames))) ∧
    ((after requests).model? "" = .error .keySize ∧
      (after requests).classes? "" = .error .keySize ∧
      (after requests).externalDependencies? "" = .error .keySize ∧
      (after requests).classNames? "" = .error .keySize) ∧
    (∀ now report distinct,
      report.projectId ≠ "" ∧ report.projectId.utf8ByteSize ≤ 511 →
      ((after requests).answer (.save now report distinct)).1 =
        .saved (.ok (report.summary now))) ∧
    (∀ now report distinct later,
      report.projectId = "" ∨ 511 < report.projectId.utf8ByteSize →
      ((after requests).answer (.save now report distinct)).1 = .saved (.error .keySize) ∧
      (after (requests ++ [.save now report distinct])).answers later =
        (after requests).answers later) ∧
    (∀ now report distinct later id, id ≠ report.projectId →
      AlikeFor id (after (requests ++ .save now report distinct :: later))
        (after (requests ++ later))) ∧
    (after requests).answer .reopen = (.reopened true, after requests) := by
  refine ⟨?lookups, ⟨rfl, rfl, rfl, rfl⟩, ?accepted, ?refused, ?others, answer_reopen _⟩
  case lookups =>
    intro id notEmpty
    have model := model?_after requests notEmpty
    refine ⟨model, ?_, ?_, ?_⟩
    · rw [classes?, model]
      rfl
    · rw [externalDependencies?, model]
      rfl
    · rw [classNames?, model]
      rfl
  case accepted =>
    rintro now report distinct ⟨notEmpty, short⟩
    have key : isKey report.projectId = true :=
      isKey_iff.mpr (not_or.mpr ⟨notEmpty, Nat.not_lt.mpr short⟩)
    rw [answer_save_of_isKey key]
  case refused =>
    intro now report distinct later unsound
    have noKey : ¬isKey report.projectId = true := fun key => isKey_iff.mp key unsound
    rw [after_concat, answer_save_of_not_isKey noKey]
    exact ⟨rfl, rfl⟩
  case others =>
    intro now report distinct later id different
    have silent : (Request.save now report distinct).savedUnder? id = none :=
      if_neg fun (under : report.projectId = id ∧ isKey id = true) => different under.1.symm
    exact alikeFor_of_lastSave?_eq (lastSave?_append_cons rfl silent requests later)

/-- The lookup of the empty id fails where a map would have nothing to tell. -/
theorem not_forall_model?_eq_lastModel? :
    ¬∀ requests id, (after requests).model? id = .ok (lastModel? id requests) := by
  intro refines
  have told : (.error .keySize : Except StoreFault (Option Model)) = .ok none := refines [] ""
  cases told

end Store
end JarAtlas
