/-
One extraction for many streams.

Extraction goes on after faults and after ends.  A refused event leaves no
trace, and while no class is open extraction is as it was at first; so a record
depends on the accepted events since its header alone.  The target is always a
member that is there.
-/
import JarAtlas.Proofs.Extraction.Run

namespace JarAtlas
namespace Extraction

variable {ns : Namespace} {state : Extraction}

theorem feed_error_state {event : ClassEvent} {fault : StreamFault}
    (refused : (state.feed ns event).1 = .error fault) :
    (state.feed ns event).2 = state := by
  cases closed : state.heading with
  | none =>
      cases event with
      | header header =>
          rw [feed_header header closed] at refused
          cases refused
      | done => rw [feed_done_closed closed]
      | _ => rw [feed_inner_closed rfl closed]
  | some heading =>
      have isOpen : state.heading.isSome = true := Option.isSome_of_eq_some closed
      cases event with
      | header header => rw [feed_header_open header isOpen]
      | done =>
          rw [feed_done closed] at refused
          cases refused
      | _ =>
          rw [(feed_inner ns rfl isOpen).1] at refused
          cases refused

def accepted (ns : Namespace) : Extraction → List ClassEvent → List ClassEvent
  | _, [] => []
  | state, event :: rest =>
    let (answer, next) := state.feed ns event
    if answer.isOk then event :: accepted ns next rest else accepted ns next rest

theorem feed_cases (ns : Namespace) (state : Extraction) (event : ClassEvent) :
    (state.feed ns event).1.isOk = true ∨
      (state.feed ns event).1.isOk = false ∧ (state.feed ns event).2 = state := by
  cases answer : (state.feed ns event).1 with
  | ok finished => exact Or.inl rfl
  | error fault => exact Or.inr ⟨rfl, feed_error_state answer⟩

theorem accepted_cons_of_ok {event : ClassEvent} (rest : List ClassEvent)
    (isOk : (state.feed ns event).1.isOk = true) :
    accepted ns state (event :: rest) =
      event :: accepted ns (state.feed ns event).2 rest := by
  simp only [accepted, isOk, if_true]

theorem accepted_cons_of_refused {event : ClassEvent} (rest : List ClassEvent)
    (refused : (state.feed ns event).1.isOk = false) (same : (state.feed ns event).2 = state) :
    accepted ns state (event :: rest) = accepted ns state rest := by
  simp only [accepted, refused, same, Bool.false_eq_true, if_false]

theorem zip_feedAll_accepted (events : List ClassEvent) :
    (accepted ns state events).zip (feedAll ns state (accepted ns state events)) =
      (events.zip (feedAll ns state events)).filter fun answered => answered.2.isOk := by
  induction events generalizing state with
  | nil => rfl
  | cons event rest ih =>
      rcases feed_cases ns state event with isOk | ⟨refused, same⟩
      · rw [accepted_cons_of_ok rest isOk]
        simp only [feedAll, List.zip_cons_cons]
        rw [List.filter_cons_of_pos (by exact isOk), ih]
      · rw [accepted_cons_of_refused rest refused same]
        simp only [feedAll, List.zip_cons_cons]
        rw [List.filter_cons_of_neg (by simp only [refused]; simp), same, ih]

/-- What a state owes to the accepted events: it is as at first, or what it
holds was told by the last header among them and by what followed it. -/
def Traced (ns : Namespace) (log : List ClassEvent) (state : Extraction) : Prop :=
  state = idle ∨
    ∃ earlier header body,
      log = earlier ++ .header header :: body ∧
        (∀ event ∈ body, event.isInner = true) ∧
        state = after ns idle (.header header :: body)

theorem traced_feed {log : List ClassEvent} (traced : Traced ns log state) {event : ClassEvent}
    (isOk : (state.feed ns event).1.isOk = true) :
    Traced ns (log ++ [event]) (state.feed ns event).2 := by
  rcases traced with rfl | ⟨earlier, header, body, rfl, inner, rfl⟩
  · cases event with
    | header header =>
        exact Or.inr ⟨log, header, [], rfl, fun _ member => (List.not_mem_nil member).elim, rfl⟩
    | _ => cases isOk
  · have isOpen := isOpen_after_header ns header inner
    have isSome : (after ns idle (.header header :: body)).heading.isSome = true :=
      Option.isSome_of_eq_some isOpen
    by_cases isInner : event.isInner = true
    · refine Or.inr ⟨earlier, header, body ++ [event], by simp, ?_, ?_⟩
      · intro other member
        rcases List.mem_append.mp member with before | last
        · exact inner other before
        · rw [List.mem_singleton.mp last]
          exact isInner
      · rw [← List.cons_append, after_append]
        rfl
    · cases event with
      | header second =>
          rw [feed_header_open second isSome] at isOk
          cases isOk
      | done =>
          rw [feed_done isOpen]
          exact Or.inl rfl
      | _ => exact (isInner rfl).elim

theorem traced_after {log : List ClassEvent} (traced : Traced ns log state)
    (events : List ClassEvent) :
    Traced ns (log ++ accepted ns state events) (after ns state events) := by
  induction events generalizing state log with
  | nil =>
      rw [accepted, List.append_nil]
      exact traced
  | cons event rest ih =>
      rcases feed_cases ns state event with isOk | ⟨refused, same⟩
      · rw [accepted_cons_of_ok rest isOk, after_cons, List.append_cons]
        exact ih (traced_feed traced isOk)
      · rw [accepted_cons_of_refused rest refused same, after_cons, same]
        exact ih traced

theorem traced_after_idle (events : List ClassEvent) :
    Traced ns (accepted ns idle events) (after ns idle events) :=
  traced_after (Or.inl rfl : Traced ns [] idle) events

/-! ### Targets -/

def TargetMet (state : Extraction) : Prop :=
  match state.target with
  | .ofClass => True
  | .field index => index < state.fields.length
  | .method index => index < state.methods.length
  | .nowhere => True

theorem targetMet_annotate (met : TargetMet state) (mark : AnnotationUse) :
    TargetMet (state.annotate mark) := by
  unfold annotate TargetMet at *
  cases target : state.target with
  | ofClass => exact trivial
  | nowhere =>
      simp only [target]
  | field index =>
      rw [target] at met
      simpa only [List.length_modify] using met
  | method index =>
      rw [target] at met
      simpa only [List.length_modify] using met

theorem targetMet_feed (met : TargetMet state) (event : ClassEvent) :
    TargetMet (state.feed ns event).2 := by
  rcases feed_cases ns state event with isOk | ⟨_, same⟩
  · cases closed : state.heading with
    | none =>
        cases event with
        | header header =>
            rw [feed_header header closed]
            exact met
        | done =>
            rw [feed_done_closed closed] at isOk
            cases isOk
        | _ =>
            rw [feed_inner_closed rfl closed] at isOk
            cases isOk
    | some heading =>
        have isOpen : state.heading.isSome = true := Option.isSome_of_eq_some closed
        cases event with
        | header header =>
            rw [feed_header_open header isOpen] at isOk
            cases isOk
        | field name descriptor access =>
            rw [feed_field name descriptor access isOpen]
            simp [TargetMet, openField]
        | method name access =>
            rw [feed_method name access isOpen]
            by_cases leftOut : Member.isLeftOut name = true
            · rw [if_pos leftOut]
              exact trivial
            · rw [if_neg leftOut]
              simp [TargetMet, openMethod]
        | annotated mark =>
            rw [feed_annotated mark isOpen]
            exact targetMet_annotate met mark
        | done =>
            rw [feed_done closed]
            exact trivial
  · rw [same]
    exact met

theorem targetMet_after (met : TargetMet state) (events : List ClassEvent) :
    TargetMet (after ns state events) := by
  induction events generalizing state with
  | nil => exact met
  | cons event rest ih => exact ih (targetMet_feed met event)

theorem isOpen_of_target {log : List ClassEvent} (traced : Traced ns log state)
    (member : state.target ≠ .ofClass) : state.heading.isSome = true := by
  rcases traced with rfl | ⟨earlier, header, body, rfl, inner, rfl⟩
  · exact (member rfl).elim
  · exact Option.isSome_of_eq_some (isOpen_after_header ns header inner)

/-- Whatever events one extraction is fed, with faults and ends among them: a
refused event changes nothing, and without the refused events the others are
answered as before; while no class is open the state is that before any event;
a class that ends is the class told by the accepted events since its header;
and an annotation that has a member as its target finds that member. -/
theorem extraction_is_reusable (ns : Namespace) (events : List ClassEvent) :
    let state := after ns idle events
    let log := accepted ns idle events
    (∀ event fault, (state.feed ns event).1 = .error fault → (state.feed ns event).2 = state) ∧
      log.zip (feedAll ns idle log) =
        (events.zip (feedAll ns idle events)).filter (fun answered => answered.2.isOk) ∧
      (state.heading = none → state = idle) ∧
      (∀ extracted, (state.feed ns .done).1 = .ok (some extracted) →
        ∃ earlier header body,
          log = earlier ++ .header header :: body ∧
            (∀ event ∈ body, event.isInner = true) ∧
            extractClass ns (.header header :: (body ++ [.done])) = .ok extracted) ∧
      (∀ index mark, state.target = .field index →
        ∃ field, state.fields[index]? = some field ∧
          (state.feed ns (.annotated mark)).2.fields[index]? = some (field.annotate mark)) ∧
      (∀ index mark, state.target = .method index →
        ∃ draft, state.methods[index]? = some draft ∧
          (state.feed ns (.annotated mark)).2.methods[index]? = some (draft.annotate mark)) := by
  intro state log
  have traced : Traced ns log state := traced_after_idle events
  have met : TargetMet state := targetMet_after (by trivial) events
  refine ⟨fun event fault => feed_error_state, zip_feedAll_accepted events, ?_, ?_, ?_, ?_⟩
  · intro closed
    rcases traced with same | ⟨earlier, header, body, _, inner, same⟩
    · exact same
    · rw [same, isOpen_after_header ns header inner] at closed
      cases closed
  · intro extracted finished
    rcases traced with same | ⟨earlier, header, body, told, inner, same⟩
    · rw [same, feed_done_closed rfl] at finished
      cases finished
    · refine ⟨earlier, header, body, told, inner, ?_⟩
      rw [same, feed_done (isOpen_after_header ns header inner)] at finished
      rw [extractClass_eq_finish header inner]
      exact congrArg Except.ok (Option.some.inj (Except.ok.inj finished))
  · intro index mark atField
    have isOpen := isOpen_of_target traced (by rw [atField]; simp)
    have within : index < state.fields.length := by
      simpa only [TargetMet, atField] using met
    refine ⟨state.fields[index], List.getElem?_eq_getElem within, ?_⟩
    rw [feed_annotated mark isOpen]
    simp only [annotate, atField, List.getElem?_modify_eq, List.getElem?_eq_getElem within,
      Option.map_eq_map, Option.map_some]
  · intro index mark atMethod
    have isOpen := isOpen_of_target traced (by rw [atMethod]; simp)
    have within : index < state.methods.length := by
      simpa only [TargetMet, atMethod] using met
    refine ⟨state.methods[index], List.getElem?_eq_getElem within, ?_⟩
    rw [feed_annotated mark isOpen]
    simp only [annotate, atMethod, List.getElem?_modify_eq, List.getElem?_eq_getElem within,
      Option.map_eq_map, Option.map_some]

/-- A field before any header and a second header are refused; the class that
ends then is told by what was accepted since its header. -/
theorem extraction_is_reusable_after_faults :
    let events : List ClassEvent :=
      [.field "early" "I" ⟨0⟩, .header ⟨"a/Old", ⟨1⟩, none, []⟩, .method "run" ⟨0⟩, .done,
        .header ⟨"a/New", ⟨1⟩, none, []⟩, .annotated ⟨"LOwn;", []⟩,
        .header ⟨"a/Other", ⟨1⟩, none, []⟩, .field "size" "I" ⟨8⟩]
    let record : ClassRecord :=
      ⟨"a.New", .normal, "", [], [⟨"size", "int", true, false, []⟩], [], ["@Own"], false,
        .plain, []⟩
    ((after ⟨"a"⟩ idle events).feed ⟨"a"⟩ .done).1 = .ok (some ⟨record, none⟩) ∧
      ∃ earlier header body,
        accepted ⟨"a"⟩ idle events = earlier ++ .header header :: body ∧
          (∀ event ∈ body, event.isInner = true) ∧
          extractClass ⟨"a"⟩ (.header header :: (body ++ [.done])) = .ok ⟨record, none⟩ := by
  intro events record
  have finished :
      ((after ⟨"a"⟩ idle events).feed ⟨"a"⟩ .done).1 = .ok (some ⟨record, none⟩) := by
    have shown :
        ((after ⟨"a"⟩ idle events).feed ⟨"a"⟩ .done).1.toOption = some (some ⟨record, none⟩) := by
      decide +kernel
    cases answer : ((after ⟨"a"⟩ idle events).feed ⟨"a"⟩ .done).1 with
    | ok extracted =>
        rw [answer] at shown
        exact congrArg Except.ok (Option.some.inj shown)
    | error fault =>
        rw [answer] at shown
        cases shown
  obtain ⟨_, _, _, told, _⟩ := extraction_is_reusable ⟨"a"⟩ events
  exact ⟨finished, told ⟨record, none⟩ finished⟩

end Extraction
end JarAtlas
