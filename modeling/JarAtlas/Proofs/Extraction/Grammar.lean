/-
The grammar of class streams.

A class is told by one header, members and annotations in any order, and one
end.  Any other stream departs from this grammar: at its first event, at a
second header, at an event after the end, or because it stops before the end.
Extraction accepts exactly the class streams, and refuses any other stream for
its departure.
-/
import JarAtlas.EntryFault
import JarAtlas.Proofs.Extraction.Run

namespace JarAtlas

def IsClassStream (events : List ClassEvent) : Prop :=
  ∃ header body, (∀ event ∈ body, event.isInner = true) ∧
    events = .header header :: (body ++ [.done])

/-- Where a stream departs from the grammar first, as the fault it is refused
for.  Up to there it could have become a class stream. -/
inductive Departs : StreamFault → List ClassEvent → Prop where
  | memberFirst {event : ClassEvent} (inner : event.isInner = true) (rest : List ClassEvent) :
      Departs .memberBeforeHeader (event :: rest)
  | endFirst (rest : List ClassEvent) :
      Departs .endBeforeHeader (.done :: rest)
  | headerAgain (header : ClassHeader) {body : List ClassEvent}
      (inner : ∀ event ∈ body, event.isInner = true) (second : ClassHeader)
      (rest : List ClassEvent) :
      Departs .secondHeader (.header header :: (body ++ .header second :: rest))
  | afterEnd (header : ClassHeader) {body : List ClassEvent}
      (inner : ∀ event ∈ body, event.isInner = true) (event : ClassEvent)
      (rest : List ClassEvent) :
      Departs .eventAfterEnd (.header header :: (body ++ .done :: event :: rest))
  | nothing :
      Departs .noEnd []
  | unended (header : ClassHeader) {body : List ClassEvent}
      (inner : ∀ event ∈ body, event.isInner = true) :
      Departs .noEnd (.header header :: body)

theorem exists_body_append (events : List ClassEvent) :
    ∃ body rest, events = body ++ rest ∧ (∀ event ∈ body, event.isInner = true) ∧
      (rest = [] ∨ (∃ header later, rest = .header header :: later) ∨
        ∃ later, rest = .done :: later) := by
  induction events with
  | nil => exact ⟨[], [], rfl, fun _ member => (List.not_mem_nil member).elim, Or.inl rfl⟩
  | cons event events ih =>
      obtain ⟨body, rest, rfl, inner, following⟩ := ih
      have longer (here : event.isInner = true) :
          ∀ other ∈ event :: body, other.isInner = true := by
        intro other member
        rcases List.mem_cons.mp member with rfl | later
        · exact here
        · exact inner other later
      cases event with
      | header header =>
          exact ⟨[], _, rfl, fun _ member => (List.not_mem_nil member).elim,
            Or.inr (Or.inl ⟨header, _, rfl⟩)⟩
      | done =>
          exact ⟨[], _, rfl, fun _ member => (List.not_mem_nil member).elim,
            Or.inr (Or.inr ⟨_, rfl⟩)⟩
      | _ => exact ⟨_ :: body, rest, rfl, longer rfl, following⟩

theorem isClassStream_or_departs (events : List ClassEvent) :
    IsClassStream events ∨ ∃ fault, Departs fault events := by
  cases events with
  | nil => exact Or.inr ⟨_, .nothing⟩
  | cons event events =>
      cases event with
      | header header =>
          obtain ⟨body, rest, rfl, inner, rfl | ⟨second, later, rfl⟩ | ⟨later, rfl⟩⟩ :=
            exists_body_append events
          · rw [List.append_nil]
            exact Or.inr ⟨_, .unended header inner⟩
          · exact Or.inr ⟨_, .headerAgain header inner second later⟩
          · cases later with
            | nil => exact Or.inl ⟨header, body, inner, rfl⟩
            | cons event later => exact Or.inr ⟨_, .afterEnd header inner event later⟩
      | done => exact Or.inr ⟨_, .endFirst events⟩
      | _ => exact Or.inr ⟨_, .memberFirst rfl events⟩

open Extraction in
theorem extractClass_of_departs (ns : Namespace) {fault : StreamFault}
    {events : List ClassEvent} (departs : Departs fault events) :
    extractClass ns events = .error fault := by
  cases departs with
  | memberFirst inner rest =>
      rw [extractClass, classFrom, feed_inner_closed inner rfl]
  | endFirst rest =>
      rw [extractClass, classFrom, feed_done_closed rfl]
  | headerAgain header inner second rest =>
      have isOpen := Option.isSome_of_eq_some (isOpen_after_header ns header inner)
      rw [extractClass_header_body ns header inner, classFrom, feed_header_open second isOpen]
  | afterEnd header inner event rest =>
      rw [extractClass_header_body ns header inner, classFrom,
        feed_done (isOpen_after_header ns header inner)]
      rfl
  | nothing => rfl
  | unended header inner =>
      have told := extractClass_header_body ns header inner []
      rw [List.append_nil] at told
      rw [told, classFrom]

theorem exists_extractClass_ok_iff (ns : Namespace) (events : List ClassEvent) :
    (∃ extracted, extractClass ns events = .ok extracted) ↔ IsClassStream events := by
  constructor
  · rintro ⟨extracted, told⟩
    rcases isClassStream_or_departs events with isClass | ⟨fault, departs⟩
    · exact isClass
    · rw [extractClass_of_departs ns departs] at told
      cases told
  · rintro ⟨header, body, inner, rfl⟩
    exact ⟨_, Extraction.extractClass_eq_finish header inner⟩

theorem extractClass_eq_error_iff (ns : Namespace) (events : List ClassEvent)
    (fault : StreamFault) :
    extractClass ns events = .error fault ↔ Departs fault events := by
  constructor
  · intro refused
    rcases isClassStream_or_departs events with isClass | ⟨other, departs⟩
    · obtain ⟨extracted, told⟩ := (exists_extractClass_ok_iff ns events).mpr isClass
      rw [refused] at told
      cases told
    · rw [extractClass_of_departs ns departs, Except.error.injEq] at refused
      rwa [← refused]
  · exact extractClass_of_departs ns

/-- An entry tells a class exactly if its events are a header, then members and
annotations, then an end and nothing more.  Every other stream is refused as an
unreadable class under the name of its entry, for the reason of its first
departure and for no other; the reasons are told as below. -/
theorem classOf_follows_grammar (entry : String) (ns : Namespace) (events : List ClassEvent) :
    ((∃ extracted, classOf entry ns events = .ok extracted) ↔ IsClassStream events) ∧
      (∀ fault, classOf entry ns events = .error fault ↔
        ∃ departure, Departs departure events ∧
          fault = .unreadableClass entry (.stream departure)) ∧
      (∀ departure, (EntryFault.unreadableClass entry (.stream departure)).message =
        "unreadable class " ++ entry ++ ": " ++
          match departure with
          | .memberBeforeHeader => "member event before the class header"
          | .endBeforeHeader => "end of class before its header"
          | .secondHeader => "second class header in one stream"
          | .eventAfterEnd => "event after end of class"
          | .noEnd => "stream ended without end of class") := by
  refine ⟨?_, ?_, ?_⟩
  · rw [← exists_extractClass_ok_iff ns events]
    unfold classOf
    cases extractClass ns events <;> simp
  · intro fault
    simp only [← extractClass_eq_error_iff ns]
    unfold classOf
    cases extractClass ns events <;> simp [eq_comm]
  · intro departure
    cases departure <;> rfl

end JarAtlas
