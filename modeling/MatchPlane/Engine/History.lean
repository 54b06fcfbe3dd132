import MatchPlane.Engine.Live

/-!
# Whole histories

The events that a run emits are exactly the events that were applied to its
book, in order.  Replaying them rebuilds the book, and summing over them accounts
for every unit of every order.
-/

namespace MatchPlane

open MatchPlane.Library

namespace OrderBook

/-- Applies events as recovery does, skipping those that were applied before. -/
def replay : List EngineEvent → BookM Unit
  | [] => pure ()
  | event :: events => do
      let _ ← apply event
      replay events

/-- The events emitted by a run of `process` are those applied to its book. -/
theorem processAll_history [UuidV5] {commands : List EngineCommand} {ids : Set EventId}
    (hdistinct : EventIdsDistinct ids) (hids : commandIds commands ⊆ ids)
    {book : OrderBook} (hlive : Live ids book) :
    Live ids (processAll commands book).1 ∧
      AppliedAll book (processAll commands book).2 (processAll commands book).1 := by
  have hstep : ∀ command ∈ commands, ∀ middle (history : List EngineEvent),
      Live ids middle ∧ AppliedAll book history middle →
        Live ids (processStep middle command).1 ∧
          AppliedAll book (history ++ (processStep middle command).2)
            (processStep middle command).1 := by
    rintro command hcommand middle history ⟨hmiddle, hall⟩
    change Live _ (after (process command) middle) ∧
      AppliedAll book (history ++ emitted command middle) (after (process command) middle)
    unfold after emitted
    obtain ⟨_, hrun⟩ | ⟨_, error, hrun⟩ | ⟨_, events, book', _, hrun, hevents, hlive'⟩ :=
      hmiddle.process_cases hdistinct (hids ⟨command, hcommand, rfl⟩)
    · rw [hrun]
      exact ⟨hmiddle, by simpa using hall⟩
    · rw [hrun]
      exact ⟨hmiddle, by simpa using hall⟩
    · rw [hrun]
      exact ⟨hlive', hall.append hevents⟩
  exact run_invariant processStep hstep ⟨hlive, .nil book⟩

/-! ## Replay -/

/-- A stream in which events that already occurred may occur again. -/
inductive WithReplays : List EngineEvent → List EngineEvent → Prop
  | nil : WithReplays [] []
  | next {history stream : List EngineEvent} (event : EngineEvent)
      (h : WithReplays history stream) :
      WithReplays (history ++ [event]) (stream ++ [event])
  | again {history stream : List EngineEvent} {event : EngineEvent}
      (h : WithReplays history stream) (hmem : event ∈ stream) :
      WithReplays history (stream ++ [event])

theorem WithReplays.refl (history : List EngineEvent) : WithReplays history history := by
  induction history using List.reverseRecOn with
  | nil => exact .nil
  | append_singleton history event ih => exact .next event ih

theorem replay_snoc {book middle : OrderBook} {events : List EngineEvent}
    (h : (replay events).run book = .ok () middle) (event : EngineEvent) :
    (replay (events ++ [event])).run book =
      match (apply event).run middle with
      | .ok _ book' => .ok () book'
      | .error error book' => .error error book' := by
  induction events generalizing book with
  | nil =>
      cases h
      simp only [List.nil_append, replay, EStateM.run_bind]
      cases (apply event).run middle <;> rfl
  | cons first rest ih =>
      simp only [List.cons_append, replay, EStateM.run_bind] at h ⊢
      cases hfirst : (apply first).run book with
      | error error book' =>
          rw [hfirst] at h
          cases h
      | ok applied book' =>
          rw [hfirst] at h
          exact ih h

theorem AppliedAll.snoc_cases {book book' : OrderBook} {events : List EngineEvent}
    {event : EngineEvent} (h : AppliedAll book (events ++ [event]) book') :
    ∃ middle last, AppliedAll book events middle ∧
      event.eventId ∉ middle.appliedEvents ∧ Applied middle event.payload last ∧
        book' = last.record event := by
  induction events generalizing book with
  | nil =>
      cases h with
      | cons hnew happlied hrest =>
          cases hrest
          exact ⟨book, _, .nil book, hnew, happlied, rfl⟩
  | cons first rest ih =>
      cases h with
      | cons hnew happlied hrest =>
          obtain ⟨middle, last, hall, hrest⟩ := ih hrest
          exact ⟨middle, last, .cons hnew happlied hall, hrest⟩

/-- The invariant rule for the events applied so far together with the book. -/
theorem AppliedAll.history_invariant {P : List EngineEvent → OrderBook → Prop}
    (hstep : ∀ {history book middle event}, book.Wf → P history book →
      Applied book event.payload middle → P (history ++ [event]) (middle.record event))
    {book book' : OrderBook} {events : List EngineEvent}
    (h : AppliedAll book events book') (hwf : book.Wf) (hP : P [] book) :
    P events book' := by
  induction events using List.reverseRecOn generalizing book' with
  | nil =>
      cases h
      exact hP
  | append_singleton events event ih =>
      obtain ⟨middle, last, hfirst, _, happlied, rfl⟩ := h.snoc_cases
      exact hstep (hfirst.wf hwf) (ih hfirst) happlied

theorem WithReplays.replay_run {history stream : List EngineEvent}
    (h : WithReplays history stream) {book book' : OrderBook} (hwf : book.Wf)
    (hall : AppliedAll book history book') :
    (replay stream).run book = .ok () book' ∧
      ∀ event ∈ stream, event.eventId ∈ book'.appliedEvents := by
  induction h generalizing book' with
  | nil =>
      cases hall
      exact ⟨rfl, by simp⟩
  | @next history stream event _ ih =>
      obtain ⟨middle, last, hfirst, hnew, happlied, rfl⟩ := hall.snoc_cases
      obtain ⟨hrun, hseen⟩ := ih hfirst
      have happly := apply_of_applied (hfirst.wf hwf) hnew happlied
      refine ⟨by rw [replay_snoc hrun, happly], ?_⟩
      intro other hother
      change _ ∈ insert _ last.appliedEvents
      rw [happlied.appliedEvents_eq]
      obtain hother | hother := List.mem_append.mp hother
      · exact Finset.mem_insert_of_mem (hseen other hother)
      · rw [List.mem_singleton.mp hother]
        exact Finset.mem_insert_self _ _
  | again _ hmem ih =>
      obtain ⟨hrun, hseen⟩ := ih hall
      have happly := apply_of_mem (hseen _ hmem)
      refine ⟨by rw [replay_snoc hrun, happly], ?_⟩
      intro other hother
      obtain hother | hother := List.mem_append.mp hother
      · exact hseen other hother
      · rw [List.mem_singleton.mp hother]
        exact hseen _ hmem

/-- Replaying the emitted events, with any repetitions, rebuilds the live book. -/
theorem replay_eq_processAll [UuidV5] (marketId : MarketId) (commands : List EngineCommand)
    (hdistinct : EventIdsDistinct (commandIds commands)) :
    let live := (processAll commands (new marketId)).1
    let history := (processAll commands (new marketId)).2
    (replay history).run (new marketId) = .ok () live ∧
      ∀ stream, WithReplays history stream →
        (replay stream).run (new marketId) = .ok () live := by
  intro live history
  obtain ⟨_, hall⟩ :=
    processAll_history hdistinct (subset_refl _) (new_live _ marketId)
  exact ⟨((WithReplays.refl history).replay_run (new_wf marketId) hall).1,
    fun stream h => (h.replay_run (new_wf marketId) hall).1⟩

theorem replay_eq_processAll_twoSided :
    let live := (@processAll UuidV5.positional twoSided (new ⟨1⟩)).1
    let history := (@processAll UuidV5.positional twoSided (new ⟨1⟩)).2
    history.length = 4 ∧ (replay (history ++ history)).run (new ⟨1⟩) = .ok () live := by
  intro live history
  have hreplays : ∀ again, (∀ event ∈ again, event ∈ history) →
      WithReplays history (history ++ again) := by
    intro again
    induction again using List.reverseRecOn with
    | nil => simpa using WithReplays.refl history
    | append_singleton again event ih =>
        intro h
        rw [← List.append_assoc]
        exact .again (ih fun e he => h e (List.mem_append_left _ he))
          (List.mem_append_left _ (h event (List.mem_append_right _ List.mem_cons_self)))
  exact ⟨by decide +kernel, (@replay_eq_processAll UuidV5.positional ⟨1⟩ twoSided
    (UuidV5.positional_distinct _)).2 _ (hreplays history fun _ h => h)⟩

end OrderBook

end MatchPlane
