import MatchPlane.Engine.Accounting

/-!
# Processed commands

The commands that a market has taken, as a log records them: each one was new to
the book it met and left events behind.  `Processed` singles out such histories
among all runs of `processAll`, where a command may also be skipped or refused.
-/

namespace MatchPlane

open MatchPlane.Library

namespace OrderBook

/-- An order of the book after an event was there before, or the event accepted it. -/
theorem Applied.origin {book book' : OrderBook} (hwf : book.Wf) {payload : MatchingEvent}
    (h : Applied book payload book') {orderId : OrderId} {order : OrderView}
    (hlookup : book'.order orderId = some order) :
    (∃ old, book.order orderId = some old ∧ old.intent = order.intent) ∨
      ∃ acceptedSequence, payload = .orderAccepted order.intent acceptedSequence := by
  cases h with
  | accepted _ _ _ =>
      obtain ⟨_, rfl⟩ | ⟨_, hold⟩ := lookup_cases (book.addOrder_order _) hlookup
      · exact .inr ⟨_, rfl⟩
      · exact .inl ⟨order, hold, rfl⟩
  | @traded trade maker taker htrade =>
      left
      obtain ⟨old, hle, _, hold, _, hnew⟩ | ⟨_, hsame⟩ := htrade.effect hwf orderId
      · rw [hnew] at hlookup
        cases hlookup
        exact ⟨old, hold, rfl⟩
      · exact ⟨order, hsame.symm.trans hlookup, rfl⟩
  | @cancelled _ closed hfound _ =>
      left
      rw [closed_order hwf hfound] at hlookup
      split at hlookup
      · rename_i heq
        cases hlookup
        exact ⟨closed, by rw [heq, hfound], rfl⟩
      · exact ⟨order, hlookup, rfl⟩
  | @expired _ closed hfound _ =>
      left
      rw [closed_order hwf hfound] at hlookup
      split at hlookup
      · rename_i heq
        cases hlookup
        exact ⟨closed, by rw [heq, hfound], rfl⟩
      · exact ⟨order, hlookup, rfl⟩

section Processed

variable [UuidV5] {marketId : MarketId}

/-- A call that returns events decided the next command and applied all of them. -/
theorem process_ok {book book' : OrderBook} (hwf : book.Wf) {command : EngineCommand}
    {events : List EngineEvent} (hrun : (process command).run book = .ok events book')
    (hevents : events ≠ []) :
    Admissible book command ∧ Decided book command events ∧
      AppliedAll book events book' := by
  obtain ⟨_, hskip⟩ | ⟨_, error, hrefuse⟩ | ⟨hadmissible, decided, hdecided, houtcome⟩ :=
    process_outcome hwf command
  · rw [hskip] at hrun
    cases hrun
    exact absurd rfl hevents
  · rw [hrefuse] at hrun
    cases hrun
  · obtain ⟨book'', happly, hall⟩ | ⟨error, segment, book'', hfail, _⟩ := houtcome
    · rw [happly] at hrun
      cases hrun
      exact ⟨hadmissible, hdecided, hall⟩
    · rw [hfail] at hrun
      cases hrun

theorem Decided.accepted_kind {book : OrderBook} {command : EngineCommand}
    {events : List EngineEvent} (h : Decided book command events) {e : EngineEvent}
    (he : e ∈ events) {intent : OrderIntent} {acceptedSequence : Nat}
    (hpayload : e.payload = .orderAccepted intent acceptedSequence) :
    command.kind = .placeLimitOrder intent := by
  cases h with
  | placed hkind _ _ =>
      obtain rfl | he := List.mem_cons.mp he
      · cases hpayload
        exact hkind
      · obtain ⟨_, _, _, _, _, _, rfl⟩ := mem_tradeEvents he
        cases hpayload
  | cancelled _ _ _ =>
      rw [List.mem_singleton] at he
      subst he
      cases hpayload
  | expired _ _ _ _ =>
      rw [List.mem_singleton] at he
      subst he
      cases hpayload

/-- From an empty book, these commands lead to this book and emit these events. -/
inductive Processed (marketId : MarketId) :
    List EngineCommand → OrderBook → List EngineEvent → Prop
  | nil : Processed marketId [] (new marketId) []
  | snoc {commands : List EngineCommand} {book book' : OrderBook}
      {events added : List EngineEvent} {command : EngineCommand}
      (h : Processed marketId commands book events)
      (hrun : (process command).run book = .ok added book') (hadded : added ≠ []) :
      Processed marketId (commands ++ [command]) book' (events ++ added)

namespace Processed

theorem processAll_eq {commands : List EngineCommand} {book : OrderBook}
    {events : List EngineEvent} (h : Processed marketId commands book events) :
    processAll commands (new marketId) = (book, events) := by
  induction h with
  | nil => rfl
  | snoc _ hrun _ ih =>
      unfold processAll at ih ⊢
      simp [run_snoc, ih, processStep, after, emitted, hrun]

theorem wf {commands : List EngineCommand} {book : OrderBook} {events : List EngineEvent}
    (h : Processed marketId commands book events) : book.Wf := by
  have hwf := (processAll_wf_sequenced marketId commands).1
  rwa [h.processAll_eq] at hwf

theorem sequenced {commands : List EngineCommand} {book : OrderBook}
    {events : List EngineEvent} (h : Processed marketId commands book events) :
    book.Sequenced := by
  have hsequenced := (processAll_wf_sequenced marketId commands).2
  rwa [h.processAll_eq] at hsequenced

theorem unique {commands : List EngineCommand} {book book' : OrderBook}
    {events events' : List EngineEvent} (h : Processed marketId commands book events)
    (h' : Processed marketId commands book' events') : book' = book ∧ events' = events := by
  have heq := h.processAll_eq.symm.trans h'.processAll_eq
  cases heq
  exact ⟨rfl, rfl⟩

theorem snoc_cases {commands : List EngineCommand} {command : EngineCommand}
    {book' : OrderBook} {events' : List EngineEvent}
    (h : Processed marketId (commands ++ [command]) book' events') :
    ∃ book events added, Processed marketId commands book events ∧
      (process command).run book = .ok added book' ∧ added ≠ [] ∧
        events' = events ++ added := by
  generalize hall : commands ++ [command] = all at h
  cases h with
  | nil => simp at hall
  | snoc h hrun hadded =>
      obtain ⟨rfl, rfl⟩ := List.append_singleton_inj.mp hall
      exact ⟨_, _, _, h, hrun, hadded, rfl⟩

theorem lastCommandSequence_eq {commands : List EngineCommand} {book : OrderBook}
    {events : List EngineEvent} (h : Processed marketId commands book events) :
    book.lastCommandSequence = commands.length := by
  induction h with
  | nil => rfl
  | snoc h hrun hadded ih =>
      obtain ⟨hadmissible, hdecided, hall⟩ := process_ok h.wf hrun hadded
      rw [(hdecided.recorded hadmissible hall).2, ih, List.length_append,
        List.length_singleton]

/-- The command processed next carries the next number. -/
theorem shardSequence_eq {commands : List EngineCommand} {book book' : OrderBook}
    {events added : List EngineEvent} {command : EngineCommand}
    (h : Processed marketId commands book events)
    (hrun : (process command).run book = .ok added book') (hadded : added ≠ []) :
    command.shardSequence = commands.length + 1 := by
  rw [(process_ok h.wf hrun hadded).1.next, h.lastCommandSequence_eq]

theorem length_le {commands : List EngineCommand} {book : OrderBook}
    {events : List EngineEvent} (h : Processed marketId commands book events) :
    commands.length ≤ events.length := by
  induction h with
  | nil => simp
  | snoc _ _ hadded ih =>
      have hpositive := List.length_pos_of_ne_nil hadded
      simp only [List.length_append, List.length_singleton]
      omega

/-- The events after a shorter history lead from its book to the later one. -/
theorem split {first second : List EngineCommand} {book' : OrderBook}
    {events' : List EngineEvent}
    (h : Processed marketId (first ++ second) book' events') :
    ∃ book events rest, Processed marketId first book events ∧
      events' = events ++ rest ∧ AppliedAll book rest book' := by
  induction second using List.reverseRecOn generalizing book' events' with
  | nil =>
      rw [List.append_nil] at h
      exact ⟨book', events', [], h, by simp, .nil book'⟩
  | append_singleton second command ih =>
      rw [← List.append_assoc] at h
      obtain ⟨middle, before, added, hbefore, hrun, hadded, rfl⟩ := h.snoc_cases
      obtain ⟨book, events, rest, hfirst, rfl, hrest⟩ := ih hbefore
      obtain ⟨_, _, hall⟩ := process_ok hbefore.wf hrun hadded
      exact ⟨book, events, rest ++ added, hfirst, by simp, hrest.append hall⟩

theorem causation {commands : List EngineCommand} {book : OrderBook}
    {events : List EngineEvent} (h : Processed marketId commands book events) {e : EngineEvent}
    (he : e ∈ events) : ∃ command ∈ commands, e.causationId = command.commandId := by
  induction h with
  | nil => cases he
  | @snoc commands _ _ _ _ command h hrun hadded ih =>
      rcases List.mem_append.mp he with he | he
      · obtain ⟨other, hother, heq⟩ := ih he
        exact ⟨other, List.mem_append_left _ hother, heq⟩
      · obtain ⟨_, hdecided, _⟩ := process_ok h.wf hrun hadded
        obtain ⟨_, _, _, rfl⟩ := hdecided.event_of_mem he
        exact ⟨command, by simp, rfl⟩

/-- Every order of the book was placed by a command of the history. -/
theorem placed {commands : List EngineCommand} {book : OrderBook}
    {events : List EngineEvent} (h : Processed marketId commands book events)
    {orderId : OrderId} {order : OrderView} (hlookup : book.order orderId = some order) :
    ∃ command ∈ commands, command.kind = .placeLimitOrder order.intent := by
  induction h generalizing orderId order with
  | nil => simp [new, OrderBook.order] at hlookup
  | @snoc commands book book' _ added command h hrun hadded ih =>
      obtain ⟨_, hdecided, hall⟩ := process_ok h.wf hrun hadded
      -- Whatever the events of one command add comes from that command.
      have hall' : ∀ orderId order, book'.order orderId = some order →
          ∃ other ∈ commands ++ [command], other.kind = .placeLimitOrder order.intent := by
        refine hall.invariant (P := fun state => ∀ orderId order,
          state.order orderId = some order →
            ∃ other ∈ commands ++ [command], other.kind = .placeLimitOrder order.intent)
          ?_ h.wf ?_
        · intro before middle e he hwf hbefore _ happlied orderId order hlookup
          obtain ⟨old, hold, hintent⟩ | ⟨sequence, hpayload⟩ := happlied.origin hwf hlookup
          · obtain ⟨other, hother, hkind⟩ := hbefore orderId old hold
            exact ⟨other, hother, by rw [hkind, hintent]⟩
          · exact ⟨command, by simp, hdecided.accepted_kind he hpayload⟩
        · intro orderId order hlookup
          obtain ⟨other, hother, hkind⟩ := ih hlookup
          exact ⟨other, List.mem_append_left _ hother, hkind⟩
      exact hall' orderId order hlookup

/-- Each command's own events, when no two commands of the history share an identifier. -/
theorem filter_causation {before after : List EngineCommand} {command : EngineCommand}
    {book : OrderBook} {events : List EngineEvent}
    (h : Processed marketId (before ++ command :: after) book events)
    (hids : ∀ other ∈ before ++ after, other.commandId ≠ command.commandId) :
    events.filter (fun e => e.causationId = command.commandId) =
      emitted command (processAll before (new marketId)).1 := by
  induction after using List.reverseRecOn generalizing book events with
  | nil =>
      obtain ⟨middle, earlier, added, hbefore, hrun, hadded, rfl⟩ := h.snoc_cases
      have hown : ∀ e ∈ added, e.causationId = command.commandId := by
        intro e he
        obtain ⟨_, _, _, rfl⟩ := (process_ok hbefore.wf hrun hadded).2.1.event_of_mem he
        rfl
      have hother : ∀ e ∈ earlier, e.causationId ≠ command.commandId := by
        intro e he heq
        obtain ⟨other, hother, hcause⟩ := hbefore.causation he
        exact hids other (List.mem_append_left _ hother) (hcause.symm.trans heq)
      rw [List.filter_append, List.filter_eq_nil_iff.mpr (by simpa using hother),
        List.filter_eq_self.mpr (by simpa using hown), hbefore.processAll_eq]
      simp [emitted, hrun]
  | append_singleton after last ih =>
      rw [← List.cons_append, ← List.append_assoc] at h
      obtain ⟨middle, earlier, added, hbefore, hrun, hadded, rfl⟩ := h.snoc_cases
      have hlast : ∀ e ∈ added, e.causationId ≠ command.commandId := by
        intro e he
        obtain ⟨_, _, _, rfl⟩ := (process_ok hbefore.wf hrun hadded).2.1.event_of_mem he
        exact hids last (by simp)
      have hnone : added.filter (fun e => e.causationId = command.commandId) = [] :=
        List.filter_eq_nil_iff.mpr (by simpa using hlast)
      rw [List.filter_append, hnone, List.append_nil]
      refine ih hbefore fun other hother => hids other ?_
      simp only [List.mem_append] at hother ⊢
      tauto


end Processed

end Processed

end OrderBook

end MatchPlane
