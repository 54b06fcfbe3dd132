import MatchPlane.Engine.Process

/-!
# Sequence numbers

A queue holds its orders by increasing acceptance number as long as every
acceptance carries a number above all earlier ones.  Only `process` promises
that: an event applied from elsewhere may carry any number.
-/

namespace MatchPlane

open MatchPlane.Library

namespace OrderBook

/-- Accepted sequence numbers are bounded, and increase along every queue. -/
structure Sequenced (book : OrderBook) : Prop where
  bounded : ∀ {orderId order}, book.order orderId = some order →
    order.acceptedSequence ≤ book.lastCommandSequence
  increasing : ∀ {side price queue}, book.level side price = some queue →
    queue.Pairwise fun firstId secondId =>
      ∀ first, book.order firstId = some first →
        ∀ second, book.order secondId = some second →
          first.acceptedSequence < second.acceptedSequence

theorem new_sequenced (marketId : MarketId) : (new marketId).Sequenced where
  bounded := by
    intro orderId order h
    simp [new, OrderBook.order] at h
  increasing := by
    intro side price queue h
    cases side <;> simp [new, level] at h

theorem Sequenced.record {book : OrderBook} (h : book.Sequenced) (event : EngineEvent) :
    (book.record event).Sequenced where
  bounded := fun hlookup => le_max_of_le_left (h.bounded hlookup)
  increasing := fun hlevel => h.increasing hlevel

theorem Sequenced.update {book : OrderBook} (h : book.Sequenced)
    {before order : OrderView}
    (hlookup : book.order order.intent.orderId = some before)
    (hsequence : order.acceptedSequence = before.acceptedSequence) :
    (book.update order).Sequenced := by
  have hsame : ∀ {orderId found}, (book.update order).order orderId = some found →
      ∃ old, book.order orderId = some old ∧
        old.acceptedSequence = found.acceptedSequence := by
    intro orderId found hfound
    obtain ⟨rfl, rfl⟩ | ⟨_, hfound⟩ := lookup_cases (book.update_order order) hfound
    · exact ⟨before, hlookup, hsequence.symm⟩
    · exact ⟨found, hfound, rfl⟩
  constructor
  case bounded =>
    intro orderId found hfound
    obtain ⟨old, hold, heq⟩ := hsame hfound
    rw [update_lastCommandSequence, ← heq]
    exact h.bounded hold
  case increasing =>
    intro side price queue hlevel
    obtain ⟨before, hbefore, hqueue⟩ := update_level_cases hlevel
    have hsublist : queue.Sublist before := by
      obtain ⟨rfl, _⟩ | ⟨_, rfl, _⟩ := hqueue
      · exact List.Sublist.refl _
      · exact List.filter_sublist
    refine ((h.increasing hbefore).sublist hsublist).imp ?_
    intro firstId secondId hless first hfirst second hsecond
    obtain ⟨oldFirst, holdFirst, hfirstEq⟩ := hsame hfirst
    obtain ⟨oldSecond, holdSecond, hsecondEq⟩ := hsame hsecond
    rw [← hfirstEq, ← hsecondEq]
    exact hless oldFirst holdFirst oldSecond holdSecond

/-- Everything but an acceptance only ever shrinks queues. -/
theorem Sequenced.applied {book middle : OrderBook} (hwf : book.Wf)
    (h : book.Sequenced) {payload : MatchingEvent} (happlied : Applied book payload middle)
    (hpayload : ∀ intent acceptedSequence,
      payload ≠ .orderAccepted intent acceptedSequence) :
    middle.Sequenced := by
  cases happlied with
  | accepted _ _ _ => exact absurd rfl (hpayload _ _)
  | @traded trade maker taker htrade =>
      have hmaker := htrade.maker_order hwf
      have htaker := htrade.taker_order hwf
      have hfirst :
          (book.update (maker.filled trade.quantity htrade.maker_quantity)).Sequenced :=
        h.update hmaker rfl
      have hsequence :
          (taker.filled trade.quantity htrade.taker_quantity).acceptedSequence =
            taker.acceptedSequence := rfl
      exact hfirst.update htaker hsequence
  | cancelled hlookup _ =>
      rw [← hwf.order_id hlookup] at hlookup
      exact h.update hlookup rfl
  | expired hlookup _ =>
      rw [← hwf.order_id hlookup] at hlookup
      exact h.update hlookup rfl

/-- An acceptance numbered above every earlier one goes to the back of its queue. -/
theorem Sequenced.accepted {book : OrderBook} (hwf : book.Wf) (h : book.Sequenced)
    {order : OrderView} (hnew : book.order order.intent.orderId = none)
    (hsequence : book.lastCommandSequence < order.acceptedSequence)
    {event : EngineEvent} (hevent : event.commandSequence = order.acceptedSequence) :
    ((book.addOrder order).record event).Sequenced := by
  have hcases : ∀ {orderId found}, (book.addOrder order).order orderId = some found →
      (orderId = order.intent.orderId ∧ found = order) ∨
        (orderId ≠ order.intent.orderId ∧ book.order orderId = some found) :=
    fun hfound => lookup_cases (book.addOrder_order order) hfound
  constructor
  case bounded =>
    intro orderId found hfound
    change _ ≤ max _ event.commandSequence
    rw [hevent]
    obtain ⟨_, rfl⟩ | ⟨_, hold⟩ := hcases hfound
    · exact le_max_right _ _
    · exact le_max_of_le_right ((h.bounded hold).trans hsequence.le)
  case increasing =>
    intro side price queue hlevel
    -- A queue that existed before holds no occurrence of the new identifier.
    have hold : ∀ {before}, book.level side price = some before →
        before.Pairwise fun firstId secondId =>
          ∀ first, (book.addOrder order).order firstId = some first →
            ∀ second, (book.addOrder order).order secondId = some second →
              first.acceptedSequence < second.acceptedSequence := by
      intro before hbefore
      refine (h.increasing hbefore).imp_of_mem ?_
      intro firstId secondId hfirstMem hsecondMem hless first hfirst second hsecond
      obtain ⟨rfl, _⟩ | ⟨_, hfirst⟩ := hcases hfirst
      · exact absurd hfirstMem (hwf.not_queued hnew hbefore)
      · obtain ⟨rfl, _⟩ | ⟨_, hsecond⟩ := hcases hsecond
        · exact absurd hsecondMem (hwf.not_queued hnew hbefore)
        · exact hless first hfirst second hsecond
    obtain hlevel | ⟨_, _, before, hbefore, rfl⟩ := addOrder_level_cases hlevel
    · exact hold hlevel
    · rw [List.pairwise_append]
      refine ⟨?_, List.pairwise_singleton _ _, ?_⟩
      · obtain hbefore | ⟨_, rfl⟩ := hbefore
        · exact hold hbefore
        · exact List.Pairwise.nil
      · intro firstId hfirstMem secondId hsecondMem first hfirst second hsecond
        obtain hbefore | ⟨_, rfl⟩ := hbefore
        · rw [List.mem_singleton] at hsecondMem
          subst hsecondMem
          obtain ⟨rfl, _⟩ | ⟨_, hfound⟩ := hcases hfirst
          · exact absurd hfirstMem (hwf.not_queued hnew hbefore)
          · obtain ⟨_, rfl⟩ | ⟨hne, _⟩ := hcases hsecond
            · exact (h.bounded hfound).trans_lt hsequence
            · exact absurd rfl hne
        · cases hfirstMem

theorem AppliedAll.sequenced {book book' : OrderBook} {events : List EngineEvent}
    (hall : AppliedAll book events book') (hwf : book.Wf) (h : book.Sequenced)
    (hevents : ∀ event ∈ events, ∀ intent acceptedSequence,
      event.payload ≠ .orderAccepted intent acceptedSequence) :
    book'.Sequenced :=
  hall.invariant (fun {_ _ event} hmem hwf hsequenced _ happlied =>
    (hsequenced.applied hwf happlied (hevents event hmem)).record event) hwf h

/-! ## Preservation by `process` -/

section Process

variable [UuidV5]

/-- Any initial segment of a decision keeps the numbering, not only the whole of it. -/
theorem Decided.sequenced {book book' : OrderBook} (hwf : book.Wf) (h : book.Sequenced)
    {command : EngineCommand} (hadmissible : Admissible book command)
    {events segment : List EngineEvent} (hdecided : Decided book command events)
    (hsegment : segment <+: events) (hall : AppliedAll book segment book') :
    book'.Sequenced := by
  cases hall with
  | nil _ => exact h
  | @cons _ middle _ first rest hnew happlied hrest =>
      have hmem := hsegment.subset List.mem_cons_self
      obtain ⟨ordinal, payload, _, hfirst⟩ := hdecided.event_of_mem hmem
      obtain ⟨head, tail, rfl, haccepted, htrades⟩ := hdecided.shape
      obtain ⟨rfl, htail⟩ := List.cons_prefix_cons.mp hsegment
      have hmiddle : (middle.record first).Sequenced := by
        cases hpayload : first.payload with
        | orderAccepted intent acceptedSequence =>
            rw [hpayload] at happlied
            cases happlied with
            | accepted _ hnone _ =>
                have hsequence := haccepted _ _ hpayload
                refine Sequenced.accepted hwf h hnone ?_ ?_
                · change _ < acceptedSequence
                  have := hadmissible.next
                  omega
                · rw [hfirst]
                  exact hsequence.symm
        | _ =>
            refine (h.applied hwf happlied ?_).record first
            intro intent acceptedSequence heq
            rw [hpayload] at heq
            cases heq
      refine hrest.sequenced ((happlied.wf hwf).record first) hmiddle ?_
      intro e he intent acceptedSequence heq
      obtain ⟨trade, htrade⟩ := htrades e (htail.subset he)
      rw [htrade] at heq
      cases heq

theorem process_sequenced {book : OrderBook} (hwf : book.Wf) (h : book.Sequenced)
    (command : EngineCommand) : (after (process command) book).Sequenced := by
  unfold after
  obtain ⟨_, hrun⟩ | ⟨_, error, hrun⟩ | ⟨hadmissible, events, hdecided, ⟨book', hrun, hall⟩ |
    ⟨error, segment, book', hrun, hsegment, hall⟩⟩ := process_outcome hwf command
  · rwa [hrun]
  · rwa [hrun]
  · rw [hrun]
    exact hdecided.sequenced hwf h hadmissible List.prefix_rfl hall
  · rw [hrun]
    exact hdecided.sequenced hwf h hadmissible hsegment hall

end Process

end OrderBook

end MatchPlane
