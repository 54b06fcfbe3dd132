import MatchPlane.Engine.Sequenced
import MatchPlane.Library.Run

/-!
# Runs of the book

Two kinds of histories: `reach` mixes `process` and `apply` calls in any order,
with any commands and any events, and `processAll` uses `process` alone.  A call
that fails contributes whatever state it left behind and emits nothing.
-/

namespace MatchPlane

open MatchPlane.Library

namespace OrderBook

/-- What a call of `process` hands to its caller. -/
def emitted [UuidV5] (command : EngineCommand) (book : OrderBook) : List EngineEvent :=
  match (process command).run book with
  | .ok events _ => events
  | .error _ _ => []

/-- A call on a book: one command, or one event from anywhere. -/
inductive Call where
  | process (command : EngineCommand)
  | apply (event : EngineEvent)

theorem apply_wf {book : OrderBook} (hwf : book.Wf) (event : EngineEvent) :
    (after (apply event) book).Wf := by
  unfold after
  obtain ⟨_, hrun⟩ | ⟨_, error, hrun⟩ | ⟨_, middle, happlied, hrun⟩ :=
    apply_cases hwf event
  · rwa [hrun]
  · rwa [hrun]
  · rw [hrun]
    exact (happlied.wf hwf).record event

/-- A placement that never expires, in the market, tenant and domain numbered 1. -/
def placement (number : Nat) (side : OrderSide) (price : Price) (quantity : Quantity) :
    EngineCommand where
  commandId := ⟨number⟩
  shardSequence := number
  occurredAt := 0
  kind := .placeLimitOrder {
    orderId := ⟨number⟩
    tenantId := ⟨1⟩
    domainId := ⟨1⟩
    marketId := ⟨1⟩
    side := side
    price := price
    quantity := quantity
    submittedAt := 0
    expiresAt := none }

section Runs

variable [UuidV5]

def call (book : OrderBook) : Call → OrderBook
  | .process command => after (OrderBook.process command) book
  | .apply event => after (OrderBook.apply event) book

def reach (calls : List Call) (book : OrderBook) : OrderBook :=
  calls.foldl call book

def processStep (book : OrderBook) (command : EngineCommand) :
    OrderBook × List EngineEvent :=
  (after (process command) book, emitted command book)

/-- The book after a list of commands, and all events emitted on the way. -/
def processAll (commands : List EngineCommand) (book : OrderBook) :
    OrderBook × List EngineEvent :=
  run processStep book commands

/-- The identifiers of a list of commands. -/
def commandIds (commands : List EngineCommand) : Set EventId :=
  {id | ∃ command ∈ commands, command.commandId = id}

/-! ## The representation invariant along runs -/

theorem process_wf {book : OrderBook} (hwf : book.Wf) (command : EngineCommand) :
    (after (process command) book).Wf := by
  unfold after
  obtain ⟨_, hrun⟩ | ⟨_, error, hrun⟩ | ⟨_, events, _, ⟨book', hrun, hall⟩ |
    ⟨error, segment, book', hrun, _, hall⟩⟩ := process_outcome hwf command
  · rwa [hrun]
  · rwa [hrun]
  · rw [hrun]
    exact hall.wf hwf
  · rw [hrun]
    exact hall.wf hwf

theorem call_wf {book : OrderBook} (hwf : book.Wf) (c : Call) : (book.call c).Wf := by
  cases c with
  | process command => exact process_wf hwf command
  | apply event => exact apply_wf hwf event

theorem reach_wf {book : OrderBook} (hwf : book.Wf) (calls : List Call) :
    (reach calls book).Wf :=
  List.foldlRecOn calls call hwf fun _ hwf c _ => call_wf hwf c

theorem processAll_wf_sequenced (marketId : MarketId) (commands : List EngineCommand) :
    (processAll commands (new marketId)).1.Wf ∧
      (processAll commands (new marketId)).1.Sequenced := by
  have hstep : ∀ command ∈ commands, ∀ book (history : List EngineEvent),
      book.Wf ∧ book.Sequenced → (processStep book command).1.Wf ∧
        (processStep book command).1.Sequenced := by
    rintro command _ book _ ⟨hwf, hsequenced⟩
    exact ⟨process_wf hwf command, process_sequenced hwf hsequenced command⟩
  exact run_invariant processStep hstep
    ⟨new_wf marketId, new_sequenced marketId⟩

/-! ## The representation of every reachable book -/

/--
The full description of a book's representation, for arbitrary calls, and the
order of its queues when only `process` was called.
-/
theorem reach_representation (marketId : MarketId) :
    (∀ calls : List Call, let book := reach calls (new marketId)
      (∀ orderId order, book.order orderId = some order → order.status.isOpen = true →
        0 < order.remainingQuantity.value ∧
        order.remainingQuantity ≤ order.intent.quantity ∧
        (∃ queue, book.level order.intent.side order.intent.price = some queue ∧
          queue.count orderId = 1) ∧
        ∀ side price queue, book.level side price = some queue → orderId ∈ queue →
          side = order.intent.side ∧ price = order.intent.price) ∧
      (∀ side price queue, book.level side price = some queue → queue ≠ [] ∧
        ∀ orderId ∈ queue, ∃ order, book.order orderId = some order ∧
          order.status.isOpen = true) ∧
      (∀ orderId order, book.order orderId = some order →
        (order.status.isOpen = false → order.remainingQuantity = Quantity.zero) ∧
        (order.status = .open ↔ order.status.isOpen = true ∧
          order.remainingQuantity = order.intent.quantity)) ∧
      ∀ orderId order orderId' order', book.order orderId = some order →
        book.order orderId' = some order' →
          order.intent.tenantId = order'.intent.tenantId ∧
          order.intent.domainId = order'.intent.domainId ∧
          order.intent.marketId = order'.intent.marketId) ∧
    ∀ commands : List EngineCommand, let book := (processAll commands (new marketId)).1
      ∀ side price queue, book.level side price = some queue →
        queue.Pairwise fun firstId secondId => ∃ first second,
          book.order firstId = some first ∧ book.order secondId = some second ∧
            first.acceptedSequence < second.acceptedSequence := by
  refine ⟨fun calls => ?_, fun commands => ?_⟩
  · have hwf := reach_wf (new_wf marketId) calls
    refine ⟨?_, ?_, ?_, ?_⟩
    · intro orderId order hlookup hopen
      refine ⟨hwf.open_positive hlookup hopen, hwf.open_bounded hlookup hopen, ?_, ?_⟩
      · obtain ⟨queue, hlevel, hmem⟩ := hwf.queued hlookup hopen
        exact ⟨queue, hlevel, List.count_eq_one_of_mem (hwf.queue_nodup hlevel) hmem⟩
      · intro side price queue hlevel hmem
        obtain ⟨found, hfound, _, rfl, rfl⟩ := hwf.owner hlevel hmem
        rw [hlookup] at hfound
        cases hfound
        exact ⟨rfl, rfl⟩
    · intro side price queue hlevel
      refine ⟨hwf.queue_nonempty hlevel, fun orderId hmem => ?_⟩
      obtain ⟨order, hlookup, hopen, _⟩ := hwf.owner hlevel hmem
      exact ⟨order, hlookup, hopen⟩
    · intro orderId order hlookup
      refine ⟨hwf.closed_zero hlookup, fun hstatus => ?_, fun h => ?_⟩
      · have hopen : order.status.isOpen = true := by rw [hstatus]; rfl
        exact ⟨hopen, (hwf.open_status hlookup hopen).mp hstatus⟩
      · exact (hwf.open_status hlookup h.1).mpr h.2
    · intro orderId order orderId' order' hlookup hlookup'
      obtain ⟨htenant, hdomain⟩ := hwf.scope hlookup hlookup'
      exact ⟨htenant, hdomain, (hwf.market hlookup).trans (hwf.market hlookup').symm⟩
  · obtain ⟨hwf, hsequenced⟩ := processAll_wf_sequenced marketId commands
    intro book side price queue hlevel
    refine (hsequenced.increasing hlevel).imp_of_mem ?_
    intro firstId secondId hfirstMem hsecondMem hless
    obtain ⟨first, hfirst, _⟩ := hwf.owner hlevel hfirstMem
    obtain ⟨second, hsecond, _⟩ := hwf.owner hlevel hsecondMem
    exact ⟨first, second, hfirst, hsecond, hless first hfirst second hsecond⟩

end Runs

end OrderBook

end MatchPlane
