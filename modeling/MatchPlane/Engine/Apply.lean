import MatchPlane.Engine.Invariant

/-!
# Applying events

`Applied` is the inversion of `applyPayload`: which checks an event passed and
which updates it made.  On a well-formed book `applyPayload` either makes
exactly these updates or changes nothing at all.
-/

namespace MatchPlane

open MatchPlane.Library

namespace OrderBook

inductive Applied (book : OrderBook) : MatchingEvent → OrderBook → Prop
  | accepted {intent : OrderIntent} {acceptedSequence : Nat}
      (hscope : book.validateOrderScope intent = .ok ())
      (hnew : book.order intent.orderId = none)
      (hpositive : 0 < intent.quantity.value) :
      Applied book (.orderAccepted intent acceptedSequence)
        (book.addOrder ⟨intent, intent.quantity, .open, acceptedSequence⟩)
  | traded {trade : Trade} {maker taker : OrderView}
      (h : TradeValid book trade maker taker) :
      Applied book (.tradeExecuted trade)
        ((book.update (maker.filled trade.quantity h.maker_quantity)).update
          (taker.filled trade.quantity h.taker_quantity))
  | cancelled {orderId : OrderId} {order : OrderView}
      (hlookup : book.order orderId = some order)
      (hopen : order.status.isOpen = true) :
      Applied book (.orderCancelled orderId order.remainingQuantity)
        (book.update (order.closed .cancelled))
  | expired {orderId : OrderId} {order : OrderView}
      (hlookup : book.order orderId = some order)
      (hopen : order.status.isOpen = true) :
      Applied book (.orderExpired orderId order.remainingQuantity)
        (book.update (order.closed .expired))

/-! ## Preservation -/

theorem Wf.filled {book : OrderBook} (hwf : book.Wf) {order : OrderView}
    (hlookup : book.order order.intent.orderId = some order)
    (hopen : order.status.isOpen = true) {quantity : Quantity}
    (hpositive : 0 < quantity.value) (h : quantity ≤ order.remainingQuantity) :
    (book.update (order.filled quantity h)).Wf := by
  have hbounded := (Quantity.le_def _ _).mp (hwf.open_bounded hlookup hopen)
  have hle := (Quantity.le_def _ _).mp h
  refine hwf.update hlookup hopen rfl ?_ ?_
  · intro hstill
    rw [order.filled_isOpen, Bool.not_eq_true', Quantity.isZero_eq_false_iff] at hstill
    have hless : (order.filled quantity h).remainingQuantity.value <
        order.intent.quantity.value := by
      rw [order.filled_remaining_value]
      omega
    refine ⟨hstill, (Quantity.le_def _ _).mpr hless.le, ?_⟩
    have hne : (order.filled quantity h).remainingQuantity ≠ order.intent.quantity := by
      intro heq
      rw [heq] at hless
      exact lt_irrefl _ hless
    refine iff_of_false ?_ hne
    have hzero := (Quantity.isZero_eq_false_iff _).mpr hstill
    change statusFor order.intent (order.filled quantity h).remainingQuantity ≠ _
    simp [statusFor, hzero, hne]
  · intro hclosed
    rw [order.filled_isOpen, Bool.not_eq_false', Quantity.isZero_iff] at hclosed
    exact (Quantity.eq_zero_iff _).mpr hclosed

theorem Wf.closed {book : OrderBook} (hwf : book.Wf) {orderId : OrderId}
    {order : OrderView} (hlookup : book.order orderId = some order)
    (hopen : order.status.isOpen = true) {status : OrderStatus}
    (hstatus : status.isOpen = false) :
    (book.update (order.closed status)).Wf := by
  have hid := hwf.order_id hlookup
  subst hid
  refine hwf.update hlookup hopen rfl ?_ fun _ => rfl
  intro h
  change status.isOpen = true at h
  rw [hstatus] at h
  cases h

/-- The taker's view survives the update of the maker. -/
theorem TradeValid.taker_order {book : OrderBook} {trade : Trade}
    {maker taker : OrderView} (hwf : book.Wf) (h : TradeValid book trade maker taker) :
    (book.update (maker.filled trade.quantity h.maker_quantity)).order
      taker.intent.orderId = some taker := by
  rw [update_order, if_neg, hwf.order_id h.taker_lookup]
  · exact h.taker_lookup
  · rw [OrderView.filled_intent, hwf.order_id h.taker_lookup, hwf.order_id h.maker_lookup]
    exact h.distinct.symm

theorem TradeValid.maker_order {book : OrderBook} {trade : Trade}
    {maker taker : OrderView} (hwf : book.Wf) (h : TradeValid book trade maker taker) :
    book.order maker.intent.orderId = some maker := by
  rw [hwf.order_id h.maker_lookup]
  exact h.maker_lookup

theorem TradeValid.maker_filled_wf {book : OrderBook} {trade : Trade}
    {maker taker : OrderView} (hwf : book.Wf) (h : TradeValid book trade maker taker) :
    (book.update (maker.filled trade.quantity h.maker_quantity)).Wf :=
  hwf.filled (h.maker_order hwf) h.maker_open h.positive h.maker_quantity

theorem Applied.wf {book book' : OrderBook} {payload : MatchingEvent}
    (h : Applied book payload book') (hwf : book.Wf) : book'.Wf := by
  cases h with
  | accepted hscope hnew hpositive => exact hwf.addOrder hnew hpositive rfl rfl hscope
  | traded h =>
      exact (h.maker_filled_wf hwf).filled (h.taker_order hwf) h.taker_open h.positive
        h.taker_quantity
  | cancelled hlookup hopen => exact hwf.closed hlookup hopen rfl
  | expired hlookup hopen => exact hwf.closed hlookup hopen rfl

/-! ## Runs of `applyPayload` -/

/-- The outcome of a payload on a book: its updates, or no change at all. -/
def Outcome (book : OrderBook) (payload : MatchingEvent)
    (result : EStateM.Result EngineError OrderBook Unit) : Prop :=
  (∃ book', result = .ok () book' ∧ Applied book payload book') ∨
    (∃ error, result = .error error book) ∧ ∀ book', ¬Applied book payload book'

theorem applyOrderAccepted_outcome (book : OrderBook) (intent : OrderIntent)
    (acceptedSequence : Nat) :
    Outcome book (.orderAccepted intent acceptedSequence)
      ((applyOrderAccepted intent acceptedSequence).run book) := by
  cases hscope : book.validateOrderScope intent with
  | error error =>
      refine .inr ⟨⟨error, ?_⟩, ?_⟩
      · simp only [applyOrderAccepted, EStateM.run_bind, EStateM.run_get, hscope,
          BookM.run_lift_error]
      · intro book' h
        cases h with
        | accepted hscope' _ _ =>
            rw [hscope] at hscope'
            cases hscope'
  | ok _ =>
      by_cases hnew : intent.orderId ∈ book.orders
      · refine .inr ⟨⟨.orderAlreadyExists intent.orderId, ?_⟩, ?_⟩
        · simp only [applyOrderAccepted, EStateM.run_bind, EStateM.run_get, hscope,
            BookM.run_lift_ok, hnew, if_true, BookM.run_throw]
        · intro book' h
          cases h with
          | accepted _ hnone _ => exact OrderedMap.not_mem_iff_lookup.mpr hnone hnew
      · have hnone : book.order intent.orderId = none :=
          OrderedMap.not_mem_iff_lookup.mp hnew
        cases hzero : intent.quantity.isZero with
        | true =>
            refine .inr ⟨⟨.numeric .nonPositiveQuantity, ?_⟩, ?_⟩
            · simp only [applyOrderAccepted, EStateM.run_bind, EStateM.run_get, hscope,
                BookM.run_lift_ok, hnew, if_false, hzero, if_true, BookM.run_throw]
            · intro book' h
              cases h with
              | accepted _ _ hpositive =>
                  rw [← Quantity.isZero_eq_false_iff, hzero] at hpositive
                  cases hpositive
        | false =>
            refine .inl ⟨_, ?_, .accepted hscope hnone
              ((Quantity.isZero_eq_false_iff _).mp hzero)⟩
            simp only [applyOrderAccepted, EStateM.run_bind, EStateM.run_get, hscope,
              BookM.run_lift_ok, hnew, if_false, hzero, Bool.false_eq_true,
              EStateM.run_set]
            rfl

theorem applyTrade_outcome {book : OrderBook} (hwf : book.Wf) (trade : Trade) :
    Outcome book (.tradeExecuted trade) ((applyTrade trade).run book) := by
  cases hvalid : book.validateTrade trade with
  | error error =>
      refine .inr ⟨⟨error, ?_⟩, ?_⟩
      · simp only [applyTrade, EStateM.run_bind, EStateM.run_get, hvalid,
          BookM.run_lift_error]
      · intro book' h
        cases h with
        | traded h =>
            rw [validateTrade_eq_ok_iff.mpr ⟨_, _, h⟩] at hvalid
            cases hvalid
  | ok _ =>
      obtain ⟨maker, taker, h⟩ := validateTrade_eq_ok_iff.mp hvalid
      have hmaker := h.maker_order hwf
      have htaker := h.taker_order hwf
      obtain ⟨makerQueue, hmakerLevel, _⟩ := hwf.queued hmaker h.maker_open
      obtain ⟨takerQueue, htakerLevel, _⟩ :=
        (h.maker_filled_wf hwf).queued htaker h.taker_open
      have hfirst := decreaseOrder_run hmaker h.maker_open hmakerLevel h.maker_quantity
      have hsecond := decreaseOrder_run htaker h.taker_open htakerLevel h.taker_quantity
      rw [hwf.order_id h.maker_lookup] at hfirst
      rw [hwf.order_id h.taker_lookup] at hsecond
      refine .inl ⟨_, ?_, .traded h⟩
      simp only [applyTrade, EStateM.run_bind, EStateM.run_get, hvalid,
        BookM.run_lift_ok, hfirst, hsecond]

theorem applyClosedOrder_outcome {book : OrderBook} (hwf : book.Wf) (orderId : OrderId)
    (releasedQuantity : Quantity) {status : OrderStatus}
    (hstatus : status.isOpen = false) :
    (∃ order, book.order orderId = some order ∧ order.status.isOpen = true ∧
        order.remainingQuantity = releasedQuantity ∧
        (applyClosedOrder orderId releasedQuantity status).run book =
          .ok () (book.update (order.closed status))) ∨
      (∃ error, (applyClosedOrder orderId releasedQuantity status).run book =
          .error error book) ∧
        ∀ order, book.order orderId = some order → order.status.isOpen = true →
          order.remainingQuantity ≠ releasedQuantity := by
  cases hopen : book.openOrder orderId with
  | error error =>
      refine .inr ⟨⟨error, ?_⟩, ?_⟩
      · simp only [applyClosedOrder, EStateM.run_bind, EStateM.run_get, hopen,
          BookM.run_lift_error]
      · intro order hlookup horder
        rw [openOrder_eq_ok_iff.mpr ⟨hlookup, horder⟩] at hopen
        cases hopen
  | ok order =>
      obtain ⟨hlookup, horder⟩ := openOrder_eq_ok_iff.mp hopen
      have hid := hwf.order_id hlookup
      subst hid
      by_cases hreleased : order.remainingQuantity = releasedQuantity
      · subst hreleased
        obtain ⟨queue, hlevel, _⟩ := hwf.queued hlookup horder
        exact .inl ⟨order, hlookup, horder, rfl,
          applyClosedOrder_run hlookup horder hlevel hstatus⟩
      · refine .inr ⟨?_, ?_⟩
        · simp only [applyClosedOrder, EStateM.run_bind, EStateM.run_get, hopen,
            BookM.run_lift_ok, ne_eq, hreleased, not_false_eq_true, if_true,
            BookM.run_throw, EStateM.Result.error.injEq, and_true, exists_eq']
        · intro other hother _
          rw [hlookup] at hother
          cases hother
          exact hreleased

theorem applyPayload_outcome {book : OrderBook} (hwf : book.Wf)
    (payload : MatchingEvent) :
    Outcome book payload ((applyPayload payload).run book) := by
  cases payload with
  | orderAccepted intent acceptedSequence =>
      exact applyOrderAccepted_outcome book intent acceptedSequence
  | tradeExecuted trade => exact applyTrade_outcome hwf trade
  | orderCancelled orderId releasedQuantity =>
      obtain ⟨order, hlookup, hopen, rfl, hrun⟩ | ⟨herror, hnone⟩ :=
        applyClosedOrder_outcome hwf orderId releasedQuantity
          (show OrderStatus.cancelled.isOpen = false from rfl)
      · exact .inl ⟨_, hrun, .cancelled hlookup hopen⟩
      · refine .inr ⟨herror, ?_⟩
        intro book' h
        cases h with
        | cancelled hlookup hopen => exact hnone _ hlookup hopen rfl
  | orderExpired orderId releasedQuantity =>
      obtain ⟨order, hlookup, hopen, rfl, hrun⟩ | ⟨herror, hnone⟩ :=
        applyClosedOrder_outcome hwf orderId releasedQuantity
          (show OrderStatus.expired.isOpen = false from rfl)
      · exact .inl ⟨_, hrun, .expired hlookup hopen⟩
      · refine .inr ⟨herror, ?_⟩
        intro book' h
        cases h with
        | expired hlookup hopen => exact hnone _ hlookup hopen rfl

theorem Applied.unique {book first second : OrderBook} {payload : MatchingEvent}
    (h : Applied book payload first) (h' : Applied book payload second) :
    first = second := by
  cases h with
  | accepted _ _ _ =>
      cases h' with
      | accepted _ _ _ => rfl
  | traded h =>
      cases h' with
      | traded h' =>
          have hmaker := h.maker_lookup.symm.trans h'.maker_lookup
          have htaker := h.taker_lookup.symm.trans h'.taker_lookup
          cases hmaker
          cases htaker
          rfl
  | cancelled hlookup _ =>
      generalize hpayload : MatchingEvent.orderCancelled _ _ = payload at h'
      cases h' with
      | cancelled hlookup' _ =>
          obtain ⟨rfl, _⟩ := MatchingEvent.orderCancelled.inj hpayload
          cases hlookup.symm.trans hlookup'
          rfl
      | _ => cases hpayload
  | expired hlookup _ =>
      generalize hpayload : MatchingEvent.orderExpired _ _ = payload at h'
      cases h' with
      | expired hlookup' _ =>
          obtain ⟨rfl, _⟩ := MatchingEvent.orderExpired.inj hpayload
          cases hlookup.symm.trans hlookup'
          rfl
      | _ => cases hpayload

/-! ## Runs of `apply` -/

theorem apply_of_mem {book : OrderBook} {event : EngineEvent}
    (h : event.eventId ∈ book.appliedEvents) :
    (apply event).run book = .ok false book := by
  simp only [apply, EStateM.run_bind, EStateM.run_get, h, if_true, EStateM.run_pure]

theorem apply_of_applied {book middle : OrderBook} (hwf : book.Wf)
    {event : EngineEvent} (hnew : event.eventId ∉ book.appliedEvents)
    (h : Applied book event.payload middle) :
    (apply event).run book = .ok true (middle.record event) := by
  simp only [apply, EStateM.run_bind, EStateM.run_get, hnew, if_false]
  obtain ⟨other, hrun, hother⟩ | ⟨_, hnone⟩ := applyPayload_outcome hwf event.payload
  · cases h.unique hother
    rw [hrun]
    rfl
  · exact absurd h (hnone middle)

/-- What `apply` can do: skip a known event, refuse, or make the updates of its payload. -/
theorem apply_cases {book : OrderBook} (hwf : book.Wf) (event : EngineEvent) :
    (event.eventId ∈ book.appliedEvents ∧ (apply event).run book = .ok false book) ∨
    (event.eventId ∉ book.appliedEvents ∧
      ∃ error, (apply event).run book = .error error book) ∨
    (event.eventId ∉ book.appliedEvents ∧ ∃ middle, Applied book event.payload middle ∧
      (apply event).run book = .ok true (middle.record event)) := by
  by_cases hmem : event.eventId ∈ book.appliedEvents
  · exact .inl ⟨hmem, apply_of_mem hmem⟩
  · obtain ⟨middle, _, happlied⟩ | ⟨⟨error, hrun⟩, _⟩ :=
      applyPayload_outcome hwf event.payload
    · exact .inr (.inr ⟨hmem, middle, happlied, apply_of_applied hwf hmem happlied⟩)
    · refine .inr (.inl ⟨hmem, error, ?_⟩)
      simp only [apply, EStateM.run_bind, EStateM.run_get, hmem, if_false, hrun]

theorem Wf.record {book : OrderBook} (hwf : book.Wf) (event : EngineEvent) :
    (book.record event).Wf :=
  { hwf with }

end OrderBook

end MatchPlane
