import MatchPlane.Engine.OrderBook
import MatchPlane.Library.Fallible
import MatchPlane.Library.OrderedMap

/-!
# What the mutating operations do

Each mutating method is a chain of checks followed by a few map updates.  Two
pure functions cover all of the updates: `addOrder` inserts a new order, and
`update` overwrites an order in place, taking it out of its queue when the new
status is closed.  `Applied` says, payload by payload, which updates an event
makes and under which checks; every later result about `apply` goes through it.
-/

namespace MatchPlane

open MatchPlane.Library

namespace BookM

@[simp] theorem run_lift_ok {α : Type} (value : α) (book : OrderBook) :
    (lift (.ok value)).run book = .ok value book := rfl

@[simp] theorem run_lift_error {α : Type} (error : EngineError) (book : OrderBook) :
    (lift (.error error : Except EngineError α)).run book = .error error book := rfl

@[simp] theorem run_throw {α : Type} (error : EngineError) (book : OrderBook) :
    (throw error : BookM α).run book = .error error book := rfl

end BookM

@[simp] theorem EngineError.ofNumeric_ok {α : Type} (value : α) :
    ofNumeric (.ok value) = .ok value := rfl

@[simp] theorem EngineError.ofNumeric_error {α : Type} (error : NumericError) :
    ofNumeric (.error error : Except NumericError α) = .error (.numeric error) := rfl

namespace OrderView

/-- The view an order has after losing `quantity`. -/
def filled (order : OrderView) (quantity : Quantity)
    (h : quantity ≤ order.remainingQuantity) : OrderView :=
  { order with
    remainingQuantity := order.remainingQuantity.sub quantity h
    status := OrderBook.statusFor order.intent
      (order.remainingQuantity.sub quantity h) }

/-- The view an order has after being closed. -/
def closed (order : OrderView) (status : OrderStatus) : OrderView :=
  { order with remainingQuantity := Quantity.zero, status := status }

@[simp] theorem filled_intent (order : OrderView) (quantity : Quantity)
    (h : quantity ≤ order.remainingQuantity) :
    (order.filled quantity h).intent = order.intent := rfl

@[simp] theorem filled_acceptedSequence (order : OrderView) (quantity : Quantity)
    (h : quantity ≤ order.remainingQuantity) :
    (order.filled quantity h).acceptedSequence = order.acceptedSequence := rfl

@[simp] theorem filled_remaining_value (order : OrderView) (quantity : Quantity)
    (h : quantity ≤ order.remainingQuantity) :
    (order.filled quantity h).remainingQuantity.value =
      order.remainingQuantity.value - quantity.value := rfl

/-- A partial fill leaves an order open exactly when something remains. -/
theorem filled_isOpen (order : OrderView) (quantity : Quantity)
    (h : quantity ≤ order.remainingQuantity) :
    (order.filled quantity h).status.isOpen =
      !(order.filled quantity h).remainingQuantity.isZero := by
  simp only [filled, OrderBook.statusFor]
  cases hzero : (order.remainingQuantity.sub quantity h).isZero with
  | true => rfl
  | false =>
      simp only [Bool.false_eq_true, if_false]
      split <;> rfl

end OrderView

namespace OrderBook

/-! ## One accessor for both sides -/

/-- The FIFO queue of a side and price. -/
def level (book : OrderBook) (side : OrderSide) (price : Price) :
    Option (List OrderId) :=
  match side with
  | .buy => book.bids[OrderDual.toDual price]?
  | .sell => book.asks[price]?

def alterLevel (side : OrderSide) (price : Price)
    (f : Option (List OrderId) → Option (List OrderId)) (book : OrderBook) :
    OrderBook :=
  match side with
  | .buy => { book with bids := book.bids.alter (OrderDual.toDual price) f }
  | .sell => { book with asks := book.asks.alter price f }

theorem level_alterLevel (book : OrderBook) (side side' : OrderSide)
    (price price' : Price) (f : Option (List OrderId) → Option (List OrderId)) :
    (book.alterLevel side price f).level side' price' =
      if side' = side ∧ price' = price then f (book.level side price)
      else book.level side' price' := by
  cases side <;> cases side' <;>
    simp [level, alterLevel, OrderedMap.lookup_alter]

@[simp] theorem alterLevel_order (book : OrderBook) (side : OrderSide)
    (price : Price) (f : Option (List OrderId) → Option (List OrderId))
    (orderId : OrderId) :
    (book.alterLevel side price f).order orderId = book.order orderId := by
  cases side <;> rfl

@[simp] theorem alterLevel_marketId (book : OrderBook) (side : OrderSide)
    (price : Price) (f : Option (List OrderId) → Option (List OrderId)) :
    (book.alterLevel side price f).marketId = book.marketId := by
  cases side <;> rfl

@[simp] theorem alterLevel_appliedEvents (book : OrderBook) (side : OrderSide)
    (price : Price) (f : Option (List OrderId) → Option (List OrderId)) :
    (book.alterLevel side price f).appliedEvents = book.appliedEvents := by
  cases side <;> rfl

@[simp] theorem alterLevel_processedCommands (book : OrderBook) (side : OrderSide)
    (price : Price) (f : Option (List OrderId) → Option (List OrderId)) :
    (book.alterLevel side price f).processedCommands = book.processedCommands := by
  cases side <;> rfl

@[simp] theorem alterLevel_lastCommandSequence (book : OrderBook) (side : OrderSide)
    (price : Price) (f : Option (List OrderId) → Option (List OrderId)) :
    (book.alterLevel side price f).lastCommandSequence =
      book.lastCommandSequence := by
  cases side <;> rfl

/-- Books are equal when their fields agree, the level maps queue by queue. -/
theorem ext_level {book book' : OrderBook}
    (hmarket : book.marketId = book'.marketId)
    (hlevel : ∀ side price, book.level side price = book'.level side price)
    (horders : ∀ orderId : OrderId, book.order orderId = book'.order orderId)
    (hprocessed : book.processedCommands = book'.processedCommands)
    (happlied : book.appliedEvents = book'.appliedEvents)
    (hlast : book.lastCommandSequence = book'.lastCommandSequence) :
    book = book' := by
  have hbids : book.bids = book'.bids :=
    OrderedMap.ext fun price => hlevel .buy (OrderDual.ofDual price)
  have hasks : book.asks = book'.asks := OrderedMap.ext fun price => hlevel .sell price
  have hmap : book.orders = book'.orders := OrderedMap.ext horders
  cases book
  cases book'
  simp_all

/-! ## The two updates -/

/-- `retain` on a queue, deleting the level when nothing is left. -/
def retainOthers (orderId : OrderId) : Option (List OrderId) → Option (List OrderId)
  | none => none
  | some queue =>
      if (queue.filter (· ≠ orderId)).isEmpty then none
      else some (queue.filter (· ≠ orderId))

def dropFromLevel (order : OrderView) (book : OrderBook) : OrderBook :=
  book.alterLevel order.intent.side order.intent.price
    (retainOthers order.intent.orderId)

def setOrder (order : OrderView) (book : OrderBook) : OrderBook :=
  { book with orders := book.orders.insert order.intent.orderId order }

def addOrder (order : OrderView) (book : OrderBook) : OrderBook :=
  pushToLevel order (book.setOrder order)

def update (order : OrderView) (book : OrderBook) : OrderBook :=
  (if order.status.isOpen then book else book.dropFromLevel order).setOrder order

theorem pushToLevel_eq (order : OrderView) (book : OrderBook) :
    pushToLevel order book =
      book.alterLevel order.intent.side order.intent.price fun queue =>
        some (queue.getD [] ++ [order.intent.orderId]) := by
  unfold pushToLevel alterLevel
  cases order.intent.side <;> rfl

/-! ## The checks -/

theorem openOrder_eq_ok_iff {book : OrderBook} {orderId : OrderId}
    {order : OrderView} :
    book.openOrder orderId = .ok order ↔
      book.order orderId = some order ∧ order.status.isOpen = true := by
  unfold openOrder
  cases book.order orderId with
  | none => simp
  | some found =>
      by_cases hopen : found.status.isOpen
      · simp only [hopen, if_true, Except.ok.injEq, Option.some.injEq]
        constructor
        · rintro rfl
          exact ⟨rfl, hopen⟩
        · exact fun h => h.1
      · simp only [hopen, Option.some.injEq]
        constructor
        · intro h
          cases h
        · rintro ⟨rfl, h⟩
          exact absurd h hopen

theorem openOrder_error {book : OrderBook} {orderId : OrderId}
    (h : ∀ order, book.order orderId = some order → order.status.isOpen = false) :
    ∃ error, book.openOrder orderId = .error error := by
  cases hopen : book.openOrder orderId with
  | error error => exact ⟨error, rfl⟩
  | ok order =>
      obtain ⟨hlookup, hstatus⟩ := openOrder_eq_ok_iff.mp hopen
      rw [h order hlookup] at hstatus
      cases hstatus

/-- Everything that `validateTrade` establishes about a trade it accepts. -/
structure TradeValid (book : OrderBook) (trade : Trade) (maker taker : OrderView) :
    Prop where
  market : trade.marketId = book.marketId
  distinct : trade.makerOrderId ≠ trade.takerOrderId
  positive : 0 < trade.quantity.value
  maker_lookup : book.order trade.makerOrderId = some maker
  maker_open : maker.status.isOpen = true
  taker_lookup : book.order trade.takerOrderId = some taker
  taker_open : taker.status.isOpen = true
  maker_scope : maker.intent.tenantId = trade.tenantId ∧
    maker.intent.domainId = trade.domainId ∧ maker.intent.marketId = trade.marketId
  taker_scope : taker.intent.tenantId = trade.tenantId ∧
    taker.intent.domainId = trade.domainId ∧ taker.intent.marketId = trade.marketId
  opposite : maker.intent.side ≠ taker.intent.side
  priority : maker.acceptedSequence < taker.acceptedSequence
  buy_sell : (trade.buyOrderId, trade.sellOrderId) = match maker.intent.side with
    | .buy => (trade.makerOrderId, trade.takerOrderId)
    | .sell => (trade.takerOrderId, trade.makerOrderId)
  price : trade.price = maker.intent.price
  crosses : taker.intent.crosses trade.price = true
  maker_quantity : trade.quantity ≤ maker.remainingQuantity
  taker_quantity : trade.quantity ≤ taker.remainingQuantity

theorem validateTrade_eq_ok_iff {book : OrderBook} {trade : Trade} :
    book.validateTrade trade = .ok () ↔
      ∃ maker taker, TradeValid book trade maker taker := by
  constructor
  · intro h
    simp only [validateTrade, bind, Except.bind, pure, Except.pure, throw, throwThe,
      MonadExceptOf.throw, guard_eq_ok_iff] at h
    obtain ⟨hmarket, hdistinct, hpositive, h⟩ := h
    cases hmaker : book.openOrder trade.makerOrderId with
    | error error => simp [hmaker] at h
    | ok maker =>
        cases htaker : book.openOrder trade.takerOrderId with
        | error error => simp [hmaker, htaker] at h
        | ok taker =>
            simp only [hmaker, htaker, guard_eq_ok_iff] at h
            obtain ⟨hscope, hopposite, hpriority, hsides, hprice, hcrosses, h⟩ := h
            by_cases hmakerQuantity : trade.quantity ≤ maker.remainingQuantity
            · by_cases htakerQuantity : trade.quantity ≤ taker.remainingQuantity
              · obtain ⟨hmakerLookup, hmakerOpen⟩ := openOrder_eq_ok_iff.mp hmaker
                obtain ⟨htakerLookup, htakerOpen⟩ := openOrder_eq_ok_iff.mp htaker
                push Not at hmarket hscope hsides hprice hpriority
                refine ⟨maker, taker, ?_⟩
                exact {
                  market := hmarket
                  distinct := hdistinct
                  positive := (Quantity.isZero_eq_false_iff _).mp (by simpa using hpositive)
                  maker_lookup := hmakerLookup
                  maker_open := hmakerOpen
                  taker_lookup := htakerLookup
                  taker_open := htakerOpen
                  maker_scope := ⟨hscope.1, hscope.2.2.1, hscope.2.2.2.2.1⟩
                  taker_scope := ⟨hscope.2.1, hscope.2.2.2.1, hscope.2.2.2.2.2⟩
                  opposite := hopposite
                  priority := hpriority
                  buy_sell := Prod.ext hsides.1 hsides.2
                  price := hprice
                  crosses := by simpa using hcrosses
                  maker_quantity := hmakerQuantity
                  taker_quantity := htakerQuantity }
              · simp [Quantity.checkedSub_eq, htakerQuantity, hmakerQuantity] at h
            · simp [Quantity.checkedSub_eq, hmakerQuantity] at h
  · rintro ⟨maker, taker, h⟩
    have hmaker : book.openOrder trade.makerOrderId = .ok maker :=
      openOrder_eq_ok_iff.mpr ⟨h.maker_lookup, h.maker_open⟩
    have htaker : book.openOrder trade.takerOrderId = .ok taker :=
      openOrder_eq_ok_iff.mpr ⟨h.taker_lookup, h.taker_open⟩
    have hpositive := (Quantity.isZero_eq_false_iff _).mpr h.positive
    have hbuy := congrArg Prod.fst h.buy_sell
    have hsell := congrArg Prod.snd h.buy_sell
    have hcrosses : taker.intent.crosses maker.intent.price = true := h.price ▸ h.crosses
    simp only [validateTrade, bind, Except.bind, pure, Except.pure, throw, throwThe,
      MonadExceptOf.throw, guard_eq_ok_iff, hmaker, htaker]
    have hopposite := h.opposite
    cases hside : maker.intent.side <;> simp only [hside] at hbuy hsell hopposite <;>
      simp [h.market, h.distinct, hpositive, h.maker_scope, h.taker_scope, hopposite,
        h.priority, hbuy, hsell, h.price, hcrosses,
        Quantity.checkedSub_of_le h.maker_quantity,
        Quantity.checkedSub_of_le h.taker_quantity]

/-! ## Frames of the two updates -/

section Frames

variable (book : OrderBook) (order : OrderView)

theorem setOrder_order (orderId : OrderId) :
    (book.setOrder order).order orderId =
      if orderId = order.intent.orderId then some order else book.order orderId :=
  OrderedMap.lookup_insert _ _ _

@[simp] theorem setOrder_level (side : OrderSide) (price : Price) :
    (book.setOrder order).level side price = book.level side price := rfl

theorem addOrder_order (orderId : OrderId) :
    (book.addOrder order).order orderId =
      if orderId = order.intent.orderId then some order else book.order orderId := by
  rw [addOrder, pushToLevel_eq, alterLevel_order, setOrder_order]

theorem addOrder_level (side : OrderSide) (price : Price) :
    (book.addOrder order).level side price =
      if side = order.intent.side ∧ price = order.intent.price then
        some ((book.level side price).getD [] ++ [order.intent.orderId])
      else book.level side price := by
  rw [addOrder, pushToLevel_eq, level_alterLevel]
  split
  · rename_i h
    rw [h.1, h.2, setOrder_level]
  · rfl

theorem update_order (orderId : OrderId) :
    (book.update order).order orderId =
      if orderId = order.intent.orderId then some order else book.order orderId := by
  rw [update, setOrder_order]
  cases order.status.isOpen <;> simp [dropFromLevel]

theorem update_level_of_open (hopen : order.status.isOpen = true)
    (side : OrderSide) (price : Price) :
    (book.update order).level side price = book.level side price := by
  rw [update, setOrder_level, if_pos hopen]

theorem update_level_of_closed (hclosed : order.status.isOpen = false)
    (side : OrderSide) (price : Price) :
    (book.update order).level side price =
      if side = order.intent.side ∧ price = order.intent.price then
        retainOthers order.intent.orderId (book.level side price)
      else book.level side price := by
  rw [update, setOrder_level, hclosed, if_neg Bool.false_ne_true, dropFromLevel,
    level_alterLevel]
  split
  · rename_i h
    rw [h.1, h.2]
  · rfl

@[simp] theorem addOrder_marketId : (book.addOrder order).marketId = book.marketId := by
  rw [addOrder, pushToLevel_eq, alterLevel_marketId]
  rfl

@[simp] theorem addOrder_appliedEvents :
    (book.addOrder order).appliedEvents = book.appliedEvents := by
  rw [addOrder, pushToLevel_eq, alterLevel_appliedEvents]
  rfl

@[simp] theorem addOrder_processedCommands :
    (book.addOrder order).processedCommands = book.processedCommands := by
  rw [addOrder, pushToLevel_eq, alterLevel_processedCommands]
  rfl

@[simp] theorem addOrder_lastCommandSequence :
    (book.addOrder order).lastCommandSequence = book.lastCommandSequence := by
  rw [addOrder, pushToLevel_eq, alterLevel_lastCommandSequence]
  rfl

@[simp] theorem update_marketId : (book.update order).marketId = book.marketId := by
  rw [update, setOrder]
  cases order.status.isOpen <;> simp [dropFromLevel]

@[simp] theorem update_appliedEvents :
    (book.update order).appliedEvents = book.appliedEvents := by
  rw [update, setOrder]
  cases order.status.isOpen <;> simp [dropFromLevel]

@[simp] theorem update_processedCommands :
    (book.update order).processedCommands = book.processedCommands := by
  rw [update, setOrder]
  cases order.status.isOpen <;> simp [dropFromLevel]

@[simp] theorem update_lastCommandSequence :
    (book.update order).lastCommandSequence = book.lastCommandSequence := by
  rw [update, setOrder]
  cases order.status.isOpen <;> simp [dropFromLevel]

@[simp] theorem record_order (event : EngineEvent) (orderId : OrderId) :
    (book.record event).order orderId = book.order orderId := rfl

@[simp] theorem record_level (event : EngineEvent) (side : OrderSide) (price : Price) :
    (book.record event).level side price = book.level side price := rfl

@[simp] theorem record_marketId (event : EngineEvent) :
    (book.record event).marketId = book.marketId := rfl

end Frames

/-! ## Running the mutating helpers -/

theorem mem_retainOthers {orderId other : OrderId} {queue : List OrderId}
    {kept : List OrderId} (h : retainOthers orderId (some queue) = some kept) :
    other ∈ kept ↔ other ∈ queue ∧ other ≠ orderId := by
  simp only [retainOthers] at h
  split at h
  · cases h
  · cases h
    simp

theorem removeFromLevel_run {book : OrderBook} {order : OrderView}
    (hlookup : book.order order.intent.orderId = some order)
    {queue : List OrderId}
    (hlevel : book.level order.intent.side order.intent.price = some queue) :
    (removeFromLevel order.intent.orderId).run book =
      .ok () (book.dropFromLevel order) := by
  simp only [removeFromLevel, dropFromLevel, EStateM.run_bind, EStateM.run_get, hlookup]
  cases hside : order.intent.side with
  | buy =>
      have hbids : book.bids[OrderDual.toDual order.intent.price]? = some queue := by
        rw [hside] at hlevel
        exact hlevel
      simp only [hbids, alterLevel, EStateM.run_bind, EStateM.run_set]
      by_cases hempty : (queue.filter (· ≠ order.intent.orderId)).isEmpty
      · rw [if_pos hempty, ← OrderedMap.erase_insert_eq_alter
          (queue.filter (· ≠ order.intent.orderId))]
        · rfl
        · rw [hbids, retainOthers, if_pos hempty]
      · rw [if_neg hempty, ← OrderedMap.insert_eq_alter]
        · rfl
        · rw [hbids, retainOthers, if_neg hempty]
  | sell =>
      have hasks : book.asks[order.intent.price]? = some queue := by
        rw [hside] at hlevel
        exact hlevel
      simp only [hasks, alterLevel, EStateM.run_bind, EStateM.run_set]
      by_cases hempty : (queue.filter (· ≠ order.intent.orderId)).isEmpty
      · rw [if_pos hempty, ← OrderedMap.erase_insert_eq_alter
          (queue.filter (· ≠ order.intent.orderId))]
        · rfl
        · rw [hasks, retainOthers, if_pos hempty]
      · rw [if_neg hempty, ← OrderedMap.insert_eq_alter]
        · rfl
        · rw [hasks, retainOthers, if_neg hempty]

theorem decreaseOrder_run {book : OrderBook} {order : OrderView}
    (hlookup : book.order order.intent.orderId = some order)
    (hopen : order.status.isOpen = true) {queue : List OrderId}
    (hlevel : book.level order.intent.side order.intent.price = some queue)
    {quantity : Quantity} (h : quantity ≤ order.remainingQuantity) :
    (decreaseOrder order.intent.orderId quantity).run book =
      .ok () (book.update (order.filled quantity h)) := by
  have hopenOrder := openOrder_eq_ok_iff.mpr ⟨hlookup, hopen⟩
  have hstatus := order.filled_isOpen quantity h
  simp only [decreaseOrder, EStateM.run_bind, EStateM.run_get, hopenOrder,
    BookM.run_lift_ok, Quantity.checkedSub_of_le h, EngineError.ofNumeric_ok, update]
  cases hzero : (order.remainingQuantity.sub quantity h).isZero with
  | true =>
      have hclosed : (order.filled quantity h).status.isOpen = false := by
        rw [hstatus]
        simpa [OrderView.filled] using hzero
      have hdropped : (book.dropFromLevel order).order order.intent.orderId =
          some order := by
        rw [dropFromLevel, alterLevel_order]
        exact hlookup
      simp only [if_true, EStateM.run_bind, EStateM.run_get,
        removeFromLevel_run hlookup hlevel, hdropped, hclosed]
      rfl
  | false =>
      have hstillOpen : (order.filled quantity h).status.isOpen = true := by
        rw [hstatus]
        simpa [OrderView.filled] using hzero
      simp only [Bool.false_eq_true, if_false, EStateM.run_bind, EStateM.run_get, hlookup,
        hstillOpen, if_true]
      rfl

theorem applyClosedOrder_run {book : OrderBook} {order : OrderView}
    (hlookup : book.order order.intent.orderId = some order)
    (hopen : order.status.isOpen = true) {queue : List OrderId}
    (hlevel : book.level order.intent.side order.intent.price = some queue)
    {status : OrderStatus} (hclosed : status.isOpen = false) :
    (applyClosedOrder order.intent.orderId order.remainingQuantity status).run book =
      .ok () (book.update (order.closed status)) := by
  have hopenOrder := openOrder_eq_ok_iff.mpr ⟨hlookup, hopen⟩
  have hdropped : (book.dropFromLevel order).order order.intent.orderId =
      some order := by
    rw [dropFromLevel, alterLevel_order]
    exact hlookup
  have hupdate : book.update (order.closed status) =
      (book.dropFromLevel order).setOrder (order.closed status) := by
    rw [update, if_neg (by simp [OrderView.closed, hclosed])]
    rfl
  simp only [applyClosedOrder, EStateM.run_bind, EStateM.run_get, hopenOrder,
    BookM.run_lift_ok, ne_eq, not_true_eq_false, if_false,
    removeFromLevel_run hlookup hlevel, hdropped, hupdate]
  rfl

end OrderBook

end MatchPlane
