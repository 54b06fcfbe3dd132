import MatchPlane.Domain.Matching

/-!
# The limit-order book

The engine's state and every operation on it.  Mutating operations run in
`BookM`, whose errors keep the state reached so far: an operation that fails
halfway leaves its partial effects behind, exactly as the source's `&mut self`
methods with `?` do.  Operations on `&self` are plain functions.

Both level maps are ordered maps, the bid side under the reversed price order.
The order map is unordered in the source; here it is ordered by identifier, and
the two places that iterate it do not depend on the order (see
`validateOrderScope_of_mem` and `snapshotState_orders_perm`).
-/

namespace MatchPlane

open MatchPlane.Library
open Std (ExtTreeMap)

inductive EngineError where
  | marketMismatch (expected actual : MarketId)
  | commandSequenceGap (expected actual : Nat)
  | orderAlreadyExists (orderId : OrderId)
  | orderNotFound (orderId : OrderId)
  | orderNotOpen (orderId : OrderId) (status : OrderStatus)
  | orderNotExpired (orderId : OrderId)
  | orderExpiredAtAdmission (orderId : OrderId)
  | numeric (error : NumericError)
  | eventInvariant (message : String)
  | snapshotSerialization (message : String)
  deriving DecidableEq, Repr

structure OrderView where
  intent : OrderIntent
  remainingQuantity : Quantity
  status : OrderStatus
  acceptedSequence : Nat
  deriving DecidableEq, Repr

structure PriceLevel where
  price : Price
  quantity : Quantity
  orderIds : List OrderId
  deriving DecidableEq, Repr

structure OrderBook where
  marketId : MarketId
  bids : ExtTreeMap Priceᵒᵈ (List OrderId)
  asks : ExtTreeMap Price (List OrderId)
  orders : ExtTreeMap OrderId OrderView
  processedCommands : Finset EventId
  appliedEvents : Finset EventId
  lastCommandSequence : Nat

abbrev BookM := EStateM EngineError OrderBook

/-- The `?` operator on a numeric result. -/
def EngineError.ofNumeric {α : Type} : Except NumericError α → Except EngineError α
  | .ok value => .ok value
  | .error error => .error (.numeric error)

/-- The `?` operator on the result of a `&self` method. -/
def BookM.lift {α : Type} : Except EngineError α → BookM α
  | .ok value => pure value
  | .error error => throw error

def OrderStatus.isOpen : OrderStatus → Bool
  | .open | .partiallyFilled => true
  | _ => false

namespace OrderBook

def new (marketId : MarketId) : OrderBook where
  marketId := marketId
  bids := ∅
  asks := ∅
  orders := ∅
  processedCommands := ∅
  appliedEvents := ∅
  lastCommandSequence := 0

def order (book : OrderBook) (orderId : OrderId) : Option OrderView :=
  book.orders[orderId]?

/-- The values of the order map. -/
def orderViews (book : OrderBook) : List OrderView :=
  book.orders.toList.map Prod.snd

/-! ## Validation -/

def openOrder (book : OrderBook) (orderId : OrderId) : Except EngineError OrderView :=
  match book.order orderId with
  | none => .error (.orderNotFound orderId)
  | some order =>
      if order.status.isOpen then .ok order
      else .error (.orderNotOpen orderId order.status)

def validateOrderScope (book : OrderBook) (intent : OrderIntent) :
    Except EngineError Unit :=
  if intent.marketId ≠ book.marketId then
    .error (.marketMismatch book.marketId intent.marketId)
  else if book.orderViews.head?.any fun existing =>
      existing.intent.tenantId ≠ intent.tenantId ∨
        existing.intent.domainId ≠ intent.domainId then
    .error (.eventInvariant "order authority scope does not match the market book")
  else .ok ()

def validateIntent (book : OrderBook) (command : EngineCommand)
    (intent : OrderIntent) : Except EngineError Unit := do
  book.validateOrderScope intent
  if intent.orderId ∈ book.orders then
    throw (.orderAlreadyExists intent.orderId)
  if intent.quantity.isZero then
    throw (.numeric .nonPositiveQuantity)
  if intent.expiredAt command.occurredAt then
    throw (.orderExpiredAtAdmission intent.orderId)

/-! ## Deciding -/

section Decide

variable [UuidV5]

def event (command : EngineCommand) (ordinal : Nat) (payload : MatchingEvent) :
    EngineEvent where
  eventId := EventId.derive command.commandId "matching-event" ordinal
  causationId := command.commandId
  commandSequence := command.shardSequence
  occurredAt := command.occurredAt
  payload := payload

def tradeEvent (command : EngineCommand) (tradeOrdinal : Nat)
    (taker : OrderIntent) (maker : OrderView) (price : Price)
    (quantity : Quantity) : EngineEvent :=
  event command tradeOrdinal (.tradeExecuted {
    id := TradeId.derive command.commandId tradeOrdinal
    tenantId := taker.tenantId
    domainId := taker.domainId
    marketId := taker.marketId
    makerOrderId := maker.intent.orderId
    takerOrderId := taker.orderId
    buyOrderId := match taker.side with
      | .buy => taker.orderId
      | .sell => maker.intent.orderId
    sellOrderId := match taker.side with
      | .buy => maker.intent.orderId
      | .sell => taker.orderId
    price := price
    quantity := quantity
    occurredAt := command.occurredAt })

/-- The mutable locals of `decidePlaceLimitOrder`. -/
structure Matching where
  events : List EngineEvent
  takerRemaining : Quantity
  tradeOrdinal : Nat
  deriving DecidableEq, Repr

/--
The inner loop, over the queue of one price level.  The flag reports that it
left the labelled outer loop because the taker is exhausted.
-/
def matchQueue (book : OrderBook) (command : EngineCommand)
    (intent : OrderIntent) (makerPrice : Price) :
    List OrderId → Matching → Except EngineError (Matching × Bool)
  | [], matching => .ok (matching, false)
  | makerOrderId :: orderIds, matching => do
      let maker ← book.openOrder makerOrderId
      if u32Max < matching.tradeOrdinal + 1 then
        throw (.eventInvariant "trade ordinal overflow")
      let tradeOrdinal := matching.tradeOrdinal + 1
      let quantity := min matching.takerRemaining maker.remainingQuantity
      let trade := tradeEvent command tradeOrdinal intent maker makerPrice quantity
      let takerRemaining ←
        EngineError.ofNumeric (matching.takerRemaining.checkedSub quantity)
      let matching := ⟨matching.events ++ [trade], takerRemaining, tradeOrdinal⟩
      if takerRemaining.isZero then .ok (matching, true)
      else matchQueue book command intent makerPrice orderIds matching

/-- The outer loop of a buy, over the ask levels within its limit. -/
def matchAsks (book : OrderBook) (command : EngineCommand) (intent : OrderIntent) :
    List (Price × List OrderId) → Matching → Except EngineError Matching
  | [], matching => .ok matching
  | (makerPrice, orderIds) :: levels, matching => do
      let (matching, exhausted) ←
        matchQueue book command intent makerPrice orderIds matching
      if exhausted then .ok matching
      else matchAsks book command intent levels matching

/-- The outer loop of a sell, over all bid levels until one is below its limit. -/
def matchBids (book : OrderBook) (command : EngineCommand) (intent : OrderIntent) :
    List (Priceᵒᵈ × List OrderId) → Matching → Except EngineError Matching
  | [], matching => .ok matching
  | (makerPrice, orderIds) :: levels, matching =>
      if OrderDual.ofDual makerPrice < intent.price then .ok matching
      else do
        let (matching, exhausted) ←
          matchQueue book command intent (OrderDual.ofDual makerPrice) orderIds matching
        if exhausted then .ok matching
        else matchBids book command intent levels matching

def matchSide (book : OrderBook) (command : EngineCommand) (intent : OrderIntent)
    (matching : Matching) : Except EngineError Matching :=
  match intent.side with
  | .buy =>
      let levels := book.asks.toList.filter fun level => level.1 ≤ intent.price
      matchAsks book command intent levels matching
  | .sell => matchBids book command intent book.bids.toList matching

def decidePlaceLimitOrder (book : OrderBook) (command : EngineCommand)
    (intent : OrderIntent) : Except EngineError (List EngineEvent) := do
  book.validateIntent command intent
  let accepted :=
    event command 0 (.orderAccepted intent command.shardSequence)
  let matching : Matching := ⟨[accepted], intent.quantity, 0⟩
  let matching ← matchSide book command intent matching
  .ok matching.events

def decideCancelOrder (book : OrderBook) (command : EngineCommand)
    (orderId : OrderId) : Except EngineError (List EngineEvent) := do
  let order ← book.openOrder orderId
  .ok [event command 0 (.orderCancelled orderId order.remainingQuantity)]

def decideExpireOrder (book : OrderBook) (command : EngineCommand)
    (orderId : OrderId) : Except EngineError (List EngineEvent) := do
  let order ← book.openOrder orderId
  if order.intent.expiredAt command.occurredAt then
    .ok [event command 0 (.orderExpired orderId order.remainingQuantity)]
  else throw (.orderNotExpired orderId)

def decideCommand (book : OrderBook) (command : EngineCommand) :
    Except EngineError (List EngineEvent) :=
  match command.kind with
  | .placeLimitOrder intent => book.decidePlaceLimitOrder command intent
  | .cancelOrder orderId => book.decideCancelOrder command orderId
  | .expireOrder orderId => book.decideExpireOrder command orderId

end Decide

/-! ## Applying -/

def pushToLevel (order : OrderView) (book : OrderBook) : OrderBook :=
  let pushBack := fun queue : Option (List OrderId) =>
    some (queue.getD [] ++ [order.intent.orderId])
  match order.intent.side with
  | .buy => { book with
      bids := book.bids.alter (OrderDual.toDual order.intent.price) pushBack }
  | .sell => { book with asks := book.asks.alter order.intent.price pushBack }

def removeFromLevel (orderId : OrderId) : BookM Unit := do
  let book ← get
  match book.order orderId with
  | none => throw (.orderNotFound orderId)
  | some order =>
      match order.intent.side with
      | .buy =>
          let key := OrderDual.toDual order.intent.price
          match book.bids[key]? with
          | none => throw (.eventInvariant s!"missing bid level for order {orderId}")
          | some queue =>
              let queue := queue.filter (· ≠ orderId)
              set { book with bids := book.bids.insert key queue }
              if queue.isEmpty then
                modify fun book => { book with bids := book.bids.erase key }
      | .sell =>
          let key := order.intent.price
          match book.asks[key]? with
          | none => throw (.eventInvariant s!"missing ask level for order {orderId}")
          | some queue =>
              let queue := queue.filter (· ≠ orderId)
              set { book with asks := book.asks.insert key queue }
              if queue.isEmpty then
                modify fun book => { book with asks := book.asks.erase key }

/-- The status an open order has once its remaining quantity is `remaining`. -/
def statusFor (intent : OrderIntent) (remaining : Quantity) : OrderStatus :=
  if remaining.isZero then .filled
  else if remaining = intent.quantity then .open
  else .partiallyFilled

def decreaseOrder (orderId : OrderId) (quantity : Quantity) : BookM Unit := do
  let order ← BookM.lift ((← get).openOrder orderId)
  let remaining ←
    BookM.lift (EngineError.ofNumeric (order.remainingQuantity.checkedSub quantity))
  if remaining.isZero then removeFromLevel orderId
  let book ← get
  match book.order orderId with
  | none => throw (.orderNotFound orderId)
  | some order =>
      set { book with orders := book.orders.insert orderId { order with
        remainingQuantity := remaining
        status := statusFor order.intent remaining } }

def applyOrderAccepted (intent : OrderIntent) (acceptedSequence : Nat) :
    BookM Unit := do
  let book ← get
  BookM.lift (book.validateOrderScope intent)
  if intent.orderId ∈ book.orders then
    throw (.orderAlreadyExists intent.orderId)
  if intent.quantity.isZero then
    throw (.numeric .nonPositiveQuantity)
  let order : OrderView := ⟨intent, intent.quantity, .open, acceptedSequence⟩
  set { book with orders := book.orders.insert intent.orderId order }
  modify (pushToLevel order)

/-- The checks of `applyTrade`, all made before its first mutation. -/
def validateTrade (book : OrderBook) (trade : Trade) : Except EngineError Unit := do
  if trade.marketId ≠ book.marketId then
    throw (.marketMismatch book.marketId trade.marketId)
  if trade.makerOrderId = trade.takerOrderId then
    throw (.eventInvariant "trade maker and taker must be different orders")
  if trade.quantity.isZero then
    throw (.numeric .nonPositiveQuantity)
  let maker ← book.openOrder trade.makerOrderId
  let taker ← book.openOrder trade.takerOrderId
  if maker.intent.tenantId ≠ trade.tenantId
      ∨ taker.intent.tenantId ≠ trade.tenantId
      ∨ maker.intent.domainId ≠ trade.domainId
      ∨ taker.intent.domainId ≠ trade.domainId
      ∨ maker.intent.marketId ≠ trade.marketId
      ∨ taker.intent.marketId ≠ trade.marketId then
    throw (.eventInvariant "trade authority scope does not match both orders")
  if maker.intent.side = taker.intent.side then
    throw (.eventInvariant "trade orders must be on opposite sides")
  if taker.acceptedSequence ≤ maker.acceptedSequence then
    throw (.eventInvariant
      "trade maker must have earlier price-time priority than the taker")
  let (buyOrderId, sellOrderId) := match maker.intent.side with
    | .buy => (trade.makerOrderId, trade.takerOrderId)
    | .sell => (trade.takerOrderId, trade.makerOrderId)
  if trade.buyOrderId ≠ buyOrderId ∨ trade.sellOrderId ≠ sellOrderId then
    throw (.eventInvariant "trade side order IDs do not match the maker and taker")
  if trade.price ≠ maker.intent.price then
    throw (.eventInvariant "trade price does not match the maker limit price")
  if ¬taker.intent.crosses trade.price then
    throw (.eventInvariant "trade price does not satisfy the taker limit")
  let _ ← EngineError.ofNumeric (maker.remainingQuantity.checkedSub trade.quantity)
  let _ ← EngineError.ofNumeric (taker.remainingQuantity.checkedSub trade.quantity)

def applyTrade (trade : Trade) : BookM Unit := do
  BookM.lift (validateTrade (← get) trade)
  decreaseOrder trade.makerOrderId trade.quantity
  decreaseOrder trade.takerOrderId trade.quantity

def applyClosedOrder (orderId : OrderId) (releasedQuantity : Quantity)
    (status : OrderStatus) : BookM Unit := do
  let order ← BookM.lift ((← get).openOrder orderId)
  if order.remainingQuantity ≠ releasedQuantity then
    throw (.eventInvariant
      s!"released quantity for order {orderId} does not match remaining quantity")
  removeFromLevel orderId
  let book ← get
  match book.order orderId with
  | none => throw (.orderNotFound orderId)
  | some order =>
      set { book with orders := book.orders.insert orderId { order with
        remainingQuantity := Quantity.zero
        status := status } }

def applyPayload : MatchingEvent → BookM Unit
  | .orderAccepted intent acceptedSequence => applyOrderAccepted intent acceptedSequence
  | .tradeExecuted trade => applyTrade trade
  | .orderCancelled orderId releasedQuantity =>
      applyClosedOrder orderId releasedQuantity .cancelled
  | .orderExpired orderId releasedQuantity =>
      applyClosedOrder orderId releasedQuantity .expired

/-- Marks an event and its command as seen. -/
def record (event : EngineEvent) (book : OrderBook) : OrderBook :=
  { book with
    appliedEvents := insert event.eventId book.appliedEvents
    processedCommands := insert event.causationId book.processedCommands
    lastCommandSequence := max book.lastCommandSequence event.commandSequence }

def apply (event : EngineEvent) : BookM Bool := do
  if event.eventId ∈ (← get).appliedEvents then
    pure false
  else
    applyPayload event.payload
    modify (record event)
    pure true

/-! ## Processing -/

/-- The loop that applies freshly decided events. -/
def applyDecided : List EngineEvent → BookM Unit
  | [] => pure ()
  | event :: events => do
      let applied ← apply event
      if applied then applyDecided events
      else throw (.eventInvariant s!"new event {event.eventId} was already applied")

def process [UuidV5] (command : EngineCommand) : BookM (List EngineEvent) := do
  let book ← get
  if command.commandId ∈ book.processedCommands then
    pure []
  else if u64Max < book.lastCommandSequence + 1 then
    throw (.eventInvariant "command sequence overflow")
  else if command.shardSequence ≠ book.lastCommandSequence + 1 then
    throw (.commandSequenceGap (book.lastCommandSequence + 1) command.shardSequence)
  else
    let events ← BookM.lift (book.decideCommand command)
    applyDecided events
    pure events

/-! ## Views -/

def aggregateLevel (book : OrderBook) (price : Price) (queue : List OrderId) :
    Except EngineError PriceLevel := do
  let quantity ← queue.foldlM (fun quantity orderId => do
    let order ← book.openOrder orderId
    EngineError.ofNumeric (quantity.checkedAdd order.remainingQuantity)) Quantity.zero
  .ok ⟨price, quantity, queue⟩

def bidLevels (book : OrderBook) : Except EngineError (List PriceLevel) :=
  book.bids.toList.mapM fun level =>
    book.aggregateLevel (OrderDual.ofDual level.1) level.2

def askLevels (book : OrderBook) : Except EngineError (List PriceLevel) :=
  book.asks.toList.mapM fun level => book.aggregateLevel level.1 level.2

end OrderBook

end MatchPlane
