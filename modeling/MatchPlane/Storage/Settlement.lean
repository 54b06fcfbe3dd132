import MatchPlane.Payments.Commission
import MatchPlane.Storage.Orders

/-!
# Settlement

What a matched command does to the holdings: the reservation of a placement is
held, each trade moves both assets and the commission, a closed order gets its
reservation back, and the order rows follow the engine.
-/

namespace MatchPlane

open MatchPlane.Library

def parseI128 {σ : Type} (value : Int) : Tx σ Int :=
  if InI128 value then pure value
  else throw (.invalidData "numeric value exceeds exact i128")

/-! ## Reservations -/

def holdReservation (decoded : DecodedCommand) (placement : PlacementContext)
    (fencingToken : Nat) : Tx Holdings Unit := do
  match decoded.engineCommand.kind with
  | .placeLimitOrder intent =>
      let updated ← Holdings.reservationTable.on
        (Table.update .sqlx intent.orderId
          (fun row => row.tenantId = decoded.envelope.tenantId ∧
            row.accountId = placement.reservationAccountId ∧
            row.quantity = placement.reservationAmount.value ∧
            row.remainingQuantity = placement.reservationAmount.value ∧
            row.idempotencyKey = placement.idempotencyKey ∧
            row.status = .pending ∧ row.fencingToken = 0)
          fun row => { row with status := .held, fencingToken := fencingToken })
      let _ ← require (.invalidData
        "pending order reservation is missing or does not match the command") updated
  | _ => throw (.invalidData "validated placement command changed variants")

def consumeReservation (orderId : OrderId) (accountId : AccountId)
    (consumed released : Int) : Tx Holdings Unit := do
  let account ← Holdings.accountTable.on
    (Table.update .sqlx accountId (fun row => consumed ≤ row.reservedAmount)
      fun row => { row with
        reservedAmount := row.reservedAmount - consumed
        availableAmount := row.availableAmount + released })
  let reservation ← Holdings.reservationTable.on
    (Table.update .sqlx orderId
      (fun row => row.status = .held ∧ consumed ≤ row.remainingQuantity)
      fun row => { row with
        remainingQuantity := row.remainingQuantity - consumed
        status := if row.remainingQuantity = consumed then .confirmed else .held })
  if account = none ∨ reservation = none then
    throw (.invalidData "reservation consumption would overdraw held capacity")

def creditAccount (accountId : AccountId) (amount : Int) : Tx Holdings Unit := do
  let updated ← Holdings.accountTable.on
    (Table.update .sqlx accountId (fun _ => true)
      fun row => { row with availableAmount := row.availableAmount + amount })
  let _ ← require (.notFound "settlement account") updated

/-- The order that a command closed, with the status of its reservation. -/
def closingOrder (events : List EngineEvent) : Option (OrderId × ReservationStatus) :=
  events.findSome? fun event =>
    match event.payload with
    | .orderCancelled orderId _ => some (orderId, .aborted)
    | .orderExpired orderId _ => some (orderId, .expired)
    | _ => none

/-- The update of the account is not checked for having found its row. -/
def releaseReservation (orderId : OrderId) (status : ReservationStatus) :
    Tx Holdings Unit := do
  let row ← require (.notFound "held reservation")
    (((← get).reservations.lookup orderId).filter fun row => row.status = .held)
  let remaining ← parseI128 row.remainingQuantity
  let _ ← Holdings.accountTable.on
    (Table.update .sqlx row.accountId (fun account => remaining ≤ account.reservedAmount)
      fun account => { account with
        reservedAmount := account.reservedAmount - remaining
        availableAmount := account.availableAmount + remaining })
  let _ ← Holdings.reservationTable.on
    (Table.update .sqlx orderId (fun stored => stored.status = .held)
      fun stored => { stored with remainingQuantity := 0, status := status })

/-! ## Trades -/

structure SettlementAccounts where
  side : OrderSide
  limitPrice : Int
  reservationAccountId : AccountId
  settlementAccountId : AccountId
  deriving DecidableEq, Repr

def settlementAccounts (orderId : OrderId) : Tx Holdings SettlementAccounts := do
  let row ← require (.notFound "trade order") ((← get).orders.lookup orderId)
  let limitPrice ← parseI128 row.price
  pure ⟨row.side, limitPrice, row.reservationAccountId, row.settlementAccountId⟩

/-- Everything that `settleTrade` computes before it writes. -/
structure TradeTerms where
  buy : SettlementAccounts
  sell : SettlementAccounts
  actualAmount : Int
  buyHold : Int
  improvement : Int
  commissionBps : Nat
  commissionAmount : Int
  sellerNetAmount : Int
  platformCommissionAccountId : Option AccountId
  deriving DecidableEq, Repr

/-- The `map_err` on a numeric result. -/
def NumericError.toStorage {α : Type} : Except NumericError α → Except StorageError α
  | .ok value => .ok value
  | .error error => .error (.invalidData error.message)

def PaymentError.toStorage {α : Type} : Except PaymentError α → Except StorageError α
  | .ok value => .ok value
  | .error error => .error (.invalidData error.message)

def tradeTerms (markets : Table markets) (trade : Trade) : Tx Holdings TradeTerms := do
  let actual ← NumericError.toStorage (trade.price.checkedMul trade.quantity)
  let buy ← settlementAccounts trade.buyOrderId
  let sell ← settlementAccounts trade.sellOrderId
  if buy.side ≠ .buy ∨ sell.side ≠ .sell then
    throw (.invalidData "trade order sides contradict buy/sell identifiers")
  let buyHold ← require (.invalidData "buy hold arithmetic overflow")
    (I128.ofInt? (buy.limitPrice * trade.quantity.value))
  let improvement ← require (.invalidData "execution exceeded buy limit")
    ((I128.ofInt? (buyHold.1 - actual.1)).filter fun value => 0 ≤ value.1)
  let policy ← require (.notFound "trade commission policy")
    ((markets.lookup trade.marketId).filter fun row => row.tenantId = trade.tenantId)
  if 65535 < policy.commissionBps then
    throw (.invalidData "commission basis points are out of range")
  let commissionAmount ←
    PaymentError.toStorage (calculateCommission actual.1 policy.commissionBps)
  let sellerNet ← require (.invalidData "commission exceeds trade gross")
    (I128.ofInt? (actual.1 - commissionAmount))
  if 0 < commissionAmount ∧ policy.platformCommissionAccountId = none then
    throw (.invalidData "positive commission requires a platform commission account")
  pure {
    buy := buy
    sell := sell
    actualAmount := actual.1
    buyHold := buyHold.1
    improvement := improvement.1
    commissionBps := policy.commissionBps
    commissionAmount := commissionAmount
    sellerNetAmount := sellerNet.1
    platformCommissionAccountId := policy.platformCommissionAccountId }

def creditCommission (terms : TradeTerms) : Tx Holdings Unit :=
  match terms.platformCommissionAccountId with
  | none => pure ()
  | some platformAccountId =>
      if 0 < terms.commissionAmount then do
        if platformAccountId = terms.sell.settlementAccountId then
          throw (.invalidData
            "platform commission account must differ from seller settlement account")
        creditAccount platformAccountId terms.commissionAmount
      else pure ()

def moveFunds (trade : Trade) (terms : TradeTerms) : Tx Holdings Unit := do
  consumeReservation trade.buyOrderId terms.buy.reservationAccountId terms.buyHold
    terms.improvement
  creditAccount terms.buy.settlementAccountId trade.quantity.value
  consumeReservation trade.sellOrderId terms.sell.reservationAccountId
    trade.quantity.value 0
  if 0 < terms.sellerNetAmount then
    creditAccount terms.sell.settlementAccountId terms.sellerNetAmount
  creditCommission terms

structure Posting where
  label : String
  accountId : AccountId
  kind : EntryKind
  amount : Int
  deriving DecidableEq, Repr

def postings (trade : Trade) (terms : TradeTerms) : List Posting :=
  [⟨"buyer-quote-debit", terms.buy.reservationAccountId, .debit, terms.actualAmount⟩,
    ⟨"seller-base-debit", terms.sell.reservationAccountId, .debit, trade.quantity.value⟩,
    ⟨"buyer-base-credit", terms.buy.settlementAccountId, .credit, trade.quantity.value⟩] ++
  (if 0 < terms.sellerNetAmount then
    [⟨"seller-quote-net-credit", terms.sell.settlementAccountId, .credit,
      terms.sellerNetAmount⟩]
  else []) ++
  match terms.platformCommissionAccountId with
  | none => []
  | some platformAccountId =>
      if 0 < terms.commissionAmount then
        [⟨"platform-commission-credit", platformAccountId, .credit,
          terms.commissionAmount⟩]
      else []

section Record

variable [UuidV5]

def recordTrade (eventId : EventId) (trade : Trade) (terms : TradeTerms) :
    Tx Holdings Unit := do
  Holdings.tradeTable.on (Table.insert .sqlx {
    id := trade.id
    tenantId := trade.tenantId
    domainId := trade.domainId
    marketId := trade.marketId
    eventId := eventId
    makerOrderId := trade.makerOrderId
    takerOrderId := trade.takerOrderId
    buyOrderId := trade.buyOrderId
    sellOrderId := trade.sellOrderId
    price := trade.price.value
    quantity := trade.quantity.value
    grossAmount := terms.actualAmount
    commissionBps := terms.commissionBps
    commissionAmount := terms.commissionAmount
    sellerNetAmount := terms.sellerNetAmount
    platformCommissionAccountId := terms.platformCommissionAccountId
    occurredAt := trade.occurredAt })
  forM (postings trade terms) fun posting =>
    Holdings.ledgerEntryTable.on (Table.insert .sqlx {
      id := LedgerEntryId.derive trade.id posting.label
      tenantId := trade.tenantId
      tradeId := trade.id
      accountId := posting.accountId
      entryGroupId := trade.id
      entryKind := posting.kind
      amount := posting.amount
      occurredAt := trade.occurredAt })

def settleTrade (markets : Table markets) (eventId : EventId) (trade : Trade) :
    Tx Holdings Unit := do
  let terms ← tradeTerms markets trade
  moveFunds trade terms
  recordTrade eventId trade terms

def settleEvent (markets : Table markets) (event : EngineEvent) : Tx Holdings Unit :=
  match event.payload with
  | .tradeExecuted trade => settleTrade markets event.eventId trade
  | _ => pure ()

end Record

/-! ## Order rows -/

/-- The orders whose rows an event makes stale. -/
def touchedOrders (event : EngineEvent) : Finset OrderId :=
  match event.payload with
  | .orderAccepted intent _ => {intent.orderId}
  | .tradeExecuted trade => {trade.makerOrderId, trade.takerOrderId}
  | .orderCancelled orderId _ | .orderExpired orderId _ => {orderId}

def touchedOrderIds (events : List EngineEvent) : Finset OrderId :=
  events.foldl (fun orderIds event => orderIds ∪ touchedOrders event) ∅

def persistOrderProjection (book : OrderBook) (orderId : OrderId) : Tx Holdings Unit := do
  let view ← require (.invalidData s!"engine projection omitted order {orderId}")
    (book.order orderId)
  let acceptedSequence ← i64Sequence view.acceptedSequence
  let updated ← Holdings.orderTable.on
    (Table.update .sqlx orderId
      (fun row => row.federatedReservedQuantity ≤ view.remainingQuantity.value)
      fun row => { row with
        remainingQuantity := view.remainingQuantity.value
        status := view.status
        acceptedSequence := some acceptedSequence })
  let _ ← require .reservationUnavailable updated

def persistOrderProjections (book : OrderBook) (events : List EngineEvent) :
    Tx Holdings Unit :=
  forM ((touchedOrderIds events).sort (· ≤ ·)) (persistOrderProjection book)

end MatchPlane
