import MatchPlane.Storage.Schema

/-!
# Order submission

One transaction stores an order, holds its reservation, logs the command and
queues it for the matcher.  The identifier of the command is drawn by the
caller of `EventId::new` and passed in.
-/

namespace MatchPlane

open MatchPlane.Library

structure SubmitOrder where
  intent : OrderIntent
  idempotencyKey : String
  reservationAccountId : AccountId
  settlementAccountId : AccountId
  reservationAmount : Quantity
  sourceNodeId : FederationNodeId
  deriving DecidableEq, Repr

structure SubmitOrderOutcome where
  orderId : OrderId
  commandId : EventId
  shardSequence : Nat
  duplicate : Bool
  deriving DecidableEq, Repr

def OrderSide.debug : OrderSide → String
  | buy => "Buy"
  | sell => "Sell"

section Sequences

variable {σ : Type}

def i64Sequence (value : Nat) : Tx σ Nat :=
  if i64Max < value then throw (.invalidData "sequence exceeds PostgreSQL bigint")
  else pure value

def positiveU64 (value : Nat) : Tx σ Nat :=
  if value = 0 then throw (.invalidData "sequence is not positive")
  else pure value

end Sequences

def insertOutbox (envelope : EventEnvelope) (topic messageKey : String)
    (payload : MessagePayload) : Tx Journal Unit := do
  let _ ← i64Sequence envelope.shardSequence
  Journal.outboxEventTable.on (Table.insert .sqlx ⟨envelope, topic, messageKey, payload⟩)

def matchingCommand (request : SubmitOrder) : MatchingCommand :=
  .placeLimitOrder {
    intent := request.intent
    idempotencyKey := request.idempotencyKey
    reservationAccountId := request.reservationAccountId
    settlementAccountId := request.settlementAccountId
    reservationAmount := request.reservationAmount }

/-- What an order must reserve: its price times its quantity, or its quantity. -/
def expectedReservation (intent : OrderIntent) : Except StorageError Int :=
  match intent.side with
  | .buy =>
      match intent.price.checkedMul intent.quantity with
      | .ok amount => .ok amount.1
      | .error error => .error (.invalidData error.message)
  | .sell => .ok intent.quantity.value

def validateReservation (request : SubmitOrder) : Tx Database Unit := do
  let expected ← expectedReservation request.intent
  if request.reservationAmount.value ≠ expected then
    throw (.invalidData s!"reservation amount must be {expected} for this order")

def allocateCommandSequence (tenantId : TenantId) (domainId : DomainId)
    (marketId : MarketId) : Tx (Table markets) (MarketRow × Nat) := do
  let updated ← Table.update .sqlx marketId
    (fun row => row.tenantId = tenantId ∧ row.domainId = domainId ∧ row.status = .active)
    fun row => { row with nextCommandSequence := row.nextCommandSequence + 1 }
  let market ← require (.notFound "active market") updated
  let sequence ← positiveU64 (market.nextCommandSequence - 1)
  pure (market, sequence)

/-- The asset keys of the two accounts of an order, reserved then settled. -/
def MarketRow.assetKeys (market : MarketRow) : OrderSide → String × String
  | .buy => (market.quoteAssetKey, market.baseAssetKey)
  | .sell => (market.baseAssetKey, market.quoteAssetKey)

def ensureAccountScope (tenantId : TenantId)
    (reservationAccountId settlementAccountId : AccountId) (side : OrderSide)
    (market : MarketRow) : Tx Holdings Unit := do
  if reservationAccountId = settlementAccountId then
    throw (.invalidData
      "reservation and settlement accounts must be distinct accounts in the tenant")
  let inTenant := fun accountId => do
    let account ← (← get).accounts.lookup accountId |> require
      (.invalidData "both order accounts must belong to the tenant")
    if account.tenantId ≠ tenantId then
      throw (.invalidData "both order accounts must belong to the tenant")
    pure account
  let reservation ← inTenant reservationAccountId
  let settlement ← inTenant settlementAccountId
  let (expectedReservation, expectedSettlement) := market.assetKeys side
  if reservation.assetKey ≠ expectedReservation ∨
      settlement.assetKey ≠ expectedSettlement then
    throw (.invalidData s!"{side.debug} order requires {expectedReservation} reservation and {expectedSettlement} settlement accounts")

section Submit

variable [UuidV5]

def holdSubmissionReservation (request : SubmitOrder) (commandId : EventId) :
    Tx Holdings Unit := do
  let updated ← Holdings.accountTable.on
    (Table.update .sqlx request.reservationAccountId
      (fun row => row.tenantId = request.intent.tenantId ∧
        request.reservationAmount.value ≤ row.availableAmount)
      fun row => { row with
        availableAmount := row.availableAmount - request.reservationAmount.value
        reservedAmount := row.reservedAmount + request.reservationAmount.value })
  let _ ← require .insufficientBalance updated
  Holdings.reservationTable.on (Table.insert .sqlx {
    id := ReservationId.derive commandId
    tenantId := request.intent.tenantId
    orderId := request.intent.orderId
    accountId := request.reservationAccountId
    quantity := request.reservationAmount.value
    remainingQuantity := request.reservationAmount.value
    status := .pending
    idempotencyKey := request.idempotencyKey
    fencingToken := 0 })

variable [Sha256] [Prost] [SerdeJson]

def requestHash (request : SubmitOrder) : PayloadHash :=
  PayloadHash.ofPayload (.matchingCommand (matchingCommand request))

def SubmitOrder.engineCommand (request : SubmitOrder) (commandId : EventId)
    (sequence : Nat) : EngineCommand where
  commandId := commandId
  shardSequence := sequence
  occurredAt := request.intent.submittedAt
  kind := .placeLimitOrder request.intent

def SubmitOrder.envelope (request : SubmitOrder) (commandId : EventId)
    (market : MarketRow) (sequence : Nat) : EventEnvelope where
  eventId := commandId
  causationId := commandId
  sourceNodeId := request.sourceNodeId
  tenantId := market.tenantId
  domainId := market.domainId
  marketId := market.id
  shardId := market.shardId
  shardSequence := sequence
  streamKind := .command
  occurredAt := request.intent.submittedAt
  payloadHash := requestHash request

/-- The rows of the two holdings tables that an accepted submission adds. -/
def storeOrder (request : SubmitOrder) (commandId : EventId) (sequence : Nat) :
    Tx Holdings Unit := do
  let commandSequence ← i64Sequence sequence
  Holdings.orderTable.on (Table.insert .sqlx {
    id := request.intent.orderId
    tenantId := request.intent.tenantId
    domainId := request.intent.domainId
    marketId := request.intent.marketId
    reservationAccountId := request.reservationAccountId
    settlementAccountId := request.settlementAccountId
    side := request.intent.side
    price := request.intent.price.value
    originalQuantity := request.intent.quantity.value
    remainingQuantity := request.intent.quantity.value
    federatedReservedQuantity := 0
    status := .pending
    acceptedSequence := none
    commandEventId := commandId
    commandSequence := commandSequence
    idempotencyKey := request.idempotencyKey
    idempotencyPayloadHash := requestHash request })
  holdSubmissionReservation request commandId

def logCommand (request : SubmitOrder) (commandId : EventId) (market : MarketRow)
    (sequence : Nat) : Tx Journal Unit := do
  let command := request.engineCommand commandId sequence
  let shardSequence ← i64Sequence sequence
  if command.hasJson = false then
    throw .json
  Journal.commandLogTable.on (Table.insert .sqlx {
    eventId := commandId
    sourceNodeId := request.sourceNodeId
    tenantId := request.intent.tenantId
    domainId := request.intent.domainId
    marketId := request.intent.marketId
    shardId := market.shardId
    shardSequence := shardSequence
    occurredAt := request.intent.submittedAt
    payloadHash := requestHash request
    payload := command
    status := .pending })
  insertOutbox (request.envelope commandId market sequence) Topics.commands
    (toString request.intent.marketId) (.matchingCommand (matchingCommand request))

def submitOrder (request : SubmitOrder) (commandId : EventId) :
    Tx Database SubmitOrderOutcome := do
  validateReservation request
  if request.idempotencyKey.isEmpty ∨ 200 < request.idempotencyKey.utf8ByteSize then
    throw (.invalidData "idempotency key length must be in 1..=200")
  let existing := (← get).holdings.orders.rows.find? fun row =>
    row.tenantId = request.intent.tenantId ∧ row.idempotencyKey = request.idempotencyKey
  match existing with
  | some row =>
      if row.idempotencyPayloadHash ≠ requestHash request then
        throw .idempotencyConflict
      let shardSequence ← positiveU64 row.commandSequence
      pure ⟨row.id, row.commandEventId, shardSequence, true⟩
  | none =>
      let (market, sequence) ← Database.marketTable.on (allocateCommandSequence
        request.intent.tenantId request.intent.domainId request.intent.marketId)
      Database.holdingsPart.on (ensureAccountScope request.intent.tenantId
        request.reservationAccountId request.settlementAccountId request.intent.side market)
      Database.holdingsPart.on (storeOrder request commandId sequence)
      Database.journalPart.on (logCommand request commandId market sequence)
      pure ⟨request.intent.orderId, commandId, sequence, false⟩

end Submit

end MatchPlane
