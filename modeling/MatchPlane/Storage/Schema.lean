import MatchPlane.Library.Table
import MatchPlane.Protocol.Wire

/-!
# The database

The tables that order placement, matching and federation share, with the
constraints that the migrations declare on the columns kept here.  The tables
fall into two groups: `Holdings` says who owns and owes what, and `Journal` says
what was commanded and what came of it.

A violated constraint, like every other failure of the driver, is `sqlx`.
-/

namespace MatchPlane

open MatchPlane.Library

inductive StorageError where
  | sqlx
  | migration
  | idempotencyConflict
  | forbidden (message : String)
  | conflict (message : String)
  | notFound (entity : String)
  | invalidData (message : String)
  | insufficientBalance
  | leaseUnavailable
  | reservationUnavailable
  | staleFencingToken
  | replayDetected
  | reservationVersionConflict
  | invalidReservationTransition (source target : String)
  | wire
  | engine (error : EngineError)
  | json
  deriving DecidableEq, Repr

namespace StorageError

/-- The errors that the matcher retries; it quarantines a record for any other. -/
def isTransient : StorageError → Bool
  | sqlx | migration | leaseUnavailable => true
  | _ => false

def ofEngine {α : Type} : Except EngineError α → Except StorageError α
  | .ok value => .ok value
  | .error error => .error (.engine error)

end StorageError

/-! ## Column types -/

/-- A positive `bigint`. -/
def isSequence (value : Nat) : Bool := 0 < value ∧ value ≤ i64Max

/-- A text of 16 to 256 characters; the code counts bytes. -/
def isNonce (value : String) : Bool := 16 ≤ value.length ∧ value.length ≤ 256

/-! ## JSON documents -/

/--
Which leaves `serde_json` can put into a document.  The column types above are
the database's own limits; these are the serializer's.
-/
class SerdeJson where
  number : Int → Bool
  timestamp : OffsetDateTime → Bool

/-- Without arbitrary precision, a number is a 64-bit integer of either sign. -/
def SerdeJson.Documented [SerdeJson] : Prop :=
  ∀ value, SerdeJson.number value = true ↔ -9223372036854775808 ≤ value ∧ value ≤ u64Max

/-- Sixty-four-bit numbers and any timestamp. -/
@[reducible] def documentedJson : SerdeJson where
  number := fun value => -9223372036854775808 ≤ value ∧ value ≤ u64Max
  timestamp := fun _ => true

section Json

variable [SerdeJson]

def OrderIntent.hasJson (intent : OrderIntent) : Bool :=
  SerdeJson.number intent.price.value && SerdeJson.number intent.quantity.value &&
    SerdeJson.timestamp intent.submittedAt && intent.expiresAt.all SerdeJson.timestamp

def EngineCommand.hasJson (command : EngineCommand) : Bool :=
  SerdeJson.timestamp command.occurredAt &&
    match command.kind with
    | .placeLimitOrder intent => intent.hasJson
    | .cancelOrder _ | .expireOrder _ => true

def MatchingEvent.hasJson : MatchingEvent → Bool
  | .orderAccepted intent _ => intent.hasJson
  | .tradeExecuted trade => SerdeJson.number trade.price.value &&
      SerdeJson.number trade.quantity.value && SerdeJson.timestamp trade.occurredAt
  | .orderCancelled _ releasedQuantity | .orderExpired _ releasedQuantity =>
      SerdeJson.number releasedQuantity.value

def EngineEvent.hasJson (event : EngineEvent) : Bool :=
  SerdeJson.timestamp event.occurredAt && event.payload.hasJson

end Json

/-! ## Markets -/

inductive MarketStatus where
  | active
  | halted
  | closed
  deriving DecidableEq, Repr

structure MarketRow where
  id : MarketId
  tenantId : TenantId
  domainId : DomainId
  shardId : ShardId
  baseAssetKey : String
  quoteAssetKey : String
  nextCommandSequence : Nat
  nextEventSequence : Nat
  status : MarketStatus
  commissionBps : Nat
  platformCommissionAccountId : Option AccountId
  deriving DecidableEq, Repr

def markets : Schema MarketId MarketRow where
  key := MarketRow.id
  clash := fun first second => first.shardId = second.shardId
  check := fun row => isSequence row.nextCommandSequence ∧ isSequence row.nextEventSequence ∧
    row.baseAssetKey ≠ row.quoteAssetKey ∧ row.commissionBps ≤ 10000

/-! ## Holdings -/

structure AccountRow where
  id : AccountId
  tenantId : TenantId
  ownerKey : String
  assetKey : String
  availableAmount : Int
  reservedAmount : Int
  deriving DecidableEq, Repr

def accounts : Schema AccountId AccountRow where
  key := AccountRow.id
  clash := fun first second => first.tenantId = second.tenantId ∧
    first.ownerKey = second.ownerKey ∧ first.assetKey = second.assetKey
  check := fun row => isNumeric row.availableAmount ∧ isNumeric row.reservedAmount

structure OrderRow where
  id : OrderId
  tenantId : TenantId
  domainId : DomainId
  marketId : MarketId
  reservationAccountId : AccountId
  settlementAccountId : AccountId
  side : OrderSide
  price : Int
  originalQuantity : Int
  remainingQuantity : Int
  federatedReservedQuantity : Int
  status : OrderStatus
  acceptedSequence : Option Nat
  commandEventId : EventId
  commandSequence : Nat
  idempotencyKey : String
  idempotencyPayloadHash : PayloadHash
  deriving DecidableEq, Repr

def orders : Schema OrderId OrderRow where
  key := OrderRow.id
  clash := fun first second => first.commandEventId = second.commandEventId ∨
    (first.tenantId = second.tenantId ∧ first.idempotencyKey = second.idempotencyKey)
  check := fun row => isNumeric row.price ∧ 0 < row.price ∧
    isNumeric row.originalQuantity ∧ 0 < row.originalQuantity ∧
    isNumeric row.remainingQuantity ∧ row.remainingQuantity ≤ row.originalQuantity ∧
    isNumeric row.federatedReservedQuantity ∧
    row.federatedReservedQuantity ≤ row.remainingQuantity ∧
    row.acceptedSequence.all isSequence ∧ isSequence row.commandSequence ∧
    (row.status = .filled ∨ row.status = .cancelled ∨ row.status = .expired →
      row.remainingQuantity = 0)

inductive ReservationStatus where
  | pending
  | held
  | confirmed
  | aborted
  | expired
  deriving DecidableEq, Repr

structure ReservationRow where
  id : ReservationId
  tenantId : TenantId
  orderId : OrderId
  accountId : AccountId
  quantity : Int
  remainingQuantity : Int
  status : ReservationStatus
  idempotencyKey : String
  fencingToken : Nat
  deriving DecidableEq, Repr

/-- Every statement addresses a reservation by its order, which is unique as well. -/
def reservations : Schema OrderId ReservationRow where
  key := ReservationRow.orderId
  clash := fun first second => first.id = second.id ∨
    (first.tenantId = second.tenantId ∧ first.idempotencyKey = second.idempotencyKey)
  check := fun row => isNumeric row.quantity ∧ 0 < row.quantity ∧
    isNumeric row.remainingQuantity ∧ row.remainingQuantity ≤ row.quantity ∧
    row.fencingToken ≤ i64Max

structure TradeRow where
  id : TradeId
  tenantId : TenantId
  domainId : DomainId
  marketId : MarketId
  eventId : EventId
  makerOrderId : OrderId
  takerOrderId : OrderId
  buyOrderId : OrderId
  sellOrderId : OrderId
  price : Int
  quantity : Int
  grossAmount : Int
  commissionBps : Nat
  commissionAmount : Int
  sellerNetAmount : Int
  platformCommissionAccountId : Option AccountId
  occurredAt : OffsetDateTime
  deriving DecidableEq, Repr

def trades : Schema TradeId TradeRow where
  key := TradeRow.id
  clash := fun first second => first.eventId = second.eventId
  check := fun row => row.makerOrderId ≠ row.takerOrderId ∧
    row.buyOrderId ≠ row.sellOrderId ∧ isNumeric row.price ∧ 0 < row.price ∧
    isNumeric row.quantity ∧ 0 < row.quantity ∧ isNumeric row.grossAmount ∧
    isNumeric row.commissionAmount ∧ isNumeric row.sellerNetAmount ∧
    row.commissionBps ≤ 10000 ∧ row.commissionAmount ≤ row.grossAmount ∧
    row.sellerNetAmount + row.commissionAmount = row.grossAmount

inductive EntryKind where
  | debit
  | credit
  deriving DecidableEq, Repr

structure LedgerEntryRow where
  id : LedgerEntryId
  tenantId : TenantId
  tradeId : TradeId
  accountId : AccountId
  entryGroupId : TradeId
  entryKind : EntryKind
  amount : Int
  occurredAt : OffsetDateTime
  deriving DecidableEq, Repr

def ledgerEntries : Schema LedgerEntryId LedgerEntryRow where
  key := LedgerEntryRow.id
  clash := fun first second => first.entryGroupId = second.entryGroupId ∧
    first.accountId = second.accountId ∧ first.entryKind = second.entryKind
  check := fun row => isNumeric row.amount ∧ 0 < row.amount

inductive FederationNodeStatus where
  | active
  | quarantined
  | disabled
  deriving DecidableEq, Repr

structure FederationNodeRow where
  id : FederationNodeId
  status : FederationNodeStatus
  fencingToken : Int
  deriving DecidableEq, Repr

def federationNodes : Schema FederationNodeId FederationNodeRow where
  key := FederationNodeRow.id
  clash := fun _ _ => false
  check := fun row => 0 ≤ row.fencingToken ∧ row.fencingToken ≤ i64Max

inductive SagaStatus where
  | reserved
  | confirmed
  | aborted
  | expired
  deriving DecidableEq, Repr

def SagaStatus.text : SagaStatus → String
  | reserved => "reserved"
  | confirmed => "confirmed"
  | aborted => "aborted"
  | expired => "expired"

structure FederationSagaReservationRow where
  id : ReservationId
  sourceNodeId : FederationNodeId
  tenantId : TenantId
  domainId : DomainId
  marketId : MarketId
  orderId : OrderId
  quantity : Int
  status : SagaStatus
  idempotencyKey : String
  requestHash : PayloadHash
  fencingToken : Int
  nonce : String
  expiresAt : OffsetDateTime
  version : Int
  deriving DecidableEq, Repr

def federationSagaReservations : Schema ReservationId FederationSagaReservationRow where
  key := FederationSagaReservationRow.id
  clash := fun first second => first.sourceNodeId = second.sourceNodeId ∧
    (first.idempotencyKey = second.idempotencyKey ∨ first.nonce = second.nonce)
  check := fun row => isNumeric row.quantity ∧ 0 < row.quantity ∧ 0 < row.fencingToken ∧
    row.fencingToken ≤ i64Max ∧ isNonce row.nonce ∧ 0 < row.version ∧ row.version ≤ i64Max

structure FederationReplayNonceRow where
  sourceNodeId : FederationNodeId
  nonce : String
  operation : String
  reservationId : Option ReservationId
  deriving DecidableEq, Repr

def federationReplayNonces :
    Schema (FederationNodeId × String) FederationReplayNonceRow where
  key := fun row => (row.sourceNodeId, row.nonce)
  clash := fun _ _ => false
  check := fun row => isNonce row.nonce

/--
The checks that the migrations put on the operation of a nonce.  The tables that
the storage tests create have none, so the database carries its own.
-/
def migratedNonceCheck (row : FederationReplayNonceRow) : Bool :=
  (row.operation = "negotiate" ∧ row.reservationId = none) ∨
    ((row.operation = "confirm" ∨ row.operation = "abort") ∧ row.reservationId ≠ none)

structure Holdings where
  accounts : Table accounts
  orders : Table orders
  reservations : Table reservations
  trades : Table trades
  ledgerEntries : Table ledgerEntries
  federationNodes : Table federationNodes
  federationSagaReservations : Table federationSagaReservations
  federationReplayNonces : Table federationReplayNonces
  nonceCheck : FederationReplayNonceRow → Bool

/-! ## Journal -/

inductive CommandStatus where
  | pending
  | applied
  | rejected
  deriving DecidableEq, Repr

structure CommandLogRow where
  eventId : EventId
  sourceNodeId : FederationNodeId
  tenantId : TenantId
  domainId : DomainId
  marketId : MarketId
  shardId : ShardId
  shardSequence : Nat
  occurredAt : OffsetDateTime
  payloadHash : PayloadHash
  payload : EngineCommand
  status : CommandStatus
  deriving DecidableEq, Repr

def commandLog : Schema EventId CommandLogRow where
  key := CommandLogRow.eventId
  clash := fun first second => first.sourceNodeId = second.sourceNodeId ∧
    first.shardId = second.shardId ∧ first.shardSequence = second.shardSequence
  check := fun row => isSequence row.shardSequence

inductive InboxStatus where
  | processing
  | applied
  | failed
  deriving DecidableEq, Repr

def InboxStatus.text : InboxStatus → String
  | processing => "processing"
  | applied => "applied"
  | failed => "failed"

structure ConsumerInboxRow where
  consumerName : String
  eventId : EventId
  sourceNodeId : FederationNodeId
  shardId : ShardId
  shardSequence : Nat
  payloadHash : PayloadHash
  status : InboxStatus
  deriving DecidableEq, Repr

def consumerInbox : Schema (String × EventId) ConsumerInboxRow where
  key := fun row => (row.consumerName, row.eventId)
  clash := fun _ _ => false
  check := fun row => isSequence row.shardSequence

structure ShardLeaseRow where
  marketId : MarketId
  shardId : ShardId
  ownerNodeId : FederationNodeId
  ownerInstanceId : String
  fencingToken : Nat
  expiresAt : OffsetDateTime
  deriving DecidableEq, Repr

def shardLeases : Schema MarketId ShardLeaseRow where
  key := ShardLeaseRow.marketId
  clash := fun _ _ => false
  check := fun row => isSequence row.fencingToken

/-- The JSON document of a domain event, represented by what it was made from. -/
inductive DomainEventPayload where
  | fact (event : EngineEvent)
  | bookReplaced (delta : OrderBookDelta)
  deriving DecidableEq, Repr

structure DomainEventRow where
  eventId : EventId
  causationId : EventId
  sourceNodeId : FederationNodeId
  tenantId : TenantId
  domainId : DomainId
  marketId : MarketId
  shardId : ShardId
  shardSequence : Nat
  streamKind : StreamKind
  eventType : String
  occurredAt : OffsetDateTime
  payloadHash : PayloadHash
  payload : DomainEventPayload
  fencingToken : Nat
  deriving DecidableEq, Repr

def domainEvents : Schema EventId DomainEventRow where
  key := DomainEventRow.eventId
  clash := fun first second => first.sourceNodeId = second.sourceNodeId ∧
    first.shardId = second.shardId ∧ first.streamKind = second.streamKind ∧
    first.shardSequence = second.shardSequence
  check := fun row => isSequence row.shardSequence ∧ row.streamKind ≠ .command

structure OutboxEventRow where
  envelope : EventEnvelope
  topic : String
  messageKey : String
  payload : MessagePayload
  deriving DecidableEq, Repr

def outboxEvents : Schema EventId OutboxEventRow where
  key := fun row => row.envelope.eventId
  clash := fun first second => first.envelope.sourceNodeId = second.envelope.sourceNodeId ∧
    first.envelope.shardId = second.envelope.shardId ∧
    first.envelope.streamKind = second.envelope.streamKind ∧
    first.envelope.shardSequence = second.envelope.shardSequence
  check := fun row => isSequence row.envelope.shardSequence

structure OrderBookSnapshotRow where
  id : Uuid
  marketId : MarketId
  shardId : ShardId
  lastEventSequence : Nat
  state : Bytes
  checksum : PayloadHash
  deriving DecidableEq, Repr

def orderBookSnapshots : Schema Uuid OrderBookSnapshotRow where
  key := OrderBookSnapshotRow.id
  clash := fun first second => first.marketId = second.marketId ∧
    first.lastEventSequence = second.lastEventSequence
  check := fun row => row.lastEventSequence ≤ i64Max

structure Journal where
  commandLog : Table commandLog
  consumerInbox : Table consumerInbox
  shardLeases : Table shardLeases
  domainEvents : Table domainEvents
  outboxEvents : Table outboxEvents
  orderBookSnapshots : Table orderBookSnapshots

structure Database where
  markets : Table markets
  holdings : Holdings
  journal : Journal

/-! ## Transactions on parts of the database -/

abbrev Tx (σ : Type) := Transaction StorageError σ

namespace Holdings

def accountTable : Part Holdings (Table MatchPlane.accounts) :=
  ⟨accounts, fun t holdings => { holdings with accounts := t }⟩

def orderTable : Part Holdings (Table MatchPlane.orders) :=
  ⟨orders, fun t holdings => { holdings with orders := t }⟩

def reservationTable : Part Holdings (Table MatchPlane.reservations) :=
  ⟨reservations, fun t holdings => { holdings with reservations := t }⟩

def tradeTable : Part Holdings (Table MatchPlane.trades) :=
  ⟨trades, fun t holdings => { holdings with trades := t }⟩

def ledgerEntryTable : Part Holdings (Table MatchPlane.ledgerEntries) :=
  ⟨ledgerEntries, fun t holdings => { holdings with ledgerEntries := t }⟩

def federationNodeTable : Part Holdings (Table MatchPlane.federationNodes) :=
  ⟨federationNodes, fun t holdings => { holdings with federationNodes := t }⟩

def sagaReservationTable : Part Holdings (Table MatchPlane.federationSagaReservations) :=
  ⟨federationSagaReservations, fun t holdings =>
    { holdings with federationSagaReservations := t }⟩

def replayNonceTable : Part Holdings (Table MatchPlane.federationReplayNonces) :=
  ⟨federationReplayNonces, fun t holdings => { holdings with federationReplayNonces := t }⟩

end Holdings

namespace Journal

def commandLogTable : Part Journal (Table MatchPlane.commandLog) :=
  ⟨commandLog, fun t journal => { journal with commandLog := t }⟩

def consumerInboxTable : Part Journal (Table MatchPlane.consumerInbox) :=
  ⟨consumerInbox, fun t journal => { journal with consumerInbox := t }⟩

def shardLeaseTable : Part Journal (Table MatchPlane.shardLeases) :=
  ⟨shardLeases, fun t journal => { journal with shardLeases := t }⟩

def domainEventTable : Part Journal (Table MatchPlane.domainEvents) :=
  ⟨domainEvents, fun t journal => { journal with domainEvents := t }⟩

def outboxEventTable : Part Journal (Table MatchPlane.outboxEvents) :=
  ⟨outboxEvents, fun t journal => { journal with outboxEvents := t }⟩

def snapshotTable : Part Journal (Table MatchPlane.orderBookSnapshots) :=
  ⟨orderBookSnapshots, fun t journal => { journal with orderBookSnapshots := t }⟩

end Journal

namespace Database

def marketTable : Part Database (Table MatchPlane.markets) :=
  ⟨markets, fun t db => { db with markets := t }⟩

def holdingsPart : Part Database Holdings :=
  ⟨holdings, fun part db => { db with holdings := part }⟩

def journalPart : Part Database Journal :=
  ⟨journal, fun part db => { db with journal := part }⟩

end Database

end MatchPlane
