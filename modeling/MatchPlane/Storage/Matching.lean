import MatchPlane.Storage.Federation
import MatchPlane.Storage.Settlement

/-!
# Committing and recovering matched commands

`commitMatching` is the only writer of domain events and snapshots.  It stores
the effects of one command together with the book that the caller computed, and
refuses unless the command is still pending and the caller holds the lease of
the market.  `recoverOrderBook` rebuilds a book from the latest snapshot and the
domain events after it.
-/

namespace MatchPlane

open MatchPlane.Library

inductive MatchCommitOutcome where
  | applied
  | duplicate
  deriving DecidableEq, Repr

/-! ## Inbox and command log -/

def duplicateInboxResult (consumerName : String) (decoded : DecodedCommand) :
    Tx Journal MatchCommitOutcome := do
  let row ← require
    (.invalidData "engine returned no events but consumer inbox has no applied command")
    ((← get).consumerInbox.lookup (consumerName, decoded.envelope.eventId))
  if row.payloadHash ≠ decoded.envelope.payloadHash ∨ row.status ≠ .applied then
    throw (.invalidData "duplicate command does not match an applied inbox record")
  pure .duplicate

def insertInbox (consumerName : String) (decoded : DecodedCommand) : Tx Journal Bool := do
  let shardSequence ← i64Sequence decoded.envelope.shardSequence
  Journal.consumerInboxTable.on (Table.insertOrIgnore .sqlx {
    consumerName := consumerName
    eventId := decoded.envelope.eventId
    sourceNodeId := decoded.envelope.sourceNodeId
    shardId := decoded.envelope.shardId
    shardSequence := shardSequence
    payloadHash := decoded.envelope.payloadHash
    status := .processing })

def verifyExistingInbox (consumerName : String) (decoded : DecodedCommand) :
    Tx Journal MatchCommitOutcome := do
  let row ← require .sqlx
    ((← get).consumerInbox.lookup (consumerName, decoded.envelope.eventId))
  if row.payloadHash ≠ decoded.envelope.payloadHash then
    throw (.invalidData "inbox event ID was reused with a different payload")
  if row.status ≠ .applied then
    throw (.invalidData s!"existing inbox record is unexpectedly {row.status.text}")
  pure .duplicate

def verifyPendingCommand (decoded : DecodedCommand) : Tx Journal Unit := do
  let row ← require (.notFound "command log entry")
    ((← get).commandLog.lookup decoded.envelope.eventId)
  let sequence ← positiveU64 row.shardSequence
  if row.payloadHash ≠ decoded.envelope.payloadHash ∨
      sequence ≠ decoded.envelope.shardSequence ∨ row.status ≠ .pending then
    throw (.invalidData "Kafka command does not match its pending PostgreSQL command log")

/-! ## Lease -/

/-- Fifteen seconds. -/
def leaseDuration : Int := 15000000000

/-- An owner keeps its token; a new owner of a lease that ran out gets the next one. -/
def acquireLease (markets : Table markets) (decoded : DecodedCommand)
    (ownerInstanceId : String) (ownerNodeId : FederationNodeId) (now : OffsetDateTime) :
    Tx Journal Nat := do
  let marketId := decoded.envelope.marketId
  let _ ← require .leaseUnavailable
    ((markets.lookup marketId).filter fun row => row.shardId = decoded.envelope.shardId)
  let fencingToken ← match (← get).shardLeases.lookup marketId with
    | none => do
        Journal.shardLeaseTable.on (Table.insert .sqlx {
          marketId := marketId
          shardId := decoded.envelope.shardId
          ownerNodeId := ownerNodeId
          ownerInstanceId := ownerInstanceId
          fencingToken := 1
          expiresAt := now + leaseDuration })
        pure 1
    | some _ => do
        let owned := fun row : ShardLeaseRow =>
          row.ownerInstanceId = ownerInstanceId ∧ row.ownerNodeId = ownerNodeId
        let updated ← Journal.shardLeaseTable.on
          (Table.update .sqlx marketId (fun row => owned row ∨ row.expiresAt ≤ now)
            fun row => { row with
              ownerNodeId := ownerNodeId
              ownerInstanceId := ownerInstanceId
              fencingToken := if owned row then row.fencingToken else row.fencingToken + 1
              expiresAt := now + leaseDuration })
        let row ← require .leaseUnavailable updated
        pure row.fencingToken
  if fencingToken = 0 then
    throw (.invalidData "lease returned a non-positive fencing token")
  pure fencingToken

/-! ## Events -/

def allocateEventSequences (marketId : MarketId) (count : Nat) :
    Tx (Table markets) Nat := do
  let updated ← Table.update .sqlx marketId (fun _ => true)
    fun row => { row with nextEventSequence := row.nextEventSequence + count }
  let row ← require .sqlx updated
  positiveU64 (row.nextEventSequence - count)

def eventType : MatchingEvent → String
  | .orderAccepted _ _ => "order_accepted"
  | .tradeExecuted _ => "trade_executed"
  | .orderCancelled _ _ => "order_cancelled"
  | .orderExpired _ _ => "order_expired"

/-- The sequence of the event with an ordinal, below the 64-bit bound. -/
def eventSequence {σ : Type} (first ordinal : Nat) : Tx σ Nat :=
  if u64Max < first + ordinal then throw (.invalidData "event sequence overflow")
  else pure (first + ordinal)

section Persist

variable [Sha256] [Prost]

def factEnvelope (decoded : DecodedCommand) (sourceNodeId : FederationNodeId)
    (sequence : Nat) (event : EngineEvent) : EventEnvelope where
  eventId := event.eventId
  causationId := event.causationId
  sourceNodeId := sourceNodeId
  tenantId := decoded.envelope.tenantId
  domainId := decoded.envelope.domainId
  marketId := decoded.envelope.marketId
  shardId := decoded.envelope.shardId
  shardSequence := sequence
  streamKind := .domainEvent
  occurredAt := event.occurredAt
  payloadHash := PayloadHash.ofPayload (.matchingFact event)

def DomainEventRow.ofEnvelope (envelope : EventEnvelope) (eventType : String)
    (payload : DomainEventPayload) (fencingToken : Nat) : DomainEventRow where
  eventId := envelope.eventId
  causationId := envelope.causationId
  sourceNodeId := envelope.sourceNodeId
  tenantId := envelope.tenantId
  domainId := envelope.domainId
  marketId := envelope.marketId
  shardId := envelope.shardId
  shardSequence := envelope.shardSequence
  streamKind := envelope.streamKind
  eventType := eventType
  occurredAt := envelope.occurredAt
  payloadHash := envelope.payloadHash
  payload := payload
  fencingToken := fencingToken

def persistDomainEvent [SerdeJson] (decoded : DecodedCommand)
    (sourceNodeId : FederationNodeId) (fencingToken sequence : Nat)
    (event : EngineEvent) : Tx Journal Unit := do
  let envelope := factEnvelope decoded sourceNodeId sequence event
  let _ ← i64Sequence sequence
  if event.hasJson = false then
    throw .json
  Journal.domainEventTable.on (Table.insert .sqlx
    (.ofEnvelope envelope (eventType event.payload) (.fact event) fencingToken))
  insertOutbox envelope Topics.domainEvents (toString envelope.marketId)
    (.matchingFact event)

variable [SnapshotCodec]

def orderBookDelta (decoded : DecodedCommand) (book : OrderBook) :
    Except StorageError OrderBookDelta := do
  let stateHash ← StorageError.ofEngine book.stateHash
  let bids ← StorageError.ofEngine book.bidLevels
  let asks ← StorageError.ofEngine book.askLevels
  .ok {
    marketId := decoded.envelope.marketId
    commandSequence := decoded.envelope.shardSequence
    bids := bids.map fun level => (level.price, level.quantity)
    asks := asks.map fun level => (level.price, level.quantity)
    stateHash := stateHash }

def persistBookDelta [UuidV5] (decoded : DecodedCommand) (sourceNodeId : FederationNodeId)
    (fencingToken : Nat) (book : OrderBook) : Tx Journal Unit := do
  let delta ← orderBookDelta decoded book
  let envelope : EventEnvelope := { decoded.envelope with
    eventId := EventId.derive decoded.envelope.eventId "order-book-delta" 0
    causationId := decoded.envelope.eventId
    sourceNodeId := sourceNodeId
    streamKind := .orderBookDelta
    payloadHash := PayloadHash.ofPayload (.orderBookDelta delta) }
  let _ ← i64Sequence envelope.shardSequence
  Journal.domainEventTable.on (Table.insert .sqlx
    (.ofEnvelope envelope "order_book_replaced" (.bookReplaced delta) fencingToken))
  insertOutbox envelope Topics.orderBookDeltas (toString envelope.marketId)
    (.orderBookDelta delta)

def persistSnapshot (decoded : DecodedCommand) (snapshotId : Uuid)
    (lastEventSequence : Nat) (book : OrderBook) : Tx Journal Unit := do
  let state ← StorageError.ofEngine book.snapshotBytes
  let lastEventSequence ← i64Sequence lastEventSequence
  Journal.snapshotTable.on (Table.insert .sqlx {
    id := snapshotId
    marketId := decoded.envelope.marketId
    shardId := decoded.envelope.shardId
    lastEventSequence := lastEventSequence
    state := state
    checksum := Sha256.digest state })

end Persist

/-! ## Commit -/

def markApplied (consumerName : String) (decoded : DecodedCommand) : Tx Journal Unit := do
  let _ ← Journal.commandLogTable.on
    (Table.update .sqlx decoded.envelope.eventId (fun row => row.status = .pending)
      fun row => { row with status := .applied })
  let _ ← Journal.consumerInboxTable.on
    (Table.update .sqlx (consumerName, decoded.envelope.eventId)
      (fun row => row.status = .processing) fun row => { row with status := .applied })

section Commit

variable [UuidV5]

/-- The holdings side of a commit. -/
def settleCommand (markets : Table markets) (decoded : DecodedCommand) (book : OrderBook)
    (events : List EngineEvent) (fencingToken : Nat) : Tx Holdings Unit := do
  match decoded.placement with
  | some placement => holdReservation decoded placement fencingToken
  | none => pure ()
  forM events (settleEvent markets)
  match closingOrder events with
  | some (orderId, status) => releaseReservation orderId status
  | none => pure ()
  persistOrderProjections book events

variable [Sha256] [Prost] [SerdeJson] [SnapshotCodec]

/-- The journal side of a commit, from the first event sequence on. -/
def persistOutcome (consumerName : String) (ownerNodeId : FederationNodeId)
    (decoded : DecodedCommand) (book : OrderBook) (events : List EngineEvent)
    (fencingToken factStart : Nat) (snapshotId : Uuid) : Tx Journal Unit := do
  forM events.zipIdx fun (event, ordinal) => do
    let sequence ← eventSequence factStart ordinal
    persistDomainEvent decoded ownerNodeId fencingToken sequence event
  let lastEventSequence ← eventSequence factStart (events.length - 1)
  persistBookDelta decoded ownerNodeId fencingToken book
  persistSnapshot decoded snapshotId lastEventSequence book
  markApplied consumerName decoded

def commitMatching (consumerName ownerInstanceId : String) (ownerNodeId : FederationNodeId)
    (decoded : DecodedCommand) (book : OrderBook) (events : List EngineEvent)
    (now : OffsetDateTime) (snapshotId : Uuid) : Tx Database MatchCommitOutcome := do
  if events.isEmpty then
    Database.journalPart.on (duplicateInboxResult consumerName decoded)
  else
    Database.holdingsPart.on
      (expireFederatedReservations decoded.envelope.marketId now)
    let inserted ← Database.journalPart.on (insertInbox consumerName decoded)
    if inserted = false then
      Database.journalPart.on (verifyExistingInbox consumerName decoded)
    else
      Database.journalPart.on (verifyPendingCommand decoded)
      let markets := (← get).markets
      let fencingToken ← Database.journalPart.on
        (acquireLease markets decoded ownerInstanceId ownerNodeId now)
      Database.holdingsPart.on (settleCommand markets decoded book events fencingToken)
      if i64Max < events.length then
        throw (.invalidData "too many events in one command")
      let factStart ← Database.marketTable.on
        (allocateEventSequences decoded.envelope.marketId events.length)
      Database.journalPart.on (persistOutcome consumerName ownerNodeId decoded book events
        fencingToken factStart snapshotId)
      pure .applied

end Commit

/-! ## Recovery -/

structure BookSnapshot where
  lastEventSequence : Nat
  state : Bytes
  checksum : PayloadHash
  deriving DecidableEq, Repr

def latestSnapshot (journal : Journal) (marketId : MarketId) :
    Except StorageError (Option BookSnapshot) :=
  let rows := journal.orderBookSnapshots.rows.filter fun row => row.marketId = marketId
  match rows.argmax OrderBookSnapshotRow.lastEventSequence with
  | none => .ok none
  | some row =>
      if row.lastEventSequence = 0 then .error (.invalidData "sequence is not positive")
      else .ok (some ⟨row.lastEventSequence, row.state, row.checksum⟩)

/-- The first read of a recovery. -/
def recoverSnapshot [Sha256] [SnapshotCodec] (journal : Journal) (marketId : MarketId) :
    Except StorageError (OrderBook × Nat) := do
  match ← latestSnapshot journal marketId with
  | none => .ok (OrderBook.new marketId, 0)
  | some snapshot =>
      if Sha256.digest snapshot.state ≠ snapshot.checksum then
        throw (.invalidData "order-book snapshot checksum mismatch")
      let book ← StorageError.ofEngine (OrderBook.fromSnapshotBytes snapshot.state)
      .ok (book, snapshot.lastEventSequence)

def saturatingSucc (value : Nat) : Nat := min u64Max (value + 1)

/-- One turn of the replay loop. -/
def replayRow (state : OrderBook × Nat) (row : DomainEventRow) :
    Except StorageError (OrderBook × Nat) :=
  let expected := saturatingSucc state.2
  if row.shardSequence = 0 then .error (.invalidData "sequence is not positive")
  else if row.shardSequence ≠ expected then
    .error (.invalidData
      s!"domain-event replay gap: expected {expected}, found {row.shardSequence}")
  else
    match row.payload with
    | .bookReplaced _ => .error .json
    | .fact event =>
        match (OrderBook.apply event).run state.1 with
        | .ok _ book => .ok (book, row.shardSequence)
        | .error error _ => .error (.engine error)

/-- The second read of a recovery: the facts after a position, in order. -/
def laterFacts (journal : Journal) (marketId : MarketId) (position : Nat) :
    List DomainEventRow :=
  (journal.domainEvents.rows.filter fun row => row.marketId = marketId ∧
    row.streamKind = .domainEvent ∧ position < row.shardSequence).mergeSort
      fun first second => first.shardSequence ≤ second.shardSequence

def replayFacts (journal : Journal) (marketId : MarketId) (state : OrderBook × Nat) :
    Except StorageError (OrderBook × Nat) :=
  (laterFacts journal marketId state.2).foldlM replayRow state

def recoverOrderBook [Sha256] [SnapshotCodec] (journal : Journal) (marketId : MarketId) :
    Except StorageError (OrderBook × Nat) := do
  let state ← recoverSnapshot journal marketId
  replayFacts journal marketId state

end MatchPlane
