import MatchPlane.Engine.Snapshot

/-!
# Messages

The envelope of every message, and the three payloads that the storage layer
publishes.  A payload is represented by its content; the Protobuf bytes matter
only for digests, and the encoder is generated code, so it is a parameter.
-/

namespace MatchPlane

abbrev PayloadHash := Bytes

inductive StreamKind where
  | command
  | domainEvent
  | orderBookDelta
  | marketSummary
  | federation
  | nodeHealth
  deriving DecidableEq, Repr

structure EventEnvelope where
  eventId : EventId
  causationId : EventId
  sourceNodeId : FederationNodeId
  tenantId : TenantId
  domainId : DomainId
  marketId : MarketId
  shardId : ShardId
  shardSequence : Nat
  streamKind : StreamKind
  occurredAt : OffsetDateTime
  payloadHash : PayloadHash
  deriving DecidableEq, Repr

structure PlaceLimitOrder where
  intent : OrderIntent
  idempotencyKey : String
  reservationAccountId : AccountId
  settlementAccountId : AccountId
  reservationAmount : Quantity
  deriving DecidableEq, Repr

inductive MatchingCommand where
  | placeLimitOrder (place : PlaceLimitOrder)
  | cancelOrder (orderId : OrderId)
  | expireOrder (orderId : OrderId)
  deriving DecidableEq, Repr

structure OrderBookDelta where
  marketId : MarketId
  commandSequence : Nat
  bids : List (Price × Quantity)
  asks : List (Price × Quantity)
  stateHash : PayloadHash
  deriving DecidableEq, Repr

/-- The content of a published message. -/
inductive MessagePayload where
  | matchingCommand (command : MatchingCommand)
  | matchingFact (event : EngineEvent)
  | orderBookDelta (delta : OrderBookDelta)
  deriving DecidableEq, Repr

/-- The generated Protobuf encoder. -/
class Prost where
  encodeToVec : MessagePayload → Bytes

def PayloadHash.ofPayload [Sha256] [Prost] (payload : MessagePayload) : PayloadHash :=
  Sha256.digest (Prost.encodeToVec payload)

structure PlacementContext where
  idempotencyKey : String
  reservationAccountId : AccountId
  settlementAccountId : AccountId
  reservationAmount : Quantity
  deriving DecidableEq, Repr

structure DecodedCommand where
  envelope : EventEnvelope
  engineCommand : EngineCommand
  placement : Option PlacementContext
  deriving DecidableEq, Repr

def MatchingCommand.kind : MatchingCommand → EngineCommandKind
  | placeLimitOrder place => .placeLimitOrder place.intent
  | cancelOrder orderId => .cancelOrder orderId
  | expireOrder orderId => .expireOrder orderId

def MatchingCommand.placement : MatchingCommand → Option PlacementContext
  | placeLimitOrder place => some {
      idempotencyKey := place.idempotencyKey
      reservationAccountId := place.reservationAccountId
      settlementAccountId := place.settlementAccountId
      reservationAmount := place.reservationAmount }
  | cancelOrder _ => none
  | expireOrder _ => none

/-- The command that an envelope and its payload carry. -/
def decodeCommandEnvelope (envelope : EventEnvelope) (command : MatchingCommand) :
    DecodedCommand where
  envelope := envelope
  engineCommand := {
    commandId := envelope.eventId
    shardSequence := envelope.shardSequence
    occurredAt := envelope.occurredAt
    kind := command.kind }
  placement := command.placement

namespace Topics

def commands : String := "matchplane.commands.v1"

def domainEvents : String := "matchplane.domain-events.v1"

def orderBookDeltas : String := "matchplane.order-book-deltas.v1"

end Topics

end MatchPlane
