import MatchPlane.Domain.Identifiers
import MatchPlane.Domain.Numeric

/-!
# Matching commands and events

The vocabulary shared by the engine, its storage, and the matcher: order
intents, the commands that the engine consumes, and the facts that it emits.
Stream positions are 64-bit in the source; the one place that can leave that
range checks it.
-/

namespace MatchPlane

/-- A UTC instant, in nanoseconds from the Unix epoch. -/
abbrev OffsetDateTime := Int

inductive OrderSide where
  | buy
  | sell
  deriving DecidableEq, Repr

inductive OrderStatus where
  | pending
  | open
  | partiallyFilled
  | filled
  | cancelled
  | expired
  | rejected
  deriving DecidableEq, Repr

structure OrderIntent where
  orderId : OrderId
  tenantId : TenantId
  domainId : DomainId
  marketId : MarketId
  side : OrderSide
  price : Price
  quantity : Quantity
  submittedAt : OffsetDateTime
  expiresAt : Option OffsetDateTime
  deriving DecidableEq, Repr

structure Trade where
  id : TradeId
  tenantId : TenantId
  domainId : DomainId
  marketId : MarketId
  makerOrderId : OrderId
  takerOrderId : OrderId
  buyOrderId : OrderId
  sellOrderId : OrderId
  price : Price
  quantity : Quantity
  occurredAt : OffsetDateTime
  deriving DecidableEq, Repr

inductive EngineCommandKind where
  | placeLimitOrder (intent : OrderIntent)
  | cancelOrder (orderId : OrderId)
  | expireOrder (orderId : OrderId)
  deriving DecidableEq, Repr

structure EngineCommand where
  commandId : EventId
  shardSequence : Nat
  occurredAt : OffsetDateTime
  kind : EngineCommandKind
  deriving DecidableEq, Repr

inductive MatchingEvent where
  | orderAccepted (intent : OrderIntent) (acceptedSequence : Nat)
  | tradeExecuted (trade : Trade)
  | orderCancelled (orderId : OrderId) (releasedQuantity : Quantity)
  | orderExpired (orderId : OrderId) (releasedQuantity : Quantity)
  deriving DecidableEq, Repr

structure EngineEvent where
  eventId : EventId
  causationId : EventId
  commandSequence : Nat
  occurredAt : OffsetDateTime
  payload : MatchingEvent
  deriving DecidableEq, Repr

/-- Expiry of an intent at a caller-supplied time; an intent may never expire. -/
def OrderIntent.expiredAt (intent : OrderIntent) (time : OffsetDateTime) : Bool :=
  match intent.expiresAt with
  | none => false
  | some expiresAt => expiresAt ≤ time

theorem OrderIntent.expiredAt_iff (intent : OrderIntent) (time : OffsetDateTime) :
    intent.expiredAt time = true ↔
      ∃ expiresAt, intent.expiresAt = some expiresAt ∧ expiresAt ≤ time := by
  cases h : intent.expiresAt <;> simp [expiredAt, h]

/-- A maker's price satisfies the limit of an intent. -/
def OrderIntent.crosses (intent : OrderIntent) (makerPrice : Price) : Bool :=
  match intent.side with
  | .buy => makerPrice ≤ intent.price
  | .sell => intent.price ≤ makerPrice

namespace OrderSide

def opposite : OrderSide → OrderSide
  | buy => sell
  | sell => buy

@[simp] theorem opposite_opposite (side : OrderSide) :
    side.opposite.opposite = side := by
  cases side <;> rfl

theorem ne_iff_eq_opposite {first second : OrderSide} :
    first ≠ second ↔ first = second.opposite := by
  cases first <;> cases second <;> decide

end OrderSide

end MatchPlane
