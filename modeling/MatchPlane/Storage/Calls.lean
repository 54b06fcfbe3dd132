import MatchPlane.Storage.Commit

/-!
# Calls of the store

Every public operation of the store is one transaction, so any interleaving of
callers is a sequence of calls.  Nothing is asked of their arguments here: a call
may carry any request, any book and any clock.
-/

namespace MatchPlane

open MatchPlane.Library

inductive Call where
  | submitOrder (request : SubmitOrder) (commandId : EventId)
  | reserveFederated (request : ReserveFederated) (reservationId : ReservationId)
      (now : OffsetDateTime)
  | confirmFederated (request : FederationTransition) (now : OffsetDateTime)
  | abortFederated (request : FederationTransition) (now : OffsetDateTime)
  | commitMatching (consumerName ownerInstanceId : String) (ownerNodeId : FederationNodeId)
      (decoded : DecodedCommand) (book : OrderBook) (events : List EngineEvent)
      (now : OffsetDateTime) (snapshotId : Uuid)

section Calls

variable [UuidV5] [Sha256] [Prost] [SerdeJson] [SnapshotCodec]

/-- The transaction of a call, without its result. -/
def Call.transaction : Call → Tx Database Unit
  | .submitOrder request commandId => do
      let _ ← MatchPlane.submitOrder request commandId
  | .reserveFederated request reservationId now => Database.holdingsPart.on do
      let _ ← MatchPlane.reserveFederated request reservationId now
  | .confirmFederated request now => Database.holdingsPart.on do
      let _ ← MatchPlane.confirmFederated request now
  | .abortFederated request now => Database.holdingsPart.on do
      let _ ← MatchPlane.abortFederated request now
  | .commitMatching consumerName ownerInstanceId ownerNodeId decoded book events now
      snapshotId => do
      let _ ← MatchPlane.commitMatching consumerName ownerInstanceId ownerNodeId decoded
        book events now snapshotId

namespace Database

def call (db : Database) (call : Call) : Database := committed call.transaction db

def calls (db : Database) (calls : List Call) : Database := calls.foldl call db

theorem calls_append (db : Database) (first second : List Call) :
    db.calls (first ++ second) = (db.calls first).calls second :=
  List.foldl_append

end Database

end Calls

/-! ## A small market -/

/-- One market, and accounts of a seller and a buyer in each of its assets. -/
def smallMarket : Database where
  markets := ⟨[{
    id := ⟨1⟩
    tenantId := ⟨1⟩
    domainId := ⟨1⟩
    shardId := ⟨1⟩
    baseAssetKey := "base"
    quoteAssetKey := "quote"
    nextCommandSequence := 1
    nextEventSequence := 1
    status := .active
    commissionBps := 100
    platformCommissionAccountId := none }], by decide⟩
  holdings := {
    accounts := ⟨[⟨⟨1⟩, ⟨1⟩, "seller", "base", 100, 0⟩, ⟨⟨2⟩, ⟨1⟩, "seller", "quote", 0, 0⟩,
      ⟨⟨3⟩, ⟨1⟩, "buyer", "quote", 100, 0⟩, ⟨⟨4⟩, ⟨1⟩, "buyer", "base", 0, 0⟩], by decide⟩
    orders := .empty
    reservations := .empty
    trades := .empty
    ledgerEntries := .empty
    federationNodes := .empty
    federationSagaReservations := .empty
    federationReplayNonces := .empty
    nonceCheck := migratedNonceCheck }
  journal := ⟨.empty, .empty, .empty, .empty, .empty, .empty⟩

/-- The seller offers three units. -/
def smallAsk : SubmitOrder where
  intent := {
    orderId := ⟨1⟩
    tenantId := ⟨1⟩
    domainId := ⟨1⟩
    marketId := ⟨1⟩
    side := .sell
    price := .literal 12 (.refl true)
    quantity := .literal 3 (.refl true)
    submittedAt := 0
    expiresAt := none }
  idempotencyKey := "ask"
  reservationAccountId := ⟨1⟩
  settlementAccountId := ⟨2⟩
  reservationAmount := .literal 3 (.refl true)
  sourceNodeId := ⟨1⟩

end MatchPlane
