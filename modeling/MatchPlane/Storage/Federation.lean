import MatchPlane.Storage.Schema

/-!
# Federated reservations

A remote node holds part of an order's quantity while it negotiates: `reserve`
takes capacity from the order, `transition` confirms or aborts the hold, and
holds that ran out are released before the next commit of their market.

`now` is the database clock, read once per transaction.
-/

namespace MatchPlane

open MatchPlane.Library

structure ReserveFederated where
  sourceNodeId : FederationNodeId
  tenantId : TenantId
  domainId : DomainId
  marketId : MarketId
  orderId : OrderId
  quantity : Quantity
  idempotencyKey : String
  requestHash : PayloadHash
  fencingToken : Int
  nonce : String
  expiresAt : OffsetDateTime
  deriving DecidableEq, Repr

structure FederationReservation where
  reservationId : ReservationId
  status : SagaStatus
  version : Int
  fencingToken : Int
  expiresAt : OffsetDateTime
  deriving DecidableEq, Repr

structure FederationTransition where
  sourceNodeId : FederationNodeId
  reservationId : ReservationId
  idempotencyKey : String
  expectedVersion : Int
  fencingToken : Int
  nonce : String
  deriving DecidableEq, Repr

def reservationFromRow (row : FederationSagaReservationRow) : FederationReservation where
  reservationId := row.id
  status := row.status
  version := row.version
  fencingToken := row.fencingToken
  expiresAt := row.expiresAt

/-! ## Validation -/

def validateKey (key : String) : Tx Holdings Unit :=
  if key.isEmpty ∨ 200 < key.utf8ByteSize then
    throw (.invalidData "federation idempotency key length must be in 1..=200")
  else pure ()

def validateNonce (nonce : String) : Tx Holdings Unit :=
  if nonce.utf8ByteSize < 16 ∨ 256 < nonce.utf8ByteSize then
    throw (.invalidData "federation nonce length must be in 16..=256")
  else pure ()

def validateFencingToken (token : Int) : Tx Holdings Unit :=
  if token ≤ 0 then
    throw (.invalidData "federation fencing token must be positive")
  else pure ()

def validateReserve (request : ReserveFederated) : Tx Holdings Unit := do
  validateKey request.idempotencyKey
  validateNonce request.nonce
  validateFencingToken request.fencingToken

def validateTransition (request : FederationTransition) : Tx Holdings Unit := do
  validateKey request.idempotencyKey
  if request.expectedVersion ≤ 0 then
    throw (.invalidData "federation reservation version must be positive")
  validateFencingToken request.fencingToken
  validateNonce request.nonce

/-! ## Capacity -/

def lockFederationNode (request : ReserveFederated) : Tx Holdings Unit := do
  let node ← require (.notFound "federation node")
    ((← get).federationNodes.lookup request.sourceNodeId)
  if node.status ≠ .active then
    throw (.notFound "active federation node")
  if request.fencingToken < node.fencingToken then
    throw .staleFencingToken
  let _ ← Holdings.federationNodeTable.on
    (Table.update .sqlx request.sourceNodeId (fun _ => true) fun row =>
      { row with fencingToken := max row.fencingToken request.fencingToken })

def lockOrderCapacity (request : ReserveFederated) : Tx Holdings Unit := do
  let updated ← Holdings.orderTable.on
    (Table.update .sqlx request.orderId
      (fun row => row.tenantId = request.tenantId ∧ row.domainId = request.domainId ∧
        row.marketId = request.marketId ∧ row.status.isOpen ∧
        request.quantity.value ≤ row.remainingQuantity - row.federatedReservedQuantity)
      fun row => { row with federatedReservedQuantity :=
        row.federatedReservedQuantity + request.quantity.value })
  let _ ← require .reservationUnavailable updated

def releaseOrderCapacity (orderId : OrderId) (quantity : Int) : Tx Holdings Unit := do
  let updated ← Holdings.orderTable.on
    (Table.update .sqlx orderId (fun row => quantity ≤ row.federatedReservedQuantity)
      fun row => { row with
        federatedReservedQuantity := row.federatedReservedQuantity - quantity })
  let _ ← require
    (.invalidData "federation reservation exceeds the order's protected quantity") updated

/-! ## Operations -/

def reserveFederated (request : ReserveFederated) (reservationId : ReservationId)
    (now : OffsetDateTime) : Tx Holdings FederationReservation := do
  validateReserve request
  let existing := (← get).federationSagaReservations.rows.find? fun row =>
    row.sourceNodeId = request.sourceNodeId ∧ row.idempotencyKey = request.idempotencyKey
  match existing with
  | some row =>
      if row.requestHash ≠ request.requestHash then
        throw .idempotencyConflict
      pure (reservationFromRow row)
  | none =>
      if request.expiresAt ≤ now then
        throw (.invalidData "federation reservation must expire in the future")
      lockFederationNode request
      lockOrderCapacity request
      let row : FederationSagaReservationRow := {
        id := reservationId
        sourceNodeId := request.sourceNodeId
        tenantId := request.tenantId
        domainId := request.domainId
        marketId := request.marketId
        orderId := request.orderId
        quantity := request.quantity.value
        status := .reserved
        idempotencyKey := request.idempotencyKey
        requestHash := request.requestHash
        fencingToken := request.fencingToken
        nonce := request.nonce
        expiresAt := request.expiresAt
        version := 1 }
      Holdings.sagaReservationTable.on (Table.insert .sqlx row)
      pure (reservationFromRow row)

def FederationTransition.nonceRow (request : FederationTransition) (operation : String) :
    FederationReplayNonceRow where
  sourceNodeId := request.sourceNodeId
  nonce := request.nonce
  operation := operation
  reservationId := some request.reservationId

/-- The operation is the target status; the check of the migrations names verbs. -/
def registerTransitionNonce (request : FederationTransition) (operation : String) :
    Tx Holdings Unit := do
  if (← get).nonceCheck (request.nonceRow operation) = false then
    throw .sqlx
  let inserted ← Holdings.replayNonceTable.on
    (Table.insertOrIgnore .sqlx (request.nonceRow operation))
  if inserted = false then
    let row ← require .sqlx
      ((← get).federationReplayNonces.lookup (request.sourceNodeId, request.nonce))
    if row.operation ≠ operation ∨ row.reservationId ≠ some request.reservationId then
      throw .replayDetected

def updateReservationStatus (reservationId : ReservationId) (expectedVersion : Int)
    (status : SagaStatus) : Tx Holdings FederationReservation := do
  let updated ← Holdings.sagaReservationTable.on
    (Table.update .sqlx reservationId
      (fun row => row.version = expectedVersion ∧ row.status = .reserved)
      fun row => { row with status := status, version := row.version + 1 })
  let row ← require .reservationVersionConflict updated
  pure (reservationFromRow row)

def transitionFederated (request : FederationTransition) (target : SagaStatus)
    (now : OffsetDateTime) : Tx Holdings FederationReservation := do
  validateTransition request
  let row ← require (.notFound "federation reservation")
    ((← get).federationSagaReservations.lookup request.reservationId)
  if row.sourceNodeId ≠ request.sourceNodeId then
    throw (.notFound "federation reservation")
  if row.idempotencyKey ≠ request.idempotencyKey then
    throw .idempotencyConflict
  if row.fencingToken ≠ request.fencingToken then
    throw .staleFencingToken
  registerTransitionNonce request target.text
  if row.status = target then
    pure (reservationFromRow row)
  else if row.status ≠ .reserved then
    throw (.invalidReservationTransition row.status.text target.text)
  else if row.expiresAt ≤ now then
    releaseOrderCapacity row.orderId row.quantity
    updateReservationStatus request.reservationId row.version .expired
  else if row.version ≠ request.expectedVersion then
    throw .reservationVersionConflict
  else
    if target = .aborted then
      releaseOrderCapacity row.orderId row.quantity
    updateReservationStatus request.reservationId request.expectedVersion target

def confirmFederated (request : FederationTransition) (now : OffsetDateTime) :
    Tx Holdings FederationReservation :=
  transitionFederated request .confirmed now

def abortFederated (request : FederationTransition) (now : OffsetDateTime) :
    Tx Holdings FederationReservation :=
  transitionFederated request .aborted now

/-- Releases the holds of a market that ran out. -/
def expireFederatedReservations (marketId : MarketId) (now : OffsetDateTime) :
    Tx Holdings Unit := do
  let rows := (← get).federationSagaReservations.rows.filter fun row =>
    row.marketId = marketId ∧ row.status = .reserved ∧ row.expiresAt ≤ now
  forM rows fun row => do
    releaseOrderCapacity row.orderId row.quantity
    let _ ← Holdings.sagaReservationTable.on
      (Table.update .sqlx row.id (fun stored => stored.status = .reserved) fun stored =>
        { stored with status := .expired, version := stored.version + 1 })

end MatchPlane
