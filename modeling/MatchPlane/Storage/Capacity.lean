import MatchPlane.Storage.Calls
import MatchPlane.Storage.Frames

/-!
# Federated capacity

The quantity of an order that remote nodes hold is kept twice: as a counter on
the order and as the set of holds themselves.  Every call keeps the two equal,
and a hold that was confirmed, aborted or expired is never written again.
-/

namespace MatchPlane

open MatchPlane.Library

/-! ## Holds -/

/-- The quantity of a hold with this status is taken from its order. -/
def SagaStatus.isProtected : SagaStatus → Bool
  | reserved | confirmed => true
  | aborted | expired => false

namespace FederationSagaReservationRow

/-- What a hold takes from an order. -/
def protects (row : FederationSagaReservationRow) (orderId : OrderId) : Int :=
  if row.orderId = orderId ∧ row.status.isProtected then row.quantity else 0

def moved (row : FederationSagaReservationRow) (status : SagaStatus) :
    FederationSagaReservationRow :=
  { row with status := status, version := row.version + 1 }

theorem protects_nonneg {t : Table federationSagaReservations}
    {row : FederationSagaReservationRow} (hrow : row ∈ t.rows) (orderId : OrderId) :
    0 ≤ row.protects orderId := by
  have hcheck := t.valid.checked row hrow
  simp only [federationSagaReservations, decide_eq_true_eq] at hcheck
  unfold protects
  split <;> omega

end FederationSagaReservationRow

/-- The counter of an order. -/
def reservedCounter (t : Table orders) (orderId : OrderId) : Option Int :=
  (t.lookup orderId).map OrderRow.federatedReservedQuantity

namespace Holdings

def protectedQuantity (holdings : Holdings) (orderId : OrderId) : Int :=
  holdings.federationSagaReservations.total fun row => row.protects orderId

/-- The counters of the orders and everything of the federation. -/
def federated (holdings : Holdings) :=
  (reservedCounter holdings.orders, holdings.federationNodes, holdings.federationSagaReservations,
    holdings.federationReplayNonces, holdings.nonceCheck)

theorem ignoresFunds_federated : IgnoresFunds federated where
  accounts := fun _ _ => rfl
  reservations := fun _ _ => rfl
  trades := fun _ _ => rfl
  ledgerEntries := fun _ _ => rfl

theorem ignoresProgress_federated : IgnoresProgress federated := by
  intro holdings orderId guard remaining status sequence
  rw [ensures_on]
  refine Table.ensures_update trivial fun orders horders => ?_
  have hcounter : reservedCounter orders = reservedCounter holdings.orders := by
    funext id
    unfold reservedCounter
    rw [Table.lookup_replaced horders fun _ => rfl]
    split
    · rename_i hid
      rw [hid, Option.map_map]
      congr 1
      funext row
      simp only [Function.comp]
      split <;> rfl
    · rfl
  simp only [federated, orderTable, hcounter]

end Holdings

/-! ## Counters and holds -/

structure Capacity (holdings : Holdings) : Prop where
  counters : ∀ {orderId quantity}, reservedCounter holdings.orders orderId = some quantity →
    quantity = holdings.protectedQuantity orderId
  orders : ∀ {id row}, holdings.federationSagaReservations.lookup id = some row →
    ∃ quantity, reservedCounter holdings.orders row.orderId = some quantity
  versions : ∀ {id row}, holdings.federationSagaReservations.lookup id = some row →
    row.status = .reserved → row.version = 1
  nodes : ∀ {id row}, holdings.federationSagaReservations.lookup id = some row →
    ∃ node, holdings.federationNodes.lookup row.sourceNodeId = some node ∧
      row.fencingToken ≤ node.fencingToken

theorem Capacity.congr {holdings holdings' : Holdings} (h : Capacity holdings)
    (hsame : holdings'.federated = holdings.federated) : Capacity holdings' := by
  simp only [Holdings.federated, Prod.mk.injEq] at hsame
  obtain ⟨hcounter, hnodes, hsagas, _⟩ := hsame
  constructor
  case counters =>
    intro orderId quantity hquantity
    rw [hcounter] at hquantity
    rw [h.counters hquantity, Holdings.protectedQuantity, Holdings.protectedQuantity, hsagas]
  case orders =>
    intro id row hrow
    rw [hsagas] at hrow
    rw [hcounter]
    exact h.orders hrow
  case versions =>
    intro id row hrow
    rw [hsagas] at hrow
    exact h.versions hrow
  case nodes =>
    intro id row hrow
    rw [hsagas] at hrow
    rw [hnodes]
    exact h.nodes hrow

/-- The counter of an order covers each of the holds that count. -/
theorem Capacity.covers {holdings : Holdings} (h : Capacity holdings)
    {id : ReservationId} {row : FederationSagaReservationRow}
    (hrow : holdings.federationSagaReservations.lookup id = some row)
    (hprotected : row.status.isProtected = true) :
    ∃ order, holdings.orders.lookup row.orderId = some order ∧
      row.quantity ≤ order.federatedReservedQuantity := by
  obtain ⟨quantity, hquantity⟩ := h.orders hrow
  have htotal := h.counters hquantity
  obtain ⟨order, horder, rfl⟩ := Option.map_eq_some_iff.mp hquantity
  refine ⟨order, horder, ?_⟩
  have hprotects : row.protects row.orderId = row.quantity := by
    simp [FederationSagaReservationRow.protects, hprotected]
  rw [htotal, ← hprotects]
  exact Table.le_total (Table.mem_of_lookup hrow)
    fun _ hother => FederationSagaReservationRow.protects_nonneg hother _

/-! ## Moving a hold on -/

/-- A reserved hold got its final status, and its capacity went back unless confirmed. -/
structure Moved (holdings holdings' : Holdings) (row : FederationSagaReservationRow)
    (status : SagaStatus) : Prop where
  found : holdings.federationSagaReservations.lookup row.id = some row
  reserved : row.status = .reserved
  settled : status ≠ .reserved
  sagas : ∀ id, holdings'.federationSagaReservations.lookup id =
    if id = row.id then some (row.moved status)
    else holdings.federationSagaReservations.lookup id
  total : ∀ g, holdings'.federationSagaReservations.total g =
    holdings.federationSagaReservations.total g - g row + g (row.moved status)
  counter : ∀ orderId, reservedCounter holdings'.orders orderId =
    if orderId = row.orderId ∧ status.isProtected = false then
      (reservedCounter holdings.orders orderId).map (· - row.quantity)
    else reservedCounter holdings.orders orderId
  nodes : holdings'.federationNodes = holdings.federationNodes

theorem Moved.protectedQuantity {holdings holdings' : Holdings}
    {row : FederationSagaReservationRow} {status : SagaStatus}
    (h : Moved holdings holdings' row status) (orderId : OrderId) :
    holdings'.protectedQuantity orderId = holdings.protectedQuantity orderId -
      if orderId = row.orderId ∧ status.isProtected = false then row.quantity else 0 := by
  rw [Holdings.protectedQuantity, h.total, ← Holdings.protectedQuantity]
  simp only [FederationSagaReservationRow.protects, FederationSagaReservationRow.moved,
    h.reserved, SagaStatus.isProtected, and_true]
  by_cases hid : row.orderId = orderId
  · cases status <;> simp [hid]
  · simp [hid, Ne.symm hid]

theorem Capacity.moved {holdings holdings' : Holdings} (h : Capacity holdings)
    {row : FederationSagaReservationRow} {status : SagaStatus}
    (hmoved : Moved holdings holdings' row status) : Capacity holdings' := by
  constructor
  case counters =>
    intro orderId quantity hquantity
    rw [hmoved.protectedQuantity]
    rw [hmoved.counter] at hquantity
    split at hquantity
    · rename_i hreleased
      obtain ⟨old, hold, rfl⟩ := Option.map_eq_some_iff.mp hquantity
      rw [if_pos hreleased, h.counters hold]
    · rename_i hkept
      rw [if_neg hkept, h.counters hquantity, sub_zero]
  case orders =>
    intro id other hother
    rw [hmoved.sagas] at hother
    have hold : ∃ quantity, reservedCounter holdings.orders other.orderId = some quantity := by
      split at hother
      · cases hother
        exact (h.orders hmoved.found :)
      · exact h.orders hother
    obtain ⟨quantity, hquantity⟩ := hold
    rw [hmoved.counter, hquantity]
    split
    · exact ⟨_, rfl⟩
    · exact ⟨quantity, rfl⟩
  case versions =>
    intro id other hother hreserved
    rw [hmoved.sagas] at hother
    split at hother
    · cases hother
      exact absurd hreserved hmoved.settled
    · exact h.versions hother hreserved
  case nodes =>
    intro id other hother
    rw [hmoved.sagas] at hother
    rw [hmoved.nodes]
    split at hother
    · cases hother
      exact (h.nodes hmoved.found :)
    · exact h.nodes hother

/-- Holds only move on from `reserved`, tokens and nonces stay. -/
structure Holdings.Advances (holdings holdings' : Holdings) : Prop where
  sagas : ∀ {id row}, holdings.federationSagaReservations.lookup id = some row →
    holdings'.federationSagaReservations.lookup id = some row ∨
      (row.status = .reserved ∧ ∃ status, status ≠ .reserved ∧
        holdings'.federationSagaReservations.lookup id = some (row.moved status))
  nodes : ∀ {id node}, holdings.federationNodes.lookup id = some node →
    ∃ node', holdings'.federationNodes.lookup id = some node' ∧
      node.fencingToken ≤ node'.fencingToken
  nonces : ∀ {key row}, holdings.federationReplayNonces.lookup key = some row →
    holdings'.federationReplayNonces.lookup key = some row
  nonceCheck : holdings'.nonceCheck = holdings.nonceCheck

namespace Holdings.Advances

variable {first second third : Holdings}

theorem refl (holdings : Holdings) : holdings.Advances holdings where
  sagas := fun h => .inl h
  nodes := fun {_ node} h => ⟨node, h, le_refl _⟩
  nonces := fun h => h
  nonceCheck := rfl

/-- A hold that moved on does not move again. -/
theorem settled (h : first.Advances second) {id : ReservationId}
    {row : FederationSagaReservationRow}
    (hrow : first.federationSagaReservations.lookup id = some row)
    (hstatus : row.status ≠ .reserved) :
    second.federationSagaReservations.lookup id = some row := by
  rcases h.sagas hrow with hsame | ⟨hreserved, _⟩
  · exact hsame
  · exact absurd hreserved hstatus

theorem trans (h : first.Advances second) (h' : second.Advances third) :
    first.Advances third where
  sagas := by
    intro id row hrow
    rcases h.sagas hrow with hsame | ⟨hreserved, status, hstatus, hmoved⟩
    · exact h'.sagas hsame
    · exact .inr ⟨hreserved, status, hstatus, h'.settled hmoved hstatus⟩
  nodes := by
    intro id node hnode
    obtain ⟨node', hnode', hle⟩ := h.nodes hnode
    obtain ⟨node'', hnode'', hle'⟩ := h'.nodes hnode'
    exact ⟨node'', hnode'', hle.trans hle'⟩
  nonces := fun hrow => h'.nonces (h.nonces hrow)
  nonceCheck := h'.nonceCheck.trans h.nonceCheck

theorem of_federated (h : second.federated = first.federated) : first.Advances second := by
  simp only [Holdings.federated, Prod.mk.injEq] at h
  obtain ⟨_, hnodes, hsagas, hnonces, hcheck⟩ := h
  constructor
  case sagas =>
    intro id row hrow
    rw [hsagas]
    exact .inl hrow
  case nodes =>
    intro id node hnode
    rw [hnodes]
    exact ⟨node, hnode, le_refl _⟩
  case nonces =>
    intro key row hrow
    rw [hnonces]
    exact hrow
  case nonceCheck => exact hcheck

end Holdings.Advances

theorem Moved.advances {holdings holdings' : Holdings} {row : FederationSagaReservationRow}
    {status : SagaStatus} (h : Moved holdings holdings' row status)
    (hnonces : ∀ {key row}, holdings.federationReplayNonces.lookup key = some row →
      holdings'.federationReplayNonces.lookup key = some row)
    (hcheck : holdings'.nonceCheck = holdings.nonceCheck) : holdings.Advances holdings' where
  sagas := by
    intro id other hother
    rw [h.sagas]
    split
    · rename_i hid
      rw [hid, h.found] at hother
      cases hother
      exact .inr ⟨h.reserved, status, h.settled, rfl⟩
    · exact .inl hother
  nodes := fun {_ node} hnode => ⟨node, by rwa [h.nodes], le_refl _⟩
  nonces := hnonces
  nonceCheck := hcheck

/-! ## Statements -/

section Statements

variable {failure : StorageError → Prop} {holdings : Holdings}

/-- Capacity that the counter covers is released without fail. -/
theorem ensures_releaseOrderCapacity {orderId : OrderId} {quantity : Int} {order : OrderRow}
    {post : PUnit → Holdings → Prop} (horder : holdings.orders.lookup orderId = some order)
    (hnonneg : 0 ≤ quantity) (hle : quantity ≤ order.federatedReservedQuantity)
    (h : ∀ orders, (∀ id, reservedCounter orders id =
        if id = orderId then (reservedCounter holdings.orders id).map (· - quantity)
        else reservedCounter holdings.orders id) → post ⟨⟩ { holdings with orders := orders }) :
    Ensures (releaseOrderCapacity orderId quantity) failure holdings post := by
  have hcheck := Table.check_of_lookup horder
  simp only [orders, decide_eq_true_eq, isNumeric_iff] at hcheck
  unfold releaseOrderCapacity
  rw [ensures_bind, ensures_on]
  refine Table.ensures_update_valid horder (by simpa using hle) (fun _ => rfl)
    (fun _ _ => ⟨rfl, rfl⟩) ?_ fun t ht _ => ?_
  · simp only [orders, decide_eq_true_eq, isNumeric_iff]
    refine ⟨hcheck.1, hcheck.2.1, hcheck.2.2.1, hcheck.2.2.2.1, hcheck.2.2.2.2.1,
      hcheck.2.2.2.2.2.1, ?_, ?_, hcheck.2.2.2.2.2.2.2.2⟩ <;> omega
  · refine h t fun id => ?_
    simp only [reservedCounter, ht]
    split
    · rename_i hid
      rw [hid, horder]
      rfl
    · rfl

/-- The statement that both transitions and expiry end with. -/
theorem ensures_moveSaga {row : FederationSagaReservationRow} {status : SagaStatus}
    {guard : FederationSagaReservationRow → Bool}
    {post : Option FederationSagaReservationRow → Holdings → Prop}
    (hrow : holdings.federationSagaReservations.lookup row.id = some row)
    (hguard : guard row = true) (hversion : row.version = 1)
    (h : ∀ sagas : Table federationSagaReservations,
      (∀ id, sagas.lookup id = if id = row.id then some (row.moved status)
        else holdings.federationSagaReservations.lookup id) →
      (∀ g, sagas.total g =
        holdings.federationSagaReservations.total g - g row + g (row.moved status)) →
      post (some (row.moved status))
        { holdings with federationSagaReservations := sagas }) :
    Ensures (Holdings.sagaReservationTable.on (Table.update StorageError.sqlx row.id guard
      fun stored => { stored with status := status, version := stored.version + 1 }))
      failure holdings post := by
  have hcheck := Table.check_of_lookup hrow
  simp only [federationSagaReservations, decide_eq_true_eq, isNumeric_iff] at hcheck
  rw [ensures_on]
  refine Table.ensures_update_valid hrow hguard (fun _ => rfl) (fun _ _ => ⟨rfl, rfl⟩) ?_
    fun t ht htotal => h t ht htotal
  simp only [federationSagaReservations, decide_eq_true_eq, isNumeric_iff]
  refine ⟨hcheck.1, hcheck.2.1, hcheck.2.2.1, hcheck.2.2.2.1, hcheck.2.2.2.2.1, ?_, ?_⟩
  · omega
  · rw [hversion]
    decide

theorem ensures_registerTransitionNonce {request : FederationTransition}
    {operation : String} {post : PUnit → Holdings → Prop} (hsqlx : failure .sqlx)
    (hreplay : failure .replayDetected)
    (h : ∀ nonces : Table federationReplayNonces,
      nonces.lookup (request.sourceNodeId, request.nonce) =
        some (request.nonceRow operation) →
      (∀ {key row}, holdings.federationReplayNonces.lookup key = some row →
        nonces.lookup key = some row) →
      holdings.nonceCheck (request.nonceRow operation) = true →
      post ⟨⟩ { holdings with federationReplayNonces := nonces }) :
    Ensures (registerTransitionNonce request operation) failure holdings post := by
  unfold registerTransitionNonce
  simp only [ensures_bind, ensures_get, ensures_ite, ensures_throw, ensures_on]
  refine ⟨fun _ => hsqlx, fun hadmitted => ?_⟩
  rw [Bool.not_eq_false] at hadmitted
  refine Table.ensures_insertOrIgnore hsqlx ?_ ?_
  · intro nonces hnonces
    refine ⟨fun hfalse => absurd hfalse (by simp), fun _ => ?_⟩
    refine h nonces ?_ (fun hrow => Table.lookup_inserted_of_some hnonces hrow) hadmitted
    rw [Table.lookup_inserted hnonces]
    exact if_pos rfl
  · intro _ _
    refine ⟨fun _ => ?_, fun hfalse => absurd rfl hfalse⟩
    rw [ensures_require]
    refine ⟨fun _ => hsqlx, fun row hrow => ⟨fun _ => hreplay, fun hsame => ?_⟩⟩
    simp only [ne_eq, not_or, not_not] at hsame
    have hkey : row.sourceNodeId = request.sourceNodeId ∧ row.nonce = request.nonce :=
      Prod.mk.inj (Table.key_of_lookup hrow)
    have heq : row = request.nonceRow operation := by
      cases row
      simp_all [FederationTransition.nonceRow]
    refine h _ (heq ▸ hrow) (fun hrow => hrow) hadmitted

/-- A nonce that this request registered before is found again. -/
theorem ensures_registerTransitionNonce_again {request : FederationTransition}
    {operation : String}
    (hnonce : holdings.federationReplayNonces.lookup (request.sourceNodeId, request.nonce) =
      some (request.nonceRow operation))
    (hadmitted : holdings.nonceCheck (request.nonceRow operation) = true) :
    Ensures (registerTransitionNonce request operation) (fun _ => False) holdings
      fun _ holdings' => holdings' = holdings := by
  unfold registerTransitionNonce
  simp only [ensures_bind, ensures_get, ensures_ite, ensures_throw, ensures_on, hadmitted,
    Bool.true_eq_false, false_implies, not_false_eq_true, true_implies, true_and]
  refine Table.ensures_insertOrIgnore_known hnonce (Table.check_of_lookup hnonce) ?_
  refine ⟨fun _ => ?_, fun hfalse => absurd rfl hfalse⟩
  simp [Holdings.replayNonceTable, hnonce, FederationTransition.nonceRow]

end Statements

/-! ## Transitions -/

/-- The error of a release that the counter does not cover. -/
def releaseError : StorageError :=
  .invalidData "federation reservation exceeds the order's protected quantity"

/-- What a transition checks of its request alone. -/
structure FederationTransition.Valid (request : FederationTransition) : Prop where
  idempotencyKey :
    ¬(request.idempotencyKey.isEmpty = true ∨ 200 < request.idempotencyKey.utf8ByteSize)
  expectedVersion : ¬request.expectedVersion ≤ 0
  fencingToken : ¬request.fencingToken ≤ 0
  nonce : ¬(request.nonce.utf8ByteSize < 16 ∨ 256 < request.nonce.utf8ByteSize)

/-- What a transition that succeeded found and did. -/
structure Transitioned (holdings holdings' : Holdings) (request : FederationTransition)
    (target : SagaStatus) (now : OffsetDateTime) (row : FederationSagaReservationRow)
    (result : FederationReservation) : Prop where
  valid : request.Valid
  found : holdings.federationSagaReservations.lookup request.reservationId = some row
  sourceNodeId : row.sourceNodeId = request.sourceNodeId
  idempotencyKey : row.idempotencyKey = request.idempotencyKey
  fencingToken : row.fencingToken = request.fencingToken
  admitted : holdings.nonceCheck (request.nonceRow target.text) = true
  nonce : holdings'.federationReplayNonces.lookup (request.sourceNodeId, request.nonce) =
    some (request.nonceRow target.text)
  nonces : ∀ {key other}, holdings.federationReplayNonces.lookup key = some other →
    holdings'.federationReplayNonces.lookup key = some other
  nonceCheck : holdings'.nonceCheck = holdings.nonceCheck
  outcome : (row.status = target ∧
      reservedCounter holdings'.orders = reservedCounter holdings.orders ∧
      holdings'.federationNodes = holdings.federationNodes ∧
      holdings'.federationSagaReservations = holdings.federationSagaReservations ∧
      result = reservationFromRow row) ∨
    ∃ status, status = (if row.expiresAt ≤ now then .expired else target) ∧
      Moved holdings holdings' row status ∧ result = reservationFromRow (row.moved status)

section Transition

variable {holdings : Holdings} {row : FederationSagaReservationRow}

/-- Giving a reserved hold its final status, with the release that this takes. -/
theorem Capacity.ensures_release (h : Capacity holdings) {failure : StorageError → Prop}
    (hrow : holdings.federationSagaReservations.lookup row.id = some row)
    (hreserved : row.status = .reserved) {post : PUnit → Holdings → Prop}
    (hpost : ∀ orders, (∀ id, reservedCounter orders id =
        if id = row.orderId then (reservedCounter holdings.orders id).map (· - row.quantity)
        else reservedCounter holdings.orders id) → post ⟨⟩ { holdings with orders := orders }) :
    Ensures (releaseOrderCapacity row.orderId row.quantity) failure holdings post := by
  have hcheck := Table.check_of_lookup hrow
  simp only [federationSagaReservations, decide_eq_true_eq, isNumeric_iff] at hcheck
  obtain ⟨order, horder, hle⟩ := h.covers hrow (by rw [hreserved]; rfl)
  exact ensures_releaseOrderCapacity horder hcheck.1.1 hle hpost

theorem ensures_updateReservationStatus {failure : StorageError → Prop}
    {status : SagaStatus} {post : FederationReservation → Holdings → Prop}
    (hrow : holdings.federationSagaReservations.lookup row.id = some row)
    (hreserved : row.status = .reserved) (hversion : row.version = 1)
    (h : ∀ sagas : Table federationSagaReservations,
      (∀ id, sagas.lookup id = if id = row.id then some (row.moved status)
        else holdings.federationSagaReservations.lookup id) →
      (∀ g, sagas.total g =
        holdings.federationSagaReservations.total g - g row + g (row.moved status)) →
      post (reservationFromRow (row.moved status))
        { holdings with federationSagaReservations := sagas }) :
    Ensures (updateReservationStatus row.id row.version status) failure holdings post := by
  unfold updateReservationStatus
  rw [ensures_bind]
  refine ensures_moveSaga hrow (by simp [hreserved]) hversion fun sagas hsagas htotal => ?_
  exact h sagas hsagas htotal

/-- The statements of an abort, and of an expiry found by a transition. -/
theorem Capacity.ensures_giveBack (h : Capacity holdings) {failure : StorageError → Prop}
    (hrow : holdings.federationSagaReservations.lookup row.id = some row)
    (hreserved : row.status = .reserved) {status : SagaStatus}
    (hstatus : status.isProtected = false) {post : FederationReservation → Holdings → Prop}
    (hpost : ∀ holdings', Moved holdings holdings' row status →
      holdings'.federationReplayNonces = holdings.federationReplayNonces →
      holdings'.nonceCheck = holdings.nonceCheck →
      post (reservationFromRow (row.moved status)) holdings') :
    Ensures (do
      releaseOrderCapacity row.orderId row.quantity
      updateReservationStatus row.id row.version status) failure holdings post := by
  rw [ensures_bind]
  refine h.ensures_release hrow hreserved fun orders hcounter => ?_
  refine ensures_updateReservationStatus hrow hreserved (h.versions hrow hreserved) ?_
  intro sagas hsagas htotal
  refine hpost _ ⟨hrow, hreserved, ?_, hsagas, htotal, ?_, rfl⟩ rfl rfl
  · rintro rfl
    cases hstatus
  · simpa [hstatus] using hcounter

/-- The statement of a confirmation. -/
theorem Capacity.ensures_confirm (h : Capacity holdings) {failure : StorageError → Prop}
    (hrow : holdings.federationSagaReservations.lookup row.id = some row)
    (hreserved : row.status = .reserved) {post : FederationReservation → Holdings → Prop}
    (hpost : ∀ holdings', Moved holdings holdings' row .confirmed →
      holdings'.federationReplayNonces = holdings.federationReplayNonces →
      holdings'.nonceCheck = holdings.nonceCheck →
      post (reservationFromRow (row.moved .confirmed)) holdings') :
    Ensures (updateReservationStatus row.id row.version .confirmed) failure holdings
      post := by
  refine ensures_updateReservationStatus hrow hreserved (h.versions hrow hreserved) ?_
  intro sagas hsagas htotal
  refine hpost _ ⟨hrow, hreserved, by decide, hsagas, htotal, ?_, rfl⟩ rfl rfl
  simp [SagaStatus.isProtected]

/-- Moving a hold does not look at the nonces. -/
theorem Moved.of_nonces {holdings' : Holdings} {status : SagaStatus}
    {nonces : Table federationReplayNonces}
    (h : Moved { holdings with federationReplayNonces := nonces } holdings' row status) :
    Moved holdings holdings' row status :=
  ⟨h.found, h.reserved, h.settled, h.sagas, h.total, h.counter, h.nodes⟩

theorem Capacity.ensures_transitionFederated (h : Capacity holdings)
    {request : FederationTransition} {target : SagaStatus} {now : OffsetDateTime}
    (htarget : target = .confirmed ∨ target = .aborted) :
    Ensures (transitionFederated request target now) (· ≠ releaseError) holdings
      fun result holdings' =>
        ∃ row, Transitioned holdings holdings' request target now row result := by
  unfold transitionFederated validateTransition validateKey validateFencingToken validateNonce
  simp only [ensures_bind, ensures_ite, ensures_throw, ensures_pure, ensures_get]
  refine ⟨fun _ => by decide, fun hvalidKey => ⟨fun _ => by decide, fun hvalidVersion =>
    ⟨fun _ => by decide, fun hvalidToken => ⟨fun _ => by decide, fun hvalidNonce => ?_⟩⟩⟩⟩
  have hvalid : request.Valid := ⟨hvalidKey, hvalidVersion, hvalidToken, hvalidNonce⟩
  rw [ensures_require]
  refine ⟨fun _ => by decide, fun row hrow => ⟨fun _ => by decide, fun hsource =>
    ⟨fun _ => by decide, fun hkey => ⟨fun _ => by decide, fun htoken => ?_⟩⟩⟩⟩
  rw [not_not] at hsource hkey htoken
  have hid : row.id = request.reservationId := Table.key_of_lookup hrow
  refine ensures_registerTransitionNonce (by decide) (by decide) ?_
  intro nonces hnonce hnonces hadmitted
  have hcapacity : Capacity { holdings with federationReplayNonces := nonces } :=
    ⟨h.counters, h.orders, h.versions, h.nodes⟩
  refine ⟨fun hdone => ?_, fun _ => ⟨fun _ => by simp [releaseError], fun hreserved => ?_⟩⟩
  · exact ⟨row, hvalid, hrow, hsource, hkey, htoken, hadmitted, hnonce, hnonces, rfl,
      .inl ⟨hdone, rfl, rfl, rfl, rfl⟩⟩
  rw [not_not] at hreserved
  have hfound : holdings.federationSagaReservations.lookup row.id = some row := by
    rw [hid, hrow]
  have hmoved : ∀ status, status = (if row.expiresAt ≤ now then .expired else target) →
      ∀ holdings', Moved { holdings with federationReplayNonces := nonces } holdings' row
        status →
      holdings'.federationReplayNonces = nonces → holdings'.nonceCheck = holdings.nonceCheck →
      ∃ other, Transitioned holdings holdings' request target now other
        (reservationFromRow (row.moved status)) := by
    intro status hstatus holdings' hmoved hnonces' hcheck
    refine ⟨row, hvalid, hrow, hsource, hkey, htoken, hadmitted, ?_, ?_, hcheck,
      .inr ⟨status, hstatus, hmoved.of_nonces, rfl⟩⟩
    · rw [hnonces', hnonce]
    · rw [hnonces']
      exact hnonces
  rw [← hid]
  refine ⟨fun hexpired => ?_, fun hopen => ⟨fun _ => by decide, fun hexpected => ?_⟩⟩
  · rw [← ensures_bind]
    exact hcapacity.ensures_giveBack hfound hreserved rfl (hmoved _ (if_pos hexpired).symm)
  · rw [not_not] at hexpected
    rw [← hexpected]
    rcases htarget with rfl | rfl
    · simp only [reduceCtorEq, false_implies, not_false_eq_true, true_implies, true_and]
      exact hcapacity.ensures_confirm hfound hreserved (hmoved _ (if_neg hopen).symm)
    · simp only [true_implies, not_true_eq_false, false_implies, and_true]
      rw [← ensures_bind]
      exact hcapacity.ensures_giveBack hfound hreserved rfl (hmoved _ (if_neg hopen).symm)

end Transition

section Transitioned

variable {holdings holdings' : Holdings} {request : FederationTransition}
  {target : SagaStatus} {now : OffsetDateTime} {row : FederationSagaReservationRow}
  {result : FederationReservation}

theorem Transitioned.capacity (h : Capacity holdings)
    (htransition : Transitioned holdings holdings' request target now row result) :
    Capacity holdings' := by
  rcases htransition.outcome with ⟨_, hcounter, hnodes, hsagas, _⟩ | ⟨status, _, hmoved, _⟩
  · constructor
    case counters =>
      intro orderId quantity hquantity
      rw [hcounter] at hquantity
      rw [Holdings.protectedQuantity, hsagas]
      exact h.counters hquantity
    case orders =>
      rw [hcounter, hsagas]
      exact h.orders
    case versions =>
      rw [hsagas]
      exact h.versions
    case nodes =>
      rw [hnodes, hsagas]
      exact h.nodes
  · exact h.moved hmoved

theorem Transitioned.advances
    (htransition : Transitioned holdings holdings' request target now row result) :
    holdings.Advances holdings' := by
  rcases htransition.outcome with ⟨_, _, hnodes, hsagas, _⟩ | ⟨status, _, hmoved, _⟩
  · constructor
    case sagas =>
      rw [hsagas]
      exact fun hrow => .inl hrow
    case nodes =>
      rw [hnodes]
      exact fun {_ node} hnode => ⟨node, hnode, le_refl _⟩
    case nonces => exact htransition.nonces
    case nonceCheck => exact htransition.nonceCheck
  · exact hmoved.advances htransition.nonces htransition.nonceCheck

end Transitioned

/-! ## Reservations -/

def ReserveFederated.sagaRow (request : ReserveFederated) (reservationId : ReservationId) :
    FederationSagaReservationRow where
  id := reservationId
  sourceNodeId := request.sourceNodeId
  tenantId := request.tenantId
  domainId := request.domainId
  marketId := request.marketId
  orderId := request.orderId
  quantity := request.quantity.value
  status := .reserved
  idempotencyKey := request.idempotencyKey
  requestHash := request.requestHash
  fencingToken := request.fencingToken
  nonce := request.nonce
  expiresAt := request.expiresAt
  version := 1

/-- A new hold, with the token of its node and the counter of its order. -/
structure HoldTaken (holdings holdings' : Holdings) (request : ReserveFederated)
    (reservationId : ReservationId) : Prop where
  node : ∃ node, holdings.federationNodes.lookup request.sourceNodeId = some node ∧
    node.fencingToken ≤ request.fencingToken ∧
    ∀ id, holdings'.federationNodes.lookup id = if id = request.sourceNodeId then
        some { node with fencingToken := max node.fencingToken request.fencingToken }
      else holdings.federationNodes.lookup id
  order : ∃ quantity, reservedCounter holdings.orders request.orderId = some quantity
  counter : ∀ orderId, reservedCounter holdings'.orders orderId =
    if orderId = request.orderId then
      (reservedCounter holdings.orders orderId).map (· + request.quantity.value)
    else reservedCounter holdings.orders orderId
  sagas : holdings'.federationSagaReservations.rows =
    holdings.federationSagaReservations.rows ++ [request.sagaRow reservationId]
  nonces : holdings'.federationReplayNonces = holdings.federationReplayNonces
  nonceCheck : holdings'.nonceCheck = holdings.nonceCheck

/-- A request that succeeded found its hold or took it. -/
inductive ReservePost (holdings : Holdings) (request : ReserveFederated)
    (reservationId : ReservationId) : FederationReservation → Holdings → Prop
  | repeated {row : FederationSagaReservationRow}
      (hrow : row ∈ holdings.federationSagaReservations.rows)
      (hsource : row.sourceNodeId = request.sourceNodeId)
      (hkey : row.idempotencyKey = request.idempotencyKey) :
      ReservePost holdings request reservationId (reservationFromRow row) holdings
  | taken {holdings' : Holdings} (result : FederationReservation)
      (htaken : HoldTaken holdings holdings' request reservationId) :
      ReservePost holdings request reservationId result holdings'

theorem ensures_reserveFederated {holdings : Holdings} {request : ReserveFederated}
    {reservationId : ReservationId} {now : OffsetDateTime} :
    Ensures (reserveFederated request reservationId now) (fun _ => True) holdings
      (ReservePost holdings request reservationId) := by
  unfold reserveFederated validateReserve validateKey validateFencingToken validateNonce
  simp only [ensures_bind, ensures_ite, ensures_throw, ensures_pure, ensures_get]
  refine ⟨fun _ => trivial, fun _ => ⟨fun _ => trivial, fun _ => ⟨fun _ => trivial,
    fun _ => ?_⟩⟩⟩
  split
  · rename_i row hfound
    simp only [ensures_ite, ensures_bind, ensures_throw, ensures_pure]
    refine ⟨fun _ => trivial, fun _ => ?_⟩
    have hsame := List.find?_some hfound
    simp only [decide_eq_true_eq] at hsame
    exact .repeated (List.mem_of_find?_eq_some hfound) hsame.1 hsame.2
  · unfold lockFederationNode lockOrderCapacity
    simp only [ensures_ite, ensures_bind, ensures_throw, ensures_pure, ensures_get, ensures_on]
    refine ⟨fun _ => trivial, fun _ => ?_⟩
    rw [ensures_require]
    refine ⟨fun _ => trivial, fun node hnode => ⟨fun _ => trivial, fun _ =>
      ⟨fun _ => trivial, fun hfresh => ?_⟩⟩⟩
    refine Table.ensures_update_of_lookup hnode rfl (fun _ => rfl) trivial ?_
    intro nodes hnodes _
    refine Table.ensures_update trivial fun orders horders => ?_
    rw [ensures_require]
    refine ⟨fun _ => trivial, fun updated hupdated => ?_⟩
    refine Table.ensures_insert trivial fun sagas hsagas => ?_
    simp only [Option.map_eq_some_iff, Option.filter_eq_some_iff, decide_eq_true_eq,
      Holdings.orderTable, Holdings.federationNodeTable] at hupdated
    obtain ⟨order, ⟨horder, hguard⟩, _⟩ := hupdated
    refine .taken _ ⟨⟨node, hnode, not_lt.mp hfresh, hnodes⟩,
      ⟨_, by rw [reservedCounter, horder]; rfl⟩, fun orderId => ?_, hsagas, rfl, rfl⟩
    change reservedCounter orders orderId = _
    rw [reservedCounter, Table.lookup_replaced horders fun _ => rfl]
    split
    · rename_i hid
      simp only [Holdings.orderTable, Holdings.federationNodeTable, reservedCounter, hid,
        horder, Option.map_some]
      rw [if_pos (by simpa using hguard)]
    · rfl

section HoldTaken

variable {holdings holdings' : Holdings} {request : ReserveFederated}
  {reservationId : ReservationId}

theorem HoldTaken.lookup (h : HoldTaken holdings holdings' request reservationId)
    (id : ReservationId) : holdings'.federationSagaReservations.lookup id =
      if id = reservationId then some (request.sagaRow reservationId)
      else holdings.federationSagaReservations.lookup id :=
  Table.lookup_inserted h.sagas id

theorem HoldTaken.capacity (h : Capacity holdings)
    (htaken : HoldTaken holdings holdings' request reservationId) : Capacity holdings' := by
  obtain ⟨node, hnode, htoken, hnodes⟩ := htaken.node
  have hcounter : ∀ {orderId quantity}, reservedCounter holdings.orders orderId =
      some quantity → ∃ quantity', reservedCounter holdings'.orders orderId =
        some quantity' := by
    intro orderId quantity hquantity
    rw [htaken.counter, hquantity]
    split
    · exact ⟨_, rfl⟩
    · exact ⟨_, rfl⟩
  constructor
  case counters =>
    intro orderId quantity hquantity
    rw [Holdings.protectedQuantity, Table.total_inserted htaken.sagas]
    rw [htaken.counter] at hquantity
    split at hquantity
    · rename_i hid
      obtain ⟨old, hold, rfl⟩ := Option.map_eq_some_iff.mp hquantity
      rw [h.counters hold, hid]
      simp [Holdings.protectedQuantity, FederationSagaReservationRow.protects,
        ReserveFederated.sagaRow, SagaStatus.isProtected]
    · rename_i hid
      rw [h.counters hquantity]
      simp [Holdings.protectedQuantity, FederationSagaReservationRow.protects,
        ReserveFederated.sagaRow, Ne.symm hid]
  case orders =>
    intro id row hrow
    rw [htaken.lookup] at hrow
    split at hrow
    · cases hrow
      obtain ⟨quantity, hquantity⟩ := htaken.order
      exact hcounter hquantity
    · obtain ⟨quantity, hquantity⟩ := h.orders hrow
      exact hcounter hquantity
  case versions =>
    intro id row hrow hreserved
    rw [htaken.lookup] at hrow
    split at hrow
    · cases hrow
      rfl
    · exact h.versions hrow hreserved
  case nodes =>
    intro id row hrow
    rw [htaken.lookup] at hrow
    rw [hnodes]
    split at hrow
    · cases hrow
      exact ⟨_, if_pos rfl, le_max_right _ _⟩
    · obtain ⟨old, hold, hle⟩ := h.nodes hrow
      split
      · rename_i hid
        rw [hid, hnode] at hold
        cases hold
        exact ⟨_, rfl, hle.trans (le_max_left _ _)⟩
      · exact ⟨old, hold, hle⟩

theorem HoldTaken.advances (h : HoldTaken holdings holdings' request reservationId) :
    holdings.Advances holdings' where
  sagas := fun hrow => .inl (Table.lookup_inserted_of_some h.sagas hrow)
  nodes := by
    intro id other hother
    obtain ⟨node, hnode, _, hnodes⟩ := h.node
    rw [hnodes]
    split
    · rename_i hid
      rw [hid, hnode] at hother
      cases hother
      exact ⟨_, rfl, le_max_left _ _⟩
    · exact ⟨other, hother, le_refl _⟩
  nonces := by
    rw [h.nonces]
    exact fun hrow => hrow
  nonceCheck := h.nonceCheck

end HoldTaken

/-! ## Expiry -/

/-- The statements of one turn of the sweep. -/
theorem Capacity.ensures_expire {holdings : Holdings} (h : Capacity holdings)
    {row : FederationSagaReservationRow} {failure : StorageError → Prop}
    (hrow : holdings.federationSagaReservations.lookup row.id = some row)
    (hreserved : row.status = .reserved) {post : PUnit → Holdings → Prop}
    (hpost : ∀ holdings', Moved holdings holdings' row .expired →
      holdings'.federationReplayNonces = holdings.federationReplayNonces →
      holdings'.nonceCheck = holdings.nonceCheck → post ⟨⟩ holdings') :
    Ensures (do
      releaseOrderCapacity row.orderId row.quantity
      let _ ← Holdings.sagaReservationTable.on
        (Table.update .sqlx row.id (fun stored => stored.status = .reserved) fun stored =>
          { stored with status := .expired, version := stored.version + 1 })) failure
      holdings post := by
  rw [ensures_bind]
  refine h.ensures_release hrow hreserved fun orders hcounter => ?_
  rw [ensures_bind]
  refine ensures_moveSaga hrow (by simp [hreserved])
    (h.versions hrow hreserved) fun sagas hsagas htotal => ?_
  refine hpost _ ⟨hrow, hreserved, by decide, hsagas, htotal, ?_, rfl⟩ rfl rfl
  simpa [SagaStatus.isProtected] using hcounter

/-- The sweep never fails, and moves holds on like any transition. -/
theorem Capacity.ensures_expireFederatedReservations {holdings : Holdings}
    (h : Capacity holdings) (marketId : MarketId) (now : OffsetDateTime) :
    Ensures (expireFederatedReservations marketId now) (fun _ => False) holdings
      fun _ holdings' => Capacity holdings' ∧ holdings.Advances holdings' := by
  unfold expireFederatedReservations
  rw [ensures_bind, ensures_get]
  -- The holds still to come are distinct and were not touched by the turns before.
  refine (Ensures.forM (fun rows current => (Capacity current ∧ holdings.Advances current) ∧
    rows.Pairwise (fun first second => first.id ≠ second.id) ∧
    ∀ row ∈ rows, current.federationSagaReservations.lookup row.id = some row ∧
      row.status = .reserved) ?_ ⟨⟨h, .refl _⟩, ?_, ?_⟩).mono (fun _ h => h)
    fun _ _ hinv => hinv.1
  · rintro row rest current _ ⟨⟨hcapacity, hadvances⟩, hdistinct, hrows⟩
    obtain ⟨hrow, hreserved⟩ := hrows row List.mem_cons_self
    rw [List.pairwise_cons] at hdistinct
    refine hcapacity.ensures_expire hrow hreserved fun after hmoved hnonces hcheck => ?_
    refine ⟨⟨hcapacity.moved hmoved, hadvances.trans (hmoved.advances ?_ hcheck)⟩,
      hdistinct.2, fun other hother => ?_⟩
    · rw [hnonces]
      exact fun hrow => hrow
    · obtain ⟨hlookup, hstatus⟩ := hrows other (List.mem_cons_of_mem _ hother)
      rw [hmoved.sagas, if_neg (hdistinct.1 other hother).symm]
      exact ⟨hlookup, hstatus⟩
  · exact holdings.federationSagaReservations.valid.keys.sublist List.filter_sublist
  · intro row hrow
    simp only [List.mem_filter, decide_eq_true_eq] at hrow
    exact ⟨Table.lookup_of_mem hrow.1, hrow.2.2.1⟩

/-! ## Submissions -/

/-- A new order brings nothing but itself: no hold can name it yet. -/
theorem Capacity.inserted {holdings holdings' : Holdings} (h : Capacity holdings)
    {order : OrderRow} (horders : holdings'.orders.rows = holdings.orders.rows ++ [order])
    (hcounter : order.federatedReservedQuantity = 0)
    (hnodes : holdings'.federationNodes = holdings.federationNodes)
    (hsagas : holdings'.federationSagaReservations = holdings.federationSagaReservations) :
    Capacity holdings' := by
  have hcounters : ∀ orderId, reservedCounter holdings'.orders orderId =
      if orderId = order.id then some 0 else reservedCounter holdings.orders orderId := by
    intro orderId
    simp only [reservedCounter]
    rw [Table.lookup_inserted horders]
    change Option.map _ (if orderId = order.id then _ else _) = _
    split
    · rw [Option.map_some, hcounter]
    · rfl
  have hnone : reservedCounter holdings.orders order.id = none := by
    have hlookup : holdings.orders.lookup order.id = none := Table.lookup_inserted_none horders
    rw [reservedCounter, hlookup]
    rfl
  have hother : ∀ row ∈ holdings.federationSagaReservations.rows, row.orderId ≠ order.id := by
    intro row hrow heq
    obtain ⟨quantity, hquantity⟩ := h.orders (Table.lookup_of_mem hrow)
    rw [heq, hnone] at hquantity
    cases hquantity
  constructor
  case counters =>
    intro orderId quantity hquantity
    rw [Holdings.protectedQuantity, hsagas]
    rw [hcounters] at hquantity
    split at hquantity
    · rename_i hid
      cases hquantity
      symm
      apply List.sum_eq_zero
      simp only [List.mem_map]
      rintro _ ⟨row, hrow, rfl⟩
      simp [FederationSagaReservationRow.protects, hid, hother row hrow]
    · exact h.counters hquantity
  case orders =>
    intro id row hrow
    rw [hsagas] at hrow
    rw [hcounters, if_neg (hother row (Table.mem_of_lookup hrow))]
    exact h.orders hrow
  case versions =>
    rw [hsagas]
    exact h.versions
  case nodes =>
    rw [hsagas, hnodes]
    exact h.nodes

section Calls

variable [UuidV5] [Sha256] [Prost]

theorem Capacity.ensures_storeOrder {holdings : Holdings} (h : Capacity holdings)
    (request : SubmitOrder) (commandId : EventId) (sequence : Nat) :
    Ensures (storeOrder request commandId sequence) (fun _ => True) holdings
      fun _ holdings' => Capacity holdings' ∧ holdings.Advances holdings' := by
  have hfunds := Holdings.ignoresFunds_federated
  have hhold : Keeps Holdings.federated (holdSubmissionReservation request commandId) := by
    refine (keeps_on hfunds.accounts).bind fun _ => (keeps_require _ _).bind fun _ => ?_
    exact keeps_on hfunds.reservations
  unfold storeOrder
  simp only [ensures_bind, ensures_on]
  refine ensures_i64Sequence (fun _ => trivial) fun _ => ?_
  refine Table.ensures_insert trivial fun orders horders => ?_
  have hinserted : Capacity { holdings with orders := orders } :=
    h.inserted horders rfl rfl rfl
  have hadvances : holdings.Advances { holdings with orders := orders } :=
    ⟨fun hrow => .inl hrow, fun {_ node} hnode => ⟨node, hnode, le_refl _⟩, fun hrow => hrow,
      rfl⟩
  refine (hhold _).mono (fun _ h => h) fun _ holdings' hsame => ?_
  exact ⟨hinserted.congr hsame, hadvances.trans (.of_federated hsame)⟩

variable [SerdeJson] {db : Database}

theorem Capacity.ensures_submitOrder (h : Capacity db.holdings) (request : SubmitOrder)
    (commandId : EventId) :
    Ensures (submitOrder request commandId) (fun _ => True) db (SubmitPost db request commandId
      fun _ holdings => Capacity holdings ∧ db.holdings.Advances holdings) := by
  refine MatchPlane.ensures_submitOrder fun market _ => ?_
  have hscope : Keeps id (ensureAccountScope request.intent.tenantId
      request.reservationAccountId request.settlementAccountId request.intent.side market) :=
    keeps_ensureAccountScope _ _ _ _ _
  refine (hscope db.holdings).mono (fun _ h => h) fun _ holdings hsame => ?_
  rw [id, id] at hsame
  rw [hsame]
  exact h.ensures_storeOrder request commandId _

variable [SnapshotCodec]

theorem Capacity.ensures_commitMatching (h : Capacity db.holdings)
    (consumerName ownerInstanceId : String) (ownerNodeId : FederationNodeId)
    (decoded : DecodedCommand) (book : OrderBook) (events : List EngineEvent)
    (now : OffsetDateTime) (snapshotId : Uuid) :
    Ensures (commitMatching consumerName ownerInstanceId ownerNodeId decoded book events now
      snapshotId) (fun _ => True) db (CommitPost db consumerName decoded book events
        (fun holdings => Capacity holdings ∧ db.holdings.Advances holdings)
        fun holdings => Capacity holdings ∧ db.holdings.Advances holdings) := by
  refine MatchPlane.ensures_commitMatching (CommitFailures.of_forall _ _ _ _ _)
    (fun _ => ?_) ?_
  · exact (h.ensures_expireFederatedReservations _ now).mono (fun _ h => h.elim)
      fun _ _ h => h
  · rintro _ holdings token ⟨hcapacity, hadvances⟩
    refine (keeps_settleCommand Holdings.ignoresFunds_federated
      Holdings.ignoresProgress_federated _ _ _ _ _ holdings).mono (fun _ h => h) ?_
    intro _ holdings' hsame
    exact ⟨hcapacity.congr hsame, hadvances.trans (.of_federated hsame)⟩

theorem Capacity.call (h : Capacity db.holdings) (call : Call) :
    Capacity (db.call call).holdings ∧ db.holdings.Advances (db.call call).holdings := by
  have hspec : Ensures call.transaction (fun _ => True) db fun _ db' =>
      Capacity db'.holdings ∧ db.holdings.Advances db'.holdings := by
    cases call with
    | submitOrder request commandId =>
        rw [Call.transaction, ensures_bind]
        refine (h.ensures_submitOrder request commandId).mono (fun _ h => h) ?_
        intro _ db' hpost
        cases hpost with
        | duplicate _ _ _ _ => exact ⟨h, .refl _⟩
        | logged _ hstored => exact hstored
    | reserveFederated request reservationId now =>
        rw [Call.transaction, ensures_on, ensures_bind]
        refine ensures_reserveFederated.mono (fun _ _ => trivial) fun result holdings hpost => ?_
        cases hpost with
        | repeated _ _ _ => exact ⟨h, .refl _⟩
        | taken _ htaken => exact ⟨htaken.capacity h, htaken.advances⟩
    | confirmFederated request now =>
        rw [Call.transaction, ensures_on, ensures_bind]
        refine (h.ensures_transitionFederated (.inl rfl)).mono (fun _ _ => trivial) ?_
        rintro result holdings ⟨row, htransition⟩
        exact ⟨htransition.capacity h, htransition.advances⟩
    | abortFederated request now =>
        rw [Call.transaction, ensures_on, ensures_bind]
        refine (h.ensures_transitionFederated (.inr rfl)).mono (fun _ _ => trivial) ?_
        rintro result holdings ⟨row, htransition⟩
        exact ⟨htransition.capacity h, htransition.advances⟩
    | commitMatching consumerName ownerInstanceId ownerNodeId decoded book events now
        snapshotId =>
        rw [Call.transaction, ensures_bind]
        refine (h.ensures_commitMatching consumerName ownerInstanceId ownerNodeId decoded book
          events now snapshotId).mono (fun _ h => h) fun _ db' hpost => ?_
        cases hpost with
        | again _ => exact ⟨h, .refl _⟩
        | duplicate _ _ _ hexpired => exact hexpired
        | applied _ _ hsettled => exact hsettled
  exact hspec.committed ⟨h, .refl _⟩

theorem Capacity.calls (h : Capacity db.holdings) (calls : List Call) :
    Capacity (db.calls calls).holdings ∧ db.holdings.Advances (db.calls calls).holdings := by
  induction calls generalizing db with
  | nil => exact ⟨h, .refl _⟩
  | cons call calls ih =>
      obtain ⟨hcapacity, hadvances⟩ := h.call call
      obtain ⟨hlater, hadvances'⟩ := ih hcapacity
      exact ⟨hlater, hadvances.trans hadvances'⟩

/-- A database that no remote node holds anything of. -/
structure Unheld (db : Database) : Prop where
  sagas : db.holdings.federationSagaReservations.rows = []
  counters : ∀ order ∈ db.holdings.orders.rows, order.federatedReservedQuantity = 0

end Calls

theorem Unheld.capacity {db : Database} (h : Unheld db) : Capacity db.holdings := by
  have hnone : ∀ {id row}, db.holdings.federationSagaReservations.lookup id ≠ some row := by
    intro id row hrow
    have hmem := Table.mem_of_lookup hrow
    rw [h.sagas] at hmem
    cases hmem
  constructor
  case counters =>
    intro orderId quantity hquantity
    obtain ⟨order, horder, rfl⟩ := Option.map_eq_some_iff.mp hquantity
    rw [h.counters order (Table.mem_of_lookup horder)]
    simp [Holdings.protectedQuantity, Table.total, h.sagas]
  case orders => exact fun hrow => absurd hrow hnone
  case versions => exact fun hrow => absurd hrow hnone
  case nodes => exact fun hrow => absurd hrow hnone

/-! ## The counters in every state -/

section Main

variable [UuidV5] [Sha256] [Prost] [SerdeJson] [SnapshotCodec]

/--
After any calls: the counter of every order is the sum of the holds that are
reserved or confirmed, and within what remains of the order.  A hold leaves
`reserved` once, with one new version, and is the same from then on.  Releasing a
reserved hold succeeds, the sweep of a market succeeds, and no transition reports
that a release failed.
-/
theorem calls_capacity {db : Database} (hunheld : Unheld db) (calls : List Call) :
    let holdings := (db.calls calls).holdings
    (∀ order ∈ holdings.orders.rows,
      order.federatedReservedQuantity =
        ((holdings.federationSagaReservations.rows.filter fun row =>
          row.orderId = order.id ∧ (row.status = .reserved ∨ row.status = .confirmed)).map
            FederationSagaReservationRow.quantity).sum ∧
      order.federatedReservedQuantity ≤ order.remainingQuantity) ∧
    (∀ row ∈ holdings.federationSagaReservations.rows, ∀ further,
      let later := (db.calls (calls ++ further)).holdings.federationSagaReservations
      (row.status ≠ .reserved → later.lookup row.id = some row) ∧
      (row.status = .reserved → later.lookup row.id = some row ∨
        ∃ status, status ≠ .reserved ∧ later.lookup row.id =
          some { row with status := status, version := row.version + 1 })) ∧
    (∀ row ∈ holdings.federationSagaReservations.rows, row.status = .reserved →
      succeeds (releaseOrderCapacity row.orderId row.quantity) holdings = true) ∧
    (∀ marketId now,
      succeeds (expireFederatedReservations marketId now) holdings = true) ∧
    ∀ request now,
      (confirmFederated request now).run holdings ≠ .error (.invalidData
        "federation reservation exceeds the order's protected quantity") ∧
      (abortFederated request now).run holdings ≠ .error (.invalidData
        "federation reservation exceeds the order's protected quantity") := by
  intro holdings
  have hcapacity : Capacity holdings := (hunheld.capacity.calls calls).1
  refine ⟨fun order horder => ⟨?_, ?_⟩, fun row hrow further => ?_, fun row hrow hreserved => ?_,
    fun marketId now => ?_, fun request now => ⟨fun herror => ?_, fun herror => ?_⟩⟩
  · have hcounter : reservedCounter holdings.orders order.id =
        some order.federatedReservedQuantity := by
      have hlookup : holdings.orders.lookup order.id = some order := Table.lookup_of_mem horder
      rw [reservedCounter, hlookup]
      rfl
    have hstatus : ∀ status : SagaStatus,
        status.isProtected = true ↔ status = .reserved ∨ status = .confirmed := by
      intro status
      cases status <;> decide
    rw [hcapacity.counters hcounter, Holdings.protectedQuantity]
    simp only [FederationSagaReservationRow.protects, Table.total_ite, hstatus]
  · have hcheck := holdings.orders.valid.checked order horder
    simp only [orders, decide_eq_true_eq] at hcheck
    omega
  · intro later
    have hadvances : holdings.Advances (db.calls (calls ++ further)).holdings := by
      rw [Database.calls_append]
      exact (hcapacity.calls further).2
    have hlookup : holdings.federationSagaReservations.lookup row.id = some row :=
      Table.lookup_of_mem hrow
    constructor
    · exact hadvances.settled hlookup
    · intro _
      rcases hadvances.sagas hlookup with hsame | ⟨_, hmoved⟩
      · exact .inl hsame
      · exact .inr hmoved
  · have hrelease : Ensures (releaseOrderCapacity row.orderId row.quantity) (fun _ => False)
        holdings fun _ _ => True :=
      hcapacity.ensures_release (Table.lookup_of_mem hrow) hreserved fun _ _ => trivial
    exact hrelease.succeeds
  · exact (hcapacity.ensures_expireFederatedReservations marketId now).succeeds
  · exact (hcapacity.ensures_transitionFederated (.inl rfl)).of_error herror rfl
  · exact (hcapacity.ensures_transitionFederated (.inr rfl)).of_error herror rfl

end Main

/-! ## A held order -/

/-- Five units on offer, of which a node may hold some; nonces are checked as given. -/
def askedMarket (nonceCheck : FederationReplayNonceRow → Bool) : Database where
  markets := .empty
  holdings := {
    accounts := .empty
    orders := ⟨[{
      id := ⟨1⟩
      tenantId := ⟨1⟩
      domainId := ⟨1⟩
      marketId := ⟨1⟩
      reservationAccountId := ⟨1⟩
      settlementAccountId := ⟨2⟩
      side := .sell
      price := 10
      originalQuantity := 5
      remainingQuantity := 5
      federatedReservedQuantity := 0
      status := .open
      acceptedSequence := some 1
      commandEventId := ⟨1⟩
      commandSequence := 1
      idempotencyKey := "ask"
      idempotencyPayloadHash := [] }], by decide⟩
    reservations := .empty
    trades := .empty
    ledgerEntries := .empty
    federationNodes := ⟨[⟨⟨1⟩, .active, 0⟩], by decide⟩
    federationSagaReservations := .empty
    federationReplayNonces := .empty
    nonceCheck := nonceCheck }
  journal := ⟨.empty, .empty, .empty, .empty, .empty, .empty⟩

theorem askedMarket_unheld (nonceCheck : FederationReplayNonceRow → Bool) :
    Unheld (askedMarket nonceCheck) :=
  ⟨rfl, by simp [askedMarket]⟩

/-- A hold of two units that runs out at 100. -/
def holdRequest (idempotencyKey nonce : String) (fencingToken : Int) : ReserveFederated where
  sourceNodeId := ⟨1⟩
  tenantId := ⟨1⟩
  domainId := ⟨1⟩
  marketId := ⟨1⟩
  orderId := ⟨1⟩
  quantity := .literal 2 (.refl true)
  idempotencyKey := idempotencyKey
  requestHash := []
  fencingToken := fencingToken
  nonce := nonce
  expiresAt := 100

def moveRequest (reservationId : ReservationId) (idempotencyKey nonce : String)
    (fencingToken : Int) : FederationTransition where
  sourceNodeId := ⟨1⟩
  reservationId := reservationId
  idempotencyKey := idempotencyKey
  expectedVersion := 1
  fencingToken := fencingToken
  nonce := nonce

/-- Two holds, of which one is confirmed and the other aborted. -/
def confirmedAndAborted : List Call :=
  [.reserveFederated (holdRequest "first" "reserve-nonce-0001" 1) ⟨1⟩ 0,
    .reserveFederated (holdRequest "second" "reserve-nonce-0002" 1) ⟨2⟩ 0,
    .confirmFederated (moveRequest ⟨1⟩ "first" "confirm-nonce-001" 1) 10,
    .abortFederated (moveRequest ⟨2⟩ "second" "abort-nonce-00001" 1) 10]

theorem calls_capacity_confirmedAndAborted :
    let holdings := (@Database.calls UuidV5.positional ⟨id⟩ ⟨fun _ => []⟩ documentedJson
      (OrderBook.documentCodec (OrderBook.new ⟨1⟩).snapshotState "new")
      (askedMarket fun _ => true) confirmedAndAborted).holdings
    holdings.orders.rows.map OrderRow.federatedReservedQuantity = [2] ∧
      holdings.federationSagaReservations.rows.map FederationSagaReservationRow.status =
        [.confirmed, .aborted] ∧
      ∀ order ∈ holdings.orders.rows, order.federatedReservedQuantity =
        ((holdings.federationSagaReservations.rows.filter fun row =>
          row.orderId = order.id ∧ (row.status = .reserved ∨ row.status = .confirmed)).map
            FederationSagaReservationRow.quantity).sum := by
  refine ⟨by decide +kernel, by decide +kernel, fun order horder => ?_⟩
  obtain ⟨hcounters, _⟩ := @calls_capacity UuidV5.positional ⟨id⟩ ⟨fun _ => []⟩
    documentedJson (OrderBook.documentCodec (OrderBook.new ⟨1⟩).snapshotState "new")
    (askedMarket fun _ => true) (askedMarket_unheld _) confirmedAndAborted
  exact (hcounters order horder).1

end MatchPlane
