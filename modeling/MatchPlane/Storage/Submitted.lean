import MatchPlane.Storage.Calls
import MatchPlane.Storage.Frames

/-!
# What an order was submitted with

Calls advance the progress of an order and the quantity that remote nodes hold of
it, and leave alone what it was submitted with.  Order rows are never deleted.
-/

namespace MatchPlane

open MatchPlane.Library

/-- An order row as it was when it was submitted. -/
def OrderRow.submitted (row : OrderRow) : OrderRow :=
  { row with
    remainingQuantity := row.originalQuantity
    federatedReservedQuantity := 0
    status := .pending
    acceptedSequence := none }

namespace Holdings

def submittedOrder (holdings : Holdings) (orderId : OrderId) : Option OrderRow :=
  (holdings.orders.lookup orderId).map OrderRow.submitted

theorem ignoresFunds_submittedOrder : IgnoresFunds submittedOrder where
  accounts := fun _ _ => rfl
  reservations := fun _ _ => rfl
  trades := fun _ _ => rfl
  ledgerEntries := fun _ _ => rfl

theorem keeps_orderUpdate {orderId : OrderId} {guard : OrderRow → Bool}
    {set : OrderRow → OrderRow} (hset : ∀ row, (set row).submitted = row.submitted)
    (hid : ∀ row, (set row).id = row.id) :
    Keeps submittedOrder (orderTable.on
      (Table.update StorageError.sqlx orderId guard set)) := by
  intro holdings
  rw [ensures_on]
  refine Table.ensures_update trivial fun t ht => ?_
  funext id
  change (t.lookup id).map OrderRow.submitted = (holdings.orders.lookup id).map _
  rw [Table.lookup_replaced ht hid]
  split
  · rename_i heq
    rw [heq, Option.map_map]
    refine Option.map_congr fun row _ => ?_
    simp only [Function.comp]
    split
    · exact hset row
    · rfl
  · rfl

theorem ignoresProgress_submittedOrder : IgnoresProgress submittedOrder :=
  fun holdings _ _ _ _ _ => keeps_orderUpdate (by intro; rfl) (by intro; rfl) holdings

theorem keeps_releaseOrderCapacity (orderId : OrderId) (quantity : Int) :
    Keeps submittedOrder (releaseOrderCapacity orderId quantity) := by
  refine (keeps_orderUpdate (by intro; rfl) (by intro; rfl)).bind fun _ => ?_
  exact (keeps_require _ _).bind fun _ => keeps_pure _

theorem keeps_reserveFederated (request : ReserveFederated) (reservationId : ReservationId)
    (now : OffsetDateTime) :
    Keeps submittedOrder (reserveFederated request reservationId now) := by
  have hlock : Keeps submittedOrder (lockFederationNode request) := by
    refine keeps_get.bind fun _ => (keeps_require _ _).bind fun _ => ?_
    refine (keeps_throw _).ite ((keeps_throw _).ite ?_)
    exact (keeps_on fun _ _ => rfl).bind fun _ => keeps_pure _
  have hcapacity : Keeps submittedOrder (lockOrderCapacity request) := by
    refine (keeps_orderUpdate (by intro; rfl) (by intro; rfl)).bind fun _ => ?_
    exact (keeps_require _ _).bind fun _ => keeps_pure _
  have hvalid : Keeps submittedOrder (validateReserve request) := by
    refine ((keeps_throw _).ite (keeps_pure _)).bind fun _ => ?_
    refine ((keeps_throw _).ite (keeps_pure _)).bind fun _ => ?_
    exact (keeps_throw _).ite (keeps_pure _)
  refine hvalid.bind fun _ => keeps_get.bind fun holdings => ?_
  dsimp only
  split
  · exact (keeps_throw _).ite (keeps_pure _)
  · refine (keeps_throw _).ite (hlock.bind fun _ => hcapacity.bind fun _ => ?_)
    exact (keeps_on fun _ _ => rfl).bind fun _ => keeps_pure _

theorem keeps_transitionFederated (request : FederationTransition) (target : SagaStatus)
    (now : OffsetDateTime) :
    Keeps submittedOrder (transitionFederated request target now) := by
  have hvalid : Keeps submittedOrder (validateTransition request) := by
    refine ((keeps_throw _).ite (keeps_pure _)).bind fun _ => (keeps_throw _).ite ?_
    refine ((keeps_throw _).ite (keeps_pure _)).bind fun _ => ?_
    exact (keeps_throw _).ite (keeps_pure _)
  have hnonce : Keeps submittedOrder (registerTransitionNonce request target.text) := by
    refine keeps_get.bind fun _ => (keeps_throw _).ite ?_
    refine (keeps_on fun _ _ => rfl).bind fun _ => Keeps.ite ?_ (keeps_pure _)
    refine keeps_get.bind fun _ => (keeps_require _ _).bind fun _ => ?_
    exact (keeps_throw _).ite (keeps_pure _)
  have hupdate : ∀ version status,
      Keeps submittedOrder (updateReservationStatus request.reservationId version status) := by
    intro version status
    refine (keeps_on fun _ _ => rfl).bind fun _ => ?_
    exact (keeps_require _ _).bind fun _ => keeps_pure _
  refine hvalid.bind fun _ => keeps_get.bind fun _ => (keeps_require _ _).bind fun row => ?_
  refine (keeps_throw _).ite ((keeps_throw _).ite ((keeps_throw _).ite ?_))
  refine hnonce.bind fun _ => (keeps_pure _).ite ((keeps_throw _).ite (Keeps.ite ?_ ?_))
  · exact (keeps_releaseOrderCapacity _ _).bind fun _ => hupdate _ _
  · refine (keeps_throw _).ite (Keeps.ite ?_ (hupdate _ _))
    exact (keeps_releaseOrderCapacity _ _).bind fun _ => hupdate _ _

theorem keeps_expireFederatedReservations (marketId : MarketId) (now : OffsetDateTime) :
    Keeps submittedOrder (expireFederatedReservations marketId now) := by
  refine keeps_get.bind fun _ => keeps_forM fun row => ?_
  refine (keeps_releaseOrderCapacity _ _).bind fun _ => ?_
  exact (keeps_on fun _ _ => rfl).bind fun _ => keeps_pure _

end Holdings

/-! ## Submissions -/

section Calls

variable [UuidV5] [Sha256] [Prost]

/-- A new order is stored as the request has it. -/
theorem ensures_storeOrder {holdings : Holdings} (request : SubmitOrder)
    (commandId : EventId) (sequence : Nat) :
    Ensures (storeOrder request commandId sequence) (fun _ => True) holdings
      fun _ holdings' => holdings'.orders.rows =
        holdings.orders.rows ++ [request.orderRow commandId sequence] := by
  have hhold : Keeps Holdings.orders (holdSubmissionReservation request commandId) := by
    refine (keeps_on fun _ _ => rfl).bind fun _ => (keeps_require _ _).bind fun _ => ?_
    exact keeps_on fun _ _ => rfl
  unfold storeOrder
  simp only [ensures_bind, ensures_on]
  refine ensures_i64Sequence (fun _ => trivial) fun _ => ?_
  refine Table.ensures_insert trivial fun orders horders => ?_
  refine (hhold _).mono (fun _ h => h) fun _ holdings' hsame => ?_
  rw [hsame]
  exact horders

variable [SerdeJson]

/-- The order of a submission, as the transaction leaves it. -/
theorem ensures_submitOrder_orders {db : Database} (request : SubmitOrder)
    (commandId : EventId) :
    Ensures (submitOrder request commandId) (fun _ => True) db (SubmitPost db request commandId
      fun market holdings => holdings.orders.rows = db.holdings.orders.rows ++
        [request.orderRow commandId market.nextCommandSequence]) := by
  refine ensures_submitOrder fun market _ => ?_
  have hscope : Keeps id (ensureAccountScope request.intent.tenantId
      request.reservationAccountId request.settlementAccountId request.intent.side market) :=
    keeps_ensureAccountScope _ _ _ _ _
  refine (hscope db.holdings).mono (fun _ h => h) fun _ holdings hsame => ?_
  rw [id, id] at hsame
  rw [hsame]
  exact ensures_storeOrder request commandId _

variable [SnapshotCodec]

theorem call_submittedOrder {db : Database} {orderId : OrderId} {row : OrderRow}
    (hrow : db.holdings.submittedOrder orderId = some row) (call : Call) :
    (db.call call).holdings.submittedOrder orderId = some row := by
  have hspec : Ensures call.transaction (fun _ => True) db fun _ db' =>
      db'.holdings.submittedOrder orderId = some row := by
    have hkept : ∀ {α : Type} {x : Tx Holdings α}, Keeps Holdings.submittedOrder x →
        Ensures (do let _ ← x) (fun _ => True) db.holdings fun _ holdings =>
          holdings.submittedOrder orderId = some row := by
      intro α x hx
      rw [ensures_bind]
      refine (hx db.holdings).mono (fun _ h => h) fun _ holdings hsame => ?_
      rw [ensures_pure, hsame, hrow]
    cases call with
    | submitOrder request commandId =>
        rw [Call.transaction, ensures_bind]
        refine (ensures_submitOrder_orders request commandId).mono (fun _ h => h) ?_
        intro _ db' hpost
        cases hpost with
        | duplicate _ _ _ _ => exact hrow
        | logged _ hstored =>
            obtain ⟨stored, hlookup, hsubmitted⟩ := Option.map_eq_some_iff.mp hrow
            rw [ensures_pure, Holdings.submittedOrder,
              Table.lookup_inserted_of_some hstored hlookup, Option.map_some, hsubmitted]
    | reserveFederated request reservationId now =>
        rw [Call.transaction, ensures_on]
        exact hkept (Holdings.keeps_reserveFederated request reservationId now)
    | confirmFederated request now =>
        rw [Call.transaction, ensures_on]
        exact hkept (Holdings.keeps_transitionFederated request .confirmed now)
    | abortFederated request now =>
        rw [Call.transaction, ensures_on]
        exact hkept (Holdings.keeps_transitionFederated request .aborted now)
    | commitMatching consumerName ownerInstanceId ownerNodeId decoded book events now
        snapshotId =>
        have hexpire := Holdings.keeps_expireFederatedReservations decoded.envelope.marketId
          now db.holdings
        have hcommit : Ensures (commitMatching consumerName ownerInstanceId ownerNodeId decoded
            book events now snapshotId) (fun _ => True) db (CommitPost db consumerName decoded
              book events (fun holdings => holdings.submittedOrder orderId = some row)
              fun holdings => holdings.submittedOrder orderId = some row) := by
          refine ensures_commitMatching (CommitFailures.of_forall _ _ _ _ _) (fun _ => ?_)
            fun _ holdings token hexpired => ?_
          · refine hexpire.mono (fun _ h => h) fun _ holdings hsame => ?_
            rw [hsame, hrow]
          · refine (keeps_settleCommand Holdings.ignoresFunds_submittedOrder
              Holdings.ignoresProgress_submittedOrder _ _ _ _ _ holdings).mono
              (fun _ h => h) fun _ holdings' hsame => ?_
            rw [hsame, hexpired]
        rw [Call.transaction, ensures_bind]
        refine hcommit.mono (fun _ h => h) fun _ db' hpost => ?_
        cases hpost with
        | again _ => exact hrow
        | duplicate _ _ _ hexpired => exact hexpired
        | applied _ _ hsettled => exact hsettled
  exact hspec.committed hrow

theorem calls_submittedOrder {db : Database} {orderId : OrderId} {row : OrderRow}
    (hrow : db.holdings.submittedOrder orderId = some row) (calls : List Call) :
    (db.calls calls).holdings.submittedOrder orderId = some row := by
  induction calls generalizing db with
  | nil => exact hrow
  | cons call calls ih => exact ih (call_submittedOrder hrow call)

end Calls

end MatchPlane
