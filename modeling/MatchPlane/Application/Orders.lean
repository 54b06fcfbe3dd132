import MatchPlane.Storage.Submitted

/-!
# Order placement

`placeOrder` validates a command, fills in what the client left out and submits
the order.  The store tells repetitions by a hash of the filled-in request, so a
command is answered alike only if nothing had to be filled in.

The fresh order identifier, the clock and the identifier of the command are drawn
by the service and passed in.
-/

namespace MatchPlane

open MatchPlane.Library

inductive ApplicationError where
  | validation (message : String)
  | unauthorized (message : String)
  | forbidden (message : String)
  | storage (error : StorageError)
  deriving DecidableEq, Repr

structure PlaceOrderCommand where
  orderId : Option OrderId
  tenantId : TenantId
  domainId : DomainId
  marketId : MarketId
  side : OrderSide
  price : String
  quantity : String
  idempotencyKey : String
  reservationAccountId : AccountId
  settlementAccountId : AccountId
  submittedAt : Option OffsetDateTime
  expiresAt : Option OffsetDateTime
  deriving DecidableEq, Repr

structure PlaceOrderOutcome where
  outcome : SubmitOrderOutcome
  duplicate : Bool
  deriving DecidableEq, Repr

/-! ## Validation -/

/-- The `map_err` on a numeric result. -/
def NumericError.toValidation {α : Type} : Except NumericError α → Except ApplicationError α
  | .ok value => .ok value
  | .error error => .error (.validation error.message)

def parsePrice (value : String) : Except ApplicationError Price :=
  match parseInteger value with
  | some raw => NumericError.toValidation (Price.new raw)
  | none => .error (.validation "price must be a base-10 integer string")

def parseQuantity (value : String) : Except ApplicationError Quantity :=
  match parseInteger value with
  | some raw => NumericError.toValidation (Quantity.new raw)
  | none => .error (.validation "quantity must be a base-10 integer string")

def reservationAmount (side : OrderSide) (price : Price) (quantity : Quantity) :
    Except ApplicationError Quantity :=
  match side with
  | .buy => do
      let gross ← NumericError.toValidation (price.checkedMul quantity)
      NumericError.toValidation (Quantity.new gross)
  | .sell => .ok quantity

/-- The request of a command, with everything that was left out filled in. -/
def orderRequest (nodeId : FederationNodeId) (command : PlaceOrderCommand)
    (freshOrderId : OrderId) (now : OffsetDateTime) :
    Except ApplicationError SubmitOrder := do
  let orderId := command.orderId.getD freshOrderId
  let price ← parsePrice command.price
  let quantity ← parseQuantity command.quantity
  let amount ← reservationAmount command.side price quantity
  let submittedAt := command.submittedAt.getD now
  if command.expiresAt.any (· ≤ submittedAt) then
    .error (.validation "expires_at must be later than submitted_at")
  else
    .ok {
      intent := {
        orderId := orderId
        tenantId := command.tenantId
        domainId := command.domainId
        marketId := command.marketId
        side := command.side
        price := price
        quantity := quantity
        submittedAt := submittedAt
        expiresAt := command.expiresAt }
      idempotencyKey := command.idempotencyKey
      reservationAccountId := command.reservationAccountId
      settlementAccountId := command.settlementAccountId
      reservationAmount := amount
      sourceNodeId := nodeId }

section Place

variable [UuidV5] [Sha256] [Prost] [SerdeJson]

def placeOrder (nodeId : FederationNodeId) (command : PlaceOrderCommand)
    (freshOrderId : OrderId) (now : OffsetDateTime) (commandId : EventId) :
    Transaction ApplicationError Database PlaceOrderOutcome := do
  let request ← orderRequest nodeId command freshOrderId now
  let outcome ← mapError .storage (submitOrder request commandId)
  pure ⟨outcome, outcome.duplicate⟩

end Place

/-! ## Filled-in requests -/

/-- A request with another identifier, another time and from another node. -/
def SubmitOrder.refilled (request : SubmitOrder) (orderId : OrderId)
    (submittedAt : OffsetDateTime) (nodeId : FederationNodeId) : SubmitOrder :=
  { request with
    intent := { request.intent with orderId := orderId, submittedAt := submittedAt }
    sourceNodeId := nodeId }

section Request

variable {nodeId nodeId' : FederationNodeId} {command : PlaceOrderCommand}
  {orderId orderId' : OrderId} {now now' : OffsetDateTime} {request : SubmitOrder}

/-- Everything that a command was checked for, and what it became. -/
theorem orderRequest_eq_ok_iff : orderRequest nodeId command orderId now = .ok request ↔
    ∃ price, parsePrice command.price = .ok price ∧
    ∃ quantity, parseQuantity command.quantity = .ok quantity ∧
    ∃ amount, reservationAmount command.side price quantity = .ok amount ∧
    ¬command.expiresAt.any (· ≤ command.submittedAt.getD now) = true ∧
    { intent := {
        orderId := command.orderId.getD orderId
        tenantId := command.tenantId
        domainId := command.domainId
        marketId := command.marketId
        side := command.side
        price := price
        quantity := quantity
        submittedAt := command.submittedAt.getD now
        expiresAt := command.expiresAt }
      idempotencyKey := command.idempotencyKey
      reservationAccountId := command.reservationAccountId
      settlementAccountId := command.settlementAccountId
      reservationAmount := amount
      sourceNodeId := nodeId } = request := by
  simp only [orderRequest, bind_eq_ok_iff, guard_eq_ok_iff, Except.ok.injEq]

/-- Another attempt at a command differs in what is filled in, or is too late. -/
theorem orderRequest_again (h : orderRequest nodeId command orderId now = .ok request)
    (hopen : ¬command.expiresAt.any (· ≤ command.submittedAt.getD now') = true) :
    orderRequest nodeId' command orderId' now' =
      .ok (request.refilled (command.orderId.getD orderId') (command.submittedAt.getD now')
        nodeId') := by
  obtain ⟨price, hprice, quantity, hquantity, amount, hamount, _, rfl⟩ :=
    orderRequest_eq_ok_iff.mp h
  exact orderRequest_eq_ok_iff.mpr
    ⟨price, hprice, quantity, hquantity, amount, hamount, hopen, rfl⟩

end Request

/-! ## Stored submissions -/

/-- The key of a tenant names one order. -/
theorem orders_find? {t : Table orders} {row : OrderRow} (hrow : row ∈ t.rows) :
    t.rows.find? (fun other => decide (other.tenantId = row.tenantId ∧
      other.idempotencyKey = row.idempotencyKey)) = some row := by
  have hunique : ∀ other ∈ t.rows, other.tenantId = row.tenantId ∧
      other.idempotencyKey = row.idempotencyKey → other = row := by
    intro other hother hsame
    refine Table.eq_of_clash (fun first second => ?_) hother hrow (by simp [orders, hsame])
    simp only [orders, eq_comm]
  cases hfound : t.rows.find? (fun other => decide (other.tenantId = row.tenantId ∧
      other.idempotencyKey = row.idempotencyKey)) with
  | none =>
      rw [List.find?_eq_none] at hfound
      exact absurd (by simp) (hfound row hrow)
  | some other =>
      have hsame := List.find?_some hfound
      rw [hunique other (List.mem_of_find?_eq_some hfound) (of_decide_eq_true hsame)]

section Stored

/-- What the store checks of a request alone. -/
structure SubmitOrder.Admissible (request : SubmitOrder) : Prop where
  reservation : expectedReservation request.intent = .ok request.reservationAmount.value
  idempotencyKey :
    ¬(request.idempotencyKey.isEmpty = true ∨ 200 < request.idempotencyKey.utf8ByteSize)

theorem SubmitOrder.Admissible.refilled {request : SubmitOrder}
    (h : request.Admissible) (orderId : OrderId) (submittedAt : OffsetDateTime)
    (nodeId : FederationNodeId) : (request.refilled orderId submittedAt nodeId).Admissible :=
  ⟨h.reservation, h.idempotencyKey⟩

variable [Sha256] [Prost]

/-- The order that a request is known by. -/
structure Stored (holdings : Holdings) (request : SubmitOrder)
    (outcome : SubmitOrderOutcome) (row : OrderRow) : Prop where
  order : holdings.submittedOrder outcome.orderId = some row
  tenantId : row.tenantId = request.intent.tenantId
  idempotencyKey : row.idempotencyKey = request.idempotencyKey
  payloadHash : row.idempotencyPayloadHash = requestHash request
  commandId : row.commandEventId = outcome.commandId
  shardSequence : row.commandSequence = outcome.shardSequence

variable [UuidV5] [SerdeJson] {db db' : Database} {request : SubmitOrder}
  {commandId : EventId} {outcome : SubmitOrderOutcome}

theorem submitOrder_admissible
    (hrun : (submitOrder request commandId).run db = .ok (outcome, db')) :
    request.Admissible := by
  have hspec : Ensures (submitOrder request commandId) (fun _ => True) db
      fun _ _ => request.Admissible := by
    unfold submitOrder validateReservation
    simp only [ensures_bind, ensures_lift]
    cases hreservation : expectedReservation request.intent with
    | error error => trivial
    | ok amount =>
        simp only [ensures_ite, ensures_bind, ensures_throw, ensures_pure, ensures_get]
        refine ⟨fun _ => trivial, fun hamount => ⟨fun _ => trivial, fun hkey => ?_⟩⟩
        have hadmissible : request.Admissible :=
          ⟨by rw [hreservation, not_not.mp hamount], hkey⟩
        exact (ensures_true _ _).mono (fun _ h => h) fun _ _ _ => hadmissible
  exact hspec.of_ok hrun

theorem submitOrder_stored
    (hrun : (submitOrder request commandId).run db = .ok (outcome, db')) :
    ∃ row, Stored db'.holdings request outcome row := by
  have hpost := (ensures_submitOrder_orders request commandId).of_ok hrun
  cases hpost with
  | @duplicate row hrow htenant hkey hhash =>
      refine ⟨row.submitted, ?_, htenant, hkey, hhash, rfl, rfl⟩
      have hlookup : db.holdings.orders.lookup row.id = some row := Table.lookup_of_mem hrow
      rw [Holdings.submittedOrder, hlookup]
      rfl
  | @logged _ market _ hstored =>
      refine ⟨(request.orderRow commandId market.nextCommandSequence).submitted, ?_, rfl, rfl,
        rfl, rfl, rfl⟩
      have hlookup := Table.lookup_inserted hstored request.intent.orderId
      rw [Holdings.submittedOrder, hlookup]
      exact congrArg (Option.map _) (if_pos rfl)

/-- A request whose key is taken is answered by the stored order or refused. -/
theorem submitOrder_again {first : SubmitOrder} {row : OrderRow}
    (hstored : Stored db.holdings first outcome row) (hadmissible : request.Admissible)
    (htenant : request.intent.tenantId = first.intent.tenantId)
    (hkey : request.idempotencyKey = first.idempotencyKey) :
    (submitOrder request commandId).run db =
      if requestHash request = requestHash first then
        .ok ({ outcome with duplicate := true }, db)
      else .error .idempotencyConflict := by
  obtain ⟨order, horder, hsubmitted⟩ := Option.map_eq_some_iff.mp hstored.order
  have hid : order.id = outcome.orderId := Table.key_of_lookup horder
  have hfields : order.tenantId = request.intent.tenantId ∧
      order.idempotencyKey = request.idempotencyKey ∧
      order.idempotencyPayloadHash = requestHash first ∧
      order.commandEventId = outcome.commandId ∧
      order.commandSequence = outcome.shardSequence := by
    rw [htenant, hkey, ← hstored.tenantId, ← hstored.idempotencyKey, ← hstored.payloadHash,
      ← hstored.commandId, ← hstored.shardSequence, ← hsubmitted]
    exact ⟨rfl, rfl, rfl, rfl, rfl⟩
  obtain ⟨htenant', hkey', hhash, hcommand, hsequence⟩ := hfields
  have hfound := orders_find? (Table.mem_of_lookup horder)
  rw [htenant', hkey'] at hfound
  have hpositive : order.commandSequence ≠ 0 := by
    have hcheck := Table.check_of_lookup horder
    simp only [orders, decide_eq_true_eq, isSequence_iff] at hcheck
    omega
  have hspec : Ensures (submitOrder request commandId)
      (fun error => requestHash request ≠ requestHash first ∧ error = .idempotencyConflict) db
      fun result db' => requestHash request = requestHash first ∧
        result = { outcome with duplicate := true } ∧ db' = db := by
    unfold submitOrder validateReservation
    simp only [ensures_bind, ensures_lift, hadmissible.reservation]
    simp only [ensures_ite, ensures_bind, ensures_throw, ensures_pure, ensures_get, hfound]
    refine ⟨fun hne => absurd rfl hne, fun _ => ⟨fun hinvalid => ?_, fun _ => ?_⟩⟩
    · exact absurd hinvalid hadmissible.idempotencyKey
    · rw [hhash]
      refine ⟨fun hne => ⟨fun heq => hne heq.symm, trivial⟩, fun heq => ?_⟩
      refine ensures_positiveU64 (fun hzero => absurd hzero hpositive) fun _ => ?_
      refine ⟨(not_not.mp heq).symm, ?_, rfl⟩
      rw [hid, hcommand, hsequence]
  cases hrun : (submitOrder request commandId).run db with
  | error error =>
      obtain ⟨hne, rfl⟩ := hspec.of_error hrun
      rw [if_neg hne]
  | ok result =>
      obtain ⟨heq, hresult, hdb⟩ := hspec.of_ok hrun
      rw [if_pos heq, ← hresult, ← hdb]

end Stored

/-! ## Repeated commands -/

section Repeat

variable [UuidV5] [Sha256] [Prost] [SerdeJson]

/--
The hash of a request tells some other identifier, and some later time, apart:
it is not constant in what the service fills in.
-/
structure HashSeparates : Prop where
  orderId : ∀ request : SubmitOrder, ∃ orderId, requestHash (request.refilled orderId
    request.intent.submittedAt request.sourceNodeId) ≠ requestHash request
  submittedAt : ∀ request : SubmitOrder, ∃ time, request.intent.submittedAt ≤ time ∧
    requestHash (request.refilled request.intent.orderId time request.sourceNodeId) ≠
      requestHash request

variable {nodeId : FederationNodeId} {command : PlaceOrderCommand} {orderId : OrderId}
  {now : OffsetDateTime} {commandId : EventId} {db db' : Database}

theorem placeOrder_run {request : SubmitOrder}
    (hrequest : orderRequest nodeId command orderId now = .ok request) :
    (placeOrder nodeId command orderId now commandId).run db =
      match (submitOrder request commandId).run db with
      | .ok (outcome, db') => .ok (⟨outcome, outcome.duplicate⟩, db')
      | .error error => .error (.storage error) := by
  unfold placeOrder
  rw [hrequest]
  change (mapError .storage (submitOrder request commandId) >>= fun outcome =>
    pure (PlaceOrderOutcome.mk outcome outcome.duplicate) :
      Transaction ApplicationError Database PlaceOrderOutcome).run db = _
  rw [StateT.run_bind]
  simp only [mapError, StateT.run]
  cases submitOrder request commandId db with
  | error error => rfl
  | ok result => rfl

theorem placeOrder_run_error {error : ApplicationError}
    (hrequest : orderRequest nodeId command orderId now = .error error) :
    (placeOrder nodeId command orderId now commandId).run db = .error error := by
  unfold placeOrder
  rw [hrequest]
  rfl

/-- A placement that returned had its request filled in and submitted. -/
theorem placeOrder_submitted {outcome : PlaceOrderOutcome}
    (hrun : (placeOrder nodeId command orderId now commandId).run db = .ok (outcome, db')) :
    ∃ request, orderRequest nodeId command orderId now = .ok request ∧
      (submitOrder request commandId).run db = .ok (outcome.outcome, db') := by
  cases hrequest : orderRequest nodeId command orderId now with
  | error error =>
      rw [placeOrder_run_error hrequest] at hrun
      cases hrun
  | ok request =>
      rw [placeOrder_run hrequest] at hrun
      cases hsubmit : (submitOrder request commandId).run db with
      | error error =>
          rw [hsubmit] at hrun
          cases hrun
      | ok result =>
          rw [hsubmit] at hrun
          cases hrun
          exact ⟨request, rfl, hsubmit⟩

variable [SnapshotCodec]

/--
A command that was placed is answered with the original order ever after, and
changes nothing, exactly if it carried its own identifier and its own time.
-/
theorem placeOrder_answersAlike_iff (hseparates : HashSeparates)
    {outcome : PlaceOrderOutcome}
    (hrun : (placeOrder nodeId command orderId now commandId).run db = .ok (outcome, db')) :
    (∀ further nodeId' orderId' now' commandId', now ≤ now' →
      (placeOrder nodeId' command orderId' now' commandId').run (db'.calls further) =
        .ok (⟨{ outcome.outcome with duplicate := true }, true⟩, db'.calls further)) ↔
      command.orderId.isSome = true ∧ command.submittedAt.isSome = true := by
  obtain ⟨request, hrequest, hsubmit⟩ := placeOrder_submitted hrun
  have hadmissible := submitOrder_admissible hsubmit
  obtain ⟨row, hstored⟩ := submitOrder_stored hsubmit
  obtain ⟨_, _, _, _, _, _, hopen, hfields⟩ := orderRequest_eq_ok_iff.mp hrequest
  have horderId : request.intent.orderId = command.orderId.getD orderId := by rw [← hfields]
  have hsubmittedAt : request.intent.submittedAt = command.submittedAt.getD now := by
    rw [← hfields]
  have hnodeId : request.sourceNodeId = nodeId := by rw [← hfields]
  constructor
  · intro halike
    -- A repetition whose hash differs is refused, so it is not answered alike.
    have hconflict : ∀ orderId' now', now ≤ now' →
        requestHash (request.refilled (command.orderId.getD orderId')
          (command.submittedAt.getD now') nodeId) = requestHash request := by
      intro orderId' now' hnow
      have hagain := halike [] nodeId orderId' now' commandId hnow
      obtain ⟨request', hrequest', hsubmit'⟩ := placeOrder_submitted hagain
      obtain ⟨_, _, _, _, _, _, hopen', _⟩ := orderRequest_eq_ok_iff.mp hrequest'
      rw [orderRequest_again hrequest hopen', Except.ok.injEq] at hrequest'
      have hadmissible' := hadmissible.refilled (command.orderId.getD orderId')
        (command.submittedAt.getD now') nodeId
      rw [← hrequest'] at hsubmit'
      replace hsubmit' := (submitOrder_again hstored hadmissible' rfl rfl).symm.trans hsubmit'
      by_contra hne
      rw [if_neg hne] at hsubmit'
      cases hsubmit'
    constructor
    · by_contra hnone
      rw [Bool.not_eq_true, Option.isSome_eq_false_iff, Option.isNone_iff_eq_none] at hnone
      obtain ⟨other, hother⟩ := hseparates.orderId request
      have hsame := hconflict other now (le_refl _)
      rw [hnone, Option.getD_none, ← hsubmittedAt, ← hnodeId] at hsame
      exact hother hsame
    · by_contra hnone
      rw [Bool.not_eq_true, Option.isSome_eq_false_iff, Option.isNone_iff_eq_none] at hnone
      obtain ⟨time, hlater, htime⟩ := hseparates.submittedAt request
      rw [hsubmittedAt, hnone, Option.getD_none] at hlater
      have hsame := hconflict orderId time hlater
      rw [hnone, Option.getD_none, ← horderId, ← hnodeId] at hsame
      exact htime hsame
  · rintro ⟨hid, htime⟩ further nodeId' orderId' now' commandId' _
    obtain ⟨id, hid⟩ := Option.isSome_iff_exists.mp hid
    obtain ⟨time, htime⟩ := Option.isSome_iff_exists.mp htime
    rw [htime, Option.getD_some] at hopen hsubmittedAt
    rw [hid, Option.getD_some] at horderId
    have hagain : orderRequest nodeId' command orderId' now' = .ok (request.refilled
        (command.orderId.getD orderId') (command.submittedAt.getD now') nodeId') :=
      orderRequest_again hrequest (by rwa [htime, Option.getD_some])
    rw [hid, htime, Option.getD_some, Option.getD_some, ← horderId, ← hsubmittedAt] at hagain
    have hlater : Stored (db'.calls further).holdings request outcome.outcome row :=
      { hstored with order := calls_submittedOrder hstored.order further }
    have hadmissible' := hadmissible.refilled request.intent.orderId
      request.intent.submittedAt nodeId'
    have hsame : requestHash (request.refilled request.intent.orderId
        request.intent.submittedAt nodeId') = requestHash request := rfl
    rw [placeOrder_run hagain, submitOrder_again hlater hadmissible' rfl rfl, if_pos hsame]

end Repeat

/-! ## An offer placed twice -/

/-- An encoder that shows the identifier and the time of a placement. -/
@[reducible] def Prost.identifying : Prost where
  encodeToVec
    | .matchingCommand (.placeLimitOrder place) =>
        [UInt8.ofNat place.intent.orderId.uuid, UInt8.ofInt place.intent.submittedAt]
    | _ => []

theorem HashSeparates.identifying : @HashSeparates ⟨id⟩ Prost.identifying := by
  refine @HashSeparates.mk ⟨id⟩ Prost.identifying ?_ ?_
  · intro request
    refine ⟨⟨request.intent.orderId.uuid + 1⟩, ?_⟩
    change [UInt8.ofNat (request.intent.orderId.uuid + 1),
      UInt8.ofInt request.intent.submittedAt] ≠
        [UInt8.ofNat request.intent.orderId.uuid, UInt8.ofInt request.intent.submittedAt]
    simp
  · intro request
    refine ⟨request.intent.submittedAt + 1, Int.le_add_one (le_refl _), ?_⟩
    change [UInt8.ofNat request.intent.orderId.uuid,
      UInt8.ofInt (request.intent.submittedAt + 1)] ≠
        [UInt8.ofNat request.intent.orderId.uuid, UInt8.ofInt request.intent.submittedAt]
    simp [UInt8.ofInt_add]

def askCommand (orderId : Option OrderId) (submittedAt : Option OffsetDateTime) :
    PlaceOrderCommand where
  orderId := orderId
  tenantId := ⟨1⟩
  domainId := ⟨1⟩
  marketId := ⟨1⟩
  side := .sell
  price := "12"
  quantity := "3"
  idempotencyKey := "ask"
  reservationAccountId := ⟨1⟩
  settlementAccountId := ⟨2⟩
  submittedAt := submittedAt
  expiresAt := none

theorem placeOrder_answersAlike_iff_bothGiven :
    ∃ outcome db', (@placeOrder UuidV5.positional ⟨id⟩ Prost.identifying documentedJson ⟨1⟩
        (askCommand (some ⟨7⟩) (some 0)) ⟨8⟩ 5 ⟨1⟩).run smallMarket = .ok (outcome, db') ∧
      outcome.duplicate = false ∧
      ∀ further nodeId' orderId' now' commandId', 5 ≤ now' →
        let later := @Database.calls UuidV5.positional ⟨id⟩ Prost.identifying documentedJson
          (OrderBook.documentCodec (OrderBook.new ⟨1⟩).snapshotState "new") db' further
        (@placeOrder UuidV5.positional ⟨id⟩ Prost.identifying documentedJson nodeId'
          (askCommand (some ⟨7⟩) (some 0)) orderId' now' commandId').run later =
            .ok (⟨{ outcome.outcome with duplicate := true }, true⟩, later) := by
  have hduplicate : ((@placeOrder UuidV5.positional ⟨id⟩ Prost.identifying documentedJson ⟨1⟩
      (askCommand (some ⟨7⟩) (some 0)) ⟨8⟩ 5 ⟨1⟩).run smallMarket).toOption.map
        (fun result => result.1.duplicate) = some false := by
    decide +kernel
  cases hrun : (@placeOrder UuidV5.positional ⟨id⟩ Prost.identifying documentedJson ⟨1⟩
      (askCommand (some ⟨7⟩) (some 0)) ⟨8⟩ 5 ⟨1⟩).run smallMarket with
  | error error =>
      rw [hrun] at hduplicate
      cases hduplicate
  | ok result =>
      rw [hrun] at hduplicate
      refine ⟨result.1, result.2, rfl, Option.some.inj hduplicate, ?_⟩
      exact (@placeOrder_answersAlike_iff UuidV5.positional ⟨id⟩ Prost.identifying
        documentedJson _ _ _ _ _ _ _
        (OrderBook.documentCodec (OrderBook.new ⟨1⟩).snapshotState "new")
        HashSeparates.identifying _ hrun).mpr ⟨rfl, rfl⟩

/-- The retry of an offer without an identifier is another request under the same key. -/
theorem placeOrder_withoutId_not_answersAlike :
    ∃ outcome db', (@placeOrder UuidV5.positional ⟨id⟩ Prost.identifying documentedJson ⟨1⟩
        (askCommand none (some 0)) ⟨8⟩ 5 ⟨1⟩).run smallMarket = .ok (outcome, db') ∧
      (@placeOrder UuidV5.positional ⟨id⟩ Prost.identifying documentedJson ⟨1⟩
        (askCommand none (some 0)) ⟨9⟩ 5 ⟨2⟩).run db' =
          .error (.storage .idempotencyConflict) := by
  have hanswers : ((@placeOrder UuidV5.positional ⟨id⟩ Prost.identifying documentedJson ⟨1⟩
      (askCommand none (some 0)) ⟨8⟩ 5 ⟨1⟩).run smallMarket).toOption.map
        (fun result => match (@placeOrder UuidV5.positional ⟨id⟩ Prost.identifying
          documentedJson ⟨1⟩ (askCommand none (some 0)) ⟨9⟩ 5 ⟨2⟩).run result.2 with
          | .ok _ => none
          | .error error => some error) = some (some (.storage .idempotencyConflict)) := by
    decide +kernel
  cases hrun : (@placeOrder UuidV5.positional ⟨id⟩ Prost.identifying documentedJson ⟨1⟩
      (askCommand none (some 0)) ⟨8⟩ 5 ⟨1⟩).run smallMarket with
  | error error =>
      rw [hrun] at hanswers
      cases hanswers
  | ok result =>
      rw [hrun] at hanswers
      refine ⟨result.1, result.2, rfl, ?_⟩
      replace hanswers := Option.some.inj hanswers
      dsimp only at hanswers
      split at hanswers
      · cases hanswers
      · rename_i error herror
        rw [herror, Option.some.inj hanswers]

end MatchPlane
