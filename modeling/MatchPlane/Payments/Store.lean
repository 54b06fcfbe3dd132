import MatchPlane.Payments.Schema

/-!
# Payment operations

Each operation of the payment store is one transaction.  Clocks and fresh
identifiers are passed in: `now` is the clock of the service and `createdAt` that
of the database.
-/

namespace MatchPlane

open MatchPlane.Library

inductive Environment where
  | development
  | test
  | production
  deriving DecidableEq, Repr

structure GatewayConfig where
  gatewayId : PaymentGatewayId
  kind : GatewayKind
  mode : GatewayMode
  credentialSecretRef : Option String
  version : Nat
  credentialDigest : Option Bytes
  deriving DecidableEq, Repr

structure NewPayment where
  paymentId : PaymentId
  tenantId : TenantId
  offlineDealId : Option OfflineDealId
  payerPartyId : Option MarketplacePartyId
  merchantOrderId : String
  idempotencyKey : String
  requestHash : Bytes
  transactionChannel : String
  purpose : String
  paymentMethod : String
  amount : Int
  commissionAmount : Int
  currency : String
  currencyScale : Int
  deriving DecidableEq, Repr

structure PreparedPayment where
  payment : PaymentIntentRow
  gateway : GatewayConfig
  duplicate : Bool
  deriving DecidableEq, Repr

structure PreparedOperation where
  payment : PaymentIntentRow
  gateway : GatewayConfig
  execute : Bool
  deriving DecidableEq, Repr

structure NewRefund where
  refundId : RefundId
  tenantId : TenantId
  paymentId : PaymentId
  idempotencyKey : String
  requestHash : Bytes
  amount : Int
  reason : String
  deriving DecidableEq, Repr

structure PreparedRefund where
  payment : PaymentIntentRow
  refund : PaymentRefundRow
  gateway : GatewayConfig
  execute : Bool
  deriving DecidableEq, Repr

/-! ## Transition tables -/

def reconciliationTransitionAllowed (source target : IntentStatus) : Bool :=
  decide (source = target) ||
    match source with
    | .requested | .requiresAction | .pending | .unknown => decide
        (target ∈ [.requiresAction, .authorized, .captured, .voided, .pending, .failed, .unknown])
    | .authorized => decide
        (target ∈ [.authorized, .captured, .voided, .pending, .failed, .unknown])
    | .capturePending => decide (target ∈ [.authorized, .captured, .pending, .failed, .unknown])
    | .voidPending => decide (target ∈ [.authorized, .voided, .pending, .failed, .unknown])
    | .captured | .voided | .failed => false

def reconciliationCanBecomeUnknown (status : IntentStatus) : Bool :=
  status ∈ [.requested, .requiresAction, .authorized, .pending, .capturePending, .voidPending,
    .unknown]

def refundTransitionAllowed (current target : StoredRefundStatus) : Bool :=
  decide (current = target) ||
    match current with
    | .requested | .pending | .unknown =>
        decide (target ∈ [.pending, .succeeded, .failed, .unknown])
    | .succeeded | .failed => false

def isUnknown : PaymentError → Bool
  | .unknownOutcome | .transport _ => true
  | _ => false

/-! ## Reading -/

/-- A stored amount as a 128-bit integer. -/
def exact (value : Int) : Except StoreError Int :=
  if InI128 value then .ok value else .error (.invalid "database amount exceeds exact i128")

/-- The `?` on a payment error. -/
def PaymentError.toStore {α : Type} : Except PaymentError α → Except StoreError α
  | .ok value => .ok value
  | .error error => .error (.payment error)

/-- `ORDER BY created_at DESC LIMIT 1`; of equally old rows, the last one stored. -/
def newest {ρ : Type} (createdAt : ρ → OffsetDateTime) (rows : List ρ) : Option ρ :=
  rows.foldl (fun best row =>
    if best.any fun other => createdAt row < createdAt other then best else some row) none

/-- `payment_in` and `payment_in_for_update`; serial transactions need no lock. -/
def paymentIn (paymentId : PaymentId) : PayTx PaymentDatabase PaymentIntentRow := do
  (← get).payments.lookup paymentId |> require (.notFound "payment")

def refundIn (refundId : RefundId) : PayTx PaymentDatabase PaymentRefundRow := do
  (← get).refunds.lookup refundId |> require (.notFound "refund")

def gatewayFromRow (row : GatewayConfigRow) (credentialDigest : Option Bytes) :
    Except StoreError GatewayConfig :=
  if row.version = 0 then
    .error (.payment (.invalid "payment gateway configuration version must be positive"))
  else
    .ok {
      gatewayId := row.id
      kind := row.kind
      mode := row.mode
      credentialSecretRef := row.credentialSecretRef
      version := row.version
      credentialDigest := credentialDigest }

/-- The gateway of a payment, if its configuration is still the pinned one. -/
def gatewayIn (paymentId : PaymentId) : PayTx PaymentDatabase GatewayConfig := do
  let db ← get
  let pinned := db.payments.lookup paymentId |>.bind fun payment =>
    db.surroundings.gateways.find? fun gateway =>
      gateway.tenantId = payment.tenantId ∧ gateway.id = payment.gatewayId ∧
        gateway.version = payment.gatewayConfigVersion ∧
        gateway.credentialSecretRef = payment.gatewayCredentialSecretRef ∧
        gateway.credentialSecretDigest = payment.gatewayCredentialDigest
  let gateway ← require (.notFound "pinned payment gateway configuration") pinned
  gatewayFromRow gateway gateway.credentialSecretDigest

/-! ## Writing -/

def insertPaymentEvent (event : PaymentEventRow) : PayTx PaymentDatabase Unit :=
  modify fun db => { db with events := db.events ++ [event] }

/-- `UPDATE payment_intents SET … WHERE id = $1`. -/
def updatePayment (paymentId : PaymentId) (set : PaymentIntentRow → PaymentIntentRow) :
    PayTx PaymentDatabase Unit := do
  let _ ← PaymentDatabase.paymentTable.on
    (Table.update .database paymentId (fun _ => true) set)

/-- The commission of a captured platform commission is what was captured. -/
def PaymentIntentRow.settledCommission (row : PaymentIntentRow) (target : IntentStatus)
    (capturedAmount : Int) : Int :=
  if target = .captured ∧ row.purpose = "platform_commission" then capturedAmount
  else row.commissionAmount

/-! ## Authorization -/

/-- An offline commission is authorized by the seller, in the currency of an open deal. -/
def ensureDealAuthorization (command : NewPayment) (now : OffsetDateTime) :
    PayTx PaymentDatabase Unit := do
  match command.offlineDealId with
  | none => pure ()
  | some offlineDealId =>
      let found := (← get).surroundings.offlineDeals.find? fun deal =>
        deal.tenantId = command.tenantId ∧ deal.id = offlineDealId
      let deal ← require (.notFound "offline deal") found
      if command.payerPartyId ≠ some deal.sellerPartyId then
        throw (.invalid "offline commission must be paid or authorized by the matched seller")
      let stored ← require .database deal.commissionAmount
      let commissionAmount ← exact stored
      if command.currency ≠ deal.currency ∨ command.currencyScale ≠ deal.currencyScale then
        throw (.invalid "offline commission currency must match the deal")
      if command.amount < commissionAmount then
        throw (.invalid
          "offline commission authorization cannot be below the stored deal commission")
      if deal.status ∈ [.declined, .expired, .disputed, .completed] then
        throw (.conflict "offline deal is not available for commission authorization")
      if deal.expiresAt ≤ now then
        throw (.conflict "offline deal has expired")

/-- Exact method before wildcard, then exact currency, then priority and identifier. -/
def PaymentRouteRow.rank (command : NewPayment) (route : PaymentRouteRow) :
    Nat ×ₗ Nat ×ₗ Nat ×ₗ Uuid :=
  toLex (if route.methodCode = command.paymentMethod then 0 else 1,
    toLex (if route.currency = command.currency then 0 else 1,
      toLex (route.priority, route.id)))

def activeRoute (surroundings : Surroundings) (command : NewPayment) (activeMode : GatewayMode) :
    Option GatewayConfigRow :=
  let usable := surroundings.routes.filterMap fun route =>
    if route.tenantId = command.tenantId ∧ route.enabled ∧
        route.methodCode ∈ [command.paymentMethod, "*"] ∧
        route.currency ∈ [command.currency, "*"] then
      (surroundings.gateways.find? fun gateway => gateway.id = route.gatewayId ∧
        gateway.enabled ∧ gateway.mode = activeMode).map (route, ·)
    else none
  (usable.argmin fun (route, _) => route.rank command).map Prod.snd

def prepareAuthorization (environment : Environment) (command : NewPayment)
    (now createdAt : OffsetDateTime) : PayTx PaymentDatabase PreparedPayment := do
  let known := (← get).payments.rows.find? fun row =>
    row.tenantId = command.tenantId ∧ row.idempotencyKey = command.idempotencyKey
  match known with
  | some row =>
      if row.requestHash ≠ command.requestHash then throw .idempotencyConflict
      let payment ← paymentIn row.id
      let gateway ← gatewayIn payment.id
      if environment = .production ∧ gateway.mode = .test then
        throw (.invalid "production cannot execute payments through a test gateway")
      pure ⟨payment, gateway, true⟩
  | none =>
      ensureDealAuthorization command now
      let surroundings := (← get).surroundings
      let activeMode ← require (.notFound "payment settings")
        (surroundings.activeMode command.tenantId)
      let route ← require (.notFound "active payment route")
        (activeRoute surroundings command activeMode)
      let gateway ← gatewayFromRow route route.credentialSecretDigest
      if environment = .production ∧ gateway.mode = .test then
        throw (.invalid "production cannot authorize through a test gateway")
      if gateway.mode = .production ∧ gateway.credentialDigest = none then
        throw (.payment (.credential
          "payment gateway is missing an immutable credential digest; re-save it before enabling payments"))
      PaymentDatabase.paymentTable.on (Table.insert .database {
        id := command.paymentId
        tenantId := command.tenantId
        gatewayId := gateway.gatewayId
        offlineDealId := command.offlineDealId
        payerPartyId := command.payerPartyId
        merchantOrderId := command.merchantOrderId
        idempotencyKey := command.idempotencyKey
        requestHash := command.requestHash
        transactionChannel := command.transactionChannel
        purpose := command.purpose
        gatewayKind := gateway.kind
        gatewayMode := activeMode
        gatewayConfigVersion := gateway.version
        gatewayCredentialSecretRef := gateway.credentialSecretRef
        gatewayCredentialDigest := gateway.credentialDigest
        paymentMethod := command.paymentMethod
        amount := command.amount
        capturedAmount := 0
        refundedAmount := 0
        commissionAmount := command.commissionAmount
        commissionRefundedAmount := 0
        currency := command.currency
        currencyScale := command.currencyScale
        status := .requested
        providerReference := none
        redirectUrl := none
        providerStatus := "created"
        createdAt := createdAt })
      insertPaymentEvent ⟨command.tenantId, command.paymentId, "authorization_requested", none,
        "requested", none⟩
      let payment ← paymentIn command.paymentId
      pure ⟨payment, gateway, false⟩

def completeAuthorization (outcome : PaymentOutcome) :
    PayTx PaymentDatabase PaymentIntentRow := do
  let current ← paymentIn outcome.paymentId
  let target := outcome.status.intent
  if current.status ∉ [.requested, .unknown, .pending] ∧ current.status ≠ target then
    throw (.conflict
      s!"authorization cannot move {current.status.asStr} to {target.asStr}")
  let capturedAmount :=
    if outcome.status = .captured then current.amount else current.capturedAmount
  updatePayment outcome.paymentId fun row => { row with
    status := target
    providerReference := some outcome.providerReference
    redirectUrl := outcome.redirectUrl
    providerStatus := outcome.providerStatus
    capturedAmount := capturedAmount }
  insertPaymentEvent ⟨current.tenantId, outcome.paymentId, "authorization_result",
    some current.status.asStr, target.asStr, some outcome.providerStatus⟩
  paymentIn outcome.paymentId

def failAuthorization (paymentId : PaymentId) (unknown : Bool) (providerStatus : String) :
    PayTx PaymentDatabase PaymentIntentRow := do
  let current ← paymentIn paymentId
  let target : IntentStatus := if unknown then .unknown else .failed
  if current.status = .requested ∨ current.status = .pending then
    updatePayment paymentId fun row => { row with
      status := target
      providerStatus := providerStatus }
    insertPaymentEvent ⟨current.tenantId, paymentId, "authorization_failed",
      some current.status.asStr, target.asStr, some providerStatus⟩
  paymentIn paymentId

/-! ## Status queries -/

/-- The operation that an idempotency key of a tenant names. -/
def knownOperation (tenantId : TenantId) (idempotencyKey : String) :
    PayTx PaymentDatabase (Option PaymentOperationRow) := do
  pure ((← get).operations.lookup (tenantId, idempotencyKey))

def prepareQuery (tenantId : TenantId) (paymentId : PaymentId) (idempotencyKey : String)
    (requestHash : Bytes) (operationId : Uuid) (createdAt : OffsetDateTime) :
    PayTx PaymentDatabase PreparedOperation := do
  match ← knownOperation tenantId idempotencyKey with
  | some operation =>
      if operation.paymentId ≠ paymentId ∨ operation.operation ≠ .query ∨
          operation.requestHash ≠ requestHash then
        throw .idempotencyConflict
      let payment ← paymentIn paymentId
      let gateway ← gatewayIn payment.id
      pure ⟨payment, gateway, operation.status = .started ∨ operation.status = .unknown⟩
  | none =>
      let payment ← paymentIn paymentId
      if payment.tenantId ≠ tenantId then throw (.notFound "payment")
      PaymentDatabase.operationTable.on (Table.insert .database {
        id := operationId
        tenantId := tenantId
        paymentId := paymentId
        operation := .query
        idempotencyKey := idempotencyKey
        requestHash := requestHash
        amount := none
        status := .started
        providerStatus := none
        createdAt := createdAt })
      let gateway ← gatewayIn payment.id
      pure ⟨payment, gateway, true⟩

/-- The captures of a payment that were asked for. -/
def capturesOf (operations : Table paymentOperations) (paymentId : PaymentId) :
    List PaymentOperationRow :=
  operations.rows.filter fun operation =>
    operation.paymentId = paymentId ∧ operation.operation = .capture ∧ operation.amount.isSome

/-- The amount of the last of these, or the whole payment. -/
def latestCaptureAmount (operations : Table paymentOperations) (payment : PaymentIntentRow) :
    Int :=
  ((newest PaymentOperationRow.createdAt (capturesOf operations payment.id)).bind
    PaymentOperationRow.amount).getD payment.amount

/-- What a status query says about its operation. -/
def queryVerdict : Except PaymentError PaymentOutcome → OperationStatus × String
  | .ok result => (.succeeded, result.providerStatus)
  | .error error =>
      if isUnknown error then (.unknown, "transport_unknown") else (.failed, "query_failed")

def completeQuery (paymentId : PaymentId) (idempotencyKey : String)
    (outcome : Except PaymentError PaymentOutcome) :
    PayTx PaymentDatabase PaymentIntentRow := do
  let payment ← paymentIn paymentId
  let (operationStatus, providerStatus) := queryVerdict outcome
  let operation ← PaymentDatabase.operationTable.on (Table.update .database
    (payment.tenantId, idempotencyKey)
    (fun row => row.paymentId = paymentId ∧ row.operation = .query)
    fun row => { row with
      status := operationStatus
      providerStatus := some providerStatus })
  let _ ← require (.notFound "payment reconciliation operation") operation
  match outcome with
  | .ok result =>
      let target := result.status.intent
      if reconciliationTransitionAllowed payment.status target then
        let operations := (← get).operations
        let capturedAmount := if target = .captured ∧ payment.status ≠ .captured then
            latestCaptureAmount operations payment
          else payment.capturedAmount
        updatePayment paymentId fun row => { row with
          status := target
          providerReference := if result.providerReference = "" then row.providerReference
            else some result.providerReference
          redirectUrl := result.redirectUrl.or row.redirectUrl
          providerStatus := result.providerStatus
          capturedAmount := capturedAmount
          commissionAmount := row.settledCommission target capturedAmount }
        insertPaymentEvent ⟨payment.tenantId, paymentId, "reconciliation_result",
          some payment.status.asStr, target.asStr, some result.providerStatus⟩
      else
        insertPaymentEvent ⟨payment.tenantId, paymentId, "reconciliation_stale_ignored",
          some payment.status.asStr, payment.status.asStr, some result.providerStatus⟩
  | .error error =>
      if isUnknown error ∧ reconciliationCanBecomeUnknown payment.status then
        updatePayment paymentId fun row => { row with
          status := .unknown
          providerStatus := providerStatus }
        insertPaymentEvent ⟨payment.tenantId, paymentId, "reconciliation_unknown",
          some payment.status.asStr, "unknown", some providerStatus⟩
      else
        insertPaymentEvent ⟨payment.tenantId, paymentId, "reconciliation_failed",
          some payment.status.asStr, payment.status.asStr, some providerStatus⟩
  paymentIn paymentId

/-! ## Captures -/

def validateCaptureTarget (payment : PaymentIntentRow) (amount : Int) (now : OffsetDateTime) :
    PayTx PaymentDatabase Unit := do
  match payment.offlineDealId with
  | none => pure ()
  | some offlineDealId =>
      if payment.transactionChannel ≠ "offline_direct" ∨
          payment.purpose ≠ "platform_commission" then
        throw (.invalid "offline deal capture must be a platform commission payment")
      let found := (← get).surroundings.offlineDeals.find? fun deal =>
        deal.tenantId = payment.tenantId ∧ deal.id = offlineDealId
      let deal ← require (.notFound "offline deal") found
      if payment.payerPartyId ≠ some deal.sellerPartyId then
        throw (.invalid "offline commission must be captured from the matched seller")
      if deal.status ∈ [.declined, .expired, .disputed, .completed] then
        throw (.conflict "offline deal is not available for commission capture")
      if deal.expiresAt ≤ now then
        throw (.conflict "offline deal has expired before commission capture")
      let stored ← require .database deal.commissionAmount
      let commissionAmount ← exact stored
      if amount ≠ commissionAmount then
        throw (.invalid "commission capture must equal the current offline deal commission")
      if payment.currency ≠ deal.currency ∨ payment.currencyScale ≠ deal.currencyScale then
        throw (.invalid "commission capture currency must match the offline deal")

def prepareCapture (tenantId : TenantId) (paymentId : PaymentId) (idempotencyKey : String)
    (requestHash : Bytes) (amount : Int) (operationId : Uuid)
    (now createdAt : OffsetDateTime) : PayTx PaymentDatabase PreparedOperation := do
  match ← knownOperation tenantId idempotencyKey with
  | some operation =>
      if operation.paymentId ≠ paymentId ∨ operation.operation ≠ .capture then
        throw .idempotencyConflict
      if operation.requestHash ≠ requestHash then throw .idempotencyConflict
      let payment ← paymentIn paymentId
      let gateway ← gatewayIn payment.id
      let execute : Bool := (operation.status = .started ∨ operation.status = .unknown) ∧
        payment.status = .capturePending
      if execute then validateCaptureTarget payment amount now
      pure ⟨payment, gateway, execute⟩
  | none =>
      let payment ← paymentIn paymentId
      if payment.tenantId ≠ tenantId then throw (.notFound "payment")
      if payment.status ≠ .authorized then
        throw (.conflict s!"payment status {payment.status.asStr} cannot be captured")
      let authorized ← exact payment.amount
      if amount ≤ 0 ∨ authorized < amount then
        throw (.invalid "capture must be positive and not exceed authorization")
      validateCaptureTarget payment amount now
      PaymentDatabase.operationTable.on (Table.insert .database {
        id := operationId
        tenantId := tenantId
        paymentId := paymentId
        operation := .capture
        idempotencyKey := idempotencyKey
        requestHash := requestHash
        amount := some amount
        status := .started
        providerStatus := none
        createdAt := createdAt })
      updatePayment paymentId fun row => { row with status := .capturePending }
      insertPaymentEvent ⟨tenantId, paymentId, "capture_requested", some "authorized",
        "capture_pending", none⟩
      let payment ← paymentIn paymentId
      let gateway ← gatewayIn payment.id
      pure ⟨payment, gateway, true⟩

/-- The target of a pending capture is checked again before its success is recorded. -/
def captureTargetInvalid (payment : PaymentIntentRow) (amount : Int) (now : OffsetDateTime)
    (outcome : Except PaymentError PaymentOutcome) : PayTx PaymentDatabase Bool := do
  let succeeded : Bool := match outcome with
    | .ok result => decide (result.status = .captured)
    | .error _ => false
  if payment.status = .capturePending ∧ succeeded then
    match (validateCaptureTarget payment amount now).run (← get) with
    | .ok _ => pure false
    | .error (.conflict _) | .error (.invalid _) => pure true
    | .error error => throw error
  else pure false

/-- What the answer to a capture says about the operation and the payment. -/
def captureVerdict (targetInvalid : Bool) (outcome : Except PaymentError PaymentOutcome) :
    OperationStatus × IntentStatus × String :=
  if targetInvalid then (.unknown, .unknown, "capture_target_invalid")
  else
    match outcome with
    | .ok result =>
        match result.status with
        | .captured => (.succeeded, .captured, result.providerStatus)
        | .pending => (.unknown, .unknown, result.providerStatus)
        | _ => (.failed, .failed, result.providerStatus)
    | .error error =>
        if isUnknown error then (.unknown, .unknown, "transport_unknown")
        else (.failed, .authorized, "provider_rejected")

/-- What is captured once the answer to a capture is recorded. -/
def capturedTotal (payment : PaymentIntentRow) (amount : Int) (paymentStatus : IntentStatus) :
    Except StoreError Int :=
  if paymentStatus = .captured then do
    let current ← exact payment.capturedAmount
    .ok (max current amount)
  else .ok payment.capturedAmount

/-- Records the answer to a capture that the payment can take. -/
def recordCapture (payment : PaymentIntentRow) (amount : Int) (paymentStatus : IntentStatus)
    (providerStatus : String) : PayTx PaymentDatabase PaymentIntentRow := do
  let captured ← capturedTotal payment amount paymentStatus
  updatePayment payment.id fun row => { row with
    status := paymentStatus
    capturedAmount := captured
    commissionAmount := row.settledCommission paymentStatus captured
    providerStatus := providerStatus }
  insertPaymentEvent ⟨payment.tenantId, payment.id, "capture_result",
    some payment.status.asStr, paymentStatus.asStr, some providerStatus⟩
  paymentIn payment.id

def completeCapture (paymentId : PaymentId) (idempotencyKey : String) (amount : Int)
    (outcome : Except PaymentError PaymentOutcome) (now : OffsetDateTime) :
    PayTx PaymentDatabase PaymentIntentRow := do
  let payment ← paymentIn paymentId
  let targetInvalid ← captureTargetInvalid payment amount now outcome
  let (operationStatus, paymentStatus, providerStatus) := captureVerdict targetInvalid outcome
  let _ ← PaymentDatabase.operationTable.on (Table.update .database
    (payment.tenantId, idempotencyKey)
    (fun row => row.paymentId = paymentId ∧ row.operation = .capture)
    fun row => { row with
      status := operationStatus
      providerStatus := some providerStatus })
  if reconciliationTransitionAllowed payment.status paymentStatus = false then
    insertPaymentEvent ⟨payment.tenantId, paymentId, "capture_result_stale_ignored",
      some payment.status.asStr, payment.status.asStr, some providerStatus⟩
    pure payment
  else recordCapture payment amount paymentStatus providerStatus

/-! ## Refunds -/

/-- The refunds that still count against a payment. -/
def reservedRefunds (refunds : Table paymentRefunds) (paymentId : PaymentId)
    (column : PaymentRefundRow → Int) : Int :=
  refunds.total fun refund =>
    if refund.paymentId = paymentId ∧ refund.status ≠ .failed then column refund else 0

def prepareRefund (command : NewRefund) (createdAt : OffsetDateTime) :
    PayTx PaymentDatabase PreparedRefund := do
  let known := (← get).refunds.rows.find? fun row =>
    row.tenantId = command.tenantId ∧ row.idempotencyKey = command.idempotencyKey
  match known with
  | some row =>
      if row.paymentId ≠ command.paymentId then throw .idempotencyConflict
      if row.requestHash ≠ command.requestHash then throw .idempotencyConflict
      let payment ← paymentIn command.paymentId
      let refund ← refundIn row.id
      let gateway ← gatewayIn payment.id
      pure ⟨payment, refund, gateway,
        row.status = .requested ∨ (row.status = .unknown ∧ gateway.kind ≠ .epay)⟩
  | none =>
      let payment ← paymentIn command.paymentId
      if payment.tenantId ≠ command.tenantId then throw (.notFound "payment")
      if payment.status ≠ .captured then
        throw (.conflict s!"payment status {payment.status.asStr} cannot be refunded")
      let refunds := (← get).refunds
      let reservedRefund ← exact
        (reservedRefunds refunds command.paymentId PaymentRefundRow.amount)
      let reservedReversal ← exact
        (reservedRefunds refunds command.paymentId PaymentRefundRow.commissionReversalAmount)
      let captured ← exact payment.capturedAmount
      let totalCommission ← exact payment.commissionAmount
      let reversal ← PaymentError.toStore (calculateCommissionReversal totalCommission captured
        reservedRefund reservedReversal command.amount)
      PaymentDatabase.refundTable.on (Table.insert .database {
        id := command.refundId
        tenantId := command.tenantId
        paymentId := command.paymentId
        idempotencyKey := command.idempotencyKey
        requestHash := command.requestHash
        amount := command.amount
        commissionReversalAmount := reversal
        currency := payment.currency
        currencyScale := payment.currencyScale
        reason := command.reason
        status := .requested
        providerReference := none
        providerStatus := none
        createdAt := createdAt })
      let refund ← refundIn command.refundId
      let gateway ← gatewayIn payment.id
      pure ⟨payment, refund, gateway, true⟩

/-- What the answer to a refund says about it. -/
def refundVerdict : Except PaymentError RefundOutcome →
    StoredRefundStatus × Option String × String
  | .ok value => (value.status.stored, some value.providerReference, value.providerStatus)
  | .error error =>
      if isUnknown error then (.unknown, none, "transport_unknown")
      else (.failed, none, "provider_rejected")

/-- The part of a refund that an issued invoice has to give back. -/
def correctionAmount (refund : PaymentRefundRow) (invoice : InvoiceRequestRow) : Int :=
  if invoice.kind ∈ ["sale", "vehicle_sale", "service"] then refund.amount
  else refund.commissionReversalAmount

section Corrections

variable [Sha256]

def InvoiceRequestRow.correction (invoice : InvoiceRequestRow) (refund : PaymentRefundRow)
    (correctionId : Uuid) : InvoiceRequestRow :=
  let idempotencyKey := s!"refund:{refund.id}:invoice:{hyphenated invoice.id}"
  { id := correctionId
    tenantId := invoice.tenantId
    paymentId := some refund.paymentId
    correctionOfInvoiceId := some invoice.id
    kind := invoice.kind
    idempotencyKey := idempotencyKey
    requestHash := Sha256.digest idempotencyKey.toUTF8.toList
    amount := correctionAmount refund invoice
    currency := invoice.currency
    currencyScale := invoice.currencyScale
    description :=
      "Refund correction for invoice " ++ invoice.invoiceNumber.getD "unknown"
    status := .redLetterPending
    invoiceNumber := none
    requestedBy := "system:refund" }

/-- Every issued invoice of the payment gets a correction, unless it would be empty. -/
def insertInvoiceCorrections (refund : PaymentRefundRow) (correctionId : Uuid → Uuid) :
    PayTx (Table invoiceRequests) Unit := do
  let issued := (← get).rows.filter fun invoice =>
    invoice.paymentId = some refund.paymentId ∧ invoice.status = .issued ∧
      invoice.correctionOfInvoiceId = none
  forM issued fun invoice => do
    let amount ← exact (correctionAmount refund invoice)
    if amount ≠ 0 then
      Table.insert .database (invoice.correction refund (correctionId invoice.id))

/-- The totals of the payment follow a refund, and so do its invoices. -/
def payBack (refund : PaymentRefundRow) (correctionId : Uuid → Uuid) :
    PayTx PaymentDatabase Unit := do
  updatePayment refund.paymentId fun row => { row with
    refundedAmount := row.refundedAmount + refund.amount
    commissionRefundedAmount :=
      row.commissionRefundedAmount + refund.commissionReversalAmount }
  PaymentDatabase.invoiceTable.on (insertInvoiceCorrections refund correctionId)

/-- A worker holds the claim on an event while its token is the stored one. -/
def ensureWebhookClaim (gatewayId : PaymentGatewayId) (providerEventId : String)
    (processingToken : Uuid) : PayTx PaymentDatabase Unit := do
  let row := (← get).inbox.lookup (gatewayId, providerEventId)
  let token := (row.filter fun row => row.status = .processing).bind
    WebhookInboxRow.processingToken
  if token ≠ some processingToken then
    throw (.conflict "webhook claim is no longer owned by this worker")

/-- The event and the token under which a webhook worker acts. -/
structure WebhookClaim where
  gatewayId : PaymentGatewayId
  providerEventId : String
  processingToken : Uuid
  deriving DecidableEq, Repr

/-- Requests that come without a claim need none. -/
def ensureClaim : Option WebhookClaim → PayTx PaymentDatabase Unit
  | some claim =>
      ensureWebhookClaim claim.gatewayId claim.providerEventId claim.processingToken
  | none => pure ()

def completeRefundClaimed (refundId : RefundId)
    (outcome : Except PaymentError RefundOutcome) (claim : Option WebhookClaim)
    (correctionId : Uuid → Uuid) : PayTx PaymentDatabase PaymentRefundRow := do
  ensureClaim claim
  let refund ← refundIn refundId
  let (status, providerReference, providerStatus) := refundVerdict outcome
  if refundTransitionAllowed refund.status status = false then
    insertPaymentEvent ⟨refund.tenantId, refund.paymentId, "refund_stale_ignored",
      some refund.status.asStr, refund.status.asStr, some providerStatus⟩
    pure refund
  else
    let _ ← PaymentDatabase.refundTable.on (Table.update .database refundId (fun _ => true)
      fun row => { row with
        status := status
        providerReference := providerReference.or row.providerReference
        providerStatus := some providerStatus })
    if status = .succeeded ∧ refund.status ≠ .succeeded then payBack refund correctionId
    insertPaymentEvent ⟨refund.tenantId, refund.paymentId, "refund_result",
      some refund.status.asStr, status.asStr, some providerStatus⟩
    refundIn refundId

def completeRefund (refundId : RefundId) (outcome : Except PaymentError RefundOutcome)
    (correctionId : Uuid → Uuid) : PayTx PaymentDatabase PaymentRefundRow :=
  completeRefundClaimed refundId outcome none correctionId

end Corrections

end MatchPlane
