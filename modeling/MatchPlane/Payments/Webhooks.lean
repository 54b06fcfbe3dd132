import MatchPlane.Payments.Store

/-!
# Webhooks

A worker claims the event of a webhook in the inbox, applies it, and finishes the
claim, each in a transaction of its own.  A refund event is first resolved to a
refund by three plain reads.  Anything may happen between two of these steps, and
a worker may stop after any of them.
-/

namespace MatchPlane

open MatchPlane.Library

structure WebhookReceipt where
  duplicate : Bool
  status : WebhookInboxStatus
  deriving DecidableEq, Repr

/-- Claims are taken over after five minutes. -/
def claimDuration : OffsetDateTime := 300000000000

/-- A receipt ends the delivery; without one, the claim is held. -/
def claimWebhook (gatewayId : PaymentGatewayId) (event : WebhookEvent) (payloadHash : Bytes)
    (processingToken : Uuid) (now processingAt : OffsetDateTime) :
    PayTx PaymentDatabase (Option WebhookReceipt) := do
  if event.providerEventId.utf8ByteSize = 0 ∨ 256 < event.providerEventId.utf8ByteSize then
    throw (.invalid "provider webhook event id must contain 1..=256 bytes")
  if payloadHash.length ≠ 32 then
    throw (.invalid "provider webhook payload hash must contain 32 bytes")
  let inserted ← PaymentDatabase.inboxTable.on (Table.insertOrIgnore .database {
    gatewayId := gatewayId
    providerEventId := event.providerEventId
    payloadHash := payloadHash
    eventType := event.eventType
    providerReference := event.providerReference
    status := .processing
    failureReason := none
    processingAt := some processingAt
    processingToken := some processingToken })
  if inserted then pure none
  else
    let stored := (← get).inbox.lookup (gatewayId, event.providerEventId)
    let row ← require .database stored
    if row.payloadHash ≠ payloadHash then
      throw (.conflict "provider webhook event id was reused with a different payload")
    if row.status = .processed ∨ row.status = .ignored then
      pure (some ⟨true, row.status⟩)
    else if row.status = .processing ∧ row.processingAt.any (now - claimDuration < ·) then
      pure (some ⟨true, row.status⟩)
    else
      let _ ← PaymentDatabase.inboxTable.on (Table.update .database
        (gatewayId, event.providerEventId) (fun _ => true) fun row => { row with
          status := .processing
          processingAt := some processingAt
          failureReason := none
          processingToken := some processingToken })
      pure none

def finishWebhook (claim : WebhookClaim) (status : WebhookInboxStatus)
    (failureReason : Option StoreError) : PayTx PaymentDatabase Unit := do
  let updated ← PaymentDatabase.inboxTable.on (Table.update .database
    (claim.gatewayId, claim.providerEventId)
    (fun row => row.status = .processing ∧ row.processingToken = some claim.processingToken)
    fun row => { row with
      status := status
      failureReason := failureReason
      processingAt := none
      processingToken := none })
  let _ ← require
    (.conflict "webhook claim was reclaimed before it could be completed") updated

/-- A stored reference may be replaced once, by a callback that echoes the order. -/
def webhookReferenceMatches (storedReference reportedReference merchantOrderId
    reportedMerchantOrderId : Option String) : Bool :=
  match storedReference, reportedReference with
  | some stored, some reported =>
      stored = reported ∨
        (stored = merchantOrderId.getD "" ∧ reportedMerchantOrderId = merchantOrderId)
  | _, _ => true

/-! ## Payment events -/

/-- The newest payment of the gateway that the event can mean. -/
def paymentOfWebhook (payments : Table paymentIntents) (gatewayId : PaymentGatewayId)
    (event : PaymentWebhook) : Option PaymentIntentRow :=
  newest PaymentIntentRow.createdAt (payments.rows.filter fun row =>
    row.gatewayId = gatewayId ∧
      (event.merchantOrderId = some row.merchantOrderId ∨
        (event.providerReference.isSome ∧ event.providerReference = row.providerReference)))

/-- A reported amount must be money of the payment and at most its amount. -/
def checkWebhookAmount (payment : PaymentIntentRow) (event : PaymentWebhook) :
    Except StoreError Unit :=
  match event.amount with
  | none => .ok ()
  | some amount => do
      let expected ← exact payment.amount
      if amount.currency ≠ payment.currency ∨
          (amount.scale : Int) ≠ payment.currencyScale then
        .error (.invalid "provider webhook amount does not match the payment")
      else
        let reported ← PaymentError.toStore amount.exactAmount
        if expected < reported then
          .error (.invalid "provider webhook amount does not match the payment")

/-- The amount of an event, if it has one. -/
def reportedAmount (event : PaymentWebhook) : Except StoreError (Option Int) :=
  match event.amount with
  | none => .ok none
  | some amount => (PaymentError.toStore amount.exactAmount).map some

/-- A reported capture must be of a positive amount. -/
def checkCapturedAmount (event : PaymentWebhook) : Except StoreError Unit :=
  if event.status = .captured then do
    let amount ← reportedAmount event
    if amount.any (· ≤ 0) then
      .error (.invalid "provider webhook captured amount must be positive")
  else .ok ()

/-- A capture without an amount is taken to be of the whole payment. -/
def webhookCapturedAmount (payment : PaymentIntentRow) (event : PaymentWebhook) :
    Except StoreError Int :=
  if event.status = .captured then do
    let current ← exact payment.capturedAmount
    let amount ← reportedAmount event
    let whole ← exact payment.amount
    .ok (max current (amount.getD whole))
  else exact payment.capturedAmount

def applyPaymentWebhook (claim : WebhookClaim) (event : PaymentWebhook) :
    PayTx PaymentDatabase Bool := do
  ensureWebhookClaim claim.gatewayId claim.providerEventId claim.processingToken
  match paymentOfWebhook (← get).payments claim.gatewayId event with
  | none => pure false
  | some payment =>
      if event.merchantOrderId ≠ some payment.merchantOrderId ∧ event.merchantOrderId.isSome then
        throw (.invalid "provider webhook merchant order does not match the payment")
      if webhookReferenceMatches payment.providerReference event.providerReference
          (some payment.merchantOrderId) event.merchantOrderId = false then
        throw (.invalid "provider webhook reference does not match the payment")
      checkWebhookAmount payment event
      checkCapturedAmount event
      let target := event.status.intent
      if reconciliationTransitionAllowed payment.status target = false then
        insertPaymentEvent ⟨payment.tenantId, payment.id, "provider_webhook_stale_ignored",
          some payment.status.asStr, payment.status.asStr, some event.providerStatus⟩
        pure true
      else
        let capturedAmount ← webhookCapturedAmount payment event
        updatePayment payment.id fun row => { row with
          status := target
          providerReference := if event.providerReference.getD "" = "" then
            row.providerReference else event.providerReference
          providerStatus := event.providerStatus
          capturedAmount := capturedAmount
          commissionAmount := row.settledCommission target capturedAmount }
        insertPaymentEvent ⟨payment.tenantId, payment.id, "provider_webhook",
          some payment.status.asStr, target.asStr, some event.providerStatus⟩
        pure true

/-! ## Refund events -/

/-- A refund of the gateway that the event can mean: its own, or one of its payment. -/
def RefundWebhook.selects (event : RefundWebhook) (gatewayId : PaymentGatewayId)
    (payment : PaymentIntentRow) (refund : PaymentRefundRow) : Bool :=
  payment.gatewayId = gatewayId ∧
    (event.refundReference.any (fun reference =>
        toString refund.id = reference ∨ refund.providerReference = some reference) ∨
      (event.providerReference.isSome ∧ event.providerReference = payment.providerReference) ∨
      (event.merchantOrderId = some payment.merchantOrderId ∧ refund.status.isOpen))

/-- Open refunds come before settled ones, and newer ones before older ones. -/
def refundOfWebhook (db : PaymentDatabase) (gatewayId : PaymentGatewayId)
    (event : RefundWebhook) : Option RefundId :=
  let selected := db.refunds.rows.filter fun refund =>
    (db.payments.lookup refund.paymentId).any fun payment =>
      event.selects gatewayId payment refund
  let first := (newest PaymentRefundRow.createdAt
    (selected.filter fun refund => refund.status.isOpen)).or
      (newest PaymentRefundRow.createdAt selected)
  first.map PaymentRefundRow.id

/-- The outcome that an event reports for a refund, once both are known to agree. -/
def refundWebhookOutcome (event : RefundWebhook) (refund : PaymentRefundRow)
    (payment : PaymentIntentRow) : Except StoreError RefundOutcome := do
  if event.merchantOrderId ≠ some payment.merchantOrderId ∧ event.merchantOrderId.isSome then
    .error (.invalid "provider webhook merchant order does not match the refund payment")
  else if webhookReferenceMatches payment.providerReference event.providerReference
      (some payment.merchantOrderId) event.merchantOrderId = false then
    .error (.invalid "provider webhook reference does not match the refund payment")
  else if event.refundReference.any (fun reference =>
      reference ≠ toString refund.id ∧ refund.providerReference ≠ some reference) then
    .error (.invalid "provider webhook refund reference does not match the refund")
  else
    match event.amount with
    | some amount =>
        if amount.currency ≠ refund.currency ∨ (amount.scale : Int) ≠ refund.currencyScale then
          .error (.invalid "provider webhook refund amount does not match the refund")
        else
          let reported ← PaymentError.toStore amount.exactAmount
          let stored ← exact refund.amount
          if reported ≠ stored then
            .error (.invalid "provider webhook refund amount does not match the refund")
    | none => pure ()
    .ok {
      refundId := refund.id
      providerReference := (event.refundReference.or refund.providerReference).getD
        (toString refund.id)
      status := event.status
      providerStatus := event.providerStatus }

/-! ## Workers -/

/-- What a worker does next. -/
inductive WebhookPhase where
  | claimed
  | selected (refundId : RefundId)
  | loaded (refund : PaymentRefundRow)
  | checked (refundId : RefundId) (outcome : RefundOutcome)
  | applied (result : Except StoreError Bool)

structure WebhookWorker where
  gatewayId : PaymentGatewayId
  event : WebhookEvent
  processingToken : Uuid
  phase : WebhookPhase

namespace WebhookWorker

def claim (worker : WebhookWorker) : WebhookClaim :=
  ⟨worker.gatewayId, worker.event.providerEventId, worker.processingToken⟩

def enter (worker : WebhookWorker) (phase : WebhookPhase) : WebhookWorker :=
  { worker with phase := phase }

end WebhookWorker

/-- How a result is recorded in the inbox. -/
def finalStatus : Except StoreError Bool → WebhookInboxStatus × Option StoreError
  | .ok true => (.processed, none)
  | .ok false => (.ignored, none)
  | .error error => (.failed, some error)

end MatchPlane
