import MatchPlane.Domain.Matching
import MatchPlane.Library.Table
import MatchPlane.Payments.Provider

/-!
# The payment database

The tables of the payment service, with the constraints that the migrations
declare on the columns kept here.  Payments, their operations, their refunds and
the webhook inbox are written by the service itself.  Routes, gateways, offline
deals and invoices belong to other workflows and are `Surroundings`: the service
reads them, and only appends invoice corrections.
-/

namespace MatchPlane

open MatchPlane.Library

inductive StoreError where
  | notFound (entity : String)
  | idempotencyConflict
  | conflict (message : String)
  | invalid (message : String)
  | payment (error : PaymentError)
  | database
  | json
  deriving DecidableEq, Repr

/-! ## Column types -/

/-- A text whose number of characters is positive and bounded. -/
def isText (limit : Nat) (value : String) : Bool := 0 < value.length ∧ value.length ≤ limit

def isCurrency (value : String) : Bool := value.length = 3 ∧ value.toList.all Char.isUpper

def isScale (value : Int) : Bool := 0 ≤ value ∧ value ≤ 18

/-- The pattern of a purpose or an invoice kind. -/
def isLabel (value : String) : Bool :=
  match value.toList with
  | [] => false
  | first :: rest => first.isLower && decide (rest.length ≤ 99) &&
      rest.all fun char => char.isLower || char.isDigit || char ∈ ['_', '.', ':', '-']

def isDigest (value : Bytes) : Bool := value.length = 32

/-! ## Payments -/

/-- The stored status of a payment; providers report seven of these. -/
inductive IntentStatus where
  | requested
  | requiresAction
  | authorized
  | pending
  | capturePending
  | captured
  | voidPending
  | voided
  | failed
  | unknown
  deriving DecidableEq, Repr

namespace IntentStatus

def asStr : IntentStatus → String
  | requested => "requested"
  | requiresAction => "requires_action"
  | authorized => "authorized"
  | pending => "pending"
  | capturePending => "capture_pending"
  | captured => "captured"
  | voidPending => "void_pending"
  | voided => "voided"
  | failed => "failed"
  | unknown => "unknown"

end IntentStatus

/-- `PaymentStatus::as_str`, read as the status that it names. -/
def PaymentStatus.intent : PaymentStatus → IntentStatus
  | requiresAction => .requiresAction
  | authorized => .authorized
  | captured => .captured
  | voided => .voided
  | pending => .pending
  | failed => .failed
  | unknown => .unknown

structure PaymentIntentRow where
  id : PaymentId
  tenantId : TenantId
  gatewayId : PaymentGatewayId
  offlineDealId : Option OfflineDealId
  payerPartyId : Option MarketplacePartyId
  merchantOrderId : String
  idempotencyKey : String
  requestHash : Bytes
  transactionChannel : String
  purpose : String
  gatewayKind : GatewayKind
  gatewayMode : GatewayMode
  gatewayConfigVersion : Nat
  gatewayCredentialSecretRef : Option String
  gatewayCredentialDigest : Option Bytes
  paymentMethod : String
  amount : Int
  capturedAmount : Int
  refundedAmount : Int
  commissionAmount : Int
  commissionRefundedAmount : Int
  currency : String
  currencyScale : Int
  status : IntentStatus
  providerReference : Option String
  redirectUrl : Option String
  providerStatus : String
  createdAt : OffsetDateTime
  deriving DecidableEq, Repr

/-- The amounts of a payment as their checks relate them. -/
def PaymentIntentRow.amountsCheck (row : PaymentIntentRow) : Bool :=
  isNumeric row.amount ∧ 0 < row.amount ∧ isNumeric row.capturedAmount ∧
    isNumeric row.refundedAmount ∧ isNumeric row.commissionAmount ∧
    isNumeric row.commissionRefundedAmount ∧ row.capturedAmount ≤ row.amount ∧
    row.refundedAmount ≤ row.capturedAmount ∧ row.commissionAmount ≤ row.amount ∧
    row.commissionRefundedAmount ≤ row.commissionAmount

/-- What a payment is for and through which gateway it was taken. -/
def PaymentIntentRow.scopeCheck (row : PaymentIntentRow) : Bool :=
  isText 200 row.merchantOrderId ∧ isText 200 row.idempotencyKey ∧ isDigest row.requestHash ∧
    (row.transactionChannel = "online_platform" ∨ row.transactionChannel = "offline_direct") ∧
    isLabel row.purpose ∧ isText 100 row.paymentMethod ∧ isCurrency row.currency ∧
    isScale row.currencyScale ∧ 0 < row.gatewayConfigVersion ∧
    (row.transactionChannel ≠ "offline_direct" ∨ row.purpose = "platform_commission") ∧
    ((row.offlineDealId.isSome ∧ row.payerPartyId.isSome ∧
        row.transactionChannel = "offline_direct") ∨
      (row.offlineDealId = none ∧ row.transactionChannel = "online_platform")) ∧
    ((row.gatewayMode = .test ∧ row.gatewayCredentialSecretRef = none) ∨
      (row.gatewayMode = .production ∧ row.gatewayCredentialSecretRef.any fun reference =>
        5 ≤ reference.length ∧ reference.length ≤ 2048)) ∧
    row.gatewayCredentialDigest.all isDigest

def paymentIntents : Schema PaymentId PaymentIntentRow where
  key := PaymentIntentRow.id
  clash := fun first second => first.tenantId = second.tenantId ∧
    (first.idempotencyKey = second.idempotencyKey ∨
      first.merchantOrderId = second.merchantOrderId)
  check := fun row => row.amountsCheck ∧ row.scopeCheck

/-! ## Operations -/

inductive OperationKind where
  | capture
  | void
  | query
  deriving DecidableEq, Repr

inductive OperationStatus where
  | started
  | succeeded
  | failed
  | unknown
  deriving DecidableEq, Repr

structure PaymentOperationRow where
  id : Uuid
  tenantId : TenantId
  paymentId : PaymentId
  operation : OperationKind
  idempotencyKey : String
  requestHash : Bytes
  amount : Option Int
  status : OperationStatus
  providerStatus : Option String
  createdAt : OffsetDateTime
  deriving DecidableEq, Repr

/-- Every statement addresses an operation by its idempotency key, which is unique as well. -/
def paymentOperations : Schema (TenantId × String) PaymentOperationRow where
  key := fun row => (row.tenantId, row.idempotencyKey)
  clash := fun first second => first.id = second.id
  check := fun row => isText 200 row.idempotencyKey ∧ isDigest row.requestHash ∧
    row.amount.all (fun amount => isNumeric amount ∧ 0 < amount) ∧
    (row.operation = .capture ↔ row.amount.isSome)

/-! ## Refunds -/

/-- The stored status of a refund; providers report four of these. -/
inductive StoredRefundStatus where
  | requested
  | pending
  | succeeded
  | failed
  | unknown
  deriving DecidableEq, Repr

namespace StoredRefundStatus

def asStr : StoredRefundStatus → String
  | requested => "requested"
  | pending => "pending"
  | succeeded => "succeeded"
  | failed => "failed"
  | unknown => "unknown"

/-- The statuses that a webhook looks for first. -/
def isOpen : StoredRefundStatus → Bool
  | requested | pending | unknown => true
  | succeeded | failed => false

end StoredRefundStatus

/-- `RefundStatus::as_str`, read as the status that it names. -/
def RefundStatus.stored : RefundStatus → StoredRefundStatus
  | pending => .pending
  | succeeded => .succeeded
  | failed => .failed
  | unknown => .unknown

structure PaymentRefundRow where
  id : RefundId
  tenantId : TenantId
  paymentId : PaymentId
  idempotencyKey : String
  requestHash : Bytes
  amount : Int
  commissionReversalAmount : Int
  currency : String
  currencyScale : Int
  reason : String
  status : StoredRefundStatus
  providerReference : Option String
  providerStatus : Option String
  createdAt : OffsetDateTime
  deriving DecidableEq, Repr

def paymentRefunds : Schema RefundId PaymentRefundRow where
  key := PaymentRefundRow.id
  clash := fun first second => first.tenantId = second.tenantId ∧
    first.idempotencyKey = second.idempotencyKey
  check := fun row => isText 200 row.idempotencyKey ∧ isDigest row.requestHash ∧
    isNumeric row.amount ∧ 0 < row.amount ∧ isNumeric row.commissionReversalAmount ∧
    isCurrency row.currency ∧ isScale row.currencyScale ∧ isText 2000 row.reason

/-! ## Webhook inbox -/

inductive WebhookInboxStatus where
  | received
  | processing
  | processed
  | ignored
  | failed
  deriving DecidableEq, Repr

namespace WebhookInboxStatus

def asStr : WebhookInboxStatus → String
  | received => "received"
  | processing => "processing"
  | processed => "processed"
  | ignored => "ignored"
  | failed => "failed"

end WebhookInboxStatus

structure WebhookInboxRow where
  gatewayId : PaymentGatewayId
  providerEventId : String
  payloadHash : Bytes
  eventType : String
  providerReference : Option String
  status : WebhookInboxStatus
  /-- The error whose text is stored. -/
  failureReason : Option StoreError
  processingAt : Option OffsetDateTime
  processingToken : Option Uuid
  deriving DecidableEq, Repr

def webhookInbox : Schema (PaymentGatewayId × String) WebhookInboxRow where
  key := fun row => (row.gatewayId, row.providerEventId)
  clash := fun _ _ => false
  check := fun row => isText 256 row.providerEventId ∧ isDigest row.payloadHash ∧
    isText 100 row.eventType ∧ (row.status = .processing ↔ row.processingAt.isSome)

/-! ## Surroundings -/

structure GatewayConfigRow where
  id : PaymentGatewayId
  tenantId : TenantId
  kind : GatewayKind
  mode : GatewayMode
  credentialSecretRef : Option String
  credentialSecretDigest : Option Bytes
  enabled : Bool
  version : Nat
  deriving DecidableEq, Repr

structure PaymentRouteRow where
  id : Uuid
  tenantId : TenantId
  gatewayId : PaymentGatewayId
  methodCode : String
  currency : String
  priority : Nat
  enabled : Bool
  deriving DecidableEq, Repr

inductive OfflineDealStatus where
  | proposed
  | contactReleased
  | viewingScheduled
  | negotiating
  | dealPending
  | completed
  | declined
  | expired
  | disputed
  deriving DecidableEq, Repr

structure OfflineDealRow where
  id : OfflineDealId
  tenantId : TenantId
  sellerPartyId : MarketplacePartyId
  status : OfflineDealStatus
  commissionAmount : Option Int
  currency : String
  currencyScale : Int
  expiresAt : OffsetDateTime
  deriving DecidableEq, Repr

inductive InvoiceRequestStatus where
  | requested
  | reviewing
  | issuing
  | issued
  | failed
  | voided
  | redLetterPending
  | redLettered
  deriving DecidableEq, Repr

structure InvoiceRequestRow where
  id : Uuid
  tenantId : TenantId
  paymentId : Option PaymentId
  correctionOfInvoiceId : Option Uuid
  kind : String
  idempotencyKey : String
  requestHash : Bytes
  amount : Int
  currency : String
  currencyScale : Int
  description : String
  status : InvoiceRequestStatus
  invoiceNumber : Option String
  requestedBy : String
  deriving DecidableEq, Repr

def invoiceRequests : Schema Uuid InvoiceRequestRow where
  key := InvoiceRequestRow.id
  clash := fun first second => first.tenantId = second.tenantId ∧
    first.idempotencyKey = second.idempotencyKey
  check := fun row => isLabel row.kind ∧ isText 200 row.idempotencyKey ∧
    isDigest row.requestHash ∧ isNumeric row.amount ∧ 0 < row.amount ∧
    isCurrency row.currency ∧ isScale row.currencyScale ∧ isText 1000 row.description ∧
    isText 256 row.requestedBy ∧
    (row.correctionOfInvoiceId = none ∨ row.status = .redLetterPending ∨
      row.status = .redLettered)

/-- What other workflows own; the lists are indexed by unique identifiers. -/
structure Surroundings where
  activeMode : TenantId → Option GatewayMode
  routes : List PaymentRouteRow
  gateways : List GatewayConfigRow
  offlineDeals : List OfflineDealRow

/-- One line of the audit trail. -/
structure PaymentEventRow where
  tenantId : TenantId
  paymentId : PaymentId
  eventType : String
  fromStatus : Option String
  toStatus : String
  providerStatus : Option String
  deriving DecidableEq, Repr

structure PaymentDatabase where
  surroundings : Surroundings
  invoices : Table invoiceRequests
  payments : Table paymentIntents
  operations : Table paymentOperations
  refunds : Table paymentRefunds
  inbox : Table webhookInbox
  events : List PaymentEventRow

/-! ## Transactions on the payment database -/

abbrev PayTx (σ : Type) := Transaction StoreError σ

namespace PaymentDatabase

def invoiceTable : Part PaymentDatabase (Table invoiceRequests) :=
  ⟨invoices, fun t db => { db with invoices := t }⟩

def paymentTable : Part PaymentDatabase (Table paymentIntents) :=
  ⟨payments, fun t db => { db with payments := t }⟩

def operationTable : Part PaymentDatabase (Table paymentOperations) :=
  ⟨operations, fun t db => { db with operations := t }⟩

def refundTable : Part PaymentDatabase (Table paymentRefunds) :=
  ⟨refunds, fun t db => { db with refunds := t }⟩

def inboxTable : Part PaymentDatabase (Table webhookInbox) :=
  ⟨inbox, fun t db => { db with inbox := t }⟩

end PaymentDatabase

end MatchPlane
