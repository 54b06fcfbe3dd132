import MatchPlane.Payments.Webhooks

/-!
# The payment service

The database and the webhook workers, as a state machine: every transaction and
every read outside of one is a step, so a run is a serial order of any
interleaving.  Requests carry any arguments and providers answer anything, at any
time and any number of times.
-/

namespace MatchPlane

open MatchPlane.Library

/-- A step of the service or of what surrounds it. -/
inductive PaymentAction where
  | surround (surroundings : Surroundings) (invoices : Table invoiceRequests)
  | prepareAuthorization (environment : Environment) (command : NewPayment)
      (now createdAt : OffsetDateTime)
  | completeAuthorization (outcome : PaymentOutcome)
  | failAuthorization (paymentId : PaymentId) (unknown : Bool) (providerStatus : String)
  | prepareQuery (tenantId : TenantId) (paymentId : PaymentId) (idempotencyKey : String)
      (requestHash : Bytes) (operationId : Uuid) (createdAt : OffsetDateTime)
  | completeQuery (paymentId : PaymentId) (idempotencyKey : String)
      (outcome : Except PaymentError PaymentOutcome)
  | prepareCapture (tenantId : TenantId) (paymentId : PaymentId) (idempotencyKey : String)
      (requestHash : Bytes) (amount : Int) (operationId : Uuid)
      (now createdAt : OffsetDateTime)
  | completeCapture (paymentId : PaymentId) (idempotencyKey : String) (amount : Int)
      (outcome : Except PaymentError PaymentOutcome) (now : OffsetDateTime)
  | prepareRefund (command : NewRefund) (createdAt : OffsetDateTime)
  | completeRefund (refundId : RefundId) (outcome : Except PaymentError RefundOutcome)
      (correctionId : Uuid → Uuid)
  | deliver (worker : Nat) (gatewayId : PaymentGatewayId) (event : WebhookEvent)
      (payloadHash : Bytes) (processingToken : Uuid) (now processingAt : OffsetDateTime)
  | advance (worker : Nat) (correctionId : Uuid → Uuid)
  | stop (worker : Nat)

structure PaymentService where
  db : PaymentDatabase
  workers : Nat → Option WebhookWorker

namespace PaymentService

def setWorker (service : PaymentService) (worker : Nat) (state : Option WebhookWorker) :
    PaymentService :=
  { service with workers := Function.update service.workers worker state }

/-- The transaction of a request; a failure leaves the database as it was. -/
def call {α : Type} (service : PaymentService) (x : PayTx PaymentDatabase α) : PaymentService :=
  { service with db := committed x service.db }

/-- The claim of a delivery; the worker goes on only if it holds the claim. -/
def deliver (service : PaymentService) (worker : Nat) (gatewayId : PaymentGatewayId)
    (event : WebhookEvent) (payloadHash : Bytes) (processingToken : Uuid)
    (now processingAt : OffsetDateTime) : PaymentService :=
  let x := claimWebhook gatewayId event payloadHash processingToken now processingAt
  match x.run service.db with
  | .ok (none, db) => setWorker { service with db := db } worker
      (some ⟨gatewayId, event, processingToken, .claimed⟩)
  | .ok (some _, db) => setWorker { service with db := db } worker none
  | .error _ => setWorker service worker none

theorem deliver_db (service : PaymentService) (worker : Nat) (gatewayId : PaymentGatewayId)
    (event : WebhookEvent) (payloadHash : Bytes) (processingToken : Uuid)
    (now processingAt : OffsetDateTime) :
    (service.deliver worker gatewayId event payloadHash processingToken now processingAt).db =
      committed (claimWebhook gatewayId event payloadHash processingToken now processingAt)
        service.db := by
  unfold deliver committed
  dsimp only
  split <;> rename_i hrun <;> rw [hrun] <;> rfl

variable [Sha256]

/-- The next step of a worker: one read, or one transaction. -/
def advance (service : PaymentService) (index : Nat) (worker : WebhookWorker)
    (correctionId : Uuid → Uuid) : PaymentService :=
  match worker.phase, worker.event with
  | .claimed, .payment event =>
      let x := applyPaymentWebhook worker.claim event
      (service.call x).setWorker index (some (worker.enter (.applied (x.run' service.db))))
  | .claimed, .refund event =>
      match refundOfWebhook service.db worker.gatewayId event with
      | none => service.setWorker index (some (worker.enter (.applied (.ok false))))
      | some refundId => service.setWorker index (some (worker.enter (.selected refundId)))
  | .selected refundId, _ =>
      match service.db.refunds.lookup refundId with
      | none => service.setWorker index
          (some (worker.enter (.applied (.error (.notFound "refund")))))
      | some refund => service.setWorker index (some (worker.enter (.loaded refund)))
  | .loaded refund, .refund event =>
      let result : Except StoreError RefundOutcome :=
        match service.db.payments.lookup refund.paymentId with
        | none => .error (.notFound "payment")
        | some payment => refundWebhookOutcome event refund payment
      match result with
      | .error error => service.setWorker index
          (some (worker.enter (.applied (.error error))))
      | .ok outcome => service.setWorker index
          (some (worker.enter (.checked refund.id outcome)))
  | .checked refundId outcome, _ =>
      let x := completeRefundClaimed refundId (.ok outcome) (some worker.claim) correctionId
      (service.call x).setWorker index
        (some (worker.enter (.applied ((x.run' service.db).map fun _ => true))))
  | .applied result, _ =>
      let (status, failureReason) := finalStatus result
      (service.call (finishWebhook worker.claim status failureReason)).setWorker index none
  -- Payment events are applied in one transaction and load nothing.
  | .loaded _, .payment _ => service.setWorker index none

def step (service : PaymentService) : PaymentAction → PaymentService
  | .surround surroundings invoices =>
      { service with db := { service.db with
        surroundings := surroundings
        invoices := invoices } }
  | .prepareAuthorization environment command now createdAt =>
      service.call (MatchPlane.prepareAuthorization environment command now createdAt)
  | .completeAuthorization outcome =>
      service.call (MatchPlane.completeAuthorization outcome)
  | .failAuthorization paymentId unknown providerStatus =>
      service.call (MatchPlane.failAuthorization paymentId unknown providerStatus)
  | .prepareQuery tenantId paymentId idempotencyKey requestHash operationId createdAt =>
      service.call (MatchPlane.prepareQuery tenantId paymentId idempotencyKey requestHash
        operationId createdAt)
  | .completeQuery paymentId idempotencyKey outcome =>
      service.call (MatchPlane.completeQuery paymentId idempotencyKey outcome)
  | .prepareCapture tenantId paymentId idempotencyKey requestHash amount operationId now
      createdAt =>
      service.call (MatchPlane.prepareCapture tenantId paymentId idempotencyKey requestHash
        amount operationId now createdAt)
  | .completeCapture paymentId idempotencyKey amount outcome now =>
      service.call (MatchPlane.completeCapture paymentId idempotencyKey amount outcome now)
  | .prepareRefund command createdAt =>
      service.call (MatchPlane.prepareRefund command createdAt)
  | .completeRefund refundId outcome correctionId =>
      service.call (MatchPlane.completeRefund refundId outcome correctionId)
  | .deliver worker gatewayId event payloadHash processingToken now processingAt =>
      service.deliver worker gatewayId event payloadHash processingToken now processingAt
  | .advance index correctionId =>
      match service.workers index with
      | none => service
      | some worker => service.advance index worker correctionId
  | .stop worker => service.setWorker worker none

/-! ## What a worker can do -/

/-- The database after the next step of a worker. -/
inductive Advanced (service : PaymentService) (worker : WebhookWorker)
    (correctionId : Uuid → Uuid) (db : PaymentDatabase) : Prop
  | read (h : db = service.db)
  | payment (event : PaymentWebhook) (hevent : worker.event = .payment event)
      (hphase : worker.phase = .claimed)
      (h : db = committed (applyPaymentWebhook worker.claim event) service.db)
  | refund (refundId : RefundId) (outcome : RefundOutcome)
      (hphase : worker.phase = .checked refundId outcome)
      (h : db = committed (completeRefundClaimed refundId (.ok outcome) (some worker.claim)
        correctionId) service.db)
  | finish (status : WebhookInboxStatus) (failureReason : Option StoreError)
      (h : db = committed (finishWebhook worker.claim status failureReason) service.db)

theorem advance_db (service : PaymentService) (index : Nat) (worker : WebhookWorker)
    (correctionId : Uuid → Uuid) :
    Advanced service worker correctionId (service.advance index worker correctionId).db := by
  unfold advance
  split
  · rename_i event hphase hevent
    exact .payment event hevent hphase rfl
  · split
    · exact .read rfl
    · exact .read rfl
  · split
    · exact .read rfl
    · exact .read rfl
  · dsimp only
    split
    · exact .read rfl
    · exact .read rfl
  · rename_i refundId outcome hphase
    exact .refund refundId outcome hphase rfl
  · exact .finish _ _ rfl
  · exact .read rfl

/-! ## Runs -/

def run (service : PaymentService) (actions : List PaymentAction) : PaymentService :=
  actions.foldl step service

theorem run_append (service : PaymentService) (first second : List PaymentAction) :
    service.run (first ++ second) = (service.run first).run second :=
  List.foldl_append

/-- Every step of a run is one that `allowed` accepts in its state. -/
def Every (allowed : PaymentService → PaymentAction → Prop) :
    PaymentService → List PaymentAction → Prop
  | _, [] => True
  | service, action :: rest => allowed service action ∧ Every allowed (service.step action) rest

/-- Some step of a run is one that `wanted` accepts in its state. -/
def Once (wanted : PaymentService → PaymentAction → Prop) :
    PaymentService → List PaymentAction → Prop
  | _, [] => False
  | service, action :: rest => wanted service action ∨ Once wanted (service.step action) rest

/-- A database that the service has not written yet. -/
structure Fresh (service : PaymentService) : Prop where
  payments : service.db.payments = .empty
  operations : service.db.operations = .empty
  refunds : service.db.refunds = .empty
  inbox : service.db.inbox = .empty
  workers : ∀ worker, service.workers worker = none

end PaymentService

/-! ## A small shop -/

/-- One tenant whose payments go through one production gateway. -/
def smallShop (kind : GatewayKind) : PaymentService where
  db := {
    surroundings := {
      activeMode := fun _ => some .production
      routes := [⟨1, ⟨1⟩, ⟨1⟩, "*", "*", 0, true⟩]
      gateways := [⟨⟨1⟩, ⟨1⟩, kind, .production, some "vault", some (List.replicate 32 0), true,
        1⟩]
      offlineDeals := [] }
    invoices := .empty
    payments := .empty
    operations := .empty
    refunds := .empty
    inbox := .empty
    events := [] }
  workers := fun _ => none

theorem smallShop_fresh (kind : GatewayKind) : (smallShop kind).Fresh :=
  ⟨rfl, rfl, rfl, rfl, fun _ => rfl⟩

/-- A sale over 100 units, of which 10 are commission. -/
def smallSale : NewPayment where
  paymentId := ⟨1⟩
  tenantId := ⟨1⟩
  offlineDealId := none
  payerPartyId := none
  merchantOrderId := "order-1"
  idempotencyKey := "sale"
  requestHash := List.replicate 32 0
  transactionChannel := "online_platform"
  purpose := "sale"
  paymentMethod := "card"
  amount := 100
  commissionAmount := 10
  currency := "CNY"
  currencyScale := 2

def saleOutcome (status : PaymentStatus) : PaymentOutcome where
  paymentId := ⟨1⟩
  providerReference := "order-1"
  status := status
  redirectUrl := none
  providerStatus := "reported"

/-- The sale is authorized, and 30 units of it are asked for. -/
def saleCapturing : List PaymentAction :=
  [.prepareAuthorization .production smallSale 0 0,
    .completeAuthorization (saleOutcome .authorized),
    .prepareCapture ⟨1⟩ ⟨1⟩ "capture" (List.replicate 32 0) 30 1 0 0]

/-- A refund of the small sale. -/
def saleRefund (refundId : RefundId) (idempotencyKey : String) (amount : Int) : NewRefund where
  refundId := refundId
  tenantId := ⟨1⟩
  paymentId := ⟨1⟩
  idempotencyKey := idempotencyKey
  requestHash := List.replicate 32 0
  amount := amount
  reason := "returned"

end MatchPlane
