import MatchPlane.Payments.Effects
import MatchPlane.Payments.Service

/-!
# What a step of the service does

Every step opens a payment, reports something about one, asks for a capture or a
refund, or answers a refund; everything else leaves payments and refunds alone.
Invariants of the service are case analyses over these moves.
-/

namespace MatchPlane

open MatchPlane.Library

/-- Something a provider said about a payment, on any of the paths. -/
inductive Report where
  | authorization (outcome : PaymentOutcome)
  | rejection (paymentId : PaymentId) (unknown : Bool) (providerStatus : String)
  | query (paymentId : PaymentId) (outcome : Except PaymentError PaymentOutcome)
  | capture (paymentId : PaymentId) (amount : Int) (outcome : Except PaymentError PaymentOutcome)
      (now : OffsetDateTime)
  | webhook (gatewayId : PaymentGatewayId) (event : PaymentWebhook)
  deriving DecidableEq

namespace Report

/-- The payment that a report is about. -/
def isAbout (db : PaymentDatabase) (row : PaymentIntentRow) : Report → Prop
  | authorization outcome => row.id = outcome.paymentId
  | rejection paymentId _ _ => row.id = paymentId
  | query paymentId _ => row.id = paymentId
  | capture paymentId _ _ _ => row.id = paymentId
  | webhook gatewayId event => paymentOfWebhook db.payments gatewayId event = some row

/-- What a report makes of the payment that it is about. -/
def Writes (db : PaymentDatabase) (row row' : PaymentIntentRow) : Report → Prop
  | authorization outcome =>
      (row.status ∈ [.requested, .unknown, .pending] ∨ row.status = outcome.status.intent) ∧
        row' = { row with
          status := outcome.status.intent
          providerReference := some outcome.providerReference
          redirectUrl := outcome.redirectUrl
          providerStatus := outcome.providerStatus
          capturedAmount :=
            if outcome.status = .captured then row.amount else row.capturedAmount }
  | rejection _ unknown providerStatus =>
      (row.status = .requested ∨ row.status = .pending) ∧ row' = { row with
        status := if unknown then .unknown else .failed
        providerStatus := providerStatus }
  | query _ outcome => QueryWrite db.operations row row' outcome
  | capture _ amount outcome now => ∃ invalid : Bool,
      (invalid = true → LateCapture db row amount outcome now) ∧
      CaptureWrite amount (captureVerdict invalid outcome).2.1
        (captureVerdict invalid outcome).2.2 row row'
  | webhook _ event => WebhookWrite event row row'

end Report

/-- What one step may do to payments, refunds and the captures that were asked for. -/
inductive PaymentsMoved (db : PaymentDatabase) (report : Option Report)
    (db' : PaymentDatabase) : Prop
  | still (payments : db'.payments = db.payments) (refunds : db'.refunds = db.refunds)
      (captures : SameCaptures db.operations db'.operations)
  | opened (row : PaymentIntentRow) (new : row.IsNew)
      (payments : db'.payments.rows = db.payments.rows ++ [row])
      (refunds : db'.refunds = db.refunds)
      (captures : SameCaptures db.operations db'.operations)
  | reported (delivered : Report) (row row' : PaymentIntentRow) (delivers : report = some delivered)
      (about : delivered.isAbout db row) (writes : delivered.Writes db row row')
      (payments : Table.Written db.payments db'.payments row row')
      (refunds : db'.refunds = db.refunds)
      (captures : SameCaptures db.operations db'.operations)
  | capturing (paymentId : PaymentId) (amount : Int) (createdAt : OffsetDateTime)
      (accepted : CaptureAccepted db db' paymentId amount createdAt)
  | refunding (refund : PaymentRefundRow) (payments : db'.payments = db.payments)
      (captures : SameCaptures db.operations db'.operations)
      (accepted : RefundAccepted db db' refund)
  | refunded (outcome : Except PaymentError RefundOutcome) (refund refund' : PaymentRefundRow)
      (captures : SameCaptures db.operations db'.operations)
      (write : RefundWrite db db' outcome refund refund')

section Moves

variable {db db' : PaymentDatabase} {α : Type}

theorem PaymentsMoved.refl (report : Option Report) : PaymentsMoved db report db :=
  .still rfl rfl fun _ => rfl

theorem Effect.moved {skipped : Prop} {write : PaymentIntentRow → PaymentIntentRow → Prop}
    {report : Report} (h : Effect db db' skipped write)
    (hwrite : ∀ row row', write row row' → report.isAbout db row ∧ report.Writes db row row') :
    PaymentsMoved db (some report) db' := by
  rcases h.payments with ⟨_, hsame⟩ | ⟨row, row', hwritten, hwrote⟩
  · exact .still hsame h.refunds h.captures
  · obtain ⟨habout, hwrites⟩ := hwrite row row' hwrote
    exact .reported report row row' rfl habout hwrites hwritten h.refunds h.captures

/-- What is said of every success of a request is true of the request. -/
theorem move_committed {x : PayTx PaymentDatabase α} {report : Option Report}
    (h : Ensures x anyError db fun _ db' => PaymentsMoved db report db') :
    PaymentsMoved db report (committed x db) :=
  h.committed (.refl report)

theorem move_of_keeps {x : PayTx PaymentDatabase α} {report : Option Report}
    (h : Keeps (fun db : PaymentDatabase => (db.payments, db.operations, db.refunds)) x) :
    PaymentsMoved db report (committed x db) := by
  have hsame := h.committed db
  simp only [Prod.mk.injEq] at hsame
  obtain ⟨hpayments, hoperations, hrefunds⟩ := hsame
  refine .still hpayments hrefunds fun _ => ?_
  rw [hoperations]

theorem move_refunded [Sha256] (refundId : RefundId)
    (outcome : Except PaymentError RefundOutcome) (claim : Option WebhookClaim)
    (correctionId : Uuid → Uuid) :
    PaymentsMoved db none
      (committed (completeRefundClaimed refundId outcome claim correctionId) db) := by
  refine move_committed ((ensures_completeRefundClaimed refundId outcome claim
    correctionId).mono (fun _ h => h) fun _ db' ⟨hcaptures, hwrites⟩ => ?_)
  rcases hwrites with ⟨hrefunds, hpayments⟩ | ⟨refund, refund', _, hwrite⟩
  · exact .still hpayments hrefunds hcaptures
  · exact .refunded outcome refund refund' hcaptures hwrite

/-- What one step may do to one payment. -/
inductive RowMoved (db : PaymentDatabase) (report : Option Report) (db' : PaymentDatabase)
    (row row' : PaymentIntentRow) : Prop
  | kept (refunded reversed : Int) (same : row' = { row with
      refundedAmount := refunded
      commissionRefundedAmount := reversed })
  | reported (delivered : Report) (delivers : report = some delivered)
      (about : delivered.isAbout db row) (writes : delivered.Writes db row row')
  | capturing (amount : Int) (createdAt : OffsetDateTime)
      (accepted : CaptureAccepted db db' row.id amount createdAt)
      (authorized : row.status = .authorized)
      (pending : row' = { row with status := .capturePending })

variable {report : Option Report} {row : PaymentIntentRow}

theorem RowMoved.refl : RowMoved db report db' row row :=
  .kept row.refundedAmount row.commissionRefundedAmount rfl

/-- A row that is written moves as the write says, and every other row stays. -/
theorem RowMoved.written {written written' : PaymentIntentRow} {id : PaymentId}
    (hwritten : Table.Written db.payments db'.payments written written')
    (hmoved : RowMoved db report db' written written')
    (hrow : db.payments.lookup id = some row) :
    ∃ row', db'.payments.lookup id = some row' ∧ RowMoved db report db' row row' := by
  have hlookup := hwritten.lookup id
  split at hlookup
  · rename_i hid
    have hstored := hwritten.stored
    rw [← hid, hrow, Option.some.injEq] at hstored
    rw [hstored]
    exact ⟨written', hlookup, hmoved⟩
  · exact ⟨row, hlookup.trans hrow, .refl⟩

theorem PaymentsMoved.of_lookup (h : PaymentsMoved db report db') {id : PaymentId}
    (hrow : db.payments.lookup id = some row) :
    ∃ row', db'.payments.lookup id = some row' ∧ RowMoved db report db' row row' := by
  have hsame : db'.payments = db.payments →
      ∃ row', db'.payments.lookup id = some row' ∧ RowMoved db report db' row row' := by
    intro hpayments
    rw [hpayments]
    exact ⟨row, hrow, .refl⟩
  cases h with
  | still hpayments _ _ => exact hsame hpayments
  | opened new _ hrows _ _ => exact ⟨row, Table.lookup_inserted_of_some hrows hrow, .refl⟩
  | reported delivered written written' hdelivers habout hwrites hwritten _ _ =>
      exact RowMoved.written hwritten (.reported delivered hdelivers habout hwrites) hrow
  | capturing paymentId amount createdAt haccepted =>
      obtain ⟨written, hid, hauthorized, _, _, hwritten⟩ := haccepted.payment
      rw [← hid] at haccepted
      exact RowMoved.written hwritten
        (.capturing amount createdAt haccepted hauthorized rfl) hrow
  | refunding refund hpayments _ _ => exact hsame hpayments
  | refunded outcome refund refund' _ hwrite =>
      have hpayment := hwrite.payment
      split at hpayment
      · rcases hpayment with ⟨_, hpayments⟩ | ⟨written, _, hwritten⟩
        · exact hsame hpayments
        · exact RowMoved.written hwritten (.kept _ _ rfl) hrow
      · exact hsame hpayment

/-- What was last asked for changes only when a capture of the payment is accepted. -/
theorem PaymentsMoved.latestCaptureAmount (h : PaymentsMoved db report db')
    (hother : ∀ amount createdAt, ¬CaptureAccepted db db' row.id amount createdAt) :
    latestCaptureAmount db'.operations row = latestCaptureAmount db.operations row := by
  cases h with
  | still _ _ hcaptures => exact hcaptures row
  | opened _ _ _ _ hcaptures => exact hcaptures row
  | reported _ _ _ _ _ _ _ _ hcaptures => exact hcaptures row
  | capturing paymentId amount createdAt haccepted =>
      obtain ⟨operation, hrows, hpayment, _, _, _⟩ := haccepted.operation
      have hne : operation.paymentId ≠ row.id := by
        rintro hsame
        rw [hpayment] at hsame
        exact hother amount createdAt (hsame ▸ haccepted)
      unfold MatchPlane.latestCaptureAmount capturesOf
      rw [hrows, List.filter_append, List.filter_singleton]
      simp [hne]
  | refunding _ _ hcaptures _ => exact hcaptures row
  | refunded _ _ _ hcaptures _ => exact hcaptures row

end Moves

namespace PaymentService

/-- The report that a step brings to the database, if it brings one. -/
def report (service : PaymentService) : PaymentAction → Option Report
  | .completeAuthorization outcome => some (.authorization outcome)
  | .failAuthorization paymentId unknown providerStatus =>
      some (.rejection paymentId unknown providerStatus)
  | .completeQuery paymentId _ outcome => some (.query paymentId outcome)
  | .completeCapture paymentId _ amount outcome now =>
      some (.capture paymentId amount outcome now)
  | .advance index _ =>
      match service.workers index with
      | some ⟨gatewayId, .payment event, _, .claimed⟩ => some (.webhook gatewayId event)
      | _ => none
  | _ => none

/-- A webhook is reported by the worker that has just claimed it. -/
theorem report_webhook {service : PaymentService} {action : PaymentAction}
    {gatewayId : PaymentGatewayId} {event : PaymentWebhook}
    (h : service.report action = some (.webhook gatewayId event)) :
    ∃ index correctionId worker, action = .advance index correctionId ∧
      service.workers index = some worker ∧ worker.gatewayId = gatewayId ∧
      worker.phase = .claimed ∧ worker.event = .payment event := by
  cases action with
  | advance index correctionId =>
      simp only [report] at h
      split at h
      · rename_i hworker
        cases h
        exact ⟨index, correctionId, _, rfl, hworker, rfl, rfl, rfl⟩
      · cases h
  | _ => cases h

variable [Sha256]

theorem advance_webhook {service : PaymentService} {index : Nat} {worker : WebhookWorker}
    {event : PaymentWebhook} (hworker : service.workers index = some worker)
    (hphase : worker.phase = .claimed) (hevent : worker.event = .payment event)
    (correctionId : Uuid → Uuid) : (service.step (.advance index correctionId)).db =
      committed (applyPaymentWebhook worker.claim event) service.db := by
  simp only [step, hworker, advance, hphase, hevent]
  rfl

theorem advance_moved (service : PaymentService) (index : Nat) (worker : WebhookWorker)
    (correctionId : Uuid → Uuid) (hworker : service.workers index = some worker) :
    PaymentsMoved service.db (service.report (.advance index correctionId))
      (service.advance index worker correctionId).db := by
  cases advance_db service index worker correctionId with
  | read h =>
      rw [h]
      exact .refl _
  | payment event hevent hphase h =>
      obtain ⟨gatewayId, _, processingToken, _⟩ := worker
      subst hevent hphase
      have hreport : service.report (.advance index correctionId) =
          some (.webhook gatewayId event) := by
        simp only [report, hworker]
      rw [h, hreport]
      refine move_committed ((ensures_applyPaymentWebhook _ event).mono (fun _ h => h) ?_)
      exact fun _ _ heffect => heffect.moved fun row row' hwrite => hwrite
  | refund refundId outcome hphase h =>
      have hreport : service.report (.advance index correctionId) = none := by
        obtain ⟨gatewayId, event, processingToken, _⟩ := worker
        subst hphase
        simp only [report, hworker]
      rw [h, hreport]
      exact move_refunded refundId (.ok outcome) (some worker.claim) correctionId
  | finish status failureReason h =>
      rw [h]
      exact move_of_keeps (keeps_finishWebhook worker.claim status failureReason)

theorem step_moved (service : PaymentService) (action : PaymentAction) :
    PaymentsMoved service.db (service.report action) (service.step action).db := by
  cases action with
  | surround surroundings invoices => exact .still rfl rfl fun _ => rfl
  | prepareAuthorization environment command now createdAt =>
      refine move_committed ((ensures_prepareAuthorization environment command now
        createdAt).mono (fun _ h => h) fun _ db' ⟨hrefunds, hcaptures, hpayments⟩ => ?_)
      rcases hpayments with hsame | ⟨row, hnew, hrows⟩
      · exact .still hsame hrefunds hcaptures
      · exact .opened row hnew hrows hrefunds hcaptures
  | completeAuthorization outcome =>
      refine move_committed ((ensures_completeAuthorization outcome).mono (fun _ h => h) ?_)
      exact fun _ _ heffect => heffect.moved fun row row' hwrite => hwrite
  | failAuthorization paymentId unknown providerStatus =>
      refine move_committed ((ensures_failAuthorization paymentId unknown
        providerStatus).mono (fun _ h => h) ?_)
      exact fun _ _ heffect => heffect.moved fun row row' hwrite => hwrite
  | prepareQuery tenantId paymentId idempotencyKey requestHash operationId createdAt =>
      refine move_committed ((ensures_prepareQuery _ _ _ _ _ _).mono (fun _ h => h) ?_)
      intro _ db' heffect
      rcases heffect.payments with ⟨_, hsame⟩ | ⟨_, _, _, hnothing⟩
      · exact .still hsame heffect.refunds heffect.captures
      · exact hnothing.elim
  | completeQuery paymentId idempotencyKey outcome =>
      refine move_committed ((ensures_completeQuery paymentId idempotencyKey outcome).mono
        (fun _ h => h) ?_)
      exact fun _ _ heffect => heffect.moved fun row row' hwrite => hwrite
  | prepareCapture tenantId paymentId idempotencyKey requestHash amount operationId now
      createdAt =>
      refine move_committed ((ensures_prepareCapture tenantId paymentId idempotencyKey
        requestHash amount operationId now createdAt).mono (fun _ h => h)
        fun _ db' haccepted => ?_)
      rcases haccepted with rfl | haccepted
      · exact .refl _
      · exact .capturing paymentId amount createdAt haccepted
  | completeCapture paymentId idempotencyKey amount outcome now =>
      refine move_committed ((ensures_completeCapture paymentId idempotencyKey amount outcome
        now).mono (fun _ h => h) ?_)
      rintro _ db' ⟨invalid, payment, hpayment, hinvalid, heffect⟩
      refine heffect.moved fun row row' ⟨hsame, hwrite⟩ => ?_
      subst hsame
      exact ⟨Table.key_of_lookup hpayment, invalid, hinvalid, hwrite⟩
  | prepareRefund command createdAt =>
      refine move_committed ((ensures_prepareRefund command createdAt).mono (fun _ h => h) ?_)
      rintro _ db' ⟨hpayments, hcaptures, hrefunds⟩
      rcases hrefunds with hsame | ⟨refund, haccepted⟩
      · exact .still hpayments hsame hcaptures
      · exact .refunding refund hpayments hcaptures haccepted
  | completeRefund refundId outcome correctionId =>
      exact move_refunded refundId outcome none correctionId
  | deliver worker gatewayId event payloadHash processingToken now processingAt =>
      simp only [step, deliver_db]
      exact move_of_keeps (keeps_claimWebhook gatewayId event payloadHash processingToken now
        processingAt)
  | advance index correctionId =>
      simp only [step]
      split
      · exact .refl _
      · rename_i worker hworker
        exact advance_moved service index worker correctionId hworker
  | stop worker => exact .refl _

end PaymentService

end MatchPlane
