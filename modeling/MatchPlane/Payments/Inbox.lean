import MatchPlane.Payments.Effects
import MatchPlane.Payments.Money
import MatchPlane.Payments.Service

/-!
# The webhook inbox

Only deliveries and their workers write the inbox.  A row keeps the payload that it
was first stored for, and a delivery that finds no row of its event is claimed.
-/

namespace MatchPlane

open MatchPlane.Library

/-! ## What leaves the inbox alone -/

variable {α : Type}

theorem Reads.keepsInbox {x : PayTx PaymentDatabase α} (h : Reads x) : Keeps PaymentDatabase.inbox x := by
  intro db
  refine (h db).mono (fun _ h => h) fun _ db' hsame => ?_
  rw [show db' = db from hsame]

theorem keepsInbox_insertPaymentEvent (event : PaymentEventRow) :
    Keeps PaymentDatabase.inbox (insertPaymentEvent event) := fun _ => rfl

theorem keepsInbox_updatePayment (paymentId : PaymentId)
    (set : PaymentIntentRow → PaymentIntentRow) :
    Keeps PaymentDatabase.inbox (updatePayment paymentId set) := by
  unfold updatePayment
  exact (keeps_on (by intro _ _; rfl)).bind fun _ => keeps_pure _

theorem keepsInbox_prepareAuthorization (environment : Environment) (command : NewPayment)
    (now createdAt : OffsetDateTime) :
    Keeps PaymentDatabase.inbox (prepareAuthorization environment command now createdAt) := by
  unfold prepareAuthorization
  refine keeps_get.bind fun db => ?_
  dsimp only
  split
  · refine (keeps_throw _).ite ?_
    refine (reads_paymentIn _).keepsInbox.bind fun _ => ?_
    refine (reads_gatewayIn _).keepsInbox.bind fun _ => ?_
    exact (keeps_throw _).ite (keeps_pure _)
  · refine (reads_ensureDealAuthorization _ _).keepsInbox.bind fun _ => ?_
    refine keeps_get.bind fun _ => (keeps_require _ _).bind fun _ => ?_
    refine (keeps_require _ _).bind fun _ => (keeps_lift _).bind fun _ => ?_
    refine (keeps_throw _).ite ((keeps_throw _).ite ?_)
    refine (keeps_on (by intro _ _; rfl)).bind fun _ => ?_
    refine (keepsInbox_insertPaymentEvent _).bind fun _ => ?_
    exact (reads_paymentIn _).keepsInbox.bind fun _ => keeps_pure _

theorem keepsInbox_completeAuthorization (outcome : PaymentOutcome) :
    Keeps PaymentDatabase.inbox (completeAuthorization outcome) := by
  unfold completeAuthorization
  refine (reads_paymentIn _).keepsInbox.bind fun _ => ?_
  refine (keeps_throw _).ite ?_
  refine (keepsInbox_updatePayment _ _).bind fun _ => ?_
  exact (keepsInbox_insertPaymentEvent _).bind fun _ => (reads_paymentIn _).keepsInbox

theorem keepsInbox_failAuthorization (paymentId : PaymentId) (unknown : Bool)
    (providerStatus : String) :
    Keeps PaymentDatabase.inbox (failAuthorization paymentId unknown providerStatus) := by
  unfold failAuthorization
  refine (reads_paymentIn _).keepsInbox.bind fun _ => Keeps.ite ?_ ?_
  · refine (keepsInbox_updatePayment _ _).bind fun _ => ?_
    exact (keepsInbox_insertPaymentEvent _).bind fun _ => (reads_paymentIn _).keepsInbox
  · exact (reads_paymentIn _).keepsInbox

theorem keepsInbox_prepareQuery (tenantId : TenantId) (paymentId : PaymentId)
    (idempotencyKey : String) (requestHash : Bytes) (operationId : Uuid)
    (createdAt : OffsetDateTime) :
    Keeps PaymentDatabase.inbox (prepareQuery tenantId paymentId idempotencyKey requestHash operationId
      createdAt) := by
  unfold prepareQuery knownOperation
  refine (keeps_get.bind fun _ => keeps_pure _).bind fun known => ?_
  split
  · refine (keeps_throw _).ite ((reads_paymentIn _).keepsInbox.bind fun _ => ?_)
    exact (reads_gatewayIn _).keepsInbox.bind fun _ => keeps_pure _
  · refine (reads_paymentIn _).keepsInbox.bind fun _ => (keeps_throw _).ite ?_
    refine (keeps_on (by intro _ _; rfl)).bind fun _ => ?_
    exact (reads_gatewayIn _).keepsInbox.bind fun _ => keeps_pure _

theorem keepsInbox_completeQuery (paymentId : PaymentId) (idempotencyKey : String)
    (outcome : Except PaymentError PaymentOutcome) :
    Keeps PaymentDatabase.inbox (completeQuery paymentId idempotencyKey outcome) := by
  unfold completeQuery
  refine (reads_paymentIn _).keepsInbox.bind fun _ => ?_
  dsimp only
  refine (keeps_on (by intro _ _; rfl)).bind fun _ => (keeps_require _ _).bind fun _ => ?_
  split
  · refine Keeps.ite (keeps_get.bind fun _ => ?_) ?_
    · refine (keepsInbox_updatePayment _ _).bind fun _ => ?_
      exact (keepsInbox_insertPaymentEvent _).bind fun _ => (reads_paymentIn _).keepsInbox
    · exact (keepsInbox_insertPaymentEvent _).bind fun _ => (reads_paymentIn _).keepsInbox
  · refine Keeps.ite ?_ ?_
    · refine (keepsInbox_updatePayment _ _).bind fun _ => ?_
      exact (keepsInbox_insertPaymentEvent _).bind fun _ => (reads_paymentIn _).keepsInbox
    · exact (keepsInbox_insertPaymentEvent _).bind fun _ => (reads_paymentIn _).keepsInbox

theorem keepsInbox_prepareCapture (tenantId : TenantId) (paymentId : PaymentId)
    (idempotencyKey : String) (requestHash : Bytes) (amount : Int) (operationId : Uuid)
    (now createdAt : OffsetDateTime) :
    Keeps PaymentDatabase.inbox (prepareCapture tenantId paymentId idempotencyKey requestHash amount
      operationId now createdAt) := by
  unfold prepareCapture knownOperation
  refine (keeps_get.bind fun _ => keeps_pure _).bind fun known => ?_
  split
  · refine (keeps_throw _).ite ((keeps_throw _).ite ?_)
    refine (reads_paymentIn _).keepsInbox.bind fun _ => ?_
    refine (reads_gatewayIn _).keepsInbox.bind fun _ => Keeps.ite ?_ (keeps_pure _)
    exact (reads_validateCaptureTarget _ _ _).keepsInbox.bind fun _ => keeps_pure _
  · refine (reads_paymentIn _).keepsInbox.bind fun _ => (keeps_throw _).ite ?_
    refine (keeps_throw _).ite ((keeps_lift _).bind fun _ => (keeps_throw _).ite ?_)
    refine (reads_validateCaptureTarget _ _ _).keepsInbox.bind fun _ => ?_
    refine (keeps_on (by intro _ _; rfl)).bind fun _ => ?_
    refine (keepsInbox_updatePayment _ _).bind fun _ => ?_
    refine (keepsInbox_insertPaymentEvent _).bind fun _ => ?_
    refine (reads_paymentIn _).keepsInbox.bind fun _ => ?_
    exact (reads_gatewayIn _).keepsInbox.bind fun _ => keeps_pure _

theorem keepsInbox_completeCapture (paymentId : PaymentId) (idempotencyKey : String)
    (amount : Int) (outcome : Except PaymentError PaymentOutcome) (now : OffsetDateTime) :
    Keeps PaymentDatabase.inbox (completeCapture paymentId idempotencyKey amount outcome now) := by
  unfold completeCapture recordCapture
  refine (reads_paymentIn _).keepsInbox.bind fun _ => ?_
  refine (reads_captureTargetInvalid _ _ _ _).keepsInbox.bind fun _ => ?_
  dsimp only
  refine (keeps_on (by intro _ _; rfl)).bind fun _ => Keeps.ite ?_ ?_
  · exact (keepsInbox_insertPaymentEvent _).bind fun _ => keeps_pure _
  · refine (keeps_lift _).bind fun _ => (keepsInbox_updatePayment _ _).bind fun _ => ?_
    exact (keepsInbox_insertPaymentEvent _).bind fun _ => (reads_paymentIn _).keepsInbox

theorem keepsInbox_prepareRefund (command : NewRefund) (createdAt : OffsetDateTime) :
    Keeps PaymentDatabase.inbox (prepareRefund command createdAt) := by
  unfold prepareRefund
  refine keeps_get.bind fun db => ?_
  dsimp only
  split
  · refine (keeps_throw _).ite ((keeps_throw _).ite ?_)
    refine (reads_paymentIn _).keepsInbox.bind fun _ => ?_
    refine (reads_refundIn _).keepsInbox.bind fun _ => ?_
    exact (reads_gatewayIn _).keepsInbox.bind fun _ => keeps_pure _
  · refine (reads_paymentIn _).keepsInbox.bind fun _ => (keeps_throw _).ite ?_
    refine (keeps_throw _).ite (keeps_get.bind fun _ => (keeps_lift _).bind fun _ => ?_)
    refine (keeps_lift _).bind fun _ => (keeps_lift _).bind fun _ => ?_
    refine (keeps_lift _).bind fun _ => (keeps_lift _).bind fun _ => ?_
    refine (keeps_on (by intro _ _; rfl)).bind fun _ => ?_
    refine (reads_refundIn _).keepsInbox.bind fun _ => ?_
    exact (reads_gatewayIn _).keepsInbox.bind fun _ => keeps_pure _

theorem keepsInbox_completeRefundClaimed [Sha256] (refundId : RefundId)
    (outcome : Except PaymentError RefundOutcome) (claim : Option WebhookClaim)
    (correctionId : Uuid → Uuid) :
    Keeps PaymentDatabase.inbox (completeRefundClaimed refundId outcome claim correctionId) := by
  unfold completeRefundClaimed payBack
  refine (reads_ensureClaim _).keepsInbox.bind fun _ => ?_
  refine (reads_refundIn _).keepsInbox.bind fun _ => ?_
  dsimp only
  refine Keeps.ite ?_ ?_
  · exact (keepsInbox_insertPaymentEvent _).bind fun _ => keeps_pure _
  · refine (keeps_on (by intro _ _; rfl)).bind fun _ => Keeps.ite ?_ ?_
    · refine Keeps.bind ?_ fun _ => (keepsInbox_insertPaymentEvent _).bind fun _ =>
        (reads_refundIn _).keepsInbox
      exact (keepsInbox_updatePayment _ _).bind fun _ => keeps_on (by intro _ _; rfl)
    · exact (keepsInbox_insertPaymentEvent _).bind fun _ => (reads_refundIn _).keepsInbox

theorem keepsInbox_applyPaymentWebhook (claim : WebhookClaim) (event : PaymentWebhook) :
    Keeps PaymentDatabase.inbox (applyPaymentWebhook claim event) := by
  unfold applyPaymentWebhook
  refine (reads_ensureWebhookClaim _ _ _).keepsInbox.bind fun _ => keeps_get.bind fun _ => ?_
  split
  · exact keeps_pure _
  · refine (keeps_throw _).ite ((keeps_throw _).ite ((keeps_lift _).bind fun _ => ?_))
    refine (keeps_lift _).bind fun _ => Keeps.ite ?_ ?_
    · exact (keepsInbox_insertPaymentEvent _).bind fun _ => keeps_pure _
    · refine (keeps_lift _).bind fun _ => (keepsInbox_updatePayment _ _).bind fun _ => ?_
      exact (keepsInbox_insertPaymentEvent _).bind fun _ => keeps_pure _

/-! ## What the inbox remembers -/

/-- The gateway, the event and the payload of a delivery. -/
abbrev Delivery := PaymentGatewayId × String × Bytes

/-- Every row was there with the same payload, or is that of the delivery. -/
def InboxMoved (inbox inbox' : Table webhookInbox) (delivery : Option Delivery) : Prop :=
  ∀ key row', inbox'.lookup key = some row' →
    (∃ row, inbox.lookup key = some row ∧ row.payloadHash = row'.payloadHash) ∨
      delivery = some (key.1, key.2, row'.payloadHash)

section Claim

variable {db : PaymentDatabase} {inbox inbox' : Table webhookInbox}

theorem InboxMoved.refl (delivery : Option Delivery) : InboxMoved inbox inbox delivery :=
  fun _ row' hrow' => .inl ⟨row', hrow', rfl⟩

theorem InboxMoved.of_keeps {x : PayTx PaymentDatabase α} (h : Keeps PaymentDatabase.inbox x)
    (delivery : Option Delivery) : InboxMoved db.inbox (committed x db).inbox delivery := by
  rw [h.committed db]
  exact .refl delivery

/-- A row that is rewritten keeps its payload. -/
theorem InboxMoved.replaced {key : PaymentGatewayId × String} {guard : WebhookInboxRow → Bool}
    {set : WebhookInboxRow → WebhookInboxRow}
    (hrows : inbox'.rows = inbox.replaced key guard set)
    (hset : ∀ row, webhookInbox.key (set row) = webhookInbox.key row)
    (hhash : ∀ row, (set row).payloadHash = row.payloadHash) (delivery : Option Delivery) :
    InboxMoved inbox inbox' delivery := by
  intro other row' hrow'
  rw [Table.lookup_replaced hrows hset] at hrow'
  left
  split at hrow'
  · rename_i hkey
    rw [Option.map_eq_some_iff] at hrow'
    obtain ⟨row, hrow, rfl⟩ := hrow'
    refine ⟨row, hkey ▸ hrow, ?_⟩
    split
    · exact (hhash row).symm
    · rfl
  · exact ⟨row', hrow', rfl⟩

theorem ensures_claimWebhook_moved (gatewayId : PaymentGatewayId) (event : WebhookEvent)
    (payloadHash : Bytes) (processingToken : Uuid) (now processingAt : OffsetDateTime) :
    Ensures (claimWebhook gatewayId event payloadHash processingToken now processingAt) anyError
      db fun _ db' => InboxMoved db.inbox db'.inbox
        (some (gatewayId, event.providerEventId, payloadHash)) := by
  unfold claimWebhook
  rw [ensures_ite]
  refine ⟨fun _ => trivial, fun _ => ?_⟩
  rw [ensures_ite]
  refine ⟨fun _ => trivial, fun _ => ?_⟩
  rw [ensures_bind, ensures_on]
  refine Table.ensures_insertOrIgnore trivial (fun t hrows => ?_) fun _ _ => ?_
  · rw [ensures_ite]
    refine ⟨fun _ => ?_, fun hnot => absurd rfl hnot⟩
    rw [ensures_pure]
    intro key row' hrow'
    have hlookup : t.lookup key = some row' := hrow'
    rw [Table.lookup_inserted hrows] at hlookup
    split at hlookup
    · rename_i hkey
      cases hlookup
      right
      rw [hkey]
      rfl
    · exact .inl ⟨row', hlookup, rfl⟩
  · rw [ensures_ite]
    refine ⟨(fun hinserted => by cases hinserted), fun _ => ?_⟩
    rw [ensures_bind, ensures_get, ensures_bind, ensures_require]
    refine ⟨fun _ => trivial, fun row hrow => ?_⟩
    rw [ensures_ite]
    refine ⟨fun _ => trivial, fun _ => ?_⟩
    rw [ensures_ite]
    refine ⟨fun _ => .refl _, fun _ => ?_⟩
    rw [ensures_ite]
    refine ⟨fun _ => .refl _, fun _ => ?_⟩
    rw [ensures_bind, ensures_on]
    refine Table.ensures_update trivial fun t hrows => ?_
    rw [ensures_pure]
    exact .replaced hrows (fun _ => rfl) (fun _ => rfl) _

theorem ensures_finishWebhook_moved (claim : WebhookClaim) (status : WebhookInboxStatus)
    (failureReason : Option StoreError) (delivery : Option Delivery) :
    Ensures (finishWebhook claim status failureReason) anyError db fun _ db' =>
      InboxMoved db.inbox db'.inbox delivery := by
  unfold finishWebhook
  rw [ensures_bind, ensures_on]
  refine Table.ensures_update trivial fun t hrows => ?_
  rw [ensures_bind, ensures_require]
  refine ⟨fun _ => trivial, fun _ _ => ?_⟩
  rw [ensures_pure]
  exact .replaced hrows (fun _ => rfl) (fun _ => rfl) _

/-- The worker that holds a claim can finish it. -/
theorem ensures_finishWebhook_held {claim : WebhookClaim} {status : WebhookInboxStatus}
    (failureReason : Option StoreError) (hholds : claim.holds db) (hstatus : status ≠ .processing) :
    Ensures (finishWebhook claim status failureReason) (fun _ => False) db fun _ db' =>
      db'.payments = db.payments ∧
        (db'.inbox.lookup (claim.gatewayId, claim.providerEventId)).map
          WebhookInboxRow.status = some status := by
  unfold WebhookClaim.holds at hholds
  rw [Option.bind_eq_some_iff] at hholds
  obtain ⟨row, hfiltered, htoken⟩ := hholds
  obtain ⟨hrow, hprocessing⟩ := Option.filter_eq_some_iff.mp hfiltered
  have hcheck := Table.check_of_lookup hrow
  simp only [webhookInbox, decide_eq_true_eq] at hcheck hprocessing
  unfold finishWebhook
  rw [ensures_bind, ensures_on]
  refine Table.ensures_update_valid hrow (by simp [hprocessing, htoken]) (fun _ => rfl)
    (fun _ _ => ⟨rfl, rfl⟩) ?_ fun t hlookup _ => ?_
  · simp [webhookInbox, hcheck, hstatus]
  · rw [ensures_bind, ensures_require_some, ensures_pure]
    refine ⟨rfl, ?_⟩
    have hnext := hlookup (claim.gatewayId, claim.providerEventId)
    rw [if_pos rfl] at hnext
    rw [show (PaymentDatabase.inboxTable.put t db).inbox = t from rfl, hnext]
    rfl

/-- What the inbox can store of an event. -/
structure Receivable (event : WebhookEvent) (payloadHash : Bytes) : Prop where
  nonempty : event.providerEventId ≠ ""
  bounded : event.providerEventId.utf8ByteSize ≤ 256
  digest : payloadHash.length = 32
  eventType : isText 100 event.eventType = true

/-- An event that the inbox does not know is claimed. -/
theorem ensures_claimWebhook_new (gatewayId : PaymentGatewayId) (event : WebhookEvent)
    (payloadHash : Bytes) (processingToken : Uuid) (now processingAt : OffsetDateTime)
    (hevent : Receivable event payloadHash)
    (hnew : db.inbox.lookup (gatewayId, event.providerEventId) = none) :
    Ensures (claimWebhook gatewayId event payloadHash processingToken now processingAt)
      (fun _ => False) db fun receipt db' => receipt = none ∧ db'.payments = db.payments ∧
        db'.refunds = db.refunds ∧ (⟨gatewayId, event.providerEventId,
          processingToken⟩ : WebhookClaim).holds db' := by
  have hid : 0 < event.providerEventId.utf8ByteSize := by
    rw [Nat.pos_iff_ne_zero, ne_eq, String.utf8ByteSize_eq_zero_iff]
    exact hevent.nonempty
  have hlength : isText 256 event.providerEventId = true := by
    have hle := length_le_utf8ByteSize event.providerEventId
    have hpos : 0 < event.providerEventId.length := by
      rw [Nat.pos_iff_ne_zero, ne_eq, String.length_eq_zero_iff]
      exact hevent.nonempty
    have hbounded := hevent.bounded
    simp only [isText, decide_eq_true_eq]
    omega
  have hbounded := hevent.bounded
  unfold claimWebhook
  rw [ensures_ite]
  refine ⟨fun hbad => by omega, fun _ => ?_⟩
  rw [ensures_ite]
  refine ⟨fun hbad => hbad hevent.digest, fun _ => ?_⟩
  rw [ensures_bind, ensures_on]
  refine Table.ensures_insertOrIgnore_new ?_ ?_ ?_ fun t hrows => ?_
  · simp [webhookInbox, hlength, hevent.eventType, isDigest, hevent.digest]
  · exact hnew
  · simp [webhookInbox]
  · rw [ensures_ite]
    refine ⟨fun _ => ?_, fun hnot => absurd rfl hnot⟩
    rw [ensures_pure]
    refine ⟨rfl, rfl, rfl, ?_⟩
    have hlookup := Table.lookup_inserted hrows (gatewayId, event.providerEventId)
    rw [if_pos (by rfl)] at hlookup
    unfold WebhookClaim.holds
    rw [show (PaymentDatabase.inboxTable.put t db).inbox = t from rfl, hlookup]
    rfl

end Claim

namespace PaymentService

variable [Sha256] {service : PaymentService}

/-- The delivery that a step brings, if it brings one. -/
def delivery : PaymentAction → Option Delivery
  | .deliver _ gatewayId event payloadHash _ _ _ =>
      some (gatewayId, event.providerEventId, payloadHash)
  | _ => none

theorem advance_inbox (index : Nat) (worker : WebhookWorker) (correctionId : Uuid → Uuid)
    (delivery : Option Delivery) : InboxMoved service.db.inbox
      (service.advance index worker correctionId).db.inbox delivery := by
  cases advance_db service index worker correctionId with
  | read h =>
      rw [h]
      exact .refl _
  | payment event _ _ h =>
      rw [h]
      exact .of_keeps (keepsInbox_applyPaymentWebhook _ _) _
  | refund refundId outcome _ h =>
      rw [h]
      exact .of_keeps (keepsInbox_completeRefundClaimed _ _ _ _) _
  | finish status failureReason h =>
      rw [h]
      exact (ensures_finishWebhook_moved _ _ _ delivery).committed (.refl _)

theorem step_inbox (service : PaymentService) (action : PaymentAction) :
    InboxMoved service.db.inbox (service.step action).db.inbox (delivery action) := by
  cases action with
  | surround surroundings invoices => exact .refl _
  | prepareAuthorization environment command now createdAt =>
      exact .of_keeps (keepsInbox_prepareAuthorization _ _ _ _) _
  | completeAuthorization outcome => exact .of_keeps (keepsInbox_completeAuthorization _) _
  | failAuthorization paymentId unknown providerStatus =>
      exact .of_keeps (keepsInbox_failAuthorization _ _ _) _
  | prepareQuery tenantId paymentId idempotencyKey requestHash operationId createdAt =>
      exact .of_keeps (keepsInbox_prepareQuery _ _ _ _ _ _) _
  | completeQuery paymentId idempotencyKey outcome =>
      exact .of_keeps (keepsInbox_completeQuery _ _ _) _
  | prepareCapture tenantId paymentId idempotencyKey requestHash amount operationId now
      createdAt => exact .of_keeps (keepsInbox_prepareCapture _ _ _ _ _ _ _ _) _
  | completeCapture paymentId idempotencyKey amount outcome now =>
      exact .of_keeps (keepsInbox_completeCapture _ _ _ _ _) _
  | prepareRefund command createdAt => exact .of_keeps (keepsInbox_prepareRefund _ _) _
  | completeRefund refundId outcome correctionId =>
      exact .of_keeps (keepsInbox_completeRefundClaimed _ _ _ _) _
  | deliver worker gatewayId event payloadHash processingToken now processingAt =>
      simp only [step, deliver_db]
      exact (ensures_claimWebhook_moved _ _ _ _ _ _).committed (.refl _)
  | advance index correctionId =>
      simp only [step]
      split
      · exact .refl _
      · exact advance_inbox index _ correctionId _
  | stop worker => exact .refl _

end PaymentService

end MatchPlane
