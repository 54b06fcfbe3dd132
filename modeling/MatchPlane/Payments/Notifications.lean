import MatchPlane.Payments.Adapters
import MatchPlane.Payments.Applied
import MatchPlane.Payments.Echoes
import MatchPlane.Payments.Inbox

/-!
# Notifications of one provider

A notification is known to the inbox by an identity that the adapter takes from its
fields, and the first payload under an identity is the only one.  So no
notification is lost as long as different ones carry different identities.
-/

namespace MatchPlane

open MatchPlane.Library

/-! ## Identities -/

section Identities

variable {request : WebhookRequest} {event : WebhookEvent}

/-- The event of a payload of WeChat Pay. -/
theorem WechatPayGateway.webhookEvent_eq_ok {providerEventId eventType : String} {payload : Json}
    (h : webhookEvent providerEventId eventType payload = .ok event) :
    event.providerEventId = providerEventId ∧
      event.providerReference = payload.text "transaction_id" ∧
      ∀ payment, event = .payment payment → payment.status = webhookStatus payment.providerStatus ∧
        payment.providerStatus =
          ((payload.text "trade_state").or (payload.text "status")).getD "UNKNOWN" ∧
        payment.merchantOrderId = payload.text "out_trade_no" := by
  unfold webhookEvent at h
  split at h
  · dsimp only at h
    rw [bind_eq_ok_iff] at h
    obtain ⟨amount, _, h⟩ := h
    cases h
    exact ⟨rfl, rfl, (fun _ h => nomatch h)⟩
  · dsimp only at h
    rw [bind_eq_ok_iff] at h
    obtain ⟨amount, _, h⟩ := h
    cases h
    refine ⟨rfl, rfl, ?_⟩
    rintro _ ⟨⟩
    exact ⟨rfl, rfl, rfl⟩

/-- The event of a payload of Waffo. -/
theorem WaffoGateway.webhookEvent_eq_ok {providerEventId : String} {data : Json}
    (h : webhookEvent providerEventId data = .ok event) :
    event.providerEventId = providerEventId ∧
      event.providerReference = (data.either "acquiringOrderId" "transactionId").bind Json.asStr ∧
      ∀ payment, event = .payment payment → payment.status = webhookStatus payment.providerStatus ∧
        payment.providerStatus =
          ((data.either "orderStatus" "status").bind Json.asStr).getD "UNKNOWN" := by
  unfold webhookEvent at h
  dsimp only at h
  split at h
  · rw [bind_eq_ok_iff] at h
    obtain ⟨amount, _, h⟩ := h
    cases h
    exact ⟨rfl, rfl, (fun _ h => nomatch h)⟩
  · rw [bind_eq_ok_iff] at h
    obtain ⟨amount, _, h⟩ := h
    cases h
    refine ⟨rfl, rfl, ?_⟩
    rintro _ ⟨⟩
    exact ⟨rfl, rfl⟩

variable [Codec]

def EpayGateway.identity (params : Form) : String :=
  let order := params["out_trade_no"]?.getD ""
  let status := params["trade_status"]?.getD ""
  (params.filled "trade_no").getD s!"{order}:{status}"

def AlipayGateway.identity (params : Form) : Option String :=
  let reference := (params.filled "trade_no").or (params.filled "out_trade_no")
  (params.filled "notify_id").or (reference.bind fun reference =>
    params["trade_status"]?.map fun status => s!"{reference}:{status}")

def WaffoGateway.identity (value : Json) : Option String :=
  let data := (value.get "data").getD value
  (((data.either "eventId" "id").or (value.get "eventId")).bind Json.asStr).or
    (data.text "acquiringOrderId")

/-- The fields of a notification that tell it from others of its provider. -/
def Adapter.identity (adapter : Adapter) (body : Bytes) : Option String :=
  match adapter with
  | epay _ => some (EpayGateway.identity (.ofList (Codec.parseForm body)))
  | alipay _ => AlipayGateway.identity (.ofList (Codec.parseForm body))
  | wechat _ => (Codec.parseJson body).toOption.bind (·.text "id")
  | waffo _ => (Codec.parseJson body).toOption.bind WaffoGateway.identity

/-- What an authentic notification of EPay says. -/
theorem EpayGateway.webhook_eq_ok {gateway : EpayGateway}
    (h : gateway.webhook request = .ok event) :
    ∃ (params : Form) (status order : String) (amount : Option Money),
      params = .ofList (Codec.parseForm request.body) ∧ params["trade_status"]? = some status ∧
      params["out_trade_no"]? = some order ∧ event = .payment {
        providerEventId := (params.filled "trade_no").getD s!"{order}:{status}"
        eventType := s!"epay.{status}"
        merchantOrderId := some order
        providerReference := some ((params.filled "trade_no").getD order)
        status := webhookStatus status
        providerStatus := status
        amount := amount } := by
  unfold webhook at h
  rw [bind_eq_ok_iff] at h
  obtain ⟨provided, _, h⟩ := h
  rw [guard_eq_ok_iff] at h
  obtain ⟨_, h⟩ := h
  rw [guard_eq_ok_iff] at h
  obtain ⟨_, h⟩ := h
  rw [bind_eq_ok_iff] at h
  obtain ⟨status, hstatus, h⟩ := h
  rw [bind_eq_ok_iff] at h
  obtain ⟨order, horder, h⟩ := h
  dsimp only at h
  rw [bind_eq_ok_iff] at h
  obtain ⟨amount, _, h⟩ := h
  cases h
  exact ⟨_, status, order, amount, rfl, requiredField_eq_ok hstatus, requiredField_eq_ok horder,
    rfl⟩

/-- What an authentic notification of Alipay says. -/
theorem AlipayGateway.webhook_eq_ok {gateway : AlipayGateway}
    (h : gateway.webhook request = .ok event) :
    ∃ (params : Form) (providerEventId : String) (amount : Option Money),
      params = .ofList (Codec.parseForm request.body) ∧
      AlipayGateway.providerEventId params ((params.filled "trade_no").or
        (params.filled "out_trade_no")) = .ok providerEventId ∧
      ((∃ status, params["trade_status"]? = some status ∧ event = .payment {
          providerEventId := providerEventId
          eventType := s!"alipay.{status}"
          merchantOrderId := params.filled "out_trade_no"
          providerReference := (params.filled "trade_no").or (params.filled "out_trade_no")
          status := webhookStatus status
          providerStatus := status
          amount := amount }) ∨
        ∃ status, event = .refund {
          providerEventId := providerEventId
          eventType := s!"alipay.{status}"
          merchantOrderId := params.filled "out_trade_no"
          providerReference := (params.filled "trade_no").or (params.filled "out_trade_no")
          refundReference := params.filled "out_biz_no"
          status := refundWebhookStatus status
          providerStatus := status
          amount := amount }) := by
  unfold webhook at h
  rw [bind_eq_ok_iff] at h
  obtain ⟨signature, _, h⟩ := h
  rw [guard_eq_ok_iff] at h
  obtain ⟨_, h⟩ := h
  rw [guard_eq_ok_iff] at h
  obtain ⟨_, h⟩ := h
  rw [bind_eq_ok_iff] at h
  obtain ⟨_, _, h⟩ := h
  rw [bind_eq_ok_iff] at h
  obtain ⟨providerEventId, hid, h⟩ := h
  split at h
  · rename_i status _
    rw [bind_eq_ok_iff] at h
    obtain ⟨amount, _, h⟩ := h
    cases h
    exact ⟨_, providerEventId, amount, rfl, hid, .inr ⟨status, rfl⟩⟩
  · rw [bind_eq_ok_iff] at h
    obtain ⟨status, hstatus, h⟩ := h
    rw [bind_eq_ok_iff] at h
    obtain ⟨amount, _, h⟩ := h
    cases h
    exact ⟨_, providerEventId, amount, rfl, hid,
      .inl ⟨status, requiredField_eq_ok hstatus, rfl⟩⟩

/-- What an authentic notification of WeChat Pay says. -/
theorem WechatPayGateway.webhook_eq_ok {gateway : WechatPayGateway} {moment : Moment}
    (h : gateway.webhook request moment = .ok event) :
    ∃ (envelope payload : Json) (providerEventId eventType : String),
      Codec.parseJson request.body = .ok envelope ∧ envelope.text "id" = some providerEventId ∧
      webhookEvent providerEventId eventType payload = .ok event := by
  unfold webhook at h
  rw [bind_eq_ok_iff] at h
  obtain ⟨_, _, h⟩ := h
  rw [bind_eq_ok_iff] at h
  obtain ⟨envelope, henvelope, h⟩ := h
  rw [bind_eq_ok_iff] at h
  obtain ⟨providerEventId, hid, h⟩ := h
  dsimp only at h
  rw [bind_eq_ok_iff] at h
  obtain ⟨payload, _, h⟩ := h
  rw [guard_eq_ok_iff] at h
  exact ⟨envelope, payload, providerEventId, _, PaymentError.ofJson_eq_ok henvelope,
    requiredField_eq_ok hid, h.2⟩

/-- What an authentic notification of Waffo says. -/
theorem WaffoGateway.webhook_eq_ok {gateway : WaffoGateway}
    (h : gateway.webhook request = .ok event) :
    ∃ (value data : Json) (providerEventId : String),
      Codec.parseJson request.body = .ok value ∧ (value.get "data").getD value = data ∧
      WaffoGateway.providerEventId value data = .ok providerEventId ∧
      webhookEvent providerEventId data = .ok event := by
  unfold webhook at h
  split at h
  · cases h
  · rw [bind_eq_ok_iff] at h
    obtain ⟨_, _, h⟩ := h
    rw [bind_eq_ok_iff] at h
    obtain ⟨value, hvalue, h⟩ := h
    dsimp only at h
    rw [guard_eq_ok_iff] at h
    obtain ⟨_, h⟩ := h
    rw [bind_eq_ok_iff] at h
    obtain ⟨providerEventId, hid, h⟩ := h
    exact ⟨value, _, providerEventId, PaymentError.ofJson_eq_ok hvalue, rfl, hid, h⟩

/-- The event of a notification is known by the identity of the notification. -/
theorem Adapter.identity_of_webhook {adapter : Adapter} {moment : Moment}
    (h : adapter.webhook request moment = .ok event) :
    adapter.identity request.body = some event.providerEventId := by
  cases adapter with
  | epay gateway =>
      obtain ⟨params, status, order, amount, rfl, hstatus, horder, rfl⟩ :=
        EpayGateway.webhook_eq_ok h
      simp only [identity, EpayGateway.identity, hstatus, horder, Option.getD_some]
      rfl
  | alipay gateway =>
      obtain ⟨params, providerEventId, amount, rfl, hid, hevent⟩ := AlipayGateway.webhook_eq_ok h
      have hsame : event.providerEventId = providerEventId := by
        rcases hevent with ⟨_, _, rfl⟩ | ⟨_, rfl⟩ <;> rfl
      rw [hsame]
      unfold AlipayGateway.providerEventId at hid
      dsimp only at hid
      split at hid
      · rename_i identity hidentity
        cases hid
        exact hidentity
      · cases hid
  | wechat gateway =>
      obtain ⟨envelope, payload, providerEventId, eventType, henvelope, hid, hevent⟩ :=
        WechatPayGateway.webhook_eq_ok h
      rw [(WechatPayGateway.webhookEvent_eq_ok hevent).1]
      simp only [identity, henvelope]
      exact hid
  | waffo gateway =>
      obtain ⟨value, data, providerEventId, hvalue, rfl, hid, hevent⟩ :=
        WaffoGateway.webhook_eq_ok h
      rw [(WaffoGateway.webhookEvent_eq_ok hevent).1]
      simp only [identity, hvalue]
      unfold WaffoGateway.providerEventId at hid
      dsimp only at hid
      split at hid
      · rename_i identity hidentity
        cases hid
        exact hidentity
      · cases hid

end Identities

/-! ## Workers -/

namespace PaymentService

section Workers

variable [Sha256] {service : PaymentService} {gatewayId : PaymentGatewayId} {worker : Nat}
  {processingToken : Uuid}

/-- A delivery whose event is not known yet is claimed by its worker. -/
theorem deliver_new {event : WebhookEvent} {payloadHash : Bytes} (worker : Nat)
    (processingToken : Uuid) (now processingAt : OffsetDateTime)
    (hevent : Receivable event payloadHash)
    (hnew : service.db.inbox.lookup (gatewayId, event.providerEventId) = none) :
    ∃ db', service.step (.deliver worker gatewayId event payloadHash processingToken now
        processingAt) = setWorker { service with db := db' } worker
          (some ⟨gatewayId, event, processingToken, .claimed⟩) ∧
      db'.payments = service.db.payments ∧ db'.refunds = service.db.refunds ∧
      (⟨gatewayId, event.providerEventId, processingToken⟩ : WebhookClaim).holds db' := by
  obtain ⟨receipt, db', hrun, rfl, hpayments, hrefunds, hholds⟩ :=
    (ensures_claimWebhook_new gatewayId event payloadHash processingToken now processingAt hevent
      hnew).exists_run
  refine ⟨db', ?_, hpayments, hrefunds, hholds⟩
  simp only [step, deliver, hrun]

/-- A worker with a claim applies its event and finishes. -/
theorem advance_applied {payment : PaymentIntentRow} {notice : PaymentWebhook}
    (hworker : service.workers worker = some ⟨gatewayId, .payment notice, processingToken,
      .claimed⟩)
    (hproper : AllProper service.db.payments) (hbalanced : service.db.Balanced)
    (hholds : (⟨gatewayId, notice.providerEventId, processingToken⟩ : WebhookClaim).holds
      service.db)
    (hpayment : paymentOfWebhook service.db.payments gatewayId notice = some payment)
    (hmatches : notice.Matches payment)
    (hallowed : reconciliationTransitionAllowed payment.status notice.status.intent = true)
    (correctionId : Uuid → Uuid) :
    let done := (service.step (.advance worker correctionId)).step (.advance worker correctionId)
    (∃ row', done.db.payments.lookup payment.id = some row' ∧
      row'.status = notice.status.intent) ∧
    (done.db.inbox.lookup (gatewayId, notice.providerEventId)).map WebhookInboxRow.status =
      some .processed := by
  obtain ⟨applied, db, hrun, rfl, hinbox, row', hrow', hstatus⟩ :=
    (ensures_applyPaymentWebhook_applied hproper hbalanced hholds hpayment hmatches
      hallowed).exists_run
  have hstill : (⟨gatewayId, notice.providerEventId, processingToken⟩ : WebhookClaim).holds db := by
    unfold WebhookClaim.holds at hholds ⊢
    rw [hinbox]
    exact hholds
  obtain ⟨_, db', hfinish, hpayments, hprocessed⟩ :=
    (ensures_finishWebhook_held none hstill (show WebhookInboxStatus.processed ≠ .processing by
      decide)).exists_run
  have hid : (WebhookEvent.payment notice).providerEventId = notice.providerEventId := rfl
  have hfirst : service.step (.advance worker correctionId) =
      setWorker { service with db := db } worker (some ⟨gatewayId, .payment notice,
        processingToken, .applied (.ok true)⟩) := by
    simp only [step, hworker, advance, call, WebhookWorker.claim, WebhookWorker.enter, hid]
    rw [committed_of_run hrun, result_of_run hrun]
  have hsecond : (setWorker { service with db := db } worker (some ⟨gatewayId, .payment notice,
      processingToken, .applied (.ok true)⟩)).step (.advance worker correctionId) =
        setWorker { service with db := db' } worker none := by
    simp only [step, setWorker, Function.update_self, advance, finalStatus, call,
      WebhookWorker.claim, hid]
    rw [committed_of_run hfinish, Function.update_idem]
  simp only [hfirst, hsecond]
  refine ⟨⟨row', ?_, hstatus⟩, hprocessed⟩
  rw [← hrow', ← hpayments]
  rfl

end Workers

end PaymentService

/-! ## Arrivals -/

/-- A callback to the gateway of the provider, or another step of the service. -/
inductive Arrival where
  | callback (worker : Nat) (request : WebhookRequest) (moment : Moment)
      (processingToken : Uuid) (now processingAt : OffsetDateTime)
  | step (action : PaymentAction)

section Arrivals

variable [Codec]

/-- The content of a callback that is authentic. -/
def Arrival.content (adapter : Adapter) : Arrival → Option Bytes
  | callback _ request moment _ _ _ =>
      match adapter.webhook request moment with
      | .ok _ => some request.body
      | .error _ => none
  | step _ => none

/-- The gateway hears of its provider through callbacks only. -/
def Arrival.Allowed (gatewayId : PaymentGatewayId) : Arrival → Prop
  | callback _ _ _ _ _ _ => True
  | step action => action.Validated ∧
      ∀ providerEventId payloadHash, PaymentService.delivery action ≠
        some (gatewayId, providerEventId, payloadHash)

/-- Whatever the inbox stores for the gateway came with an authentic callback. -/
def Remembers (adapter : Adapter) (gatewayId : PaymentGatewayId) (contents : List Bytes)
    (inbox : Table webhookInbox) : Prop :=
  ∀ providerEventId row, inbox.lookup (gatewayId, providerEventId) = some row →
    ∃ body ∈ contents, adapter.identity body = some providerEventId

variable {adapter : Adapter} {gatewayId : PaymentGatewayId}

theorem Remembers.moved {contents : List Bytes} {inbox inbox' : Table webhookInbox}
    {delivery : Option Delivery} (h : Remembers adapter gatewayId contents inbox)
    (hmoved : InboxMoved inbox inbox' delivery)
    (hdelivery : ∀ providerEventId payloadHash,
      delivery = some (gatewayId, providerEventId, payloadHash) →
        ∃ body ∈ contents, adapter.identity body = some providerEventId) :
    Remembers adapter gatewayId contents inbox' := by
  intro providerEventId row hrow
  rcases hmoved _ row hrow with ⟨old, hold, _⟩ | hnew
  · exact h providerEventId old hold
  · exact hdelivery providerEventId _ hnew

theorem Remembers.mono {contents further : List Bytes} {inbox : Table webhookInbox}
    (h : Remembers adapter gatewayId contents inbox) :
    Remembers adapter gatewayId (contents ++ further) inbox := by
  intro providerEventId row hrow
  obtain ⟨body, hbody, hidentity⟩ := h providerEventId row hrow
  exact ⟨body, List.mem_append_left _ hbody, hidentity⟩

variable [Sha256]

namespace PaymentService

/-- A callback is authenticated before anything is stored of it. -/
def arrive (service : PaymentService) (adapter : Adapter) (gatewayId : PaymentGatewayId) :
    Arrival → PaymentService
  | .callback worker request moment processingToken now processingAt =>
      match adapter.webhook request moment with
      | .ok event => service.step (.deliver worker gatewayId event (Sha256.digest request.body)
          processingToken now processingAt)
      | .error _ => service
  | .step action => service.step action

def arriveAll (service : PaymentService) (adapter : Adapter) (gatewayId : PaymentGatewayId)
    (arrivals : List Arrival) : PaymentService :=
  arrivals.foldl (fun service arrival => service.arrive adapter gatewayId arrival) service

variable {service : PaymentService} {arrivals : List Arrival}

/-- An arrival keeps what is known of the payments and of the inbox. -/
theorem arrive_remembers {contents : List Bytes} {arrival : Arrival}
    (hallowed : arrival.Allowed gatewayId) (hproper : AllProper service.db.payments)
    (hbalanced : service.db.Balanced)
    (hremembers : Remembers adapter gatewayId contents service.db.inbox) :
    AllProper (service.arrive adapter gatewayId arrival).db.payments ∧
      (service.arrive adapter gatewayId arrival).db.Balanced ∧
      Remembers adapter gatewayId (contents ++ (arrival.content adapter).toList)
        (service.arrive adapter gatewayId arrival).db.inbox := by
  have hstep : ∀ action : PaymentAction, action.Validated →
      AllProper (service.step action).db.payments ∧ (service.step action).db.Balanced := by
    intro action hvalid
    have hadvance := step_advances hproper hvalid
    exact ⟨hadvance.allProper, hbalanced.moved (step_moved service action) hadvance⟩
  cases arrival with
  | callback worker request moment processingToken now processingAt =>
      simp only [arrive, Arrival.content]
      cases hevent : adapter.webhook request moment with
      | error _ => exact ⟨hproper, hbalanced, hremembers.mono⟩
      | ok event =>
          obtain ⟨hproper', hbalanced'⟩ := hstep (.deliver worker gatewayId event
            (Sha256.digest request.body) processingToken now processingAt) trivial
          refine ⟨hproper', hbalanced', hremembers.mono.moved (step_inbox _ _) ?_⟩
          rintro providerEventId payloadHash ⟨⟩
          refine ⟨request.body, by simp, Adapter.identity_of_webhook hevent⟩
  | step action =>
      obtain ⟨hproper', hbalanced'⟩ := hstep action hallowed.1
      refine ⟨hproper', hbalanced', hremembers.mono.moved (step_inbox _ _) ?_⟩
      intro providerEventId payloadHash hdelivery
      exact absurd hdelivery (hallowed.2 _ _)

theorem arriveAll_remembers (adapter : Adapter) (hfresh : service.Fresh)
    (hallowed : ∀ arrival ∈ arrivals, arrival.Allowed gatewayId) :
    AllProper (service.arriveAll adapter gatewayId arrivals).db.payments ∧
      (service.arriveAll adapter gatewayId arrivals).db.Balanced ∧
      Remembers adapter gatewayId (arrivals.filterMap (Arrival.content adapter))
        (service.arriveAll adapter gatewayId arrivals).db.inbox := by
  induction arrivals using List.reverseRecOn with
  | nil =>
      refine ⟨hfresh.allProper, hfresh.balanced, ?_⟩
      intro providerEventId row hrow
      have hlookup : service.db.inbox.lookup (gatewayId, providerEventId) = some row := hrow
      rw [hfresh.inbox] at hlookup
      cases hlookup
  | append_singleton arrivals arrival ih =>
      obtain ⟨hproper, hbalanced, hremembers⟩ := ih fun other hother =>
        hallowed other (List.mem_append_left _ hother)
      have hnext := arrive_remembers
        (hallowed arrival (List.mem_append_right _ List.mem_cons_self)) hproper hbalanced hremembers
      have hcontents : (arrivals ++ [arrival]).filterMap (Arrival.content adapter) =
          arrivals.filterMap (Arrival.content adapter) ++ (arrival.content adapter).toList := by
        rw [List.filterMap_append]
        cases hcontent : arrival.content adapter <;> simp [hcontent]
      rw [hcontents, arriveAll, List.foldl_append]
      exact hnext

/-- A new notification is claimed and, when the payment can take it, applied, unless an
earlier notification with other content has its identity. -/
theorem notification_applied (hdigest : ∀ bytes, (Sha256.digest bytes).length = 32)
    (hfresh : service.Fresh) {before between : List Arrival}
    (hbefore : ∀ arrival ∈ before, arrival.Allowed gatewayId)
    (hbetween : ∀ arrival ∈ between, arrival.Allowed gatewayId)
    {request : WebhookRequest} {moment : Moment} {event : WebhookEvent}
    (worker : Nat) (processingToken : Uuid) (now processingAt : OffsetDateTime)
    (hevent : adapter.webhook request moment = .ok event)
    (hid : event.providerEventId ≠ "" ∧ event.providerEventId.utf8ByteSize ≤ 256)
    (htype : isText 100 event.eventType = true)
    (hnew : request.body ∉ before.filterMap (Arrival.content adapter))
    (hdistinct : ∀ body ∈ before.filterMap (Arrival.content adapter),
      adapter.identity body = adapter.identity request.body → body = request.body) :
    let claim : WebhookClaim := ⟨gatewayId, event.providerEventId, processingToken⟩
    let arrived := (service.arriveAll adapter gatewayId before).arrive adapter gatewayId
      (.callback worker request moment processingToken now processingAt)
    let later := arrived.arriveAll adapter gatewayId between
    (arrived.workers worker = some ⟨gatewayId, event, processingToken, .claimed⟩ ∧
      claim.holds arrived.db) ∧
    ∀ (notice : PaymentWebhook) (payment : PaymentIntentRow) (correctionId : Uuid → Uuid),
      later.workers worker = some ⟨gatewayId, event, processingToken, .claimed⟩ →
      claim.holds later.db → event = .payment notice →
      paymentOfWebhook later.db.payments gatewayId notice = some payment →
      notice.Matches payment →
      reconciliationTransitionAllowed payment.status notice.status.intent = true →
        let done := (later.step (.advance worker correctionId)).step
          (.advance worker correctionId)
        (∃ row', done.db.payments.lookup payment.id = some row' ∧
          row'.status = notice.status.intent) ∧
        (done.db.inbox.lookup (gatewayId, notice.providerEventId)).map
          WebhookInboxRow.status = some .processed := by
  intro claim arrived later
  obtain ⟨_, _, hremembers⟩ := arriveAll_remembers adapter hfresh hbefore
  have hunknown : (service.arriveAll adapter gatewayId before).db.inbox.lookup
      (gatewayId, event.providerEventId) = none := by
    rw [Option.eq_none_iff_forall_ne_some]
    intro row hrow
    obtain ⟨body, hbody, hidentity⟩ := hremembers _ row hrow
    rw [← Adapter.identity_of_webhook hevent] at hidentity
    rw [hdistinct body hbody hidentity] at hbody
    exact hnew hbody
  have hreceivable : Receivable event (Sha256.digest request.body) :=
    ⟨hid.1, hid.2, hdigest _, htype⟩
  obtain ⟨db', hstep, _, _, hholds⟩ := deliver_new worker processingToken now processingAt
    hreceivable hunknown
  have harrived : arrived = setWorker { service.arriveAll adapter gatewayId before with db := db' }
      worker (some ⟨gatewayId, event, processingToken, .claimed⟩) := by
    simp only [arrived, arrive, hevent, hstep]
  constructor
  · rw [harrived]
    exact ⟨Function.update_self _ _ _, hholds⟩
  · rintro notice payment correctionId hworker hstill rfl hpayment hmatches hallowed
    have hrun : later = service.arriveAll adapter gatewayId
        (before ++ .callback worker request moment processingToken now processingAt :: between) :=
      by simp only [later, arrived, arriveAll, List.foldl_append, List.foldl_cons]
    have hall : ∀ arrival ∈ before ++
        .callback worker request moment processingToken now processingAt :: between,
        arrival.Allowed gatewayId := by
      intro arrival harrival
      rw [List.mem_append, List.mem_cons] at harrival
      rcases harrival with hin | rfl | hin
      · exact hbefore arrival hin
      · trivial
      · exact hbetween arrival hin
    obtain ⟨hproper, hbalanced, _⟩ := arriveAll_remembers adapter hfresh hall
    rw [← hrun] at hproper hbalanced
    exact advance_applied hworker hproper hbalanced hstill hpayment hmatches hallowed correctionId

end PaymentService

end Arrivals

/-! ## Notifications of the small sale -/

/-- What EPay tells about the small sale, with or without a number of its own. -/
def saleNotice (tradeNo status sign : String) : WebhookRequest := ⟨[], bytesOf
  (s!"money=1.00&out_trade_no=order-1&pid=merchant&sign={sign}&sign_type=MD5&" ++
    s!"trade_no={tradeNo}&trade_status={status}")⟩

def waitingNotice : WebhookRequest :=
  saleNotice "" "WAIT_BUYER_PAY" "ba25ebbf328879d96374951ddb002e0d"

def numberedWaitingNotice : WebhookRequest :=
  saleNotice "T1" "WAIT_BUYER_PAY" "1facbf1d612d7f9b559fc215a1f6b8c6"

def numberedPaidNotice : WebhookRequest :=
  saleNotice "T1" "TRADE_SUCCESS" "c9e0f07d284848d9adea870cbba571cc"

@[reducible]
def noticeCodec : Codec := plainCodec
  [(bytesOf ("money=1.00&out_trade_no=order-1&pid=merchant&" ++
      "trade_status=WAIT_BUYER_PAYsecret-key"), "ba25ebbf328879d96374951ddb002e0d"),
    (bytesOf ("money=1.00&out_trade_no=order-1&pid=merchant&" ++
      "trade_no=T1&trade_status=WAIT_BUYER_PAYsecret-key"), "1facbf1d612d7f9b559fc215a1f6b8c6"),
    (bytesOf ("money=1.00&out_trade_no=order-1&pid=merchant&" ++
      "trade_no=T1&trade_status=TRADE_SUCCESSsecret-key"), "c9e0f07d284848d9adea870cbba571cc")]
  []

@[reducible]
def noticeDigests : Sha256 where
  digest := fun bytes =>
    if bytes = waitingNotice.body then
      [43, 105, 125, 210, 11, 223, 185, 239, 191, 64, 107, 250, 198, 45, 19, 6, 217, 13, 246, 43,
        41, 179, 35, 145, 178, 172, 203, 44, 250, 253, 176, 118]
    else if bytes = numberedWaitingNotice.body then
      [229, 108, 35, 167, 7, 250, 158, 123, 252, 181, 85, 218, 252, 3, 205, 115, 165, 43, 71, 49,
        179, 174, 115, 84, 186, 102, 148, 160, 225, 79, 173, 24]
    else if bytes = numberedPaidNotice.body then
      [202, 107, 227, 137, 235, 134, 221, 240, 60, 15, 253, 205, 27, 35, 63, 139, 24, 163, 33, 74,
        164, 24, 11, 125, 15, 251, 228, 87, 70, 150, 209, 77]
    else List.replicate 32 0

/-- The small sale is sent to EPay, which tells that it waits for the buyer. -/
def saleWaiting (notice : WebhookRequest) : List Arrival :=
  [.step (.prepareAuthorization .production smallSale 0 0),
    .step (.completeAuthorization (saleOutcome .requiresAction)),
    .callback 0 notice ⟨0, "0", ""⟩ 1 0 0, .step (.advance 0 id), .step (.advance 0 id)]

/-- What the service understands of the notification that the sale is paid. -/
def paidEvent : PaymentWebhook where
  providerEventId := "T1"
  eventType := "epay.TRADE_SUCCESS"
  merchantOrderId := some "order-1"
  providerReference := some "T1"
  status := .captured
  providerStatus := "TRADE_SUCCESS"
  amount := some ⟨"100", "CNY", 2⟩

theorem paidEvent_authentic (moment : Moment) :
    let _ : Codec := noticeCodec
    (Adapter.epay sampleEpay).webhook numberedPaidNotice moment = .ok (.payment paidEvent) := by
  intro _
  change sampleEpay.webhook numberedPaidNotice = _
  decide +kernel

/-- The success of a payment is lost when it comes under the number of the order. -/
theorem saleNotice_lost :
    let _ : Codec := noticeCodec
    let _ : Sha256 := noticeDigests
    let adapter := Adapter.epay sampleEpay
    let moment : Moment := ⟨0, "0", ""⟩
    let service := (smallShop .epay).arriveAll adapter ⟨1⟩ (saleWaiting numberedWaitingNotice)
    let arrived := service.arrive adapter ⟨1⟩ (.callback 1 numberedPaidNotice moment 2 1 1)
    let done := (arrived.step (.advance 1 id)).step (.advance 1 id)
    adapter.webhook numberedPaidNotice moment = .ok (.payment paidEvent) ∧
      numberedPaidNotice.body ∉
        (saleWaiting numberedWaitingNotice).filterMap (Arrival.content adapter) ∧
      ((paymentOfWebhook service.db.payments ⟨1⟩ paidEvent).any fun payment =>
        payment.status = .requiresAction ∧
          reconciliationTransitionAllowed payment.status .captured) = true ∧
      (claimWebhook ⟨1⟩ (.payment paidEvent) (Sha256.digest numberedPaidNotice.body) 2 1 1).run'
        service.db =
          .error (.conflict "provider webhook event id was reused with a different payload") ∧
      arrived.workers 1 = none ∧
      (done.db.payments.lookup ⟨1⟩).map PaymentIntentRow.status = some .requiresAction := by
  intro _ _ adapter moment service arrived done
  refine ⟨paidEvent_authentic moment, ?_, ?_, ?_, ?_, ?_⟩
  · decide +kernel
  · decide +kernel
  · decide +kernel
  · decide +kernel
  · decide +kernel

/-- The small sale after the first notification. -/
def waitingSale : PaymentIntentRow :=
  { samplePayment .epay 2 with
    paymentMethod := "card"
    amount := 100
    commissionAmount := 10
    providerStatus := "WAIT_BUYER_PAY" }

theorem saleWaiting_allowed (notice : WebhookRequest) :
    ∀ arrival ∈ saleWaiting notice, arrival.Allowed ⟨1⟩ := by
  intro arrival harrival
  simp only [saleWaiting, List.mem_cons, List.not_mem_nil, or_false] at harrival
  rcases harrival with rfl | rfl | rfl | rfl | rfl
  all_goals simp [Arrival.Allowed, PaymentAction.Validated, PaymentService.delivery]

/-- Without a number, the two notifications are told apart and the sale is captured. -/
theorem saleNotice_applied :
    let _ : Codec := noticeCodec
    let _ : Sha256 := noticeDigests
    let adapter := Adapter.epay sampleEpay
    let service := (smallShop .epay).arriveAll adapter ⟨1⟩ (saleWaiting waitingNotice)
    let arrived := service.arrive adapter ⟨1⟩
      (.callback 1 numberedPaidNotice ⟨0, "0", ""⟩ 2 1 1)
    let done := (arrived.step (.advance 1 id)).step (.advance 1 id)
    ∃ row, done.db.payments.lookup ⟨1⟩ = some row ∧ row.status = .captured := by
  intro _ _ adapter service arrived done
  have hdigest : ∀ bytes : Bytes, (Sha256.digest bytes).length = 32 := by
    intro bytes
    change (if _ then _ else if _ then _ else if _ then _ else _ : Bytes).length = 32
    split_ifs <;> rfl
  obtain ⟨⟨hworker, hholds⟩, happlied⟩ := PaymentService.notification_applied hdigest
    (smallShop_fresh .epay) (saleWaiting_allowed waitingNotice)
    (fun arrival harrival => absurd harrival List.not_mem_nil)
    1 2 1 1 (paidEvent_authentic ⟨0, "0", ""⟩) ⟨by decide, by decide⟩ (by decide) (by decide +kernel)
    (by decide +kernel)
  have hpayment : paymentOfWebhook arrived.db.payments ⟨1⟩ paidEvent = some waitingSale := by
    decide +kernel
  have hmatches : paidEvent.Matches waitingSale := by
    exact ⟨fun _ => rfl, by decide, by decide +kernel, by decide +kernel⟩
  exact (happlied paidEvent waitingSale id hworker hholds rfl hpayment hmatches (by decide)).1

end MatchPlane
