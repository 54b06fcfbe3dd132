import MatchPlane.Payments.Refunds

/-!
# Redelivered refund events

An event may be delivered any number of times, and its claim taken over while an
earlier worker is still at it.  A worker without the claim writes nothing, and a
settled refund is not written again; so an event that names its refund pays out at
most once, however often it comes.
-/

namespace MatchPlane

open MatchPlane.Library

/-! ## Settled refunds -/

/-- Everything about a refund that its answers may not change. -/
structure PaymentRefundRow.Kept (refund refund' : PaymentRefundRow) : Prop where
  paymentId : refund'.paymentId = refund.paymentId
  amount : refund'.amount = refund.amount
  reversal : refund'.commissionReversalAmount = refund.commissionReversalAmount
  status : refund.status = .succeeded ∨ refund.status = .failed →
    refund'.status = refund.status

theorem PaymentRefundRow.Kept.refl (refund : PaymentRefundRow) : refund.Kept refund :=
  ⟨rfl, rfl, rfl, fun _ => rfl⟩

theorem PaymentRefundRow.Kept.trans {refund refund' refund'' : PaymentRefundRow}
    (h : refund.Kept refund') (h' : refund'.Kept refund'') : refund.Kept refund'' where
  paymentId := h'.paymentId.trans h.paymentId
  amount := h'.amount.trans h.amount
  reversal := h'.reversal.trans h.reversal
  status := by
    intro hsettled
    have hsame := h.status hsettled
    exact (h'.status (by rwa [hsame])).trans hsame

theorem PaymentsMoved.refund_of_lookup {db db' : PaymentDatabase} {report : Option Report}
    (h : PaymentsMoved db report db') {refundId : RefundId} {refund : PaymentRefundRow}
    (hrefund : db.refunds.lookup refundId = some refund) :
    ∃ refund', db'.refunds.lookup refundId = some refund' ∧ refund.Kept refund' := by
  have hsame : db'.refunds = db.refunds →
      ∃ refund', db'.refunds.lookup refundId = some refund' ∧ refund.Kept refund' := by
    intro hrefunds
    rw [hrefunds]
    exact ⟨refund, hrefund, .refl refund⟩
  cases h with
  | still _ hrefunds _ => exact hsame hrefunds
  | opened _ _ _ hrefunds _ => exact hsame hrefunds
  | reported _ _ _ _ _ _ _ hrefunds _ => exact hsame hrefunds
  | capturing _ _ _ haccepted => exact hsame haccepted.refunds
  | refunding new _ _ haccepted =>
      exact ⟨refund, Table.lookup_inserted_of_some haccepted.refunds hrefund, .refl refund⟩
  | refunded outcome written written' _ hwrite =>
      rw [hwrite.written.lookup]
      split
      · rename_i hid
        have hstored := hwrite.written.stored
        rw [← hid, hrefund, Option.some.injEq] at hstored
        subst hstored
        have hallowed := hwrite.allowed
        refine ⟨written', rfl, ?_, ?_, ?_, fun hsettled => ?_⟩
        · rw [hwrite.row]
        · rw [hwrite.row]
        · rw [hwrite.row]
        · rw [hwrite.row]
          rcases hsettled with h | h <;> rw [h] at hallowed ⊢ <;>
            cases hverdict : (refundVerdict outcome).1 <;>
            simp_all [refundTransitionAllowed]
      · exact ⟨refund, hrefund, .refl refund⟩

/-! ## Lost claims -/

section Claims

variable {db : PaymentDatabase}

theorem ensures_applyPaymentWebhook_holds (claim : WebhookClaim) (event : PaymentWebhook) :
    Ensures (applyPaymentWebhook claim event) anyError db fun _ _ => claim.holds db := by
  unfold applyPaymentWebhook
  rw [ensures_bind]
  refine ensures_ensureWebhookClaim fun hholds => ?_
  exact (ensures_true _ _).mono (fun _ h => h) fun _ _ _ => hholds

theorem ensures_completeRefundClaimed_holds [Sha256] (refundId : RefundId)
    (outcome : Except PaymentError RefundOutcome) (claim : WebhookClaim)
    (correctionId : Uuid → Uuid) :
    Ensures (completeRefundClaimed refundId outcome (some claim) correctionId) anyError db
      fun _ _ => claim.holds db := by
  unfold completeRefundClaimed
  rw [ensures_bind]
  refine ensures_ensureWebhookClaim fun hholds => ?_
  exact (ensures_true _ _).mono (fun _ h => h) fun _ _ _ => hholds

end Claims

namespace PaymentService

variable [Sha256] {service : PaymentService}

/-- A worker that lost its claim writes no payment and no refund. -/
theorem advance_lost {index : Nat} {worker : WebhookWorker} {correctionId : Uuid → Uuid}
    (hlost : ¬worker.claim.holds service.db) :
    (service.advance index worker correctionId).db.payments = service.db.payments ∧
      (service.advance index worker correctionId).db.refunds = service.db.refunds := by
  cases advance_db service index worker correctionId with
  | read h => exact ⟨by rw [h], by rw [h]⟩
  | payment event _ _ h =>
      rcases committed_cases (ensures_applyPaymentWebhook_holds worker.claim event) with
        ⟨_, hsame⟩ | ⟨_, _, hholds⟩
      · exact ⟨by rw [h, hsame], by rw [h, hsame]⟩
      · exact absurd hholds hlost
  | refund refundId outcome _ h =>
      rcases committed_cases (ensures_completeRefundClaimed_holds refundId (.ok outcome)
        worker.claim correctionId) with ⟨_, hsame⟩ | ⟨_, _, hholds⟩
      · exact ⟨by rw [h, hsame], by rw [h, hsame]⟩
      · exact absurd hholds hlost
  | finish status failureReason h =>
      have hkept := (keeps_finishWebhook worker.claim status failureReason).committed service.db
      simp only [Prod.mk.injEq] at hkept
      exact ⟨by rw [h, hkept.1], by rw [h, hkept.2.2]⟩

theorem run_refund_kept {actions : List PaymentAction} {refundId : RefundId}
    {refund : PaymentRefundRow} (hrefund : service.db.refunds.lookup refundId = some refund) :
    ∃ refund', (service.run actions).db.refunds.lookup refundId = some refund' ∧
      refund.Kept refund' := by
  induction actions generalizing service refund with
  | nil => exact ⟨refund, hrefund, .refl refund⟩
  | cons action rest ih =>
      obtain ⟨next, hnext, hkept⟩ := (step_moved service action).refund_of_lookup hrefund
      obtain ⟨last, hlast, hkept'⟩ := ih hnext
      exact ⟨last, hlast, hkept.trans hkept'⟩

end PaymentService

/-! ## Events that name their refund -/

/-- A reference that a provider may use for a refund. -/
def PaymentRefundRow.answers (refund : PaymentRefundRow) (reference : String) : Prop :=
  toString refund.id = reference ∨ refund.providerReference = some reference

theorem answers_of_refundWebhookOutcome {event : RefundWebhook} {refund : PaymentRefundRow}
    {payment : PaymentIntentRow} {outcome : RefundOutcome} {reference : String}
    (h : refundWebhookOutcome event refund payment = .ok outcome)
    (hreference : event.refundReference = some reference) : refund.answers reference := by
  by_contra hnot
  have hother : event.refundReference.any (fun reference =>
      reference ≠ toString refund.id ∧ refund.providerReference ≠ some reference) = true := by
    rw [hreference, Option.any_some, decide_eq_true_eq]
    exact ⟨fun hsame => hnot (.inl hsame.symm), fun hsame => hnot (.inr hsame)⟩
  unfold refundWebhookOutcome at h
  rw [if_pos hother] at h
  split at h
  · cases h
  · split at h <;> cases h

/-- Whatever a worker does next, it is to the one refund. -/
def WebhookWorker.HeadsFor (worker : WebhookWorker) (refundId : RefundId) : Prop :=
  match worker.phase with
  | .loaded refund => ∀ event reference, worker.event = .refund event →
      event.refundReference = some reference → refund.answers reference → refund.id = refundId
  | .checked selected _ => selected = refundId
  | _ => True

namespace PaymentService

/-- One refund answers to the reference that an event carries, and no other does. -/
def Names (gatewayId : PaymentGatewayId) (providerEventId : String) (refundId : RefundId)
    (service : PaymentService) (_ : PaymentAction) : Prop :=
  ∀ index worker event, service.workers index = some worker → worker.gatewayId = gatewayId →
    worker.event = .refund event → event.providerEventId = providerEventId →
    ∃ reference, event.refundReference = some reference ∧
      ∀ refund ∈ service.db.refunds.rows, refund.answers reference → refund.id = refundId

/-- The workers of an event have settled on no other refund. -/
def OnTrack (gatewayId : PaymentGatewayId) (providerEventId : String) (refundId : RefundId)
    (workers : Nat → Option WebhookWorker) : Prop :=
  ∀ index worker, workers index = some worker → worker.gatewayId = gatewayId →
    worker.event.providerEventId = providerEventId → worker.HeadsFor refundId

section Track

variable {gatewayId : PaymentGatewayId} {providerEventId : String} {refundId : RefundId}
  {workers : Nat → Option WebhookWorker}

/-- One worker moved on, and it is still on track. -/
theorem OnTrack.update (h : OnTrack gatewayId providerEventId refundId workers) (index : Nat)
    {next : Option WebhookWorker}
    (hnext : ∀ worker, next = some worker → worker.gatewayId = gatewayId →
      worker.event.providerEventId = providerEventId → worker.HeadsFor refundId) :
    OnTrack gatewayId providerEventId refundId (Function.update workers index next) := by
  intro other worker hworker
  by_cases hsame : other = index
  · rw [hsame, Function.update_self] at hworker
    exact hnext worker hworker
  · rw [Function.update_of_ne hsame] at hworker
    exact h other worker hworker

variable [Sha256] {service : PaymentService}

theorem OnTrack.advance (h : OnTrack gatewayId providerEventId refundId service.workers)
    {index : Nat} {worker : WebhookWorker} (hworker : service.workers index = some worker)
    {correctionId : Uuid → Uuid} {action : PaymentAction}
    (hnames : Names gatewayId providerEventId refundId service action) :
    OnTrack gatewayId providerEventId refundId
      (service.advance index worker correctionId).workers := by
  have hcurrent := h index worker hworker
  unfold PaymentService.advance
  split
  · refine h.update index ?_
    rintro _ ⟨⟩ _ _
    trivial
  · split
    · refine h.update index ?_
      rintro _ ⟨⟩ _ _
      trivial
    · refine h.update index ?_
      rintro _ ⟨⟩ _ _
      trivial
  · split
    · refine h.update index ?_
      rintro _ ⟨⟩ _ _
      trivial
    · rename_i refund hrefund
      refine h.update index ?_
      rintro _ ⟨⟩ hgateway hid event reference hevent hreference hanswers
      -- The row is read now, so it is one of those that the reference could mean.
      have hevent' : worker.event = .refund event := hevent
      have hid' : worker.event.providerEventId = providerEventId := hid
      rw [hevent'] at hid'
      obtain ⟨named, hnamed, hunique⟩ := hnames index worker event hworker hgateway hevent' hid'
      rw [hreference, Option.some.injEq] at hnamed
      subst hnamed
      exact hunique refund (Table.mem_of_lookup hrefund) hanswers
  · rename_i refund event hphase hevent
    dsimp only
    split
    · refine h.update index ?_
      rintro _ ⟨⟩ _ _
      trivial
    · rename_i outcome hresult
      refine h.update index ?_
      rintro _ ⟨⟩ hgateway hid
      have hgateway' : worker.gatewayId = gatewayId := hgateway
      have hid' : worker.event.providerEventId = providerEventId := hid
      have hloaded := hcurrent hgateway' hid'
      rw [WebhookWorker.HeadsFor, hphase] at hloaded
      rw [hevent] at hid'
      obtain ⟨reference, hreference, _⟩ := hnames index worker event hworker hgateway' hevent hid'
      refine hloaded event reference hevent hreference ?_
      split at hresult
      · cases hresult
      · exact answers_of_refundWebhookOutcome hresult hreference
  · refine h.update index ?_
    rintro _ ⟨⟩ _ _
    trivial
  · refine h.update index ?_
    rintro _ ⟨⟩
  · refine h.update index ?_
    rintro _ ⟨⟩

theorem OnTrack.step (h : OnTrack gatewayId providerEventId refundId service.workers)
    {action : PaymentAction} (hnames : Names gatewayId providerEventId refundId service action) :
    OnTrack gatewayId providerEventId refundId (service.step action).workers := by
  cases action with
  | deliver index gateway event payloadHash processingToken now processingAt =>
      simp only [PaymentService.step, PaymentService.deliver]
      split
      · refine h.update index ?_
        rintro _ ⟨⟩ _ _
        trivial
      · refine h.update index ?_
        rintro _ ⟨⟩
      · refine h.update index ?_
        rintro _ ⟨⟩
  | advance index correctionId =>
      simp only [PaymentService.step]
      split
      · exact h
      · rename_i worker hworker
        exact h.advance hworker hnames
  | stop index =>
      refine h.update index ?_
      rintro _ ⟨⟩
  | _ => exact h

end Track

/-! ## Payouts -/

/-- A refund that was paid out. -/
def hasSucceeded (db : PaymentDatabase) (refundId : RefundId) : Bool :=
  (db.refunds.lookup refundId).any fun refund => refund.status = .succeeded

/-- The refund that a step pays out for an event. -/
def pays [Sha256] (gatewayId : PaymentGatewayId) (providerEventId : String)
    (service : PaymentService) : PaymentAction → List RefundId
  | .advance index correctionId =>
      match service.workers index with
      | some ⟨workerGateway, event, _, .checked refundId _⟩ =>
          if workerGateway = gatewayId ∧ event.providerEventId = providerEventId ∧
              hasSucceeded service.db refundId = false ∧
              hasSucceeded (service.step (.advance index correctionId)).db refundId then
            [refundId]
          else []
      | _ => []
  | _ => []

/-- The refunds that are paid out for an event along a run. -/
def paidBy [Sha256] (gatewayId : PaymentGatewayId) (providerEventId : String) :
    PaymentService → List PaymentAction → List RefundId
  | _, [] => []
  | service, action :: rest => service.pays gatewayId providerEventId action ++
      paidBy gatewayId providerEventId (service.step action) rest

section Payouts

variable [Sha256] {gatewayId : PaymentGatewayId} {providerEventId : String}
  {refundId : RefundId} {service : PaymentService}

theorem hasSucceeded_step {action : PaymentAction}
    (h : hasSucceeded service.db refundId = true) :
    hasSucceeded (service.step action).db refundId = true := by
  unfold hasSucceeded at h ⊢
  obtain ⟨refund, hrefund, hstatus⟩ := (Option.any_eq_true _ _).mp h
  rw [decide_eq_true_eq] at hstatus
  obtain ⟨refund', hrefund', hkept⟩ := (step_moved service action).refund_of_lookup hrefund
  rw [hrefund', Option.any_some, decide_eq_true_eq, hkept.status (.inl hstatus), hstatus]

/-- A step on track pays out the one refund, and only if that was still due. -/
theorem pays_cases (hontrack : OnTrack gatewayId providerEventId refundId service.workers)
    (action : PaymentAction) : service.pays gatewayId providerEventId action = [] ∨
      (service.pays gatewayId providerEventId action = [refundId] ∧
        hasSucceeded service.db refundId = false ∧
        hasSucceeded (service.step action).db refundId = true) := by
  cases action with
  | advance index correctionId =>
      simp only [pays]
      split
      · rename_i workerGateway event token selected outcome hworker
        split
        · rename_i hpays
          have hsame : selected = refundId := hontrack index _ hworker hpays.1 hpays.2.1
          subst hsame
          exact .inr ⟨rfl, hpays.2.2⟩
        · exact .inl rfl
      · exact .inl rfl
  | _ => exact .inl rfl

theorem paidBy_of_succeeded {actions : List PaymentAction}
    (hontrack : OnTrack gatewayId providerEventId refundId service.workers)
    (hnames : Every (Names gatewayId providerEventId refundId) service actions)
    (hsucceeded : hasSucceeded service.db refundId = true) :
    paidBy gatewayId providerEventId service actions = [] := by
  induction actions generalizing service with
  | nil => rfl
  | cons action rest ih =>
      have hrest := ih (hontrack.step hnames.1) hnames.2 (hasSucceeded_step hsucceeded)
      rcases pays_cases hontrack action with hnone | ⟨_, hdue, _⟩
      · rw [paidBy, hnone, hrest, List.append_nil]
      · rw [hsucceeded] at hdue
        cases hdue

theorem paidBy_length_le {actions : List PaymentAction}
    (hontrack : OnTrack gatewayId providerEventId refundId service.workers)
    (hnames : Every (Names gatewayId providerEventId refundId) service actions) :
    (paidBy gatewayId providerEventId service actions).length ≤ 1 := by
  induction actions generalizing service with
  | nil => exact Nat.zero_le 1
  | cons action rest ih =>
      rcases pays_cases hontrack action with hnone | ⟨hpays, _, hsucceeded⟩
      · rw [paidBy, hnone, List.nil_append]
        exact ih (hontrack.step hnames.1) hnames.2
      · rw [paidBy, hpays, paidBy_of_succeeded (hontrack.step hnames.1) hnames.2 hsucceeded]
        exact le_refl 1

/--
Refund accounting along every run: the totals of every payment are those of its refunds
and fit into what was captured, settled refunds stay as they are, a worker without its
claim writes nothing, and an event that names its refund pays out at most once.
-/
theorem run_refunds_accounted (hfresh : service.Fresh) (actions further : List PaymentAction)
    (hvalid : ∀ action ∈ actions, action.Validated) :
    let reached := service.run actions
    (∀ id row, reached.db.payments.lookup id = some row →
      row.refundedAmount = settledRefunds reached.db.refunds id PaymentRefundRow.amount ∧
      row.commissionRefundedAmount =
        settledRefunds reached.db.refunds id PaymentRefundRow.commissionReversalAmount ∧
      reservedRefunds reached.db.refunds id PaymentRefundRow.amount ≤ row.capturedAmount ∧
      reservedRefunds reached.db.refunds id PaymentRefundRow.commissionReversalAmount ≤
        row.commissionAmount) ∧
    (∀ refundId refund, reached.db.refunds.lookup refundId = some refund →
      refund.status = .succeeded ∨ refund.status = .failed →
      ∃ later, (service.run (actions ++ further)).db.refunds.lookup refundId = some later ∧
        later.status = refund.status ∧ later.amount = refund.amount ∧
        later.commissionReversalAmount = refund.commissionReversalAmount) ∧
    (∀ index worker correctionId, reached.workers index = some worker →
      ¬worker.claim.holds reached.db →
      (reached.step (.advance index correctionId)).db.payments = reached.db.payments ∧
        (reached.step (.advance index correctionId)).db.refunds = reached.db.refunds) ∧
    ∀ gatewayId providerEventId,
      (∃ refundId, Every (Names gatewayId providerEventId refundId) service actions) →
      (paidBy gatewayId providerEventId service actions).length ≤ 1 := by
  intro reached
  have hbalanced := (run_balanced hfresh hvalid).2
  refine ⟨fun id row hrow => ?_, fun refundId refund hrefund hsettled => ?_,
    fun index worker correctionId hworker hlost => ?_, fun gatewayId providerEventId => ?_⟩
  · obtain ⟨hrefunded, hreversed, hreserved, hreservedReversal⟩ := hbalanced.payments id row hrow
    have hid : row.id = id := Table.key_of_lookup hrow
    rw [hid] at hrefunded hreversed hreserved hreservedReversal
    exact ⟨hrefunded, hreversed, hreserved, hreservedReversal⟩
  · rw [run_append]
    obtain ⟨later, hlater, hkept⟩ := run_refund_kept hrefund
    exact ⟨later, hlater, hkept.status hsettled, hkept.amount, hkept.reversal⟩
  · simp only [step, hworker]
    exact advance_lost hlost
  · rintro ⟨refundId, hnames⟩
    refine paidBy_length_le (fun index worker hworker => ?_) hnames
    rw [hfresh.workers index] at hworker
    cases hworker

end Payouts

end PaymentService

/-! ## Two refunds of the small sale -/

/-- The sale is captured, and two refunds over 30 units each are on their way. -/
def saleRefunding : List PaymentAction :=
  [.prepareAuthorization .production smallSale 0 0,
    .completeAuthorization (saleOutcome .captured),
    .prepareRefund (saleRefund ⟨1⟩ "first" 30) 0,
    .prepareRefund (saleRefund ⟨2⟩ "second" 30) 1]

/-- An event that says which order was refunded, but not by which refund. -/
def saleRefunded : RefundWebhook where
  providerEventId := "event-1"
  eventType := "alipay.REFUND_SUCCESS"
  merchantOrderId := some "order-1"
  providerReference := some "order-1"
  refundReference := none
  status := .succeeded
  providerStatus := "REFUND_SUCCESS"
  amount := some ⟨"30", "CNY", 2⟩

/-- A delivery whose worker stops before it has noted that it is done. -/
def saleDelivery (worker : Nat) (token : Uuid) (now : OffsetDateTime) : List PaymentAction :=
  [.deliver worker ⟨1⟩ (.refund saleRefunded) (List.replicate 32 0) token now now,
    .advance worker id, .advance worker id, .advance worker id, .advance worker id]

/-- The event comes again after five minutes, and pays out the other refund as well. -/
theorem saleDelivery_twice :
    let actions := saleRefunding ++ saleDelivery 0 7 0 ++
      saleDelivery 1 8 (claimDuration + 1)
    let shop := smallShop .alipayOpenapi
    @PaymentService.paidBy ⟨id⟩ ⟨1⟩ "event-1" shop actions = [⟨2⟩, ⟨1⟩] ∧
      ((@PaymentService.run ⟨id⟩ shop actions).db.payments.lookup ⟨1⟩).map
        PaymentIntentRow.refundedAmount = some 60 := by
  decide +kernel

theorem saleDelivery_accounted :
    let actions := saleRefunding ++ saleDelivery 0 7 0
    let db := (@PaymentService.run ⟨id⟩ (smallShop .alipayOpenapi) actions).db
    ∃ row, db.payments.lookup ⟨1⟩ = some row ∧ row.refundedAmount = 30 ∧
      settledRefunds db.refunds ⟨1⟩ PaymentRefundRow.amount = 30 := by
  intro actions db
  have hpayment : (db.payments.lookup ⟨1⟩).map PaymentIntentRow.refundedAmount = some 30 := by
    decide +kernel
  obtain ⟨row, hrow, hamount⟩ := Option.map_eq_some_iff.mp hpayment
  have hvalid : ∀ action ∈ actions, action.Validated := by
    simp [actions, saleRefunding, saleDelivery, PaymentAction.Validated]
  obtain ⟨hbalanced, _⟩ := @PaymentService.run_refunds_accounted ⟨id⟩ _
    (smallShop_fresh .alipayOpenapi) actions [] hvalid
  exact ⟨row, hrow, hamount, (hbalanced ⟨1⟩ row hrow).1.symm.trans hamount⟩

end MatchPlane
