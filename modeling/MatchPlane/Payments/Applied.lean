import MatchPlane.Payments.Refunds

/-!
# Reports that are applied

A report that agrees with its payment, and that the payment can take, is written:
nothing that the service stores can be in the way of it.
-/

namespace MatchPlane

open MatchPlane.Library

section Rows

variable {db : PaymentDatabase} {row : PaymentIntentRow}

/-- An update of a stored payment that keeps the constraints does not fail. -/
theorem ensures_updatePayment_valid {set : PaymentIntentRow → PaymentIntentRow}
    {failure : StoreError → Prop} {post : Unit → PaymentDatabase → Prop}
    (hrow : db.payments.lookup row.id = some row)
    (hset : ∀ other, (set other).id = other.id ∧ (set other).tenantId = other.tenantId ∧
      (set other).idempotencyKey = other.idempotencyKey ∧
      (set other).merchantOrderId = other.merchantOrderId)
    (hcheck : paymentIntents.check (set row) = true)
    (h : ∀ t : Table paymentIntents, (∀ id, t.lookup id = if id = row.id then some (set row) else
      db.payments.lookup id) → post () { db with payments := t }) :
    Ensures (updatePayment row.id set) failure db post := by
  unfold updatePayment
  rw [ensures_bind, ensures_on]
  refine Table.ensures_update_valid hrow rfl (fun other => (hset other).1) ?_ hcheck
    fun t hlookup _ => h t hlookup
  intro first second
  obtain ⟨_, htenant, hkey, horder⟩ := hset first
  obtain ⟨_, htenant', hkey', horder'⟩ := hset second
  simp [paymentIntents, htenant, hkey, horder, htenant', hkey', horder']

/-- A stored payment that takes a report passes the checks of its table. -/
theorem check_settled (hproper : AllProper db.payments) (hbalanced : db.Balanced)
    (hrow : db.payments.lookup row.id = some row) (status : IntentStatus)
    (providerReference redirectUrl : Option String) (providerStatus : String) {captured : Int}
    (hcaptured : row.capturedAmount ≤ captured) (hwhole : captured ≤ row.amount) :
    paymentIntents.check { row with
      status := status
      providerReference := providerReference
      redirectUrl := redirectUrl
      providerStatus := providerStatus
      capturedAmount := captured
      commissionAmount := row.settledCommission status captured } = true := by
  have hcheck := Table.check_of_lookup hrow
  have hreversed : row.commissionRefundedAmount ≤ row.capturedAmount ∨
      row.purpose ≠ "platform_commission" := by
    by_cases hplatform : row.purpose = "platform_commission"
    · left
      by_cases hstatus : row.status = .captured
      · have hcommission := (hproper _ row hrow).commission hstatus hplatform
        simp only [paymentIntents, PaymentIntentRow.amountsCheck, decide_eq_true_eq,
          isNumeric_iff] at hcheck
        omega
      · have hnone : ∀ refund ∈ db.refunds.rows, refund.paymentId ≠ row.id := by
          refine hbalanced.none_of_uncaptured fun other hother => ?_
          rw [hrow, Option.some.injEq] at hother
          rwa [← hother]
        have hzero := (hbalanced.payments _ row hrow).reversed
        rw [settledRefunds_none hnone] at hzero
        rw [hzero]
        exact (amounts_of_lookup hrow).2.1
    · exact .inr hplatform
  simp only [paymentIntents, PaymentIntentRow.amountsCheck, decide_eq_true_eq, isNumeric_iff,
    PaymentIntentRow.settledCommission] at hcheck ⊢
  refine ⟨?_, hcheck.2⟩
  split
  · rename_i hplatform
    rcases hreversed with hreversed | hother
    · omega
    · exact absurd hplatform.2 hother
  · omega

end Rows

/-! ## Webhooks -/

/-- An event that agrees with the payment that it is about. -/
structure PaymentWebhook.Matches (event : PaymentWebhook) (payment : PaymentIntentRow) : Prop where
  order : event.merchantOrderId.isSome = true →
    event.merchantOrderId = some payment.merchantOrderId
  reference : webhookReferenceMatches payment.providerReference event.providerReference
    (some payment.merchantOrderId) event.merchantOrderId = true
  amount : checkWebhookAmount payment event = .ok ()
  captured : checkCapturedAmount event = .ok ()

section Webhook

variable {db : PaymentDatabase} {payment : PaymentIntentRow} {event : PaymentWebhook}

/-- Every amount that a column can hold has 128 bits. -/
theorem exact_of_isNumeric {value : Int} (h : isNumeric value = true) :
    exact value = .ok value := by
  rw [isNumeric_iff] at h
  refine if_pos ?_
  simp only [InI128, i128Min, i128Max]
  omega

theorem numeric_of_lookup {payments : Table paymentIntents} {id : PaymentId}
    (h : payments.lookup id = some payment) :
    isNumeric payment.amount = true ∧ isNumeric payment.capturedAmount = true := by
  have hcheck := Table.check_of_lookup h
  simp only [paymentIntents, PaymentIntentRow.amountsCheck, decide_eq_true_eq] at hcheck
  exact ⟨hcheck.1.1, hcheck.1.2.2.1⟩

theorem reportedAmount_of_checked (h : checkWebhookAmount payment event = .ok ()) :
    ∃ amount, reportedAmount event = .ok amount ∧ amount.getD payment.amount ≤ payment.amount := by
  unfold checkWebhookAmount at h
  unfold reportedAmount
  cases hamount : event.amount with
  | none => exact ⟨none, rfl, le_refl _⟩
  | some money =>
      rw [hamount] at h
      dsimp only at h
      obtain ⟨expected, hexpected, h⟩ := bind_eq_ok_iff.mp h
      rw [guard_eq_ok_iff] at h
      obtain ⟨reported, hreported, h⟩ := bind_eq_ok_iff.mp h.2
      refine ⟨some reported, ?_, ?_⟩
      · simp only [hreported]
        rfl
      · rw [exact_eq_ok hexpected] at h
        rw [Option.getD_some]
        by_contra hmore
        rw [if_pos (by omega)] at h
        cases h

/-- What is captured after an event that agrees with its payment. -/
theorem webhookCapturedAmount_of_matches (h : event.Matches payment)
    (hrow : db.payments.lookup payment.id = some payment) :
    ∃ captured, webhookCapturedAmount payment event = .ok captured ∧
      payment.capturedAmount ≤ captured ∧ captured ≤ payment.amount := by
  obtain ⟨_, _, hwhole, _⟩ := amounts_of_lookup hrow
  obtain ⟨hnumeric, hcurrent⟩ := numeric_of_lookup hrow
  unfold webhookCapturedAmount
  split
  · obtain ⟨amount, hamount, hle⟩ := reportedAmount_of_checked h.amount
    rw [exact_of_isNumeric hcurrent, exact_of_isNumeric hnumeric, hamount]
    exact ⟨_, rfl, le_max_left _ _, max_le hwhole hle⟩
  · exact ⟨_, exact_of_isNumeric hcurrent, le_refl _, hwhole⟩

theorem ensures_applyPaymentWebhook_applied {claim : WebhookClaim}
    (hproper : AllProper db.payments) (hbalanced : db.Balanced) (hholds : claim.holds db)
    (hpayment : paymentOfWebhook db.payments claim.gatewayId event = some payment)
    (hmatches : event.Matches payment)
    (hallowed : reconciliationTransitionAllowed payment.status event.status.intent = true) :
    Ensures (applyPaymentWebhook claim event) (fun _ => False) db fun applied db' =>
      applied = true ∧ db'.inbox = db.inbox ∧ ∃ row', db'.payments.lookup payment.id = some row' ∧
        row'.status = event.status.intent := by
  have hmem : payment ∈ db.payments.rows := List.mem_of_mem_filter (mem_of_newest hpayment)
  have hrow : db.payments.lookup payment.id = some payment := Table.lookup_of_mem hmem
  obtain ⟨captured, hcaptured, hgrows, hbound⟩ := webhookCapturedAmount_of_matches hmatches hrow
  have hcheck := check_settled hproper hbalanced hrow event.status.intent
    (if event.providerReference.getD "" = "" then payment.providerReference
      else event.providerReference) payment.redirectUrl event.providerStatus hgrows hbound
  unfold applyPaymentWebhook ensureWebhookClaim
  unfold WebhookClaim.holds at hholds
  simp only [ensures_bind, ensures_get, hholds, ne_eq, not_true_eq_false, if_false, ensures_pure,
    hpayment]
  rw [ensures_ite]
  refine ⟨fun hother => hother.1 (hmatches.order hother.2), fun _ => ?_⟩
  simp only [hmatches.reference, hmatches.amount, hmatches.captured, hallowed, hcaptured,
    Bool.true_eq_false, if_false, ensures_bind, ensures_lift, ensures_pure]
  refine ensures_updatePayment_valid hrow (fun _ => ⟨rfl, rfl, rfl, rfl⟩) hcheck
    fun t hlookup => ?_
  have hnext := hlookup payment.id
  rw [if_pos rfl] at hnext
  exact ⟨trivial, rfl, _, hnext, rfl⟩

end Webhook

end MatchPlane
