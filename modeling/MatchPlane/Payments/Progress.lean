import MatchPlane.Payments.Effects
import MatchPlane.Payments.Service

/-!
# Payments never move backwards

Six operations write the status of a payment, each behind a guard of its own.
What they have in common is stated once: a final status stays, the captured amount
only grows, and something is captured exactly if the status says so.
-/

namespace MatchPlane

open MatchPlane.Library

/-- The statuses that nothing follows. -/
def IntentStatus.isFinal : IntentStatus → Bool
  | captured | voided | failed => true
  | _ => false

theorem reconciliationTransitionAllowed_of_final {source target : IntentStatus}
    (h : reconciliationTransitionAllowed source target = true) (hfinal : source.isFinal = true) :
    target = source := by
  cases source <;> cases target <;>
    simp_all [reconciliationTransitionAllowed, IntentStatus.isFinal]

namespace PaymentIntentRow

/-- Something is captured exactly if the status says so. -/
structure Proper (row : PaymentIntentRow) : Prop where
  captured : 0 < row.capturedAmount ↔ row.status = .captured
  commission : row.status = .captured → row.purpose = "platform_commission" →
    row.commissionAmount ≤ row.capturedAmount

/-- What any operation may make of a payment. -/
structure Advances (row row' : PaymentIntentRow) : Prop where
  status : row.status.isFinal = true → row'.status = row.status
  capturedAmount : row.capturedAmount ≤ row'.capturedAmount
  commissionAmount : row.status = .captured → row.commissionAmount ≤ row'.commissionAmount
  amount : row'.amount = row.amount
  proper : row'.Proper

variable {row row' row'' : PaymentIntentRow}

theorem Proper.refl (h : row.Proper) : row.Advances row :=
  ⟨fun _ => rfl, le_refl _, fun _ => le_refl _, rfl, h⟩

theorem Advances.trans (h : row.Advances row') (h' : row'.Advances row'') :
    row.Advances row'' where
  status := by
    intro hfinal
    have hsame := h.status hfinal
    exact (h'.status (by rwa [hsame])).trans hsame
  capturedAmount := h.capturedAmount.trans h'.capturedAmount
  commissionAmount := by
    intro hcaptured
    have hsame : row'.status = row.status := h.status (by rw [hcaptured]; rfl)
    exact (h.commissionAmount hcaptured).trans (h'.commissionAmount (hsame.trans hcaptured))
  amount := h'.amount.trans h.amount
  proper := h'.proper

theorem IsNew.proper (h : row.IsNew) : row.Proper where
  captured := by simp [h.capturedAmount, h.status]
  commission := by
    intro hcaptured
    rw [h.status] at hcaptured
    cases hcaptured

/-- A report that is not a capture leaves the amounts alone. -/
theorem Proper.reported (h : row.Proper) (hfinal : row.status.isFinal = true →
    row'.status = row.status) (hstatus : row'.status ≠ .captured)
    (hcaptured : row'.capturedAmount = row.capturedAmount)
    (hcommission : row'.commissionAmount = row.commissionAmount)
    (hamount : row'.amount = row.amount) : row.Advances row' := by
  have hnot : row.status ≠ .captured := by
    intro hsame
    exact hstatus ((hfinal (by rw [hsame]; rfl)).trans hsame)
  refine ⟨hfinal, hcaptured.ge, fun _ => hcommission.ge, hamount, ?_, ?_⟩
  · rw [hcaptured, h.captured]
    exact iff_of_false hnot hstatus
  · intro hsame
    exact absurd hsame hstatus

/-- A report of a capture may raise the amounts, and never lowers them. -/
theorem Advances.captures (hfinal : row.status.isFinal = true → row'.status = row.status)
    (hstatus : row'.status = .captured) (hpositive : 0 < row'.capturedAmount)
    (hcaptured : row.capturedAmount ≤ row'.capturedAmount)
    (hcommission : row.status = .captured → row.commissionAmount ≤ row'.commissionAmount)
    (hbounded : row.purpose = "platform_commission" →
      row'.commissionAmount ≤ row'.capturedAmount)
    (hamount : row'.amount = row.amount) (hpurpose : row'.purpose = row.purpose) :
    row.Advances row' := by
  refine ⟨hfinal, hcaptured, hcommission, hamount, ?_, fun _ hplatform => ?_⟩
  · exact iff_of_true hpositive hstatus
  · exact hbounded (hpurpose ▸ hplatform)

/-- The commission follows the capture of a platform commission, and is kept otherwise. -/
theorem Proper.settles (h : row.Proper)
    (hallowed : reconciliationTransitionAllowed row.status row'.status = true)
    (hcaptured : row'.status = .captured →
      row.capturedAmount ≤ row'.capturedAmount ∧ 0 < row'.capturedAmount)
    (hother : row'.status ≠ .captured → row'.capturedAmount = row.capturedAmount)
    (hcommission : row'.commissionAmount =
      row.settledCommission row'.status row'.capturedAmount)
    (hamount : row'.amount = row.amount) (hpurpose : row'.purpose = row.purpose) :
    row.Advances row' := by
  have hfinal := reconciliationTransitionAllowed_of_final hallowed
  unfold settledCommission at hcommission
  by_cases hstatus : row'.status = .captured
  · obtain ⟨hle, hpositive⟩ := hcaptured hstatus
    refine .captures hfinal hstatus hpositive hle (fun hsame => ?_) (fun hplatform => ?_)
      hamount hpurpose
    · rw [hcommission]
      split
      · rename_i hplatform
        exact (h.commission hsame hplatform.2).trans hle
      · exact le_refl _
    · rw [hcommission, if_pos ⟨hstatus, hplatform⟩]
  · refine h.reported hfinal hstatus (hother hstatus) ?_ hamount
    rw [hcommission, if_neg fun hboth => hstatus hboth.1]

end PaymentIntentRow

/-! ## Tables of payments -/

def AllProper (payments : Table paymentIntents) : Prop :=
  ∀ id row, payments.lookup id = some row → row.Proper

/-- Every payment advances, and new ones are as they are first stored. -/
structure PaymentsAdvance (before after : Table paymentIntents) : Prop where
  kept : ∀ id row, before.lookup id = some row →
    ∃ row', after.lookup id = some row' ∧ row.Advances row'
  new : ∀ id row, after.lookup id = some row → before.lookup id = none → row.Proper

namespace PaymentsAdvance

variable {before after later : Table paymentIntents}

theorem refl (h : AllProper before) : PaymentsAdvance before before where
  kept := fun id row hrow => ⟨row, hrow, (h id row hrow).refl⟩
  new := by
    intro id row hrow hnone
    rw [hrow] at hnone
    cases hnone

theorem trans (h : PaymentsAdvance before after) (h' : PaymentsAdvance after later) :
    PaymentsAdvance before later where
  kept := by
    intro id row hrow
    obtain ⟨row', hrow', hadvances⟩ := h.kept id row hrow
    obtain ⟨row'', hrow'', hadvances'⟩ := h'.kept id row' hrow'
    exact ⟨row'', hrow'', hadvances.trans hadvances'⟩
  new := by
    intro id row hrow hnone
    cases hmiddle : after.lookup id with
    | none => exact h'.new id row hrow hmiddle
    | some row' =>
        obtain ⟨row'', hrow'', hadvances⟩ := h'.kept id row' hmiddle
        rw [hrow, Option.some.injEq] at hrow''
        rw [hrow'']
        exact hadvances.proper

theorem allProper (h : PaymentsAdvance before after) : AllProper after := by
  intro id row hrow
  cases hbefore : before.lookup id with
  | none => exact h.new id row hrow hbefore
  | some old =>
      obtain ⟨row', hrow', hadvances⟩ := h.kept id old hbefore
      rw [hrow, Option.some.injEq] at hrow'
      rw [hrow']
      exact hadvances.proper

theorem written (h : AllProper before) {row row' : PaymentIntentRow}
    (hwritten : Table.Written before after row row') (hadvances : row.Advances row') :
    PaymentsAdvance before after where
  kept := by
    intro id old hold
    rw [hwritten.lookup]
    split
    · rename_i hid
      have hstored := hwritten.stored
      rw [← hid, hold, Option.some.injEq] at hstored
      rw [hstored]
      exact ⟨row', rfl, hadvances⟩
    · exact ⟨old, hold, (h id old hold).refl⟩
  new := by
    intro id old hold hnone
    rw [hwritten.lookup] at hold
    split at hold
    · cases hold
      exact hadvances.proper
    · rw [hnone] at hold
      cases hold

theorem inserted (h : AllProper before) {row : PaymentIntentRow}
    (hrows : after.rows = before.rows ++ [row]) (hnew : row.IsNew) :
    PaymentsAdvance before after where
  kept := fun id old hold =>
    ⟨old, Table.lookup_inserted_of_some hrows hold, (h id old hold).refl⟩
  new := by
    intro id old hold hnone
    rw [Table.lookup_inserted hrows, hnone] at hold
    split at hold <;> cases hold
    exact hnew.proper

end PaymentsAdvance

/-! ## Operations -/

section Operations

variable {db db' : PaymentDatabase}

/-- Every payment of the table passes the checks of its schema. -/
theorem amounts_of_lookup {payments : Table paymentIntents} {id : PaymentId}
    {row : PaymentIntentRow} (h : payments.lookup id = some row) :
    0 < row.amount ∧ 0 ≤ row.capturedAmount ∧ row.capturedAmount ≤ row.amount ∧
      row.commissionAmount ≤ row.amount := by
  have hcheck := Table.check_of_lookup h
  simp only [paymentIntents, PaymentIntentRow.amountsCheck, decide_eq_true_eq,
    isNumeric_iff] at hcheck
  omega

theorem Effect.advances {skipped : Prop} {write : PaymentIntentRow → PaymentIntentRow → Prop}
    (h : Effect db db' skipped write) (hproper : AllProper db.payments)
    (hwrite : ∀ row row', db.payments.lookup row.id = some row → row.Proper → write row row' →
      row.Advances row') : PaymentsAdvance db.payments db'.payments := by
  rcases h.payments with ⟨_, hsame⟩ | ⟨row, row', hwritten, hwrote⟩
  · rw [hsame]
    exact .refl hproper
  · have hrow := hwritten.stored
    exact .written hproper hwritten (hwrite row row' hrow (hproper _ row hrow) hwrote)

theorem ensures_completeAuthorization_advances (hproper : AllProper db.payments)
    (outcome : PaymentOutcome) : Ensures (completeAuthorization outcome) anyError db
      fun _ db' => PaymentsAdvance db.payments db'.payments := by
  refine (ensures_completeAuthorization outcome).mono (fun _ h => h) fun _ db' heffect => ?_
  refine heffect.advances hproper fun row row' hrow hrowProper => ?_
  rintro ⟨_, hguard, rfl⟩
  obtain ⟨hpositive, _, hcaptured, hcommission⟩ := amounts_of_lookup hrow
  have hfinal : row.status.isFinal = true → outcome.status.intent = row.status := by
    intro hfinal
    rcases hguard with hopen | hsame
    · simp only [List.mem_cons, List.not_mem_nil, or_false] at hopen
      rcases hopen with h | h | h <;> rw [h] at hfinal <;> cases hfinal
    · exact hsame.symm
  by_cases hstatus : outcome.status = .captured
  · have hintent : outcome.status.intent = .captured := by rw [hstatus]; rfl
    refine .captures hfinal hintent ?_ ?_ (fun _ => le_refl _) (fun _ => ?_) rfl rfl
    · simpa [hstatus] using hpositive
    · simpa [hstatus] using hcaptured
    · simpa [hstatus] using hcommission
  · refine hrowProper.reported hfinal ?_ (if_neg hstatus) rfl rfl
    intro hintent
    apply hstatus
    cases hreported : outcome.status <;> rw [hreported] at hintent <;> cases hintent

theorem ensures_failAuthorization_advances (hproper : AllProper db.payments)
    (paymentId : PaymentId) (unknown : Bool) (providerStatus : String) :
    Ensures (failAuthorization paymentId unknown providerStatus) anyError db
      fun _ db' => PaymentsAdvance db.payments db'.payments := by
  refine (ensures_failAuthorization paymentId unknown providerStatus).mono (fun _ h => h)
    fun _ db' heffect => heffect.advances hproper fun row row' _ hrowProper => ?_
  rintro ⟨_, hopen, rfl⟩
  refine hrowProper.reported (fun hfinal => ?_) ?_ rfl rfl rfl
  · rcases hopen with h | h <;> rw [h] at hfinal <;> cases hfinal
  · cases unknown <;> simp

theorem ensures_completeQuery_advances (hproper : AllProper db.payments)
    (paymentId : PaymentId) (idempotencyKey : String)
    (outcome : Except PaymentError PaymentOutcome) :
    Ensures (completeQuery paymentId idempotencyKey outcome) anyError db
      fun _ db' => PaymentsAdvance db.payments db'.payments := by
  refine (ensures_completeQuery paymentId idempotencyKey outcome).mono (fun _ h => h)
    fun _ db' heffect => heffect.advances hproper fun row row' hrow hrowProper => ?_
  rintro ⟨_, hwrite⟩
  obtain ⟨hpositive, hnonnegative, _, _⟩ := amounts_of_lookup hrow
  cases outcome with
  | ok result =>
      obtain ⟨hallowed, rfl⟩ := hwrite
      refine hrowProper.settles hallowed (fun hcaptured => ?_) (fun hother => ?_) rfl rfl rfl
      · dsimp only at hcaptured ⊢
        by_cases hsame : row.status = .captured
        · rw [if_neg fun hboth => hboth.2 hsame]
          exact ⟨le_refl _, hrowProper.captured.mpr hsame⟩
        · have hlatest : 0 < latestCaptureAmount db.operations row :=
            latestCaptureAmount_pos hpositive
          have hzero : ¬0 < row.capturedAmount := fun h => hsame (hrowProper.captured.mp h)
          rw [if_pos ⟨hcaptured, hsame⟩]
          omega
      · exact if_neg fun hboth => hother hboth.1
  | error error =>
      obtain ⟨hunknown, rfl⟩ := hwrite
      refine hrowProper.reported (fun hfinal => ?_) (by simp) rfl rfl rfl
      cases hstatus : row.status <;>
        simp_all [reconciliationCanBecomeUnknown, IntentStatus.isFinal]

theorem ensures_completeCapture_advances (hproper : AllProper db.payments)
    (paymentId : PaymentId) (idempotencyKey : String) {amount : Int} (hamount : 0 < amount)
    (outcome : Except PaymentError PaymentOutcome) (now : OffsetDateTime) :
    Ensures (completeCapture paymentId idempotencyKey amount outcome now) anyError db
      fun _ db' => PaymentsAdvance db.payments db'.payments := by
  refine (ensures_completeCapture paymentId idempotencyKey amount outcome now).mono
    (fun _ h => h) fun _ db' ⟨invalid, payment, _, _, heffect⟩ => ?_
  refine heffect.advances hproper fun row row' _ hrowProper => ?_
  rintro ⟨_, hallowed, rfl⟩
  refine hrowProper.settles hallowed (fun hcaptured => ?_) (fun hother => ?_) rfl rfl rfl
  · dsimp only at hcaptured ⊢
    rw [if_pos hcaptured]
    exact ⟨le_max_left _ _, lt_max_of_lt_right hamount⟩
  · exact if_neg hother

theorem ensures_applyPaymentWebhook_advances (hproper : AllProper db.payments)
    (claim : WebhookClaim) (event : PaymentWebhook) :
    Ensures (applyPaymentWebhook claim event) anyError db
      fun _ db' => PaymentsAdvance db.payments db'.payments := by
  refine (ensures_applyPaymentWebhook claim event).mono (fun _ h => h)
    fun _ db' heffect => heffect.advances hproper fun row row' _ hrowProper => ?_
  rintro ⟨_, captured, hcapture, hother, hallowed, rfl⟩
  have hintent : event.status.intent = .captured ↔ event.status = .captured := by
    cases event.status <;> simp [PaymentStatus.intent]
  refine hrowProper.settles hallowed (fun hcaptured => ?_) (fun hreported => ?_) rfl rfl rfl
  · obtain ⟨reported, _, hpositive, rfl⟩ := hcapture (hintent.mp hcaptured)
    exact ⟨le_max_left _ _, lt_max_of_lt_right hpositive⟩
  · exact hother fun h => hreported (hintent.mpr h)

theorem ensures_prepareAuthorization_advances (hproper : AllProper db.payments)
    (environment : Environment) (command : NewPayment) (now createdAt : OffsetDateTime) :
    Ensures (prepareAuthorization environment command now createdAt) anyError db
      fun _ db' => PaymentsAdvance db.payments db'.payments := by
  refine (ensures_prepareAuthorization environment command now createdAt).mono (fun _ h => h)
    fun _ db' ⟨_, _, hpayments⟩ => ?_
  rcases hpayments with hsame | ⟨row, hnew, hrows⟩
  · rw [hsame]
    exact .refl hproper
  · exact .inserted hproper hrows hnew

theorem ensures_prepareCapture_advances (hproper : AllProper db.payments)
    (tenantId : TenantId) (paymentId : PaymentId) (idempotencyKey : String)
    (requestHash : Bytes) (amount : Int) (operationId : Uuid)
    (now createdAt : OffsetDateTime) :
    Ensures (prepareCapture tenantId paymentId idempotencyKey requestHash amount operationId now
      createdAt) anyError db fun _ db' => PaymentsAdvance db.payments db'.payments := by
  refine (ensures_prepareCapture tenantId paymentId idempotencyKey requestHash amount
    operationId now createdAt).mono (fun _ h => h) fun _ db' haccepted => ?_
  rcases haccepted with rfl | haccepted
  · exact .refl hproper
  · obtain ⟨row, _, hauthorized, _, _, hwritten⟩ := haccepted.payment
    refine .written hproper hwritten ?_
    refine (hproper _ row hwritten.stored).reported (fun hfinal => ?_) (by simp) rfl rfl rfl
    rw [hauthorized] at hfinal
    cases hfinal

theorem ensures_completeRefundClaimed_advances [Sha256] (hproper : AllProper db.payments)
    (refundId : RefundId) (outcome : Except PaymentError RefundOutcome)
    (claim : Option WebhookClaim) (correctionId : Uuid → Uuid) :
    Ensures (completeRefundClaimed refundId outcome claim correctionId) anyError db
      fun _ db' => PaymentsAdvance db.payments db'.payments := by
  refine (ensures_completeRefundClaimed refundId outcome claim correctionId).mono
    (fun _ h => h) fun _ db' ⟨_, hwrites⟩ => ?_
  rcases hwrites with ⟨_, hsame⟩ | ⟨refund, refund', _, hwrite⟩
  · rw [hsame]
    exact .refl hproper
  · have hpayment := hwrite.payment
    split at hpayment
    · rcases hpayment with ⟨_, hsame⟩ | ⟨row, _, hwritten⟩
      · rw [hsame]
        exact .refl hproper
      · have hrowProper := hproper _ row hwritten.stored
        refine .written hproper hwritten ⟨fun _ => rfl, le_refl _, fun _ => le_refl _, rfl, ?_⟩
        exact ⟨hrowProper.captured, hrowProper.commission⟩
    · rw [hpayment]
      exact .refl hproper

end Operations

/-! ## Runs -/

/-- The service validates the amount of a capture before it asks for one. -/
def PaymentAction.Validated : PaymentAction → Prop
  | .completeCapture _ _ amount _ _ => 0 < amount
  | _ => True

namespace PaymentService

variable {service : PaymentService}

/-- A request advances the payments if its transaction does. -/
theorem call_advances {α : Type} (hproper : AllProper service.db.payments)
    {x : PayTx PaymentDatabase α} (h : Ensures x anyError service.db fun _ db' =>
      PaymentsAdvance service.db.payments db'.payments) :
    PaymentsAdvance service.db.payments (committed x service.db).payments :=
  h.committed (.refl hproper)

theorem Fresh.allProper (h : service.Fresh) : AllProper service.db.payments := by
  intro id row hrow
  rw [h.payments] at hrow
  cases hrow

variable [Sha256]

theorem step_advances (hproper : AllProper service.db.payments) {action : PaymentAction}
    (hvalid : action.Validated) :
    PaymentsAdvance service.db.payments (service.step action).db.payments := by
  cases action with
  | surround surroundings invoices => exact .refl hproper
  | prepareAuthorization environment command now createdAt =>
      exact call_advances hproper (ensures_prepareAuthorization_advances hproper _ _ _ _)
  | completeAuthorization outcome =>
      exact call_advances hproper (ensures_completeAuthorization_advances hproper _)
  | failAuthorization paymentId unknown providerStatus =>
      exact call_advances hproper (ensures_failAuthorization_advances hproper _ _ _)
  | prepareQuery tenantId paymentId idempotencyKey requestHash operationId createdAt =>
      refine call_advances hproper ((ensures_prepareQuery _ _ _ _ _ _).mono (fun _ h => h) ?_)
      exact fun _ _ heffect => heffect.advances hproper fun _ _ _ _ h => h.elim
  | completeQuery paymentId idempotencyKey outcome =>
      exact call_advances hproper (ensures_completeQuery_advances hproper _ _ _)
  | prepareCapture tenantId paymentId idempotencyKey requestHash amount operationId now
      createdAt =>
      exact call_advances hproper (ensures_prepareCapture_advances hproper _ _ _ _ _ _ _ _)
  | completeCapture paymentId idempotencyKey amount outcome now =>
      exact call_advances hproper (ensures_completeCapture_advances hproper _ _ hvalid _ _)
  | prepareRefund command createdAt =>
      refine call_advances hproper ((ensures_prepareRefund _ _).mono (fun _ h => h) ?_)
      rintro _ db' ⟨hsame, _⟩
      rw [hsame]
      exact .refl hproper
  | completeRefund refundId outcome correctionId =>
      exact call_advances hproper (ensures_completeRefundClaimed_advances hproper _ _ _ _)
  | deliver worker gatewayId event payloadHash processingToken now processingAt =>
      have hsame : (service.step (.deliver worker gatewayId event payloadHash processingToken
          now processingAt)).db.payments = service.db.payments := by
        simp only [step, deliver_db]
        exact congrArg Prod.fst ((keeps_claimWebhook _ _ _ _ _ _).committed service.db)
      rw [hsame]
      exact .refl hproper
  | advance index correctionId =>
      simp only [step]
      split
      · exact .refl hproper
      · rename_i worker _
        cases advance_db service index worker correctionId with
        | read h =>
            rw [h]
            exact .refl hproper
        | payment event _ _ h =>
            rw [h]
            exact call_advances hproper (ensures_applyPaymentWebhook_advances hproper _ _)
        | refund refundId outcome _ h =>
            rw [h]
            exact call_advances hproper (ensures_completeRefundClaimed_advances hproper _ _ _ _)
        | finish status failureReason h =>
            have hsame : (service.advance index worker correctionId).db.payments =
                service.db.payments := by
              rw [h]
              exact congrArg Prod.fst ((keeps_finishWebhook _ _ _).committed service.db)
            rw [hsame]
            exact .refl hproper
  | stop worker => exact .refl hproper

theorem run_advances {actions : List PaymentAction} (hproper : AllProper service.db.payments)
    (hvalid : ∀ action ∈ actions, action.Validated) :
    PaymentsAdvance service.db.payments (service.run actions).db.payments := by
  induction actions generalizing service with
  | nil => exact .refl hproper
  | cons action rest ih =>
      have hstep := step_advances hproper (hvalid action List.mem_cons_self)
      exact hstep.trans (ih hstep.allProper
        fun other hother => hvalid other (List.mem_cons_of_mem _ hother))

/--
Whatever happens to a payment: something is captured exactly if its status says so,
never more than its amount; and from then on a final status stays as it is and the
captured amount does not shrink.
-/
theorem run_payments_advance (hfresh : service.Fresh) (actions further : List PaymentAction)
    (hvalid : ∀ action ∈ actions ++ further, action.Validated) :
    ∀ id payment, (service.run actions).db.payments.lookup id = some payment →
      (0 < payment.capturedAmount ↔ payment.status = .captured) ∧
      payment.capturedAmount ≤ payment.amount ∧
      ∃ later, (service.run (actions ++ further)).db.payments.lookup id = some later ∧
        payment.capturedAmount ≤ later.capturedAmount ∧
        (payment.status = .captured ∨ payment.status = .voided ∨ payment.status = .failed →
          later.status = payment.status) := by
  intro id payment hpayment
  have hrun := run_advances hfresh.allProper fun action haction =>
    hvalid action (List.mem_append_left _ haction)
  have hfurther := run_advances hrun.allProper fun action haction =>
    hvalid action (List.mem_append_right _ haction)
  obtain ⟨later, hlater, hadvances⟩ := hfurther.kept id payment hpayment
  rw [← run_append] at hlater
  refine ⟨(hrun.allProper id payment hpayment).captured, (amounts_of_lookup hpayment).2.2.1,
    later, hlater, hadvances.capturedAmount, fun hfinal => hadvances.status ?_⟩
  rcases hfinal with h | h | h <;> rw [h] <;> rfl

end PaymentService

/-- A late failure does not undo a capture. -/
theorem run_payments_advance_lateFailure :
    let captured := saleCapturing ++
      [.completeCapture ⟨1⟩ "capture" 30 (.ok (saleOutcome .captured)) 0]
    let late : List PaymentAction := [.failAuthorization ⟨1⟩ false "late",
      .completeCapture ⟨1⟩ "capture" 30 (.ok (saleOutcome .failed)) 0]
    let shop := @PaymentService.run ⟨id⟩ (smallShop .custom)
    ∃ payment, (shop captured).db.payments.lookup ⟨1⟩ = some payment ∧
      payment.status = .captured ∧ payment.capturedAmount = 30 ∧
      ∃ later, (shop (captured ++ late)).db.payments.lookup ⟨1⟩ = some later ∧
        30 ≤ later.capturedAmount ∧ later.status = .captured := by
  intro captured late shop
  have hpayment : ((shop captured).db.payments.lookup ⟨1⟩).map
      (fun payment => (payment.status, payment.capturedAmount)) = some (.captured, 30) := by
    decide +kernel
  obtain ⟨payment, hlookup, hfields⟩ := Option.map_eq_some_iff.mp hpayment
  obtain ⟨hstatus, hamount⟩ := Prod.mk.inj hfields
  have hvalid : ∀ action ∈ captured ++ late, action.Validated := by
    simp [captured, late, saleCapturing, PaymentAction.Validated]
  obtain ⟨_, _, later, hlater, hgrown, hfinal⟩ :=
    @PaymentService.run_payments_advance _ ⟨id⟩ (smallShop_fresh .custom) captured late hvalid
      ⟨1⟩ payment hlookup
  refine ⟨payment, hlookup, hstatus, hamount, later, hlater, ?_, ?_⟩
  · rwa [hamount] at hgrown
  · exact (hfinal (.inl hstatus)).trans hstatus

end MatchPlane
