import MatchPlane.Payments.Webhooks

/-!
# What operations write

One lemma for each operation says which rows it may write, and what they become.
Proofs about the service use these and never look into an operation.
-/

namespace MatchPlane

open MatchPlane.Library

/-- Errors say nothing here: they leave the database as it was. -/
def anyError : StoreError → Prop := fun _ => True

variable {α : Type} {db : PaymentDatabase} {paymentId : PaymentId} {refundId : RefundId}

/-! ## Statements -/

theorem ensures_paymentIn {post : PaymentIntentRow → PaymentDatabase → Prop}
    (h : ∀ row, db.payments.lookup paymentId = some row → post row db) :
    Ensures (paymentIn paymentId) anyError db post := by
  unfold paymentIn
  rw [ensures_bind, ensures_get, ensures_require]
  exact ⟨fun _ => trivial, h⟩

theorem ensures_refundIn {post : PaymentRefundRow → PaymentDatabase → Prop}
    (h : ∀ row, db.refunds.lookup refundId = some row → post row db) :
    Ensures (refundIn refundId) anyError db post := by
  unfold refundIn
  rw [ensures_bind, ensures_get, ensures_require]
  exact ⟨fun _ => trivial, h⟩

theorem ensures_insertPaymentEvent {event : PaymentEventRow}
    {post : Unit → PaymentDatabase → Prop}
    (h : post () { db with events := db.events ++ [event] }) :
    Ensures (insertPaymentEvent event) anyError db post := h

theorem ensures_updatePayment {row : PaymentIntentRow}
    {set : PaymentIntentRow → PaymentIntentRow} {post : Unit → PaymentDatabase → Prop}
    (hrow : db.payments.lookup paymentId = some row) (hset : ∀ other, (set other).id = other.id)
    (h : ∀ t, Table.Written db.payments t row (set row) → post () { db with payments := t }) :
    Ensures (updatePayment paymentId set) anyError db post := by
  unfold updatePayment
  rw [ensures_bind, ensures_on]
  exact Table.ensures_update_written hrow hset trivial fun t hwritten => h t hwritten

/-! ## Reads -/

/-- A transaction that writes nothing. -/
def Reads (x : PayTx PaymentDatabase α) : Prop := Keeps (fun db => db) x

theorem Reads.ensures {x : PayTx PaymentDatabase α} (hx : Reads x)
    {post : α → PaymentDatabase → Prop} (h : ∀ value, post value db) :
    Ensures x anyError db post := by
  refine (hx db).mono (fun _ h => h) fun value db' hsame => ?_
  rw [show db' = db from hsame]
  exact h value

theorem reads_paymentIn (paymentId : PaymentId) : Reads (paymentIn paymentId) :=
  keeps_get.bind fun _ => keeps_require _ _

theorem reads_gatewayIn (paymentId : PaymentId) : Reads (gatewayIn paymentId) :=
  keeps_get.bind fun _ => (keeps_require _ _).bind fun _ => keeps_lift _

theorem reads_ensureWebhookClaim (gatewayId : PaymentGatewayId) (providerEventId : String)
    (processingToken : Uuid) :
    Reads (ensureWebhookClaim gatewayId providerEventId processingToken) :=
  keeps_get.bind fun _ => (keeps_throw _).ite (keeps_pure _)

theorem reads_ensureDealAuthorization (command : NewPayment) (now : OffsetDateTime) :
    Reads (ensureDealAuthorization command now) := by
  unfold ensureDealAuthorization
  cases command.offlineDealId with
  | none => exact keeps_pure _
  | some offlineDealId =>
      refine keeps_get.bind fun _ => (keeps_require _ _).bind fun deal => ?_
      refine (keeps_throw _).ite ((keeps_require _ _).bind fun _ => ?_)
      refine (keeps_lift _).bind fun _ => (keeps_throw _).ite ((keeps_throw _).ite ?_)
      exact (keeps_throw _).ite ((keeps_throw _).ite (keeps_pure _))

theorem reads_validateCaptureTarget (payment : PaymentIntentRow) (amount : Int)
    (now : OffsetDateTime) : Reads (validateCaptureTarget payment amount now) := by
  unfold validateCaptureTarget
  cases payment.offlineDealId with
  | none => exact keeps_pure _
  | some offlineDealId =>
      refine (keeps_throw _).ite (keeps_get.bind fun _ => ?_)
      refine (keeps_require _ _).bind fun deal => (keeps_throw _).ite ?_
      refine (keeps_throw _).ite ((keeps_throw _).ite ?_)
      refine (keeps_require _ _).bind fun _ => (keeps_lift _).bind fun _ => ?_
      exact (keeps_throw _).ite ((keeps_throw _).ite (keeps_pure _))

theorem reads_captureTargetInvalid (payment : PaymentIntentRow) (amount : Int)
    (now : OffsetDateTime) (outcome : Except PaymentError PaymentOutcome) :
    Reads (captureTargetInvalid payment amount now outcome) := by
  unfold captureTargetInvalid
  refine Keeps.ite (keeps_get.bind fun db => ?_) (keeps_pure _)
  split
  · exact keeps_pure _
  · exact keeps_pure _
  · exact keeps_pure _
  · exact keeps_throw _

/-! ## Capture operations -/

section Newest

variable {ρ : Type} {createdAt : ρ → OffsetDateTime} {rows : List ρ}

theorem newest_append (row : ρ) : newest createdAt (rows ++ [row]) =
    if (newest createdAt rows).any fun other => createdAt row < createdAt other then
      newest createdAt rows
    else some row := by
  unfold newest
  rw [List.foldl_append]
  rfl

theorem mem_of_newest {row : ρ} (h : newest createdAt rows = some row) : row ∈ rows := by
  induction rows using List.reverseRecOn generalizing row with
  | nil => cases h
  | append_singleton rest last ih =>
      rw [newest_append] at h
      split at h
      · exact List.mem_append_left _ (ih h)
      · cases h
        exact List.mem_append_right _ List.mem_cons_self

/-- Writes that keep the age of every row keep the newest one. -/
theorem newest_map {f : ρ → ρ} (hf : ∀ row, createdAt (f row) = createdAt row) :
    newest createdAt (rows.map f) = (newest createdAt rows).map f := by
  induction rows using List.reverseRecOn with
  | nil => rfl
  | append_singleton rest last ih =>
      rw [List.map_append, List.map_singleton, newest_append, newest_append, ih]
      cases newest createdAt rest with
      | none => rfl
      | some best =>
          simp only [Option.map_some, Option.any_some, hf]
          split <;> rfl

end Newest

/-- The captures of all payments, as far as their amounts depend on them. -/
def SameCaptures (before after : Table paymentOperations) : Prop :=
  ∀ payment, latestCaptureAmount after payment = latestCaptureAmount before payment

theorem latestCaptureAmount_pos {operations : Table paymentOperations}
    {payment : PaymentIntentRow} (h : 0 < payment.amount) :
    0 < latestCaptureAmount operations payment := by
  unfold latestCaptureAmount
  cases hnewest : newest PaymentOperationRow.createdAt (capturesOf operations payment.id) with
  | none => exact h
  | some operation =>
      cases hamount : operation.amount with
      | none => simpa [hamount] using h
      | some amount =>
          have hmem := List.mem_of_mem_filter (mem_of_newest hnewest)
          have hcheck := operations.valid.checked operation hmem
          simp only [paymentOperations, hamount, Option.all_some, decide_eq_true_eq] at hcheck
          simpa [hamount] using hcheck.2.2.1.2

/-- An answer is noted on an operation without touching what was asked for. -/
theorem ensures_noteOperation {key : TenantId × String} {guard : PaymentOperationRow → Bool}
    {status : OperationStatus} {providerStatus : Option String}
    {post : Option PaymentOperationRow → PaymentDatabase → Prop}
    (h : ∀ result t, SameCaptures db.operations t → post result { db with operations := t }) :
    Ensures (PaymentDatabase.operationTable.on (Table.update .database key guard fun row =>
      { row with status := status, providerStatus := providerStatus })) anyError db post := by
  rw [ensures_on]
  refine Table.ensures_update trivial fun t hrows => h _ t fun payment => ?_
  have hcaptures : capturesOf t payment.id = (capturesOf db.operations payment.id).map fun row =>
      if paymentOperations.key row = key ∧ guard row = true then
        { row with status := status, providerStatus := providerStatus } else row := by
    unfold capturesOf
    rw [hrows]
    refine List.filter_map.trans (congrArg (List.map _) (List.filter_congr fun row _ => ?_))
    simp only [Function.comp_apply]
    split <;> rfl
  unfold latestCaptureAmount
  rw [hcaptures, newest_map]
  · cases newest PaymentOperationRow.createdAt _ with
    | none => rfl
    | some operation =>
        simp only [Option.map_some, Option.bind_some]
        split <;> rfl
  · intro row
    split <;> rfl

/-! ## Operations on payments -/

/--
An operation wrote one payment, or none because it was `skipped`; it left the
refunds and the captures that were asked for alone.
-/
structure Effect (db db' : PaymentDatabase) (skipped : Prop)
    (write : PaymentIntentRow → PaymentIntentRow → Prop) : Prop where
  refunds : db'.refunds = db.refunds
  captures : SameCaptures db.operations db'.operations
  payments : (skipped ∧ db'.payments = db.payments) ∨
    ∃ row row', Table.Written db.payments db'.payments row row' ∧ write row row'

theorem Effect.skip {db' : PaymentDatabase} {skipped : Prop}
    {write : PaymentIntentRow → PaymentIntentRow → Prop} (h : skipped)
    (hpayments : db'.payments = db.payments) (hrefunds : db'.refunds = db.refunds)
    (hcaptures : SameCaptures db.operations db'.operations) : Effect db db' skipped write :=
  ⟨hrefunds, hcaptures, .inl ⟨h, hpayments⟩⟩

theorem ensures_completeAuthorization (outcome : PaymentOutcome) :
    Ensures (completeAuthorization outcome) anyError db fun _ db' =>
      Effect db db' False fun row row' => row.id = outcome.paymentId ∧
        (row.status ∈ [.requested, .unknown, .pending] ∨ row.status = outcome.status.intent) ∧
        row' = { row with
          status := outcome.status.intent
          providerReference := some outcome.providerReference
          redirectUrl := outcome.redirectUrl
          providerStatus := outcome.providerStatus
          capturedAmount :=
            if outcome.status = .captured then row.amount else row.capturedAmount } := by
  unfold completeAuthorization
  rw [ensures_bind]
  refine ensures_paymentIn fun row hrow => ?_
  dsimp only
  rw [ensures_ite]
  refine ⟨fun _ => trivial, fun hallowed => ?_⟩
  rw [ensures_bind]
  refine ensures_updatePayment hrow (by intro; rfl) fun t hwritten => ?_
  rw [ensures_bind]
  refine ensures_insertPaymentEvent ((reads_paymentIn _).ensures fun _ => ?_)
  refine ⟨rfl, fun _ => rfl, .inr ⟨row, _, hwritten, Table.key_of_lookup hrow, ?_, rfl⟩⟩
  by_contra hnot
  exact hallowed ⟨fun h => hnot (.inl h), fun h => hnot (.inr h)⟩

theorem ensures_failAuthorization (paymentId : PaymentId) (unknown : Bool)
    (providerStatus : String) :
    Ensures (failAuthorization paymentId unknown providerStatus) anyError db fun _ db' =>
      Effect db db' True fun row row' => row.id = paymentId ∧
        (row.status = .requested ∨ row.status = .pending) ∧
        row' = { row with
          status := if unknown then .unknown else .failed
          providerStatus := providerStatus } := by
  unfold failAuthorization
  rw [ensures_bind]
  refine ensures_paymentIn fun row hrow => ?_
  dsimp only
  rw [ensures_ite]
  refine ⟨fun hopen => ?_, fun _ => ?_⟩
  · rw [ensures_bind]
    refine ensures_updatePayment hrow (by intro; rfl) fun t hwritten => ?_
    rw [ensures_bind]
    refine ensures_insertPaymentEvent ((reads_paymentIn _).ensures fun _ => ?_)
    exact ⟨rfl, fun _ => rfl, .inr ⟨row, _, hwritten, Table.key_of_lookup hrow, hopen, rfl⟩⟩
  · exact (reads_paymentIn _).ensures fun _ => .skip trivial rfl rfl fun _ => rfl

/-- What a status query writes, by its outcome. -/
def QueryWrite (operations : Table paymentOperations) (row row' : PaymentIntentRow) :
    Except PaymentError PaymentOutcome → Prop
  | .ok result =>
      let target := result.status.intent
      let captured := if target = .captured ∧ row.status ≠ .captured then
        latestCaptureAmount operations row else row.capturedAmount
      reconciliationTransitionAllowed row.status target = true ∧ row' = { row with
        status := target
        providerReference := if result.providerReference = "" then row.providerReference
          else some result.providerReference
        redirectUrl := result.redirectUrl.or row.redirectUrl
        providerStatus := result.providerStatus
        capturedAmount := captured
        commissionAmount := row.settledCommission target captured }
  | .error _ => reconciliationCanBecomeUnknown row.status = true ∧ row' = { row with
      status := .unknown
      providerStatus := "transport_unknown" }

/-- A report that the payment cannot take, or that reports nothing. -/
def QueryIgnored (row : PaymentIntentRow) : Except PaymentError PaymentOutcome → Prop
  | .ok result => reconciliationTransitionAllowed row.status result.status.intent = false
  | .error _ => True

theorem ensures_completeQuery (paymentId : PaymentId) (idempotencyKey : String)
    (outcome : Except PaymentError PaymentOutcome) :
    Ensures (completeQuery paymentId idempotencyKey outcome) anyError db fun _ db' =>
      Effect db db' (∃ row, db.payments.lookup paymentId = some row ∧ QueryIgnored row outcome)
        fun row row' => row.id = paymentId ∧ QueryWrite db.operations row row' outcome := by
  unfold completeQuery
  rw [ensures_bind]
  refine ensures_paymentIn fun row hrow => ?_
  have hid : row.id = paymentId := Table.key_of_lookup hrow
  dsimp only
  rw [ensures_bind]
  refine ensures_noteOperation fun operation t hcaptures => ?_
  rw [ensures_bind, ensures_require]
  refine ⟨fun _ => trivial, fun _ _ => ?_⟩
  cases outcome with
  | ok result =>
      dsimp only
      rw [ensures_ite]
      refine ⟨fun hallowed => ?_, fun hstale => ?_⟩
      · rw [ensures_bind, ensures_get, ensures_bind]
        refine ensures_updatePayment hrow (by intro; rfl) fun t hwritten => ?_
        rw [ensures_bind]
        refine ensures_insertPaymentEvent ((reads_paymentIn _).ensures fun _ => ?_)
        refine ⟨rfl, hcaptures, .inr ⟨row, _, hwritten, hid, hallowed, ?_⟩⟩
        rw [hcaptures row]
      · rw [ensures_bind]
        refine ensures_insertPaymentEvent ((reads_paymentIn _).ensures fun _ => ?_)
        exact .skip ⟨row, hrow, Bool.eq_false_iff.mpr hstale⟩ rfl rfl hcaptures
  | error error =>
      dsimp only
      rw [ensures_ite]
      refine ⟨fun hunknown => ?_, fun _ => ?_⟩
      · rw [ensures_bind]
        refine ensures_updatePayment hrow (by intro; rfl) fun t hwritten => ?_
        rw [ensures_bind]
        refine ensures_insertPaymentEvent ((reads_paymentIn _).ensures fun _ => ?_)
        refine ⟨rfl, hcaptures, .inr ⟨row, _, hwritten, hid, hunknown.2, ?_⟩⟩
        simp [queryVerdict, hunknown.1]
      · rw [ensures_bind]
        refine ensures_insertPaymentEvent ((reads_paymentIn _).ensures fun _ => ?_)
        exact .skip ⟨row, hrow, trivial⟩ rfl rfl hcaptures

/-- A success that comes too late: the payment is pending and its deal does not take it. -/
structure LateCapture (db : PaymentDatabase) (payment : PaymentIntentRow) (amount : Int)
    (outcome : Except PaymentError PaymentOutcome) (now : OffsetDateTime) : Prop where
  pending : payment.status = .capturePending
  refused : succeeds (validateCaptureTarget payment amount now) db = false
  captured : ∃ result, outcome = .ok result ∧ result.status = .captured

/-- Whether a capture is found invalid is read off the payment and its deal. -/
theorem ensures_captureTargetInvalid {payment : PaymentIntentRow} {amount : Int}
    {now : OffsetDateTime} {outcome : Except PaymentError PaymentOutcome}
    {post : Bool → PaymentDatabase → Prop}
    (h : ∀ invalid : Bool, (invalid = true → LateCapture db payment amount outcome now) →
      post invalid db) :
    Ensures (captureTargetInvalid payment amount now outcome) anyError db post := by
  unfold captureTargetInvalid
  dsimp only
  rw [ensures_ite]
  refine ⟨fun hpending => ?_, fun _ => ?_⟩
  · have hcaptured : ∃ result, outcome = .ok result ∧ result.status = .captured := by
      cases outcome with
      | ok result => exact ⟨result, rfl, by simpa using hpending.2⟩
      | error error => cases hpending.2
    rw [ensures_bind, ensures_get]
    split
    · exact h false fun hinvalid => nomatch hinvalid
    · rename_i hrun
      exact h true fun _ => ⟨hpending.1, by rw [Library.succeeds, hrun]; rfl, hcaptured⟩
    · rename_i hrun
      exact h true fun _ => ⟨hpending.1, by rw [Library.succeeds, hrun]; rfl, hcaptured⟩
    · trivial
  · exact h false fun hinvalid => nomatch hinvalid

/-- What the answer to a capture writes. -/
def CaptureWrite (amount : Int) (status : IntentStatus) (providerStatus : String)
    (row row' : PaymentIntentRow) : Prop :=
  let captured := if status = .captured then max row.capturedAmount amount
    else row.capturedAmount
  reconciliationTransitionAllowed row.status status = true ∧ row' = { row with
    status := status
    capturedAmount := captured
    commissionAmount := row.settledCommission status captured
    providerStatus := providerStatus }

theorem exact_eq_ok {value result : Int} (h : exact value = .ok result) : result = value := by
  unfold exact at h
  split at h <;> cases h
  rfl

theorem capturedTotal_eq_ok {payment : PaymentIntentRow} {amount captured : Int}
    {status : IntentStatus} (h : capturedTotal payment amount status = .ok captured) :
    captured = if status = .captured then max payment.capturedAmount amount
      else payment.capturedAmount := by
  unfold capturedTotal at h
  split
  · rename_i hcaptured
    rw [if_pos hcaptured] at h
    obtain ⟨current, hcurrent, h⟩ := bind_eq_ok_iff.mp h
    cases h
    rw [exact_eq_ok hcurrent]
  · rename_i hother
    rw [if_neg hother] at h
    cases h
    rfl

theorem ensures_recordCapture {payment : PaymentIntentRow} {amount : Int}
    {status : IntentStatus} {providerStatus : String}
    {post : PaymentIntentRow → PaymentDatabase → Prop}
    (hrow : db.payments.lookup payment.id = some payment)
    (hallowed : reconciliationTransitionAllowed payment.status status = true)
    (h : ∀ value t events row', Table.Written db.payments t payment row' →
      CaptureWrite amount status providerStatus payment row' →
      post value { db with payments := t, events := events }) :
    Ensures (recordCapture payment amount status providerStatus) anyError db post := by
  unfold recordCapture
  rw [ensures_bind, ensures_lift]
  cases htotal : capturedTotal payment amount status with
  | error error => trivial
  | ok captured =>
      dsimp only
      rw [ensures_bind]
      refine ensures_updatePayment hrow (by intro; rfl) fun t hwritten => ?_
      rw [ensures_bind]
      refine ensures_insertPaymentEvent ((reads_paymentIn _).ensures fun value => ?_)
      rw [capturedTotal_eq_ok htotal] at hwritten
      exact h value t _ _ hwritten ⟨hallowed, rfl⟩

theorem ensures_completeCapture (paymentId : PaymentId) (idempotencyKey : String) (amount : Int)
    (outcome : Except PaymentError PaymentOutcome) (now : OffsetDateTime) :
    Ensures (completeCapture paymentId idempotencyKey amount outcome now) anyError db
      fun _ db' => ∃ (invalid : Bool) (payment : PaymentIntentRow),
        db.payments.lookup paymentId = some payment ∧
        (invalid = true → LateCapture db payment amount outcome now) ∧
        let verdict := (captureVerdict invalid outcome).2
        Effect db db' (reconciliationTransitionAllowed payment.status verdict.1 = false)
          fun row row' => row = payment ∧
            CaptureWrite amount verdict.1 verdict.2 row row' := by
  unfold completeCapture
  rw [ensures_bind]
  refine ensures_paymentIn fun row hrow => ?_
  rw [ensures_bind]
  refine ensures_captureTargetInvalid fun invalid hinvalid => ?_
  dsimp only
  rw [ensures_bind]
  refine ensures_noteOperation fun operation t hcaptures => ?_
  rw [ensures_ite]
  refine ⟨fun hstale => ?_, fun hallowed => ?_⟩
  · rw [ensures_bind]
    refine ensures_insertPaymentEvent ?_
    rw [ensures_pure]
    exact ⟨invalid, row, hrow, hinvalid, .skip hstale rfl rfl hcaptures⟩
  · have hstored : db.payments.lookup row.id = some row := by
      rwa [show row.id = paymentId from Table.key_of_lookup hrow]
    refine ensures_recordCapture hstored (by simpa using hallowed)
      fun _ t _ row' hwritten hwrite => ?_
    exact ⟨invalid, row, hrow, hinvalid, rfl, hcaptures, .inr ⟨row, row', hwritten, rfl, hwrite⟩⟩

/-! ## Payment webhooks -/

/-- What the amount of a capture webhook stands for. -/
def PaymentWebhook.reports (event : PaymentWebhook) (payment : PaymentIntentRow) (value : Int) :
    Prop :=
  match event.amount with
  | none => value = payment.amount
  | some amount => amount.exactAmount = .ok value

theorem reportedAmount_eq_ok {event : PaymentWebhook} {payment : PaymentIntentRow}
    {amount : Option Int} (h : reportedAmount event = .ok amount) :
    event.reports payment (amount.getD payment.amount) := by
  unfold reportedAmount at h
  unfold PaymentWebhook.reports
  cases hamount : event.amount with
  | none =>
      rw [hamount] at h
      cases h
      rfl
  | some money =>
      rw [hamount] at h
      dsimp only at h ⊢
      cases hexact : money.exactAmount with
      | error error =>
          rw [hexact] at h
          cases h
      | ok value =>
          rw [hexact] at h
          cases h
          rfl

/-- What a payment webhook writes. -/
def WebhookWrite (event : PaymentWebhook) (row row' : PaymentIntentRow) : Prop :=
  let target := event.status.intent
  ∃ captured, (event.status = .captured → ∃ reported, event.reports row reported ∧
      0 < reported ∧ captured = max row.capturedAmount reported) ∧
    (event.status ≠ .captured → captured = row.capturedAmount) ∧
    reconciliationTransitionAllowed row.status target = true ∧ row' = { row with
      status := target
      providerReference := if event.providerReference.getD "" = "" then
        row.providerReference else event.providerReference
      providerStatus := event.providerStatus
      capturedAmount := captured
      commissionAmount := row.settledCommission target captured }

theorem webhookCapturedAmount_eq_ok {payment : PaymentIntentRow} {event : PaymentWebhook}
    {captured : Int} (hpositive : 0 < payment.amount)
    (hchecked : checkCapturedAmount event = .ok ())
    (h : webhookCapturedAmount payment event = .ok captured) :
    (event.status = .captured → ∃ reported, event.reports payment reported ∧
      0 < reported ∧ captured = max payment.capturedAmount reported) ∧
    (event.status ≠ .captured → captured = payment.capturedAmount) := by
  unfold webhookCapturedAmount at h
  refine ⟨fun hcaptured => ?_, fun hother => ?_⟩
  · unfold checkCapturedAmount at hchecked
    rw [if_pos hcaptured] at h hchecked
    obtain ⟨current, hcurrent, h⟩ := bind_eq_ok_iff.mp h
    obtain ⟨amount, hamount, h⟩ := bind_eq_ok_iff.mp h
    obtain ⟨whole, hwhole, h⟩ := bind_eq_ok_iff.mp h
    cases h
    obtain ⟨amount', hamount', hchecked⟩ := bind_eq_ok_iff.mp hchecked
    rw [hamount, Except.ok.injEq] at hamount'
    subst hamount'
    have hreports : event.reports payment (amount.getD payment.amount) :=
      reportedAmount_eq_ok hamount
    rw [exact_eq_ok hcurrent, exact_eq_ok hwhole]
    refine ⟨_, hreports, ?_, rfl⟩
    cases amount with
    | none => exact hpositive
    | some value =>
        by_contra hnot
        rw [if_pos (by simpa using hnot)] at hchecked
        cases hchecked
  · rw [if_neg hother] at h
    exact exact_eq_ok h

theorem ensures_applyPaymentWebhook (claim : WebhookClaim) (event : PaymentWebhook) :
    Ensures (applyPaymentWebhook claim event) anyError db fun _ db' =>
      Effect db db' (∀ payment,
          paymentOfWebhook db.payments claim.gatewayId event = some payment →
          reconciliationTransitionAllowed payment.status event.status.intent = false)
        fun row row' => paymentOfWebhook db.payments claim.gatewayId event = some row ∧
          WebhookWrite event row row' := by
  unfold applyPaymentWebhook
  rw [ensures_bind]
  refine (reads_ensureWebhookClaim _ _ _).ensures fun _ => ?_
  rw [ensures_bind, ensures_get]
  cases hpayment : paymentOfWebhook db.payments claim.gatewayId event with
  | none =>
      rw [ensures_pure]
      exact .skip (fun _ hpayment => nomatch hpayment) rfl rfl fun _ => rfl
  | some payment =>
      have hmem : payment ∈ db.payments.rows := List.mem_of_mem_filter (mem_of_newest hpayment)
      have hrow : db.payments.lookup payment.id = some payment := Table.lookup_of_mem hmem
      have hcheck := db.payments.valid.checked payment hmem
      simp only [paymentIntents, PaymentIntentRow.amountsCheck, decide_eq_true_eq] at hcheck
      dsimp only
      rw [ensures_ite]
      refine ⟨fun _ => trivial, fun _ => ?_⟩
      rw [ensures_ite]
      refine ⟨fun _ => trivial, fun _ => ?_⟩
      rw [ensures_bind, ensures_lift]
      split
      · rw [ensures_bind, ensures_lift]
        cases hchecked : checkCapturedAmount event with
        | error error => trivial
        | ok _ =>
            dsimp only
            rw [ensures_ite]
            refine ⟨fun hstale => ?_, fun hallowed => ?_⟩
            · rw [ensures_bind]
              refine ensures_insertPaymentEvent ?_
              rw [ensures_pure]
              refine .skip (fun other hother => ?_) rfl rfl fun _ => rfl
              rw [Option.some.injEq] at hother
              rwa [← hother]
            · rw [ensures_bind, ensures_lift]
              cases hcaptured : webhookCapturedAmount payment event with
              | error error => trivial
              | ok captured =>
                  dsimp only
                  rw [ensures_bind]
                  refine ensures_updatePayment hrow (by intro; rfl) fun t hwritten => ?_
                  rw [ensures_bind]
                  refine ensures_insertPaymentEvent ?_
                  rw [ensures_pure]
                  obtain ⟨hcapture, hother⟩ :=
                    webhookCapturedAmount_eq_ok hcheck.1.2.1 hchecked hcaptured
                  refine ⟨rfl, fun _ => rfl, .inr ⟨payment, _, hwritten, rfl, ?_⟩⟩
                  exact ⟨captured, hcapture, hother, by simpa using hallowed, rfl⟩
      · trivial

/-! ## Preparations -/

/-- A payment as it is first stored. -/
structure PaymentIntentRow.IsNew (row : PaymentIntentRow) : Prop where
  status : row.status = .requested
  capturedAmount : row.capturedAmount = 0
  refundedAmount : row.refundedAmount = 0
  commissionRefundedAmount : row.commissionRefundedAmount = 0

theorem ensures_prepareAuthorization (environment : Environment) (command : NewPayment)
    (now createdAt : OffsetDateTime) :
    Ensures (prepareAuthorization environment command now createdAt) anyError db fun _ db' =>
      db'.refunds = db.refunds ∧ SameCaptures db.operations db'.operations ∧
        (db'.payments = db.payments ∨
          ∃ row, row.IsNew ∧ db'.payments.rows = db.payments.rows ++ [row]) := by
  unfold prepareAuthorization
  rw [ensures_bind, ensures_get]
  dsimp only
  split
  · rw [ensures_ite]
    refine ⟨fun _ => trivial, fun _ => ?_⟩
    rw [ensures_bind]
    refine (reads_paymentIn _).ensures fun _ => ?_
    rw [ensures_bind]
    refine (reads_gatewayIn _).ensures fun _ => ?_
    rw [ensures_ite]
    exact ⟨fun _ => trivial, fun _ => ⟨rfl, fun _ => rfl, .inl rfl⟩⟩
  · rw [ensures_bind]
    refine (reads_ensureDealAuthorization _ _).ensures fun _ => ?_
    rw [ensures_bind, ensures_get, ensures_bind, ensures_require]
    refine ⟨fun _ => trivial, fun _ _ => ?_⟩
    rw [ensures_bind, ensures_require]
    refine ⟨fun _ => trivial, fun _ _ => ?_⟩
    rw [ensures_bind, ensures_lift]
    split
    · rw [ensures_ite]
      refine ⟨fun _ => trivial, fun _ => ?_⟩
      rw [ensures_ite]
      refine ⟨fun _ => trivial, fun _ => ?_⟩
      rw [ensures_bind, ensures_on]
      refine Table.ensures_insert trivial fun t hrows => ?_
      rw [ensures_bind]
      refine ensures_insertPaymentEvent ?_
      rw [ensures_bind]
      refine (reads_paymentIn _).ensures fun _ => ?_
      rw [ensures_pure]
      exact ⟨rfl, fun _ => rfl, .inr ⟨_, ⟨rfl, rfl, rfl, rfl⟩, hrows⟩⟩
    · trivial

/-- Only a new capture changes what was asked for. -/
theorem sameCaptures_inserted {before after : Table paymentOperations}
    {operation : PaymentOperationRow} (hrows : after.rows = before.rows ++ [operation])
    (hoperation : operation.operation ≠ .capture) : SameCaptures before after := by
  intro payment
  unfold latestCaptureAmount capturesOf
  rw [hrows, List.filter_append, List.filter_singleton]
  simp [hoperation]

theorem reads_knownOperation (tenantId : TenantId) (idempotencyKey : String) :
    Reads (knownOperation tenantId idempotencyKey) :=
  keeps_get.bind fun _ => keeps_pure _

theorem ensures_prepareQuery (tenantId : TenantId) (paymentId : PaymentId)
    (idempotencyKey : String) (requestHash : Bytes) (operationId : Uuid)
    (createdAt : OffsetDateTime) :
    Ensures (prepareQuery tenantId paymentId idempotencyKey requestHash operationId createdAt)
      anyError db fun _ db' => Effect db db' True fun _ _ => False := by
  unfold prepareQuery
  rw [ensures_bind]
  refine (reads_knownOperation _ _).ensures fun known => ?_
  cases known with
  | some operation =>
      dsimp only
      rw [ensures_ite]
      refine ⟨fun _ => trivial, fun _ => ?_⟩
      rw [ensures_bind]
      refine (reads_paymentIn _).ensures fun _ => ?_
      rw [ensures_bind]
      refine (reads_gatewayIn _).ensures fun _ => ?_
      rw [ensures_pure]
      exact .skip trivial rfl rfl fun _ => rfl
  | none =>
      dsimp only
      rw [ensures_bind]
      refine (reads_paymentIn _).ensures fun _ => ?_
      rw [ensures_ite]
      refine ⟨fun _ => trivial, fun _ => ?_⟩
      rw [ensures_bind, ensures_on]
      refine Table.ensures_insert trivial fun t hrows => ?_
      rw [ensures_bind]
      refine (reads_gatewayIn _).ensures fun _ => ?_
      rw [ensures_pure]
      exact .skip trivial rfl rfl (sameCaptures_inserted hrows (by simp))

/-- A capture of a payment was accepted and is waiting for its answer. -/
structure CaptureAccepted (db db' : PaymentDatabase) (paymentId : PaymentId) (amount : Int)
    (createdAt : OffsetDateTime) : Prop where
  refunds : db'.refunds = db.refunds
  payment : ∃ row, row.id = paymentId ∧ row.status = .authorized ∧ 0 < amount ∧
    amount ≤ row.amount ∧
    Table.Written db.payments db'.payments row { row with status := .capturePending }
  operation : ∃ operation, db'.operations.rows = db.operations.rows ++ [operation] ∧
    operation.paymentId = paymentId ∧ operation.operation = .capture ∧
    operation.amount = some amount ∧ operation.createdAt = createdAt

theorem ensures_prepareCapture (tenantId : TenantId) (paymentId : PaymentId)
    (idempotencyKey : String) (requestHash : Bytes) (amount : Int) (operationId : Uuid)
    (now createdAt : OffsetDateTime) :
    Ensures (prepareCapture tenantId paymentId idempotencyKey requestHash amount operationId now
      createdAt) anyError db fun _ db' =>
        db' = db ∨ CaptureAccepted db db' paymentId amount createdAt := by
  unfold prepareCapture
  rw [ensures_bind]
  refine (reads_knownOperation _ _).ensures fun known => ?_
  cases known with
  | some operation =>
      dsimp only
      rw [ensures_ite]
      refine ⟨fun _ => trivial, fun _ => ?_⟩
      rw [ensures_ite]
      refine ⟨fun _ => trivial, fun _ => ?_⟩
      rw [ensures_bind]
      refine (reads_paymentIn _).ensures fun _ => ?_
      rw [ensures_bind]
      refine (reads_gatewayIn _).ensures fun _ => ?_
      rw [ensures_ite]
      refine ⟨fun _ => ?_, fun _ => .inl rfl⟩
      rw [ensures_bind]
      exact (reads_validateCaptureTarget _ _ _).ensures fun _ => .inl rfl
  | none =>
      dsimp only
      rw [ensures_bind]
      refine ensures_paymentIn fun row hrow => ?_
      rw [ensures_ite]
      refine ⟨fun _ => trivial, fun _ => ?_⟩
      rw [ensures_ite]
      refine ⟨fun _ => trivial, fun hauthorized => ?_⟩
      rw [ensures_bind, ensures_lift]
      cases hexact : exact row.amount with
      | error error => trivial
      | ok authorized =>
          dsimp only
          rw [ensures_ite]
          refine ⟨fun _ => trivial, fun hamount => ?_⟩
          rw [exact_eq_ok hexact] at hamount
          rw [ensures_bind]
          refine (reads_validateCaptureTarget _ _ _).ensures fun _ => ?_
          rw [ensures_bind, ensures_on]
          refine Table.ensures_insert trivial fun t hrows => ?_
          rw [ensures_bind]
          refine ensures_updatePayment hrow (by intro; rfl) fun _ hwritten => ?_
          rw [ensures_bind]
          refine ensures_insertPaymentEvent ?_
          rw [ensures_bind]
          refine (reads_paymentIn _).ensures fun _ => ?_
          rw [ensures_bind]
          refine (reads_gatewayIn _).ensures fun _ => ?_
          rw [ensures_pure]
          refine .inr ⟨rfl, ⟨row, Table.key_of_lookup hrow, not_not.mp hauthorized, ?_, ?_,
            hwritten⟩, _, hrows, rfl, rfl, rfl, rfl⟩
          · omega
          · omega

/-! ## Refunds -/

/-- A refund of a captured payment was accepted within what is left of it. -/
structure RefundAccepted (db db' : PaymentDatabase) (refund : PaymentRefundRow) : Prop where
  refunds : db'.refunds.rows = db.refunds.rows ++ [refund]
  status : refund.status = .requested
  payment : ∃ payment, db.payments.lookup refund.paymentId = some payment ∧
    payment.status = .captured ∧
    calculateCommissionReversal payment.commissionAmount payment.capturedAmount
      (reservedRefunds db.refunds refund.paymentId PaymentRefundRow.amount)
      (reservedRefunds db.refunds refund.paymentId PaymentRefundRow.commissionReversalAmount)
      refund.amount = .ok refund.commissionReversalAmount

theorem reads_refundIn (refundId : RefundId) : Reads (refundIn refundId) :=
  keeps_get.bind fun _ => keeps_require _ _

theorem toStore_eq_ok {β : Type} {x : Except PaymentError β} {value : β}
    (h : PaymentError.toStore x = .ok value) : x = .ok value := by
  cases x with
  | error error => cases h
  | ok value' =>
      cases h
      rfl

theorem ensures_prepareRefund (command : NewRefund) (createdAt : OffsetDateTime) :
    Ensures (prepareRefund command createdAt) anyError db fun _ db' =>
      db'.payments = db.payments ∧ SameCaptures db.operations db'.operations ∧
        (db'.refunds = db.refunds ∨ ∃ refund, RefundAccepted db db' refund) := by
  unfold prepareRefund
  rw [ensures_bind, ensures_get]
  dsimp only
  split
  · rw [ensures_ite]
    refine ⟨fun _ => trivial, fun _ => ?_⟩
    rw [ensures_ite]
    refine ⟨fun _ => trivial, fun _ => ?_⟩
    rw [ensures_bind]
    refine (reads_paymentIn _).ensures fun _ => ?_
    rw [ensures_bind]
    refine (reads_refundIn _).ensures fun _ => ?_
    rw [ensures_bind]
    refine (reads_gatewayIn _).ensures fun _ => ?_
    rw [ensures_pure]
    exact ⟨rfl, fun _ => rfl, .inl rfl⟩
  · rw [ensures_bind]
    refine ensures_paymentIn fun payment hpayment => ?_
    rw [ensures_ite]
    refine ⟨fun _ => trivial, fun _ => ?_⟩
    rw [ensures_ite]
    refine ⟨fun _ => trivial, fun hcaptured => ?_⟩
    rw [ensures_bind, ensures_get, ensures_bind, ensures_lift]
    cases hrefund : exact (reservedRefunds db.refunds command.paymentId
        PaymentRefundRow.amount) with
    | error error => trivial
    | ok reservedRefund =>
    dsimp only
    rw [ensures_bind, ensures_lift]
    cases hreversal : exact (reservedRefunds db.refunds command.paymentId
        PaymentRefundRow.commissionReversalAmount) with
    | error error => trivial
    | ok reservedReversal =>
    dsimp only
    rw [ensures_bind, ensures_lift]
    cases hamount : exact payment.capturedAmount with
    | error error => trivial
    | ok captured =>
    dsimp only
    rw [ensures_bind, ensures_lift]
    cases hcommission : exact payment.commissionAmount with
    | error error => trivial
    | ok totalCommission =>
    dsimp only
    rw [ensures_bind, ensures_lift]
    cases hcalculated : PaymentError.toStore (calculateCommissionReversal totalCommission
        captured reservedRefund reservedReversal command.amount) with
    | error error => trivial
    | ok reversal =>
    dsimp only
    rw [ensures_bind, ensures_on]
    refine Table.ensures_insert trivial fun t hrows => ?_
    rw [ensures_bind]
    refine (reads_refundIn _).ensures fun _ => ?_
    rw [ensures_bind]
    refine (reads_gatewayIn _).ensures fun _ => ?_
    rw [ensures_pure]
    have hgranted := toStore_eq_ok hcalculated
    rw [exact_eq_ok hrefund, exact_eq_ok hamount, exact_eq_ok hreversal,
      exact_eq_ok hcommission] at hgranted
    exact ⟨rfl, fun _ => rfl, .inr ⟨_, hrows, rfl, payment, hpayment, not_not.mp hcaptured,
      hgranted⟩⟩

/-- The totals of a payment grew by a refund. -/
def PaidBack (before after : Table paymentIntents) (refund : PaymentRefundRow) : Prop :=
  (before.lookup refund.paymentId = none ∧ after = before) ∨
    ∃ row, row.id = refund.paymentId ∧ Table.Written before after row { row with
      refundedAmount := row.refundedAmount + refund.amount
      commissionRefundedAmount :=
        row.commissionRefundedAmount + refund.commissionReversalAmount }

/-- What the answer to a refund writes; the payment follows when the refund succeeds. -/
structure RefundWrite (db db' : PaymentDatabase) (outcome : Except PaymentError RefundOutcome)
    (refund refund' : PaymentRefundRow) : Prop where
  written : Table.Written db.refunds db'.refunds refund refund'
  allowed : refundTransitionAllowed refund.status (refundVerdict outcome).1 = true
  row : refund' = { refund with
    status := (refundVerdict outcome).1
    providerReference := (refundVerdict outcome).2.1.or refund.providerReference
    providerStatus := some (refundVerdict outcome).2.2 }
  payment : if (refundVerdict outcome).1 = .succeeded ∧ refund.status ≠ .succeeded then
      PaidBack db.payments db'.payments refund
    else db'.payments = db.payments

/-- The worker's token is the one that the inbox holds for its event. -/
def WebhookClaim.holds (claim : WebhookClaim) (db : PaymentDatabase) : Prop :=
  ((db.inbox.lookup (claim.gatewayId, claim.providerEventId)).filter fun row =>
    row.status = .processing).bind WebhookInboxRow.processingToken = some claim.processingToken

theorem ensures_ensureWebhookClaim {claim : WebhookClaim}
    {post : Unit → PaymentDatabase → Prop} (h : claim.holds db → post () db) :
    Ensures (ensureWebhookClaim claim.gatewayId claim.providerEventId claim.processingToken)
      anyError db post := by
  unfold ensureWebhookClaim
  rw [ensures_bind, ensures_get]
  dsimp only
  rw [ensures_ite]
  exact ⟨fun _ => trivial, fun hheld => h (not_not.mp hheld)⟩

theorem reads_ensureClaim (claim : Option WebhookClaim) : Reads (ensureClaim claim) := by
  cases claim with
  | none => exact keeps_pure _
  | some claim => exact reads_ensureWebhookClaim _ _ _

section Settle

variable [Sha256]

theorem ensures_payBack {refund : PaymentRefundRow} {correctionId : Uuid → Uuid}
    {post : Unit → PaymentDatabase → Prop}
    (h : ∀ t invoices, PaidBack db.payments t refund →
      post () { db with payments := t, invoices := invoices }) :
    Ensures (payBack refund correctionId) anyError db post := by
  have hcorrect : ∀ t, PaidBack db.payments t refund →
      Ensures (PaymentDatabase.invoiceTable.on (insertInvoiceCorrections refund correctionId))
        anyError { db with payments := t } post := by
    intro t hpaid
    rw [ensures_on]
    exact (ensures_true _ _).mono (fun _ h => h) fun _ invoices _ => h t invoices hpaid
  unfold payBack
  rw [ensures_bind]
  cases hrow : db.payments.lookup refund.paymentId with
  | some row =>
      refine ensures_updatePayment hrow (by intro; rfl) fun t hwritten => ?_
      exact hcorrect t (.inr ⟨row, Table.key_of_lookup hrow, hwritten⟩)
  | none =>
      unfold updatePayment
      rw [ensures_bind, ensures_on]
      have hnone : (db.payments.lookup refund.paymentId).filter (fun _ => true) = none := by
        rw [hrow]
        rfl
      have hrun : (Table.update StoreError.database refund.paymentId (fun _ => true)
          fun row : PaymentIntentRow => { row with
            refundedAmount := row.refundedAmount + refund.amount
            commissionRefundedAmount :=
              row.commissionRefundedAmount + refund.commissionReversalAmount }).run
          db.payments = .ok (none, db.payments) := Table.update_unmatched hnone
      rw [Ensures, show PaymentDatabase.paymentTable.get db = db.payments from rfl, hrun]
      exact hcorrect db.payments (.inl ⟨hrow, rfl⟩)

theorem ensures_completeRefundClaimed (refundId : RefundId)
    (outcome : Except PaymentError RefundOutcome) (claim : Option WebhookClaim)
    (correctionId : Uuid → Uuid) :
    Ensures (completeRefundClaimed refundId outcome claim correctionId) anyError db fun _ db' =>
      SameCaptures db.operations db'.operations ∧
        ((db'.refunds = db.refunds ∧ db'.payments = db.payments) ∨
          ∃ refund refund', refund.id = refundId ∧ RefundWrite db db' outcome refund refund') := by
  unfold completeRefundClaimed
  rw [ensures_bind]
  refine (reads_ensureClaim _).ensures fun _ => ?_
  rw [ensures_bind]
  refine ensures_refundIn fun refund hrefund => ?_
  dsimp only
  rw [ensures_ite]
  refine ⟨fun _ => ?_, fun hallowed => ?_⟩
  · rw [ensures_bind]
    refine ensures_insertPaymentEvent ?_
    rw [ensures_pure]
    exact ⟨fun _ => rfl, .inl ⟨rfl, rfl⟩⟩
  · have hid : refund.id = refundId := Table.key_of_lookup hrefund
    rw [ensures_bind, ensures_on]
    refine Table.ensures_update_written hrefund (by intro; rfl) trivial fun t hwritten => ?_
    rw [ensures_ite]
    refine ⟨fun hsucceeded => ?_, fun hother => ?_⟩
    · rw [ensures_bind]
      refine ensures_payBack fun payments invoices hpaid => ?_
      rw [ensures_bind]
      refine ensures_insertPaymentEvent ((reads_refundIn _).ensures fun _ => ?_)
      refine ⟨fun _ => rfl, .inr ⟨refund, _, hid, hwritten, by simpa using hallowed, rfl, ?_⟩⟩
      rwa [if_pos hsucceeded]
    · rw [ensures_bind]
      refine ensures_insertPaymentEvent ((reads_refundIn _).ensures fun _ => ?_)
      refine ⟨fun _ => rfl, .inr ⟨refund, _, hid, hwritten, by simpa using hallowed, rfl, ?_⟩⟩
      rw [if_neg hother]
      rfl

end Settle

/-! ## The inbox -/

theorem keeps_claimWebhook (gatewayId : PaymentGatewayId) (event : WebhookEvent)
    (payloadHash : Bytes) (processingToken : Uuid) (now processingAt : OffsetDateTime) :
    Keeps (fun db : PaymentDatabase => (db.payments, db.operations, db.refunds))
      (claimWebhook gatewayId event payloadHash processingToken now processingAt) := by
  unfold claimWebhook
  refine (keeps_throw _).ite ((keeps_throw _).ite ?_)
  refine (keeps_on (by intro _ _; rfl)).bind fun _ => (keeps_pure _).ite ?_
  refine keeps_get.bind fun _ => (keeps_require _ _).bind fun row => (keeps_throw _).ite ?_
  refine (keeps_pure _).ite ((keeps_pure _).ite ?_)
  exact (keeps_on (by intro _ _; rfl)).bind fun _ => keeps_pure _

theorem keeps_finishWebhook (claim : WebhookClaim) (status : WebhookInboxStatus)
    (failureReason : Option StoreError) :
    Keeps (fun db : PaymentDatabase => (db.payments, db.operations, db.refunds))
      (finishWebhook claim status failureReason) := by
  unfold finishWebhook
  refine (keeps_on (by intro _ _; rfl)).bind fun _ => ?_
  exact (keeps_require _ _).bind fun _ => keeps_pure _

end MatchPlane
