import MatchPlane.Payments.Moves
import MatchPlane.Payments.Progress

/-!
# Captures

A capture is asked for once, and what became of it is learned on three paths: from
the answer to the call, from status queries and from webhooks, in any order.  Two
things are settled here: when the payment ends as captured, and of which amount.
-/

namespace MatchPlane

open MatchPlane.Library

/-- A payment that can be found captured, or that was. -/
def IntentStatus.takesCapture (status : IntentStatus) : Bool :=
  reconciliationTransitionAllowed status .captured

namespace Report

/-- No path says that the order was voided or failed. -/
def Undisputed : Report → Prop
  | authorization outcome => outcome.status ≠ .voided ∧ outcome.status ≠ .failed
  | rejection _ unknown _ => unknown = true
  | query _ outcome => ∀ result, outcome = .ok result →
      result.status ≠ .voided ∧ result.status ≠ .failed
  | capture _ _ outcome _ => ∀ result, outcome = .ok result →
      result.status ≠ .voided ∧ result.status ≠ .failed
  | webhook _ event => event.status ≠ .voided ∧ event.status ≠ .failed

/-- An answer to a capture that neither confirms it nor leaves it open. -/
def Premature : Report → Prop
  | capture _ _ outcome _ => ∃ result, outcome = .ok result ∧
      (result.status = .authorized ∨ result.status = .requiresAction ∨ result.status = .unknown)
  | _ => False

variable {db : PaymentDatabase} {row row' : PaymentIntentRow} {report : Report}

theorem takesCapture_intent {status : PaymentStatus}
    (h : status ≠ .voided ∧ status ≠ .failed) : status.intent.takesCapture = true := by
  cases status <;> simp_all [PaymentStatus.intent] <;> rfl

/-- Only a premature answer loses a payment that nobody disputes. -/
theorem Writes.takesCapture (h : report.Writes db row row') (hundisputed : report.Undisputed)
    (htimely : ¬report.Premature) : row'.status.takesCapture = true := by
  cases report with
  | authorization outcome =>
      obtain ⟨_, rfl⟩ := h
      exact takesCapture_intent hundisputed
  | rejection paymentId unknown providerStatus =>
      obtain ⟨_, rfl⟩ := h
      rw [show unknown = true from hundisputed]
      rfl
  | query paymentId outcome =>
      cases outcome with
      | ok result =>
          obtain ⟨_, rfl⟩ := h
          exact takesCapture_intent (hundisputed result rfl)
      | error error =>
          obtain ⟨_, rfl⟩ := h
          rfl
  | capture paymentId amount outcome now =>
      obtain ⟨invalid, _, _, rfl⟩ := h
      dsimp only
      cases invalid with
      | true => rfl
      | false =>
          cases outcome with
          | ok result =>
              have hstatus := hundisputed result rfl
              simp only [Premature, not_exists, not_and, not_or] at htimely
              have hpremature := htimely result rfl
              cases hresult : result.status <;> simp_all [captureVerdict] <;> rfl
          | error error =>
              simp only [captureVerdict, Bool.false_eq_true, if_false]
              split <;> rfl
  | webhook gatewayId event =>
      obtain ⟨_, _, _, _, rfl⟩ := h
      exact takesCapture_intent hundisputed

end Report

/-! ## Steps -/

namespace PaymentService

/-- A step brings a report about one payment. -/
def Concerns (service : PaymentService) (action : PaymentAction) (id : PaymentId)
    (report : Report) : Prop :=
  service.report action = some report ∧
    ∃ row, service.db.payments.lookup id = some row ∧ report.isAbout service.db row

/-- Nothing that a step says about the payment voids or fails it. -/
def Undisputed (id : PaymentId) (service : PaymentService) (action : PaymentAction) : Prop :=
  ∀ report, service.Concerns action id report → report.Undisputed

/-- A premature answer is recorded only after the capture was confirmed. -/
def Timely (id : PaymentId) (service : PaymentService) : PaymentAction → Prop
  | .completeCapture paymentId idempotencyKey amount outcome now => paymentId = id →
      (Report.capture paymentId amount outcome now).Premature →
      succeeds (completeCapture paymentId idempotencyKey amount outcome now) service.db = true →
      ∃ row, service.db.payments.lookup id = some row ∧ row.status = .captured
  | _ => True

/-- A query, a webhook or the answer itself reports the capture and is processed. -/
def Confirms (id : PaymentId) (service : PaymentService) : PaymentAction → Prop
  | .completeCapture paymentId idempotencyKey amount outcome now => paymentId = id ∧
      (∃ result, outcome = .ok result ∧ result.status = .captured) ∧
      (∃ row, service.db.payments.lookup id = some row ∧
        succeeds (validateCaptureTarget row amount now) service.db = true) ∧
      succeeds (completeCapture paymentId idempotencyKey amount outcome now) service.db = true
  | .completeQuery paymentId idempotencyKey outcome => paymentId = id ∧
      (∃ result, outcome = .ok result ∧ result.status = .captured) ∧
      succeeds (completeQuery paymentId idempotencyKey outcome) service.db = true
  | .advance index _ => ∃ worker event row, service.workers index = some worker ∧
      worker.phase = .claimed ∧ worker.event = .payment event ∧ event.status = .captured ∧
      paymentOfWebhook service.db.payments worker.gatewayId event = some row ∧ row.id = id ∧
      succeeds (applyPaymentWebhook worker.claim event) service.db = true
  | _ => False

variable [Sha256] {service : PaymentService} {id : PaymentId} {row : PaymentIntentRow}
  {action : PaymentAction}

/-- A premature answer is recorded as a failure, unless the payment is settled already. -/
theorem completeCapture_premature {idempotencyKey : String} {amount : Int}
    {outcome : Except PaymentError PaymentOutcome} {now : OffsetDateTime}
    (hrow : service.db.payments.lookup id = some row) (hstatus : row.status ≠ .captured)
    (hpremature : (Report.capture id amount outcome now).Premature)
    (hsucceeds : succeeds (completeCapture id idempotencyKey amount outcome now) service.db =
      true) :
    ∃ row', (service.step
        (.completeCapture id idempotencyKey amount outcome now)).db.payments.lookup id =
          some row' ∧ (row'.status = .failed ∨ row'.status = .voided) := by
  obtain ⟨result, rfl, hresult⟩ := hpremature
  obtain ⟨_, invalid, payment, hpayment, hlate, heffect⟩ := post_of_succeeds
    (ensures_completeCapture id idempotencyKey amount (.ok result) now) hsucceeds
  rw [hrow, Option.some.injEq] at hpayment
  subst hpayment
  -- The answer is no success, so the target of the capture is not checked again.
  have hvalid : invalid = false := by
    rw [← Bool.not_eq_true]
    intro hinvalid
    obtain ⟨other, hother, hcaptured⟩ := (hlate hinvalid).captured
    cases hother
    rw [hcaptured] at hresult
    simp at hresult
  subst hvalid
  have hverdict : (captureVerdict false (.ok result)).2.1 = .failed := by
    rcases hresult with h | h | h <;> simp [captureVerdict, h]
  simp only [hverdict] at heffect
  rcases heffect.payments with ⟨hstale, hsame⟩ | ⟨written, row', hwritten, rfl, _, rfl⟩
  · refine ⟨row, ?_, ?_⟩
    · simp only [step, call]
      rw [hsame, hrow]
    · cases hcurrent : row.status <;> simp_all [reconciliationTransitionAllowed]
  · refine ⟨_, (hwritten.lookup id).trans (if_pos (Table.key_of_lookup hrow).symm), .inl rfl⟩

/-- A confirmation is recorded, whatever the payment looked like before. -/
theorem step_confirms (hrow : service.db.payments.lookup id = some row)
    (htakes : row.status.takesCapture = true) (hconfirms : service.Confirms id action) :
    ∃ row', (service.step action).db.payments.lookup id = some row' ∧
      row'.status = .captured := by
  cases action with
  | completeCapture paymentId idempotencyKey amount outcome now =>
      obtain ⟨rfl, ⟨result, rfl, hcaptured⟩, ⟨target, htarget, hvalid⟩, hsucceeds⟩ := hconfirms
      rw [hrow, Option.some.injEq] at htarget
      subst htarget
      obtain ⟨_, invalid, payment, hpayment, hlate, heffect⟩ := post_of_succeeds
        (ensures_completeCapture paymentId idempotencyKey amount (.ok result) now) hsucceeds
      rw [hrow, Option.some.injEq] at hpayment
      subst hpayment
      cases invalid with
      | true =>
          have hrefused := (hlate rfl).refused
          rw [hvalid] at hrefused
          cases hrefused
      | false =>
          have hverdict : (captureVerdict false (.ok result)).2.1 = .captured := by
            simp [captureVerdict, hcaptured]
          simp only [hverdict] at heffect
          rcases heffect.payments with ⟨hstale, _⟩ | ⟨written, row', hwritten, rfl, _, rfl⟩
          · rw [IntentStatus.takesCapture, hstale] at htakes
            cases htakes
          · exact ⟨_, (hwritten.lookup paymentId).trans
              (if_pos (Table.key_of_lookup hrow).symm), rfl⟩
  | completeQuery paymentId idempotencyKey outcome =>
      obtain ⟨rfl, ⟨result, rfl, hcaptured⟩, hsucceeds⟩ := hconfirms
      have hintent : result.status.intent = .captured := by rw [hcaptured]; rfl
      obtain ⟨_, heffect⟩ := post_of_succeeds
        (ensures_completeQuery paymentId idempotencyKey (.ok result)) hsucceeds
      rcases heffect.payments with ⟨⟨other, hother, hignored⟩, _⟩ |
        ⟨written, row', hwritten, hid, _, rfl⟩
      · rw [hrow, Option.some.injEq] at hother
        subst hother
        simp only [QueryIgnored, hintent] at hignored
        rw [IntentStatus.takesCapture, hignored] at htakes
        cases htakes
      · exact ⟨_, (hwritten.lookup paymentId).trans (if_pos hid.symm), hintent⟩
  | advance index correctionId =>
      obtain ⟨worker, event, found, hworker, hphase, hevent, hcaptured, hfound, hid, hsucceeds⟩ :=
        hconfirms
      have hintent : event.status.intent = .captured := by rw [hcaptured]; rfl
      have hdb := advance_webhook hworker hphase hevent correctionId
      obtain ⟨_, heffect⟩ := post_of_succeeds
        (ensures_applyPaymentWebhook worker.claim event) hsucceeds
      have hmem : found ∈ service.db.payments.rows :=
        List.mem_of_mem_filter (mem_of_newest hfound)
      have hstored : service.db.payments.lookup found.id = some found :=
        Table.lookup_of_mem hmem
      rw [hid, hrow, Option.some.injEq] at hstored
      subst hstored
      rw [hdb]
      rcases heffect.payments with ⟨hstale, _⟩ | ⟨written, row', hwritten, hsame, _, _, _, _, rfl⟩
      · have hrefused := hstale row hfound
        rw [hintent] at hrefused
        rw [IntentStatus.takesCapture, hrefused] at htakes
        cases htakes
      · rw [show worker.claim.gatewayId = worker.gatewayId from rfl, hfound,
          Option.some.injEq] at hsame
        subst hsame
        exact ⟨_, (hwritten.lookup id).trans (if_pos hid.symm), hintent⟩
  | _ => exact hconfirms.elim

/-- A step that neither disputes the capture nor answers it too early keeps it possible. -/
theorem step_takesCapture (hproper : AllProper service.db.payments) (hvalid : action.Validated)
    (hrow : service.db.payments.lookup id = some row)
    (htakes : row.status.takesCapture = true) (hundisputed : service.Undisputed id action)
    (htimely : service.Timely id action) :
    ∃ row', (service.step action).db.payments.lookup id = some row' ∧
      row'.status.takesCapture = true := by
  obtain ⟨row', hrow', hmoved⟩ := (step_moved service action).of_lookup hrow
  refine ⟨row', hrow', ?_⟩
  cases hmoved with
  | kept refunded reversed hsame => rwa [hsame]
  | capturing amount createdAt _ _ hpending =>
      rw [hpending]
      rfl
  | reported delivered hdelivers habout hwrites =>
      by_cases hpremature : delivered.Premature
      · cases action with
        | completeCapture paymentId idempotencyKey amount outcome now =>
            cases hdelivers
            have hid : paymentId = id := habout.symm.trans (Table.key_of_lookup hrow)
            cases hsucceeds : succeeds
                (completeCapture paymentId idempotencyKey amount outcome now) service.db with
            | true =>
                -- The payment is captured by now, and it stays so.
                obtain ⟨captured, hcaptured, hstatus⟩ := htimely hid hpremature hsucceeds
                rw [hrow, Option.some.injEq] at hcaptured
                rw [← hcaptured] at hstatus
                obtain ⟨later, hlater, hadvances⟩ :=
                  (step_advances hproper hvalid).kept id row hrow
                rw [hrow', Option.some.injEq] at hlater
                rw [hlater, hadvances.status (by rw [hstatus]; rfl), hstatus]
                rfl
            | false =>
                rcases committed_cases (ensures_completeCapture paymentId idempotencyKey amount
                  outcome now) with ⟨_, hsame⟩ | ⟨htrue, _⟩
                · simp only [step, call] at hrow'
                  rw [hsame, hrow, Option.some.injEq] at hrow'
                  rwa [← hrow']
                · rw [hsucceeds] at htrue
                  cases htrue
        | advance index correctionId =>
            simp only [report] at hdelivers
            split at hdelivers <;> cases hdelivers
            exact hpremature.elim
        | completeAuthorization outcome =>
            cases hdelivers
            exact hpremature.elim
        | failAuthorization paymentId unknown providerStatus =>
            cases hdelivers
            exact hpremature.elim
        | completeQuery paymentId idempotencyKey outcome =>
            cases hdelivers
            exact hpremature.elim
        | _ => cases hdelivers
      · exact hwrites.takesCapture
          (hundisputed delivered ⟨hdelivers, row, hrow, habout⟩) hpremature

/-! ## Runs -/

theorem run_captured_of_timely {actions : List PaymentAction}
    (hproper : AllProper service.db.payments) (hvalid : ∀ action ∈ actions, action.Validated)
    (hrow : service.db.payments.lookup id = some row) (htakes : row.status.takesCapture = true)
    (hundisputed : Every (Undisputed id) service actions)
    (htimely : Every (Timely id) service actions)
    (hconfirmed : Once (Confirms id) service actions) :
    ∃ row', (service.run actions).db.payments.lookup id = some row' ∧
      row'.status = .captured := by
  induction actions generalizing service row with
  | nil => exact hconfirmed.elim
  | cons action rest ih =>
      have hrest : ∀ other ∈ rest, other.Validated := fun other hother =>
        hvalid other (List.mem_cons_of_mem _ hother)
      have hadvance := step_advances hproper (hvalid action List.mem_cons_self)
      rcases hconfirmed with hconfirms | hlater
      · obtain ⟨row', hrow', hcaptured⟩ := step_confirms hrow htakes hconfirms
        obtain ⟨later, hlater, hadvances⟩ :=
          (run_advances hadvance.allProper hrest).kept id row' hrow'
        exact ⟨later, hlater, (hadvances.status (by rw [hcaptured]; rfl)).trans hcaptured⟩
      · obtain ⟨row', hrow', htakes'⟩ := step_takesCapture hproper
          (hvalid action List.mem_cons_self) hrow htakes hundisputed.1 htimely.1
        exact ih hadvance.allProper hrest hrow' htakes' hundisputed.2 htimely.2 hlater

theorem run_timely_of_captured {actions : List PaymentAction}
    (hproper : AllProper service.db.payments) (hvalid : ∀ action ∈ actions, action.Validated)
    (hrow : service.db.payments.lookup id = some row)
    (hcaptured : ∃ row', (service.run actions).db.payments.lookup id = some row' ∧
      row'.status = .captured) : Every (Timely id) service actions := by
  induction actions generalizing service row with
  | nil => trivial
  | cons action rest ih =>
      have hrest : ∀ other ∈ rest, other.Validated := fun other hother =>
        hvalid other (List.mem_cons_of_mem _ hother)
      have hadvance := step_advances hproper (hvalid action List.mem_cons_self)
      obtain ⟨next, hnext, _⟩ := hadvance.kept id row hrow
      refine ⟨?_, ih hadvance.allProper hrest hnext hcaptured⟩
      cases action with
      | completeCapture paymentId idempotencyKey amount outcome now =>
          rintro rfl hpremature hsucceeds
          refine ⟨row, hrow, ?_⟩
          by_contra hstatus
          obtain ⟨row', hrow', hlost⟩ :=
            completeCapture_premature hrow hstatus hpremature hsucceeds
          obtain ⟨later, hlater, hadvances⟩ :=
            (run_advances hadvance.allProper hrest).kept paymentId row' hrow'
          have hsame : later.status = row'.status :=
            hadvances.status (by rcases hlost with h | h <;> rw [h] <;> rfl)
          obtain ⟨final, hfinal, hcaptured⟩ := hcaptured
          rw [show service.run (.completeCapture paymentId idempotencyKey amount outcome now ::
            rest) = (service.step _).run rest from rfl, hlater, Option.some.injEq] at hfinal
          rw [← hfinal, hsame] at hcaptured
          rcases hlost with h | h <;> rw [h] at hcaptured <;> cases hcaptured
      | _ => trivial

/--
Once a capture was accepted, nobody says that the order was voided or failed, and a query
or a webhook that reports the capture is processed: then the payment ends as captured
exactly if no premature answer is recorded before the capture is.
-/
theorem run_captured_iff {before after : List PaymentAction} {request : PaymentAction}
    {amount : Int} {createdAt : OffsetDateTime} (hfresh : service.Fresh)
    (hvalid : ∀ action ∈ before ++ request :: after, action.Validated)
    (haccepted : CaptureAccepted (service.run before).db (service.run (before ++ [request])).db
      id amount createdAt)
    (hundisputed : Every (Undisputed id) (service.run (before ++ [request])) after)
    (hconfirmed : Once (Confirms id) (service.run (before ++ [request])) after) :
    (∃ row, (service.run (before ++ request :: after)).db.payments.lookup id = some row ∧
        row.status = .captured) ↔
      Every (Timely id) (service.run (before ++ [request])) after := by
  have hsplit : before ++ request :: after = (before ++ [request]) ++ after := by simp
  have hproper : AllProper (service.run (before ++ [request])).db.payments := by
    refine (run_advances hfresh.allProper fun action haction => hvalid action ?_).allProper
    rw [hsplit]
    exact List.mem_append_left _ haction
  have hrest : ∀ action ∈ after, action.Validated := by
    intro action haction
    apply hvalid
    rw [hsplit]
    exact List.mem_append_right _ haction
  obtain ⟨written, hid, _, _, _, hwritten⟩ := haccepted.payment
  have hrow := (hwritten.lookup id).trans (if_pos hid.symm)
  rw [hsplit, run_append]
  constructor
  · exact run_timely_of_captured hproper hrest hrow
  · intro htimely
    exact run_captured_of_timely hproper hrest hrow rfl hundisputed htimely hconfirmed

end PaymentService

/-! ## The capture of the small sale -/

/-- The sale is authorized. -/
def saleAuthorized : List PaymentAction :=
  [.prepareAuthorization .production smallSale 0 0,
    .completeAuthorization (saleOutcome .authorized)]

/-- The capture is asked for. -/
def saleRequest : PaymentAction :=
  .prepareCapture ⟨1⟩ ⟨1⟩ "capture" (List.replicate 32 0) 30 1 0 0

/-- The capture is answered, and a query finds it made. -/
def saleAnswered (answer : Except PaymentError PaymentOutcome) : List PaymentAction :=
  [.completeCapture ⟨1⟩ "capture" 30 answer 0,
    .prepareQuery ⟨1⟩ ⟨1⟩ "query" (List.replicate 32 0) 2 0,
    .completeQuery ⟨1⟩ "query" (.ok (saleOutcome .captured))]

section Sale

/-- The small shop, with any digest. -/
def saleRun (actions : List PaymentAction) : PaymentService :=
  @PaymentService.run ⟨id⟩ (smallShop .waffoPancake) actions

theorem saleRequest_accepted : CaptureAccepted (saleRun saleAuthorized).db
    (saleRun (saleAuthorized ++ [saleRequest])).db ⟨1⟩ 30 0 := by
  have hmoved : ((saleRun (saleAuthorized ++ [saleRequest])).db.payments.lookup ⟨1⟩).map
      PaymentIntentRow.status ≠
        ((saleRun saleAuthorized).db.payments.lookup ⟨1⟩).map PaymentIntentRow.status := by
    decide +kernel
  have hensures : Ensures (prepareCapture ⟨1⟩ ⟨1⟩ "capture" (List.replicate 32 0) 30 1 0 0)
      anyError (saleRun saleAuthorized).db fun _ db' => db' = (saleRun saleAuthorized).db ∨
        CaptureAccepted (saleRun saleAuthorized).db db' ⟨1⟩ 30 0 :=
    ensures_prepareCapture _ _ _ _ _ _ _ _
  rcases hensures.committed (.inl rfl) with hsame | haccepted
  · exact absurd (congrArg (fun db : PaymentDatabase =>
      (db.payments.lookup ⟨1⟩).map PaymentIntentRow.status) hsame) hmoved
  · exact haccepted

theorem saleAnswered_undisputed {answer : Except PaymentError PaymentOutcome}
    (h : ∀ result, answer = .ok result → result.status ≠ .voided ∧ result.status ≠ .failed) :
    @PaymentService.Every ⟨id⟩ (PaymentService.Undisputed ⟨1⟩)
      (saleRun (saleAuthorized ++ [saleRequest])) (saleAnswered answer) := by
  refine ⟨?_, ?_, ?_, trivial⟩
  · rintro report ⟨hreport, _⟩
    cases hreport
    exact h
  · rintro report ⟨hreport, _⟩
    cases hreport
  · rintro report ⟨hreport, _⟩
    cases hreport
    rintro result hresult
    cases hresult
    decide

theorem saleAnswered_confirmed {answer : Except PaymentError PaymentOutcome}
    (h : succeeds (completeQuery ⟨1⟩ "query" (.ok (saleOutcome .captured)))
      (saleRun (saleAuthorized ++ saleRequest :: (saleAnswered answer).dropLast)).db = true) :
    @PaymentService.Once ⟨id⟩ (PaymentService.Confirms ⟨1⟩)
      (saleRun (saleAuthorized ++ [saleRequest])) (saleAnswered answer) :=
  .inr (.inr (.inl ⟨rfl, ⟨_, rfl, rfl⟩, h⟩))

theorem saleAnswered_validated (answer : Except PaymentError PaymentOutcome) :
    ∀ action ∈ saleAuthorized ++ saleRequest :: saleAnswered answer, action.Validated := by
  simp [saleAuthorized, saleRequest, saleAnswered, PaymentAction.Validated]

/-- The provider answers that the payment is still authorized; the capture is dropped. -/
theorem saleAnswered_dropped :
    let answer : Except PaymentError PaymentOutcome := .ok (saleOutcome .authorized)
    let accepted := saleRun (saleAuthorized ++ [saleRequest])
    CaptureAccepted (saleRun saleAuthorized).db accepted.db ⟨1⟩ 30 0 ∧
      @PaymentService.Every ⟨id⟩ (PaymentService.Undisputed ⟨1⟩) accepted (saleAnswered answer) ∧
      @PaymentService.Once ⟨id⟩ (PaymentService.Confirms ⟨1⟩) accepted (saleAnswered answer) ∧
      ((saleRun (saleAuthorized ++ saleRequest :: saleAnswered answer)).db.payments.lookup
        ⟨1⟩).map PaymentIntentRow.status = some .failed := by
  refine ⟨saleRequest_accepted, saleAnswered_undisputed ?_, saleAnswered_confirmed ?_, ?_⟩
  · rintro result hresult
    cases hresult
    decide
  · decide +kernel
  · decide +kernel

/-- A lost answer drops nothing. -/
theorem saleAnswered_captured :
    let answer : Except PaymentError PaymentOutcome := .error (.transport "lost")
    ∃ row, (saleRun (saleAuthorized ++ saleRequest :: saleAnswered answer)).db.payments.lookup
      ⟨1⟩ = some row ∧ row.status = .captured := by
  intro answer
  have hundisputed : @PaymentService.Every ⟨id⟩ (PaymentService.Undisputed ⟨1⟩)
      (saleRun (saleAuthorized ++ [saleRequest])) (saleAnswered answer) :=
    saleAnswered_undisputed fun _ hresult => nomatch hresult
  have hconfirmed : @PaymentService.Once ⟨id⟩ (PaymentService.Confirms ⟨1⟩)
      (saleRun (saleAuthorized ++ [saleRequest])) (saleAnswered answer) :=
    saleAnswered_confirmed (by decide +kernel)
  refine (@PaymentService.run_captured_iff ⟨id⟩ _ _ saleAuthorized (saleAnswered answer)
    saleRequest 30 0 (smallShop_fresh .waffoPancake) (saleAnswered_validated answer)
    saleRequest_accepted hundisputed hconfirmed).mpr ⟨?_, trivial, trivial, trivial⟩
  rintro _ ⟨result, hresult, _⟩
  exact absurd hresult (by simp [answer])

end Sale

end MatchPlane
