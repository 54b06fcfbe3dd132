import MatchPlane.Payments.Captures

/-!
# The amount of a capture

The three paths take the amount of a capture from three places: the call itself, the
operation that was stored for it, and the webhook.  They agree as long as the webhooks
say how much was captured; one that does not is taken for the whole payment.
-/

namespace MatchPlane

open MatchPlane.Library

/-- What is said about a payment of which exactly `amount` is captured at the provider. -/
def Report.Truthful (amount : Int) : Report → Prop
  | authorization _ => False
  | rejection _ _ _ => False
  | query paymentId outcome => (Report.query paymentId outcome).Undisputed
  | capture paymentId asked outcome now => asked = amount ∧
      (Report.capture paymentId asked outcome now).Undisputed ∧
      ¬(Report.capture paymentId asked outcome now).Premature
  | webhook gatewayId event => (Report.webhook gatewayId event).Undisputed ∧
      (event.status = .captured → ∀ money, event.amount = some money →
        money.exactAmount = .ok amount)

theorem Report.Truthful.undisputed {amount : Int} {report : Report}
    (h : report.Truthful amount) : report.Undisputed ∧ ¬report.Premature := by
  cases report with
  | authorization outcome => exact h.elim
  | rejection paymentId unknown providerStatus => exact h.elim
  | query paymentId outcome => exact ⟨h, id⟩
  | capture paymentId asked outcome now => exact h.2
  | webhook gatewayId event => exact ⟨h.1, id⟩

/-- A payment that is captured of `amount`, now or later. -/
structure PaymentIntentRow.Takes (row : PaymentIntentRow) (operations : Table paymentOperations)
    (amount : Int) : Prop where
  takes : row.status.takesCapture = true
  latest : latestCaptureAmount operations row = amount
  captured : row.status = .captured → row.capturedAmount = amount

/-- A webhook without an amount is right only if the amount is the whole payment. -/
def Report.Priced (amount : Int) (row : PaymentIntentRow) : Report → Prop
  | webhook _ event => event.status = .captured → event.amount = none → row.amount = amount
  | _ => True

/-- A report about the right amount captures no other amount. -/
theorem Report.Writes.capturedAmount {db : PaymentDatabase} {row row' : PaymentIntentRow}
    {amount : Int} {report : Report} (h : report.Writes db row row') (hproper : row.Proper)
    (hnonnegative : 0 ≤ row.capturedAmount) (hrow : row.Takes db.operations amount)
    (hpositive : 0 < amount) (htruthful : report.Truthful amount)
    (hpriced : report.Priced amount row) (hcaptured : row'.status = .captured) :
    row'.capturedAmount = amount := by
  have hbefore : row.capturedAmount = 0 ∨ row.capturedAmount = amount := by
    by_cases hsame : row.status = .captured
    · exact .inr (hrow.captured hsame)
    · have hnone : ¬0 < row.capturedAmount := fun hsome => hsame (hproper.captured.mp hsome)
      omega
  have hmax : max row.capturedAmount amount = amount := by
    rcases hbefore with h | h <;> rw [h]
    · exact max_eq_right hpositive.le
    · exact max_self amount
  cases report with
  | authorization outcome => exact htruthful.elim
  | rejection paymentId unknown providerStatus => exact htruthful.elim
  | query paymentId outcome =>
      cases outcome with
      | ok result =>
          obtain ⟨_, rfl⟩ := h
          dsimp only at hcaptured ⊢
          by_cases hsame : row.status = .captured
          · rw [if_neg fun hboth => hboth.2 hsame]
            exact hrow.captured hsame
          · rw [if_pos ⟨hcaptured, hsame⟩]
            exact hrow.latest
      | error error =>
          obtain ⟨_, rfl⟩ := h
          cases hcaptured
  | capture paymentId asked outcome now =>
      obtain ⟨rfl, _, _⟩ := htruthful
      obtain ⟨invalid, _, _, rfl⟩ := h
      dsimp only at hcaptured ⊢
      rwa [if_pos hcaptured]
  | webhook gatewayId event =>
      obtain ⟨captured, hreported, _, _, rfl⟩ := h
      have hstatus : event.status = .captured := by
        cases hevent : event.status <;> simp_all [PaymentStatus.intent]
      obtain ⟨reported, hreports, _, rfl⟩ := hreported hstatus
      dsimp only
      unfold PaymentWebhook.reports at hreports
      cases hamount : event.amount with
      | none =>
          rw [hamount] at hreports
          rwa [hreports, hpriced hstatus hamount]
      | some money =>
          rw [hamount] at hreports
          dsimp only at hreports
          have hexact := htruthful.2 hstatus money hamount
          rw [hexact, Except.ok.injEq] at hreports
          rwa [← hreports]

theorem latestCaptureAmount_congr {operations : Table paymentOperations}
    {row row' : PaymentIntentRow} (hid : row'.id = row.id) (hamount : row'.amount = row.amount) :
    latestCaptureAmount operations row' = latestCaptureAmount operations row := by
  unfold latestCaptureAmount
  rw [hid, hamount]

/-- The operation of an accepted capture is the last one asked for. -/
theorem latestCaptureAmount_of_accepted {db db' : PaymentDatabase} {id : PaymentId}
    {row : PaymentIntentRow} {amount : Int} {createdAt : OffsetDateTime}
    (haccepted : CaptureAccepted db db' id amount createdAt) (hid : row.id = id)
    (hclock : ∀ operation ∈ capturesOf db.operations id, operation.createdAt ≤ createdAt) :
    latestCaptureAmount db'.operations row = amount := by
  obtain ⟨operation, hrows, hpayment, hkind, hamount, hcreated⟩ := haccepted.operation
  have hcaptures : capturesOf db'.operations id = capturesOf db.operations id ++ [operation] := by
    unfold capturesOf
    rw [hrows, List.filter_append, List.filter_singleton]
    simp [hpayment, hkind, hamount]
  have hlast : newest PaymentOperationRow.createdAt (capturesOf db'.operations id) =
      some operation := by
    rw [hcaptures, newest_append, if_neg]
    simp only [Option.any_eq_true, decide_eq_true_eq, not_exists, not_and, not_lt]
    intro other hother
    rw [hcreated]
    exact hclock other (mem_of_newest hother)
  unfold latestCaptureAmount
  rw [hid, hlast, Option.bind_some, hamount, Option.getD_some]

/-- Captures are accepted for authorized payments only. -/
theorem not_captureAccepted {db db' : PaymentDatabase} {id : PaymentId} {status : IntentStatus}
    (h : (db.payments.lookup id).map PaymentIntentRow.status = some status)
    (hstatus : status ≠ .authorized) (amount : Int) (createdAt : OffsetDateTime) :
    ¬CaptureAccepted db db' id amount createdAt := by
  intro haccepted
  obtain ⟨row, hid, hauthorized, _, _, hwritten⟩ := haccepted.payment
  have hstored := hwritten.stored
  rw [show paymentIntents.key row = id from hid] at hstored
  rw [hstored, Option.map_some, Option.some.injEq, hauthorized] at h
  exact hstatus h.symm

/-! ## Steps -/

namespace PaymentService

/-- What a step says about the payment is true, and it starts no other capture of it. -/
structure Truthful (id : PaymentId) (amount : Int) [Sha256] (service : PaymentService)
    (action : PaymentAction) : Prop where
  reports : ∀ report, service.Concerns action id report → report.Truthful amount
  captures : ∀ asked createdAt,
    ¬CaptureAccepted service.db (service.step action).db id asked createdAt

/-- A webhook that confirms the capture says how much was captured. -/
def Priced (id : PaymentId) (service : PaymentService) (action : PaymentAction) : Prop :=
  service.Confirms id action → ∀ gatewayId event,
    service.report action = some (.webhook gatewayId event) → event.amount ≠ none

variable [Sha256] {service : PaymentService} {id : PaymentId} {row : PaymentIntentRow}
  {action : PaymentAction} {amount : Int}

/-- A webhook that changes anything was processed. -/
theorem confirms_of_changed {gatewayId : PaymentGatewayId} {event : PaymentWebhook}
    (hreport : service.report action = some (.webhook gatewayId event))
    (hchanged : (service.step action).db ≠ service.db) (hcaptured : event.status = .captured)
    (hfound : paymentOfWebhook service.db.payments gatewayId event = some row)
    (hid : row.id = id) : service.Confirms id action := by
  obtain ⟨index, correctionId, worker, rfl, hworker, rfl, hphase, hevent⟩ :=
    report_webhook hreport
  refine ⟨worker, event, row, hworker, hphase, hevent, hcaptured, hfound, hid, ?_⟩
  rw [advance_webhook hworker hphase hevent] at hchanged
  rcases committed_cases (ensures_applyPaymentWebhook worker.claim event) with
    ⟨_, hsame⟩ | ⟨hsucceeds, _⟩
  · exact absurd hsame hchanged
  · exact hsucceeds

/-- True reports capture the amount and nothing else. -/
theorem step_takes (hproper : AllProper service.db.payments) (hvalid : action.Validated)
    (hrow : service.db.payments.lookup id = some row)
    (htakes : row.Takes service.db.operations amount) (hpositive : 0 < amount)
    (htruthful : Truthful id amount service action)
    (hpriced : row.amount = amount ∨ service.Priced id action) :
    ∃ row', (service.step action).db.payments.lookup id = some row' ∧
      row'.Takes (service.step action).db.operations amount ∧ row'.amount = row.amount := by
  by_cases hchanged : (service.step action).db = service.db
  · rw [hchanged]
    exact ⟨row, hrow, htakes, rfl⟩
  have hmoved := step_moved service action
  obtain ⟨row', hrow', hmovedRow⟩ := hmoved.of_lookup hrow
  obtain ⟨later, hlater, hadvances⟩ := (step_advances hproper hvalid).kept id row hrow
  rw [hrow', Option.some.injEq] at hlater
  subst hlater
  have hkey : row.id = id := Table.key_of_lookup hrow
  have hid : row'.id = row.id := (Table.key_of_lookup hrow').trans hkey.symm
  have hlatest : latestCaptureAmount (service.step action).db.operations row' = amount := by
    rw [latestCaptureAmount_congr hid hadvances.amount, hmoved.latestCaptureAmount]
    · exact htakes.latest
    · rw [hkey]
      exact htruthful.captures
  refine ⟨row', hrow', ?_, hadvances.amount⟩
  cases hmovedRow with
  | kept refunded reversed hsame =>
      refine ⟨?_, hlatest, ?_⟩
      · rw [hsame]
        exact htakes.takes
      · rw [hsame]
        exact htakes.captured
  | capturing asked createdAt haccepted _ _ =>
      rw [hkey] at haccepted
      exact absurd haccepted (htruthful.captures asked createdAt)
  | reported delivered hdelivers habout hwrites =>
      have hreport := htruthful.reports delivered ⟨hdelivers, row, hrow, habout⟩
      obtain ⟨hundisputed, htimely⟩ := hreport.undisputed
      refine ⟨hwrites.takesCapture hundisputed htimely, hlatest, ?_⟩
      refine hwrites.capturedAmount (hproper id row hrow) (amounts_of_lookup hrow).2.1 htakes
        hpositive hreport ?_
      cases delivered with
      | webhook gatewayId event =>
          intro hstatus hnone
          rcases hpriced with hwhole | hpriced
          · exact hwhole
          · have hconfirms := confirms_of_changed hdelivers hchanged hstatus habout hkey
            exact absurd hnone (hpriced hconfirms gatewayId event hdelivers)
      | _ => trivial

/-- A confirmation without an amount captures the whole payment. -/
theorem step_unpriced (hrow : service.db.payments.lookup id = some row)
    (htakes : row.status.takesCapture = true) (hunpriced : ¬service.Priced id action) :
    ∃ row', (service.step action).db.payments.lookup id = some row' ∧
      row'.capturedAmount = row.amount ∧ row'.amount = row.amount := by
  simp only [Priced, Classical.not_imp, not_forall, not_not] at hunpriced
  obtain ⟨hconfirms, gatewayId, event, hreport, hnone⟩ := hunpriced
  obtain ⟨index, correctionId, worker, rfl, hworker, rfl, hphase, hevent⟩ :=
    report_webhook hreport
  obtain ⟨worker', event', found, hworker', _, hevent', hcaptured, hfound, hid, hsucceeds⟩ :=
    hconfirms
  rw [hworker, Option.some.injEq] at hworker'
  subst hworker'
  rw [hevent, WebhookEvent.payment.injEq] at hevent'
  subst hevent'
  have hintent : event.status.intent = .captured := by rw [hcaptured]; rfl
  obtain ⟨_, heffect⟩ := post_of_succeeds
    (ensures_applyPaymentWebhook worker.claim event) hsucceeds
  have hmem : found ∈ service.db.payments.rows := List.mem_of_mem_filter (mem_of_newest hfound)
  have hstored : service.db.payments.lookup found.id = some found := Table.lookup_of_mem hmem
  rw [hid, hrow, Option.some.injEq] at hstored
  subst hstored
  rw [advance_webhook hworker hphase hevent]
  rcases heffect.payments with ⟨hstale, _⟩ | ⟨written, row', hwritten, hsame, captured, hreported,
    _, _, rfl⟩
  · have hrefused := hstale row hfound
    rw [hintent] at hrefused
    rw [IntentStatus.takesCapture, hrefused] at htakes
    cases htakes
  · rw [show worker.claim.gatewayId = worker.gatewayId from rfl, hfound,
      Option.some.injEq] at hsame
    subst hsame
    obtain ⟨reported, hreports, _, rfl⟩ := hreported hcaptured
    simp only [PaymentWebhook.reports, hnone] at hreports
    refine ⟨_, (hwritten.lookup id).trans (if_pos hid.symm), ?_, rfl⟩
    dsimp only
    rw [hreports]
    exact max_eq_right (amounts_of_lookup hrow).2.2.1

/-! ## Runs -/

/-- Along true reports the payment stays ready to be captured of the amount. -/
theorem run_takes {actions : List PaymentAction} (hproper : AllProper service.db.payments)
    (hvalid : ∀ action ∈ actions, action.Validated)
    (hrow : service.db.payments.lookup id = some row)
    (htakes : row.Takes service.db.operations amount) (hpositive : 0 < amount)
    (htruthful : Every (Truthful id amount) service actions)
    (hpriced : row.amount = amount ∨ Every (Priced id) service actions) :
    ∃ row', (service.run actions).db.payments.lookup id = some row' ∧
      (row'.status = .captured → row'.capturedAmount = amount) := by
  induction actions generalizing service row with
  | nil => exact ⟨row, hrow, htakes.captured⟩
  | cons action rest ih =>
      have hnow := hvalid action List.mem_cons_self
      obtain ⟨row', hrow', htakes', hamount⟩ := step_takes hproper hnow hrow htakes hpositive
        htruthful.1 (hpriced.imp_right And.left)
      refine ih (step_advances hproper hnow).allProper
        (fun other hother => hvalid other (List.mem_cons_of_mem _ hother)) hrow' htakes'
        htruthful.2 ?_
      rw [hamount]
      exact hpriced.imp_right And.right

/-- Along true reports nothing is lost. -/
theorem run_undisputed {actions : List PaymentAction}
    (htruthful : Every (Truthful id amount) service actions) :
    Every (Undisputed id) service actions ∧ Every (Timely id) service actions := by
  induction actions generalizing service with
  | nil => exact ⟨trivial, trivial⟩
  | cons action rest ih =>
      obtain ⟨hundisputed, htimely⟩ := ih htruthful.2
      refine ⟨⟨fun report hreport => (htruthful.1.reports report hreport).undisputed.1,
        hundisputed⟩, ?_, htimely⟩
      cases action with
      | completeCapture paymentId idempotencyKey asked outcome now =>
          rintro rfl hpremature hsucceeds
          obtain ⟨_, invalid, payment, hpayment, _⟩ := post_of_succeeds
            (ensures_completeCapture paymentId idempotencyKey asked outcome now) hsucceeds
          have hreport := htruthful.1.reports _ ⟨rfl, payment, hpayment,
            (Table.key_of_lookup hpayment :)⟩
          exact absurd hpremature hreport.undisputed.2
      | _ => trivial

/-- Once the whole payment is captured, the amount is no smaller one. -/
theorem run_priced_of_captured {actions : List PaymentAction}
    (hproper : AllProper service.db.payments) (hvalid : ∀ action ∈ actions, action.Validated)
    (hrow : service.db.payments.lookup id = some row) (htakes : row.status.takesCapture = true)
    (htruthful : Every (Truthful id amount) service actions) (hparts : row.amount ≠ amount)
    (hcaptured : ∃ row', (service.run actions).db.payments.lookup id = some row' ∧
      row'.capturedAmount = amount) : Every (Priced id) service actions := by
  induction actions generalizing service row with
  | nil => trivial
  | cons action rest ih =>
      have hrest : ∀ other ∈ rest, other.Validated := fun other hother =>
        hvalid other (List.mem_cons_of_mem _ hother)
      have hnow := hvalid action List.mem_cons_self
      have hadvance := step_advances hproper hnow
      obtain ⟨hundisputed, htimely⟩ := run_undisputed htruthful
      obtain ⟨row', hrow', htakes'⟩ :=
        step_takesCapture hproper hnow hrow htakes hundisputed.1 htimely.1
      obtain ⟨same, hsame, hadvances⟩ := hadvance.kept id row hrow
      rw [hrow', Option.some.injEq] at hsame
      subst hsame
      refine ⟨?_, ih hadvance.allProper hrest hrow' htakes' htruthful.2
        (by rwa [hadvances.amount]) hcaptured⟩
      by_contra hunpriced
      obtain ⟨whole, hwhole, hamount, _⟩ := step_unpriced hrow htakes hunpriced
      rw [hrow', Option.some.injEq] at hwhole
      subst hwhole
      obtain ⟨later, hlater, hgrown⟩ := (run_advances hadvance.allProper hrest).kept id row' hrow'
      obtain ⟨final, hfinal, hfinalAmount⟩ := hcaptured
      rw [show service.run (action :: rest) = (service.step action).run rest from rfl, hlater,
        Option.some.injEq] at hfinal
      subst hfinal
      have hbound := (amounts_of_lookup hlater).2.2.1
      have hgrowth := hgrown.capturedAmount
      rw [hgrown.amount, hadvances.amount] at hbound
      omega

/--
After a capture of `amount` was accepted, everything said about the payment is true and
some path confirms the capture: then the payment ends captured of exactly that amount if
and only if it is the whole payment, or no confirming webhook leaves the amount out.
-/
theorem run_capturedAmount_iff {before after : List PaymentAction} {request : PaymentAction}
    {createdAt : OffsetDateTime} (hfresh : service.Fresh)
    (hvalid : ∀ action ∈ before ++ request :: after, action.Validated)
    (haccepted : CaptureAccepted (service.run before).db (service.run (before ++ [request])).db
      id amount createdAt)
    (hclock : ∀ operation ∈ capturesOf (service.run before).db.operations id,
      operation.createdAt ≤ createdAt)
    (htruthful : Every (Truthful id amount) (service.run (before ++ [request])) after)
    (hconfirmed : Once (Confirms id) (service.run (before ++ [request])) after) :
    (∃ row, (service.run (before ++ request :: after)).db.payments.lookup id = some row ∧
        row.status = .captured ∧ row.capturedAmount = amount) ↔
      (∃ row, (service.run before).db.payments.lookup id = some row ∧ row.amount = amount) ∨
        Every (Priced id) (service.run (before ++ [request])) after := by
  have hsplit : before ++ request :: after = (before ++ [request]) ++ after := by simp
  have hproper : AllProper (service.run (before ++ [request])).db.payments := by
    refine (run_advances hfresh.allProper fun action haction => hvalid action ?_).allProper
    rw [hsplit]
    exact List.mem_append_left _ haction
  have hrest : ∀ action ∈ after, action.Validated := by
    intro action haction
    apply hvalid
    rw [hsplit]
    exact List.mem_append_right _ haction
  obtain ⟨written, hid, _, hpositive, _, hwritten⟩ := haccepted.payment
  have hstored : (service.run before).db.payments.lookup id = some written := by
    rw [← hid]
    exact hwritten.stored
  have hrow := (hwritten.lookup id).trans (if_pos hid.symm)
  rw [hsplit, run_append]
  constructor
  · rintro ⟨row, hlookup, _, hamount⟩
    by_cases hwhole : written.amount = amount
    · exact .inl ⟨written, hstored, hwhole⟩
    · exact .inr (run_priced_of_captured hproper hrest hrow rfl htruthful hwhole
        ⟨row, hlookup, hamount⟩)
  · intro hcondition
    have hpriced : written.amount = amount ∨
        Every (Priced id) (service.run (before ++ [request])) after := by
      refine hcondition.imp_left ?_
      rintro ⟨row, hlookup, hwhole⟩
      rw [hstored, Option.some.injEq] at hlookup
      rwa [hlookup]
    obtain ⟨hundisputed, htimely⟩ := run_undisputed htruthful
    obtain ⟨row, hlookup, hcaptured⟩ :=
      run_captured_of_timely hproper hrest hrow rfl hundisputed htimely hconfirmed
    have hlatest : latestCaptureAmount (service.run (before ++ [request])).db.operations
        { written with status := .capturePending } = amount :=
      latestCaptureAmount_of_accepted haccepted hid hclock
    obtain ⟨same, hsame, hamount⟩ := run_takes hproper hrest hrow
      ⟨rfl, hlatest, fun h => nomatch h⟩ hpositive htruthful hpriced
    rw [hlookup, Option.some.injEq] at hsame
    subst hsame
    exact ⟨row, hlookup, hcaptured, hamount hcaptured⟩

end PaymentService

/-! ## The capture of the small sale -/

/-- A webhook that leaves out how much was captured. -/
def saleCaptured : PaymentWebhook where
  providerEventId := "event-1"
  eventType := "payment.captured"
  merchantOrderId := some "order-1"
  providerReference := none
  status := .captured
  providerStatus := "captured"
  amount := none

def saleNotified : List PaymentAction :=
  [.deliver 0 ⟨1⟩ (.payment saleCaptured) (List.replicate 32 0) 7 0 0, .advance 0 id]

section Sale

theorem saleNotified_report :
    (saleRun (saleAuthorized ++ saleRequest :: saleNotified.dropLast)).report (.advance 0 id) =
      some (.webhook ⟨1⟩ saleCaptured) := by
  decide +kernel

/-- Of the 30 units that were asked for and captured, 100 are recorded. -/
theorem saleNotified_whole :
    let accepted := saleRun (saleAuthorized ++ [saleRequest])
    CaptureAccepted (saleRun saleAuthorized).db accepted.db ⟨1⟩ 30 0 ∧
      capturesOf (saleRun saleAuthorized).db.operations ⟨1⟩ = [] ∧
      @PaymentService.Every ⟨id⟩ (@PaymentService.Truthful ⟨1⟩ 30 ⟨id⟩) accepted saleNotified ∧
      @PaymentService.Once ⟨id⟩ (PaymentService.Confirms ⟨1⟩) accepted saleNotified ∧
      ((saleRun (saleAuthorized ++ saleRequest :: saleNotified)).db.payments.lookup ⟨1⟩).map
        (fun row => (row.status, row.capturedAmount)) = some (.captured, 100) := by
  let _ : Sha256 := ⟨id⟩
  intro accepted
  have hbefore : ((saleRun (saleAuthorized ++ saleRequest ::
      saleNotified.dropLast)).db.payments.lookup ⟨1⟩).map PaymentIntentRow.status =
        some .capturePending := by
    decide +kernel
  have hafter : ((saleRun (saleAuthorized ++ saleRequest :: saleNotified)).db.payments.lookup
      ⟨1⟩).map (fun row => (row.status, row.capturedAmount)) = some (.captured, 100) := by
    decide +kernel
  refine ⟨saleRequest_accepted, by decide +kernel, ⟨⟨?_, ?_⟩, ⟨?_, ?_⟩, trivial⟩, ?_, hafter⟩
  · rintro report ⟨hreport, _⟩
    cases hreport
  · have hpending : (accepted.db.payments.lookup ⟨1⟩).map PaymentIntentRow.status =
        some .capturePending := by
      decide +kernel
    exact not_captureAccepted hpending (by decide)
  · rintro report ⟨hreport, _⟩
    have hsame := hreport.symm.trans saleNotified_report
    rw [Option.some.injEq] at hsame
    subst hsame
    exact ⟨by simp [Report.Undisputed, saleCaptured], fun _ money hmoney => nomatch hmoney⟩
  · exact not_captureAccepted hbefore (by decide)
  · have hfound : (paymentOfWebhook (saleRun (saleAuthorized ++ saleRequest ::
        saleNotified.dropLast)).db.payments ⟨1⟩ saleCaptured).map PaymentIntentRow.id =
          some ⟨1⟩ := by
      decide +kernel
    obtain ⟨row, hrow, hid⟩ := Option.map_eq_some_iff.mp hfound
    refine .inr (.inl (PaymentService.confirms_of_changed saleNotified_report ?_ rfl hrow hid))
    intro hsame
    have hstatus := (congrArg (fun db : PaymentDatabase =>
      (db.payments.lookup ⟨1⟩).map PaymentIntentRow.status) hsame).trans hbefore
    have hcaptured : ((saleRun (saleAuthorized ++ saleRequest ::
        saleNotified)).db.payments.lookup ⟨1⟩).map PaymentIntentRow.status = some .captured := by
      decide +kernel
    cases hcaptured.symm.trans hstatus

/-- The answer and a query agree on the 30 units. -/
theorem saleAnswered_amount :
    let answer : Except PaymentError PaymentOutcome := .ok (saleOutcome .captured)
    ∃ row, (saleRun (saleAuthorized ++ saleRequest :: saleAnswered answer)).db.payments.lookup
      ⟨1⟩ = some row ∧ row.status = .captured ∧ row.capturedAmount = 30 := by
  let _ : Sha256 := ⟨id⟩
  intro answer
  have hstatus : ∀ actions : List PaymentAction, ∀ status : IntentStatus,
      ((saleRun actions).db.payments.lookup ⟨1⟩).map PaymentIntentRow.status = some status →
      status ≠ .authorized → ∀ action asked createdAt, ¬CaptureAccepted (saleRun actions).db
        ((saleRun actions).step action).db ⟨1⟩ asked createdAt :=
    fun _ _ hlookup hother _ => not_captureAccepted hlookup hother
  have htruthful : PaymentService.Every (PaymentService.Truthful ⟨1⟩ 30)
      (saleRun (saleAuthorized ++ [saleRequest])) (saleAnswered answer) := by
    refine ⟨⟨?_, ?_⟩, ⟨?_, ?_⟩, ⟨?_, ?_⟩, trivial⟩
    · rintro report ⟨hreport, _⟩
      cases hreport
      simp [Report.Truthful, Report.Undisputed, Report.Premature, answer, saleOutcome]
    · exact hstatus _ .capturePending (by decide +kernel) (by decide) _
    · rintro report ⟨hreport, _⟩
      cases hreport
    · exact hstatus (saleAuthorized ++ saleRequest :: (saleAnswered answer).take 1) .captured
        (by decide +kernel) (by decide) _
    · rintro report ⟨hreport, _⟩
      cases hreport
      simp [Report.Truthful, Report.Undisputed, saleOutcome]
    · exact hstatus (saleAuthorized ++ saleRequest :: (saleAnswered answer).take 2) .captured
        (by decide +kernel) (by decide) _
  refine (PaymentService.run_capturedAmount_iff (smallShop_fresh .waffoPancake)
    (saleAnswered_validated answer) saleRequest_accepted ?_ htruthful
    (saleAnswered_confirmed (by decide +kernel))).mpr (.inr ⟨?_, ?_, ?_, trivial⟩)
  · have hnone : capturesOf (saleRun saleAuthorized).db.operations ⟨1⟩ = [] := by decide +kernel
    rw [show capturesOf ((smallShop .waffoPancake).run saleAuthorized).db.operations ⟨1⟩ = []
      from hnone]
    simp
  · rintro _ gatewayId event hreport
    cases hreport
  · rintro _ gatewayId event hreport
    cases hreport
  · rintro _ gatewayId event hreport
    cases hreport

end Sale

end MatchPlane
