import MatchPlane.Payments.Money
import MatchPlane.Payments.Moves

/-!
# Payment modes

A tenant takes payments in one mode at a time.  The mode is part of its settings:
a payment is opened in it, and it is switched in a transaction of its own, which
looks for payments that are still going on.
-/

namespace MatchPlane

open MatchPlane.Library

/-! ## Settings -/

def GatewayMode.asStr : GatewayMode → String
  | .test => "test"
  | .production => "production"

structure PaymentSetting where
  tenantId : TenantId
  activeMode : GatewayMode
  updatedBy : String
  version : Int
  deriving DecidableEq, Repr

/-- A version is a positive `bigint`; one that would not fit is refused. -/
def paymentSettings : Schema TenantId PaymentSetting where
  key := PaymentSetting.tenantId
  clash := fun _ _ => false
  check := fun row => isText 256 row.updatedBy ∧ 0 < row.version ∧ row.version < 2 ^ 63

structure PaymentModeAudit where
  tenantId : TenantId
  oldMode : GatewayMode
  newMode : GatewayMode
  oldVersion : Int
  newVersion : Int
  actor : String
  reason : String
  deriving DecidableEq, Repr

def PaymentModeAudit.check (row : PaymentModeAudit) : Bool :=
  0 < row.oldVersion ∧ 0 < row.newVersion ∧ isText 256 row.actor ∧ isText 2000 row.reason ∧
    row.oldMode ≠ row.newMode

structure ModeSwitch where
  tenantId : TenantId
  mode : GatewayMode
  expectedVersion : Int
  actor : String
  reason : String
  deriving DecidableEq, Repr

structure ModeDatabase where
  payments : PaymentDatabase
  settings : Table paymentSettings
  audit : List PaymentModeAudit

namespace ModeDatabase

def settingTable : Part ModeDatabase (Table paymentSettings) :=
  ⟨settings, fun t db => { db with settings := t }⟩

/-- The mode in which a tenant takes payments. -/
def activeMode (db : ModeDatabase) (tenantId : TenantId) : Option GatewayMode :=
  (db.settings.lookup tenantId).map PaymentSetting.activeMode

end ModeDatabase

/-! ## The switch -/

def validateActorReason (actor reason : String) : Except StoreError Unit := do
  if trim actor.toList = [] ∨ 256 < actor.utf8ByteSize then
    throw (.invalid "actor must contain 1..=256 bytes")
  if trim reason.toList = [] ∨ 2000 < reason.utf8ByteSize then
    throw (.invalid "reason must contain 1..=2000 bytes")

/-- The statuses of a payment that is still going on. -/
def IntentStatus.isOutstanding (status : IntentStatus) : Bool :=
  status ∈ [.requested, .requiresAction, .authorized, .pending, .capturePending, .voidPending,
    .unknown]

/-- The gateways that the enabled routes of a tenant lead to in a mode. -/
def routeConfigs (surroundings : Surroundings) (tenantId : TenantId) (mode : GatewayMode) :
    List GatewayConfigRow :=
  (surroundings.routes.filterMap fun route =>
    if route.tenantId = tenantId ∧ route.enabled then
      surroundings.gateways.find? fun gateway => gateway.tenantId = route.tenantId ∧
        gateway.id = route.gatewayId ∧ gateway.enabled ∧ gateway.mode = mode
    else none).dedup

/-- `GatewayConfig::from_parts`, which knows no version. -/
def GatewayConfigRow.parts (row : GatewayConfigRow) : GatewayConfig where
  gatewayId := row.id
  kind := row.kind
  mode := row.mode
  credentialSecretRef := row.credentialSecretRef
  version := 1
  credentialDigest := row.credentialSecretDigest

def outstanding (payments : Table paymentIntents) (tenantId : TenantId) (mode : GatewayMode) :
    List PaymentIntentRow :=
  payments.rows.filter fun row => row.tenantId = tenantId ∧ row.gatewayMode = mode ∧
    row.status.isOutstanding

def insertModeAudit (row : PaymentModeAudit) : PayTx ModeDatabase Unit := do
  if row.check = false then throw .database
  modify fun db => { db with audit := db.audit ++ [row] }

/-- Whether a gateway can be built is up to its credentials: `validate` says so. -/
def switchMode (environment : Environment) (validate : GatewayConfig → Except StoreError Unit)
    (command : ModeSwitch) : PayTx ModeDatabase PaymentSetting := do
  liftM (validateActorReason command.actor command.reason)
  if environment = .production ∧ command.mode = .test then
    throw (.invalid "production cannot switch to test payment mode")
  let db ← get
  let current ← require (.notFound "payment settings") (db.settings.lookup command.tenantId)
  if current.version ≠ command.expectedVersion then
    throw (.conflict
      s!"payment settings version is {current.version}, expected {command.expectedVersion}")
  if current.activeMode = command.mode then pure current else
    let configs := routeConfigs db.payments.surroundings command.tenantId command.mode
    if configs = [] then
      throw (.conflict s!"{command.mode.asStr} mode has no enabled route")
    liftM (configs.forM fun row => validate row.parts)
    let count := (outstanding db.payments.payments command.tenantId current.activeMode).length
    if 0 < count then
      throw (.conflict s!"cannot switch modes while {count} payment(s) are outstanding")
    let _ ← ModeDatabase.settingTable.on (Table.update .database command.tenantId
      (fun row => row.version = current.version) fun row => { row with
        activeMode := command.mode
        updatedBy := command.actor
        version := current.version + 1 })
    insertModeAudit ⟨command.tenantId, current.activeMode, command.mode, current.version,
      current.version + 1, command.actor, command.reason⟩
    require (.notFound "payment settings") ((← get).settings.lookup command.tenantId)

/-- Another workflow gives a new tenant its settings. -/
def openSettings (setting : PaymentSetting) : PayTx ModeDatabase Unit :=
  ModeDatabase.settingTable.on (Table.insert .database setting)

/-! ## The service -/

/-- The payment service as it stands, with the settings that its payments are opened in. -/
structure ModeService where
  db : ModeDatabase
  workers : Nat → Option WebhookWorker

/-- Settings come with a new tenant; after that only a switch writes them. -/
inductive ModeAction where
  | openSettings (setting : PaymentSetting)
  | switchMode (environment : Environment) (validate : GatewayConfig → Except StoreError Unit)
      (command : ModeSwitch)
  | pay (action : PaymentAction)

namespace ModeService

/-- The payment service sees the mode that the settings hold. -/
def view (service : ModeService) : PaymentService where
  db := { service.db.payments with
    surroundings := { service.db.payments.surroundings with
      activeMode := service.db.activeMode } }
  workers := service.workers

def step [Sha256] (service : ModeService) : ModeAction → ModeService
  | .openSettings setting =>
      { service with db := committed (MatchPlane.openSettings setting) service.db }
  | .switchMode environment validate command =>
      let x := MatchPlane.switchMode environment validate command
      { service with db := committed x service.db }
  | .pay action =>
      let moved := service.view.step action
      { db := { service.db with payments := moved.db }, workers := moved.workers }

def run [Sha256] (service : ModeService) (actions : List ModeAction) : ModeService :=
  actions.foldl step service

theorem run_append [Sha256] (service : ModeService) (first second : List ModeAction) :
    service.run (first ++ second) = (service.run first).run second :=
  List.foldl_append

end ModeService

/-! ## What a switch writes -/

/-- A switch that changed the mode of a tenant. -/
structure Switched (db db' : ModeDatabase) (command : ModeSwitch) (current : PaymentSetting) :
    Prop where
  stored : db.settings.lookup command.tenantId = some current
  changed : current.activeMode ≠ command.mode
  idle : outstanding db.payments.payments command.tenantId current.activeMode = []
  payments : db'.payments = db.payments
  settings : Table.Written db.settings db'.settings current { current with
    activeMode := command.mode
    updatedBy := command.actor
    version := current.version + 1 }
  audit : db'.audit = db.audit ++ [⟨command.tenantId, current.activeMode, command.mode,
    current.version, current.version + 1, command.actor, command.reason⟩]

theorem ensures_insertModeAudit {db : ModeDatabase} {row : PaymentModeAudit}
    {post : Unit → ModeDatabase → Prop} (h : post () { db with audit := db.audit ++ [row] }) :
    Ensures (insertModeAudit row) anyError db post := by
  unfold insertModeAudit
  dsimp only
  rw [ensures_ite]
  exact ⟨fun _ => trivial, fun _ => h⟩

theorem ensures_switchMode {db : ModeDatabase} (environment : Environment)
    (validate : GatewayConfig → Except StoreError Unit) (command : ModeSwitch) :
    Ensures (switchMode environment validate command) anyError db fun _ db' =>
      db' = db ∨ ∃ current, Switched db db' command current := by
  unfold switchMode
  dsimp only
  rw [ensures_bind, ensures_lift]
  split
  · rw [ensures_ite]
    refine ⟨fun _ => trivial, fun _ => ?_⟩
    rw [ensures_bind, ensures_get, ensures_bind, ensures_require]
    refine ⟨fun _ => trivial, fun current hcurrent => ?_⟩
    rw [ensures_ite]
    refine ⟨fun _ => trivial, fun _ => ?_⟩
    rw [ensures_ite]
    refine ⟨fun _ => .inl rfl, fun hchanged => ?_⟩
    rw [ensures_ite]
    refine ⟨fun _ => trivial, fun _ => ?_⟩
    rw [ensures_bind, ensures_lift]
    split
    · rw [ensures_ite]
      refine ⟨fun _ => trivial, fun hcount => ?_⟩
      rw [ensures_bind, ensures_on]
      refine Table.ensures_update_of_lookup hcurrent (by simp) (fun _ => rfl) trivial
        fun settings hlookup htotal => ?_
      have hkey : current.tenantId = command.tenantId := Table.key_of_lookup hcurrent
      rw [ensures_bind]
      refine ensures_insertModeAudit ?_
      rw [ensures_bind, ensures_get, ensures_require]
      refine ⟨fun _ => trivial, fun _ _ => .inr ⟨current, hcurrent, hchanged, ?_, rfl, ?_, rfl⟩⟩
      · simpa using hcount
      · rw [← hkey] at hcurrent hlookup
        exact ⟨hcurrent, hlookup, htotal⟩
    · trivial
  · trivial

theorem ensures_openSettings {db : ModeDatabase} (setting : PaymentSetting) :
    Ensures (openSettings setting) anyError db fun _ db' =>
      ∃ settings', settings'.rows = db.settings.rows ++ [setting] ∧
        db' = { db with settings := settings' } := by
  unfold openSettings
  rw [ensures_on]
  exact Table.ensures_insert trivial fun settings' hrows => ⟨settings', hrows, rfl⟩

/-! ## What a payment is opened in -/

theorem activeRoute_mode {surroundings : Surroundings} {command : NewPayment}
    {mode : GatewayMode} {route : GatewayConfigRow}
    (h : activeRoute surroundings command mode = some route) : route.mode = mode := by
  unfold activeRoute at h
  simp only [Option.map_eq_some_iff] at h
  obtain ⟨⟨found, gateway⟩, hbest, rfl⟩ := h
  have hmem := List.argmin_mem hbest
  rw [List.mem_filterMap] at hmem
  obtain ⟨other, _, hother⟩ := hmem
  split at hother
  · simp only [Option.map_eq_some_iff, Prod.mk.injEq] at hother
    obtain ⟨_, hfind, _, rfl⟩ := hother
    have hfound := List.find?_some hfind
    simp only [decide_eq_true_eq] at hfound
    exact hfound.2.2
  · cases hother

theorem gatewayFromRow_mode {row : GatewayConfigRow} {digest : Option Bytes}
    {gateway : GatewayConfig} (h : gatewayFromRow row digest = .ok gateway) :
    gateway.mode = row.mode := by
  unfold gatewayFromRow at h
  split at h
  · cases h
  · cases h
    rfl

/-- A payment that was opened in the mode of its tenant. -/
structure PaymentIntentRow.OpenedIn (row : PaymentIntentRow) (db : PaymentDatabase)
    (environment : Environment) : Prop where
  mode : db.surroundings.activeMode row.tenantId = some row.gatewayMode
  production : environment = .production → row.gatewayMode = .production

theorem ensures_prepareAuthorization_mode {db : PaymentDatabase} (environment : Environment)
    (command : NewPayment) (now createdAt : OffsetDateTime) :
    Ensures (prepareAuthorization environment command now createdAt) anyError db
      fun prepared db' =>
        (environment = .production → prepared.gateway.mode = .production) ∧
          (db'.payments = db.payments ∨ ∃ row, row.OpenedIn db environment ∧
            db'.payments.rows = db.payments.rows ++ [row]) := by
  have hproduction : ∀ mode : GatewayMode, ¬(environment = .production ∧ mode = .test) →
      environment = .production → mode = .production := by
    intro mode hnot henvironment
    cases mode with
    | test => exact absurd ⟨henvironment, rfl⟩ hnot
    | production => rfl
  unfold prepareAuthorization
  rw [ensures_bind, ensures_get]
  dsimp only
  split
  · rw [ensures_ite]
    refine ⟨fun _ => trivial, fun _ => ?_⟩
    rw [ensures_bind]
    refine (reads_paymentIn _).ensures fun _ => ?_
    rw [ensures_bind]
    refine (reads_gatewayIn _).ensures fun gateway => ?_
    rw [ensures_ite]
    exact ⟨fun _ => trivial, fun hmode => ⟨hproduction _ hmode, .inl rfl⟩⟩
  · rw [ensures_bind]
    refine (reads_ensureDealAuthorization _ _).ensures fun _ => ?_
    rw [ensures_bind, ensures_get, ensures_bind, ensures_require]
    refine ⟨fun _ => trivial, fun active hactive => ?_⟩
    rw [ensures_bind, ensures_require]
    refine ⟨fun _ => trivial, fun route hroute => ?_⟩
    rw [ensures_bind, ensures_lift]
    split
    · rename_i gateway hgateway
      have hmode : gateway.mode = active :=
        (gatewayFromRow_mode hgateway).trans (activeRoute_mode hroute)
      rw [ensures_ite]
      refine ⟨fun _ => trivial, fun hallowed => ?_⟩
      rw [ensures_ite]
      refine ⟨fun _ => trivial, fun _ => ?_⟩
      rw [ensures_bind, ensures_on]
      refine Table.ensures_insert trivial fun t hrows => ?_
      rw [ensures_bind]
      refine ensures_insertPaymentEvent ?_
      rw [ensures_bind]
      refine (reads_paymentIn _).ensures fun _ => ?_
      rw [ensures_pure]
      refine ⟨hproduction _ hallowed, .inr ⟨_, ⟨hactive, fun henvironment => ?_⟩, hrows⟩⟩
      rw [← hmode]
      exact hproduction _ hallowed henvironment
    · trivial

/-! ## What becomes of a payment -/

section Rows

variable {db db' : PaymentDatabase} {report : Option Report} {row row' : PaymentIntentRow}

/-- Reconciliation never opens a payment again that has come to its end. -/
theorem outstanding_of_transition {source target : IntentStatus}
    (h : reconciliationTransitionAllowed source target = true)
    (houtstanding : target.isOutstanding = true) : source.isOutstanding = true := by
  revert h houtstanding
  cases source <;> cases target <;> decide

theorem Report.Writes.scope {delivered : Report} (h : delivered.Writes db row row') :
    row'.tenantId = row.tenantId ∧ row'.gatewayMode = row.gatewayMode := by
  cases delivered with
  | authorization outcome =>
      obtain ⟨_, rfl⟩ := h
      exact ⟨rfl, rfl⟩
  | rejection paymentId unknown providerStatus =>
      obtain ⟨_, rfl⟩ := h
      exact ⟨rfl, rfl⟩
  | query paymentId outcome =>
      cases outcome with
      | ok result =>
          obtain ⟨_, rfl⟩ := h
          exact ⟨rfl, rfl⟩
      | error error =>
          obtain ⟨_, rfl⟩ := h
          exact ⟨rfl, rfl⟩
  | capture paymentId amount outcome now =>
      obtain ⟨_, _, _, rfl⟩ := h
      exact ⟨rfl, rfl⟩
  | webhook gatewayId event =>
      obtain ⟨_, _, _, _, rfl⟩ := h
      exact ⟨rfl, rfl⟩

theorem Report.Writes.outstanding {delivered : Report} (h : delivered.Writes db row row')
    (houtstanding : row'.status.isOutstanding = true) : row.status.isOutstanding = true := by
  cases delivered with
  | authorization outcome =>
      obtain ⟨hallowed, rfl⟩ := h
      rcases hallowed with hopen | hsame
      · simp only [List.mem_cons, List.not_mem_nil, or_false] at hopen
        rcases hopen with hopen | hopen | hopen <;> rw [hopen] <;> rfl
      · rw [hsame]
        exact houtstanding
  | rejection paymentId unknown providerStatus =>
      rcases h.1 with hopen | hopen <;> rw [hopen] <;> rfl
  | query paymentId outcome =>
      cases outcome with
      | ok result =>
          obtain ⟨hallowed, rfl⟩ := h
          exact outstanding_of_transition hallowed houtstanding
      | error error => exact h.1
  | capture paymentId amount outcome now =>
      obtain ⟨_, _, hallowed, rfl⟩ := h
      exact outstanding_of_transition hallowed houtstanding
  | webhook gatewayId event =>
      obtain ⟨_, _, _, hallowed, rfl⟩ := h
      exact outstanding_of_transition hallowed houtstanding

/-- A payment keeps its tenant and its mode, and once it has ended it does not go on. -/
theorem RowMoved.scope (h : RowMoved db report db' row row') :
    row'.tenantId = row.tenantId ∧ row'.gatewayMode = row.gatewayMode ∧
      (row'.status.isOutstanding = true → row.status.isOutstanding = true) := by
  cases h with
  | kept refunded reversed hsame =>
      subst hsame
      exact ⟨rfl, rfl, id⟩
  | reported delivered _ _ hwrites => exact ⟨hwrites.scope.1, hwrites.scope.2, hwrites.outstanding⟩
  | capturing amount createdAt _ hauthorized hpending =>
      subst hpending
      refine ⟨rfl, rfl, fun _ => ?_⟩
      rw [hauthorized]
      rfl

end Rows

/-! ## Only an authorization opens a payment -/

/-- There is no payment under an identifier. -/
def PaymentDatabase.Unopened (paymentId : PaymentId) (db : PaymentDatabase) : Prop :=
  db.payments.lookup paymentId = none

section Unopened

variable {α : Type} {db db' : PaymentDatabase} {paymentId : PaymentId}

theorem unopened_of_written {row row' : PaymentIntentRow} (h : db.Unopened paymentId)
    (hwritten : Table.Written db.payments db'.payments row row') : db'.Unopened paymentId := by
  unfold PaymentDatabase.Unopened at h ⊢
  rw [hwritten.lookup paymentId]
  split
  · rename_i hid
    rw [hid, hwritten.stored] at h
    cases h
  · exact h

theorem unopened_of_same (h : db.Unopened paymentId) (hsame : db'.payments = db.payments) :
    db'.Unopened paymentId := by
  unfold PaymentDatabase.Unopened
  rw [hsame]
  exact h

theorem unopened_of_effect {skipped : Prop}
    {write : PaymentIntentRow → PaymentIntentRow → Prop} (h : db.Unopened paymentId)
    (heffect : Effect db db' skipped write) : db'.Unopened paymentId := by
  rcases heffect.payments with ⟨_, hsame⟩ | ⟨_, _, hwritten, _⟩
  · exact unopened_of_same h hsame
  · exact unopened_of_written h hwritten

theorem unopened_of_keeps {x : PayTx PaymentDatabase α} (h : db.Unopened paymentId)
    (hkeeps : Keeps (fun db : PaymentDatabase => (db.payments, db.operations, db.refunds)) x) :
    (committed x db).Unopened paymentId := by
  have hsame := hkeeps.committed db
  simp only [Prod.mk.injEq] at hsame
  exact unopened_of_same h hsame.1

theorem unopened_refunded [Sha256] (refundId : RefundId)
    (outcome : Except PaymentError RefundOutcome) (claim : Option WebhookClaim)
    (correctionId : Uuid → Uuid) (h : db.Unopened paymentId) :
    (committed (completeRefundClaimed refundId outcome claim correctionId) db).Unopened
      paymentId := by
  refine Ensures.committed ((ensures_completeRefundClaimed refundId outcome claim
    correctionId).mono (fun _ h => h) ?_) h
  rintro _ db' ⟨_, ⟨_, hsame⟩ | ⟨refund, refund', _, hwrite⟩⟩
  · exact unopened_of_same h hsame
  · have hpayment := hwrite.payment
    split at hpayment
    · rcases hpayment with ⟨_, hsame⟩ | ⟨_, _, hwritten⟩
      · exact unopened_of_same h hsame
      · exact unopened_of_written h hwritten
    · exact unopened_of_same h hpayment

theorem PaymentService.step_unopened [Sha256] (service : PaymentService) (action : PaymentAction)
    (hother : ∀ environment command now createdAt,
      action ≠ .prepareAuthorization environment command now createdAt)
    (h : service.db.Unopened paymentId) : (service.step action).db.Unopened paymentId := by
  have hcommitted : ∀ {α : Type} {x : PayTx PaymentDatabase α} {post : α → PaymentDatabase → Prop},
      Ensures x anyError service.db post →
      (∀ value db', post value db' → db'.Unopened paymentId) →
      (committed x service.db).Unopened paymentId :=
    fun hx hpost => Ensures.committed (hx.mono (fun _ h => h) hpost) h
  cases action with
  | surround surroundings invoices => exact h
  | prepareAuthorization environment command now createdAt => exact absurd rfl (hother _ _ _ _)
  | completeAuthorization outcome =>
      exact hcommitted (ensures_completeAuthorization outcome)
        fun _ _ heffect => unopened_of_effect h heffect
  | failAuthorization paymentId unknown providerStatus =>
      exact hcommitted (ensures_failAuthorization paymentId unknown providerStatus)
        fun _ _ heffect => unopened_of_effect h heffect
  | prepareQuery tenantId paymentId idempotencyKey requestHash operationId createdAt =>
      exact hcommitted (ensures_prepareQuery _ _ _ _ _ _)
        fun _ _ heffect => unopened_of_effect h heffect
  | completeQuery paymentId idempotencyKey outcome =>
      exact hcommitted (ensures_completeQuery paymentId idempotencyKey outcome)
        fun _ _ heffect => unopened_of_effect h heffect
  | prepareCapture tenantId paymentId idempotencyKey requestHash amount operationId now
      createdAt =>
      refine hcommitted (ensures_prepareCapture _ _ _ _ _ _ _ _) fun _ _ haccepted => ?_
      rcases haccepted with rfl | haccepted
      · exact h
      · obtain ⟨_, _, _, _, _, hwritten⟩ := haccepted.payment
        exact unopened_of_written h hwritten
  | completeCapture paymentId idempotencyKey amount outcome now =>
      exact hcommitted (ensures_completeCapture paymentId idempotencyKey amount outcome now)
        fun _ _ ⟨_, _, _, _, heffect⟩ => unopened_of_effect h heffect
  | prepareRefund command createdAt =>
      exact hcommitted (ensures_prepareRefund command createdAt)
        fun _ _ ⟨hsame, _⟩ => unopened_of_same h hsame
  | completeRefund refundId outcome correctionId =>
      exact unopened_refunded refundId outcome none correctionId h
  | deliver worker gatewayId event payloadHash processingToken now processingAt =>
      simp only [step, deliver_db]
      exact unopened_of_keeps h (keeps_claimWebhook _ _ _ _ _ _)
  | advance index correctionId =>
      simp only [step]
      split
      · exact h
      · rename_i worker hworker
        cases advance_db service index worker correctionId with
        | read hdb => rwa [hdb]
        | payment event hevent hphase hdb =>
            rw [hdb]
            exact hcommitted (ensures_applyPaymentWebhook _ event)
              fun _ _ heffect => unopened_of_effect h heffect
        | refund refundId outcome hphase hdb =>
            rw [hdb]
            exact unopened_refunded refundId (.ok outcome) _ correctionId h
        | finish status failureReason hdb =>
            rw [hdb]
            exact unopened_of_keeps h (keeps_finishWebhook _ _ _)
  | stop worker => exact h

end Unopened

/-- A payment that is there after a step was there before it, or was opened by it. -/
theorem PaymentService.step_row [Sha256] (service : PaymentService) (action : PaymentAction)
    {paymentId : PaymentId} {row' : PaymentIntentRow}
    (h : (service.step action).db.payments.lookup paymentId = some row') :
    (∃ row, service.db.payments.lookup paymentId = some row ∧
      row'.tenantId = row.tenantId ∧ row'.gatewayMode = row.gatewayMode ∧
      (row'.status.isOutstanding = true → row.status.isOutstanding = true)) ∨
    ∃ environment command now createdAt,
      action = .prepareAuthorization environment command now createdAt ∧
        row'.OpenedIn service.db environment := by
  cases hrow : service.db.payments.lookup paymentId with
  | some row =>
      obtain ⟨moved, hmoved, hrowMoved⟩ := (service.step_moved action).of_lookup hrow
      cases hmoved.symm.trans h
      exact .inl ⟨row, rfl, hrowMoved.scope⟩
  | none =>
      right
      by_cases hopens : ∃ environment command now createdAt,
          action = .prepareAuthorization environment command now createdAt
      · obtain ⟨environment, command, now, createdAt, rfl⟩ := hopens
        refine ⟨environment, command, now, createdAt, rfl, ?_⟩
        simp only [step, call] at h
        rcases committed_cases (ensures_prepareAuthorization_mode environment command now
          createdAt) with ⟨_, hsame⟩ | ⟨_, _, _, hsame | ⟨row, hopened, hrows⟩⟩
        · rw [hsame, hrow] at h
          cases h
        · rw [hsame, hrow] at h
          cases h
        · rw [Table.lookup_inserted hrows, hrow] at h
          split at h
          · cases h
            exact hopened
          · cases h
      · have hunopened := service.step_unopened action
          (fun environment command now createdAt hsame => hopens ⟨_, _, _, _, hsame⟩) hrow
        rw [PaymentDatabase.Unopened, h] at hunopened
        cases hunopened

/-! ## Isolation -/

namespace ModeDatabase

/-- Payments that go on are in the mode of their tenant. -/
def Isolated (db : ModeDatabase) : Prop :=
  ∀ row ∈ db.payments.payments.rows, row.status.isOutstanding = true →
    db.activeMode row.tenantId = some row.gatewayMode

variable {db db' : ModeDatabase}

theorem Isolated.switched {command : ModeSwitch} {current : PaymentSetting} (h : db.Isolated)
    (hswitched : Switched db db' command current) : db'.Isolated := by
  intro row hrow houtstanding
  rw [hswitched.payments] at hrow
  have hactive := h row hrow houtstanding
  have hkey : current.tenantId = command.tenantId := Table.key_of_lookup hswitched.stored
  have hother : row.tenantId ≠ paymentSettings.key current := by
    intro htenant
    rw [show paymentSettings.key current = current.tenantId from rfl] at htenant
    have hmode : current.activeMode = row.gatewayMode := by
      rw [activeMode, htenant, hkey, hswitched.stored] at hactive
      simpa using hactive
    have hmem : row ∈ outstanding db.payments.payments command.tenantId current.activeMode := by
      simp [outstanding, hrow, htenant, hkey, hmode, houtstanding]
    rw [hswitched.idle] at hmem
    cases hmem
  have hlookup := hswitched.settings.lookup row.tenantId
  rw [if_neg hother] at hlookup
  rw [activeMode, hlookup]
  exact hactive

theorem Isolated.opened {setting : PaymentSetting} {settings' : Table paymentSettings}
    (h : db.Isolated) (hrows : settings'.rows = db.settings.rows ++ [setting]) :
    ({ db with settings := settings' } : ModeDatabase).Isolated := by
  intro row hrow houtstanding
  have hactive := h row hrow houtstanding
  simp only [activeMode, Option.map_eq_some_iff] at hactive ⊢
  obtain ⟨found, hfound, hmode⟩ := hactive
  exact ⟨found, Table.lookup_inserted_of_some hrows hfound, hmode⟩

end ModeDatabase

namespace ModeService

variable [Sha256]

theorem step_isolated (service : ModeService) (action : ModeAction) (h : service.db.Isolated) :
    (service.step action).db.Isolated := by
  cases action with
  | openSettings setting =>
      refine Ensures.committed ((ensures_openSettings setting).mono (fun _ h => h) ?_) h
      rintro _ _ ⟨settings', hrows, rfl⟩
      exact h.opened hrows
  | switchMode environment validate command =>
      refine Ensures.committed ((ensures_switchMode environment validate command).mono
        (fun _ h => h) ?_) h
      rintro _ db' (rfl | ⟨current, hswitched⟩)
      · exact h
      · exact h.switched hswitched
  | pay action =>
      intro row' hrow' houtstanding
      have hstored := Table.lookup_of_mem hrow'
      rcases service.view.step_row action hstored with
        ⟨row, hrow, htenant, hmode, hopen⟩ | ⟨_, _, _, _, _, hopened⟩
      · have hactive := h row (Table.mem_of_lookup hrow) (hopen houtstanding)
        rw [htenant, hmode]
        exact hactive
      · exact hopened.mode

theorem run_isolated (service : ModeService) (actions : List ModeAction)
    (h : service.db.Isolated) : (service.run actions).db.Isolated := by
  induction actions generalizing service with
  | nil => exact h
  | cons action rest ih => exact ih _ (service.step_isolated action h)

end ModeService

/-! ## Production -/

/-- Payments are opened by services that run in production. -/
def ModeAction.inProduction : ModeAction → Bool
  | .pay (.prepareAuthorization environment _ _ _) => environment = .production
  | _ => true

/-- No payment goes through a test gateway. -/
def ModeDatabase.InProduction (db : ModeDatabase) : Prop :=
  ∀ row ∈ db.payments.payments.rows, row.gatewayMode = .production

namespace ModeService

variable [Sha256]

theorem step_inProduction (service : ModeService) (action : ModeAction)
    (hproduction : action.inProduction = true) (h : service.db.InProduction) :
    (service.step action).db.InProduction := by
  cases action with
  | openSettings setting =>
      refine Ensures.committed ((ensures_openSettings setting).mono (fun _ h => h) ?_) h
      rintro _ _ ⟨settings', _, rfl⟩
      exact h
  | switchMode environment validate command =>
      refine Ensures.committed ((ensures_switchMode environment validate command).mono
        (fun _ h => h) ?_) h
      rintro _ db' (rfl | ⟨current, hswitched⟩)
      · exact h
      · intro row hrow
        rw [hswitched.payments] at hrow
        exact h row hrow
  | pay action =>
      intro row' hrow'
      rcases service.view.step_row action (Table.lookup_of_mem hrow') with
        ⟨row, hrow, _, hmode, _⟩ | ⟨_, _, _, _, rfl, hopened⟩
      · rw [hmode]
        exact h row (Table.mem_of_lookup hrow)
      · exact hopened.production (by simpa [ModeAction.inProduction] using hproduction)

theorem run_inProduction (service : ModeService) (actions : List ModeAction)
    (hproduction : actions.all ModeAction.inProduction = true) (h : service.db.InProduction) :
    (service.run actions).db.InProduction := by
  induction actions generalizing service with
  | nil => exact h
  | cons action rest ih =>
      rw [List.all_cons, Bool.and_eq_true] at hproduction
      exact ih _ hproduction.2 (service.step_inProduction action hproduction.1 h)

end ModeService

/-! ## The history of a setting -/

/-- The settings of a tenant went through these lines of the audit. -/
inductive History (tenantId : TenantId) :
    PaymentSetting → List PaymentModeAudit → PaymentSetting → Prop
  | unchanged (setting : PaymentSetting) : History tenantId setting [] setting
  | other {setting last : PaymentSetting} {line : PaymentModeAudit}
      {rest : List PaymentModeAudit} (elsewhere : line.tenantId ≠ tenantId)
      (later : History tenantId setting rest last) : History tenantId setting (line :: rest) last
  | switched {setting next last : PaymentSetting} {line : PaymentModeAudit}
      {rest : List PaymentModeAudit} (here : line.tenantId = tenantId)
      (oldMode : line.oldMode = setting.activeMode) (newMode : line.newMode = next.activeMode)
      (changed : line.oldMode ≠ line.newMode) (oldVersion : line.oldVersion = setting.version)
      (newVersion : line.newVersion = next.version) (bumped : next.version = setting.version + 1)
      (later : History tenantId next rest last) : History tenantId setting (line :: rest) last

namespace History

variable {tenantId : TenantId} {first second third : PaymentSetting}
  {earlier later : List PaymentModeAudit}

theorem trans (h : History tenantId first earlier second)
    (hlater : History tenantId second later third) :
    History tenantId first (earlier ++ later) third := by
  induction h with
  | unchanged setting => exact hlater
  | other helsewhere _ ih => exact .other helsewhere (ih hlater)
  | switched hhere hold hnew hchanged holdVersion hnewVersion hbumped _ ih =>
      exact .switched hhere hold hnew hchanged holdVersion hnewVersion hbumped (ih hlater)

/-- The version counts the lines. -/
theorem version (h : History tenantId first earlier second) : second.version =
    first.version + (earlier.filter fun line => line.tenantId = tenantId).length := by
  induction h with
  | unchanged setting => simp
  | other helsewhere _ ih => simpa [helsewhere] using ih
  | switched hhere _ _ _ _ _ hbumped _ ih =>
      rw [ih, hbumped, List.filter_cons_of_pos (by simpa using hhere), List.length_cons]
      omega

end History

/-- What happened to the settings of a tenant between two states of the database. -/
def ModeDatabase.Recorded (db db' : ModeDatabase) (tenantId : TenantId)
    (setting : PaymentSetting) : Prop :=
  ∃ setting' lines, db'.settings.lookup tenantId = some setting' ∧
    db'.audit = db.audit ++ lines ∧ History tenantId setting lines setting'

namespace ModeService

variable [Sha256] {tenantId : TenantId} {setting : PaymentSetting}

theorem step_recorded (service : ModeService) (action : ModeAction)
    (h : service.db.settings.lookup tenantId = some setting) :
    service.db.Recorded (service.step action).db tenantId setting := by
  have hsame : service.db.Recorded service.db tenantId setting :=
    ⟨setting, [], h, by simp, .unchanged setting⟩
  cases action with
  | openSettings other =>
      simp only [step]
      rcases committed_cases (ensures_openSettings other) with
        ⟨_, hdb⟩ | ⟨_, _, settings', hrows, hdb⟩
      · rw [hdb]
        exact hsame
      · rw [hdb]
        exact ⟨setting, [], Table.lookup_inserted_of_some hrows h, by simp, .unchanged setting⟩
  | switchMode environment validate command =>
      simp only [step]
      rcases committed_cases (ensures_switchMode environment validate command) with
        ⟨_, hdb⟩ | ⟨_, _, hdb | ⟨current, hswitched⟩⟩
      · rw [hdb]
        exact hsame
      · rw [hdb]
        exact hsame
      · have hkey : current.tenantId = command.tenantId := Table.key_of_lookup hswitched.stored
        have hlookup := hswitched.settings.lookup tenantId
        split at hlookup
        · rename_i htenant
          have hhere : tenantId = command.tenantId := htenant.trans hkey
          rw [hhere, hswitched.stored] at h
          cases h
          exact ⟨_, _, hlookup, hswitched.audit, .switched hhere.symm rfl rfl hswitched.changed
            rfl rfl rfl (.unchanged _)⟩
        · rename_i hother
          refine ⟨setting, _, hlookup.trans h, hswitched.audit,
            .other (fun hhere => hother ?_) (.unchanged setting)⟩
          exact hhere.symm.trans hkey.symm
  | pay action => exact hsame

theorem run_recorded (service : ModeService) (actions : List ModeAction)
    (h : service.db.settings.lookup tenantId = some setting) :
    service.db.Recorded (service.run actions).db tenantId setting := by
  induction actions generalizing service setting with
  | nil => exact ⟨setting, [], h, by simp [run], .unchanged setting⟩
  | cons action rest ih =>
      obtain ⟨next, first, hnext, hfirst, hhistory⟩ := service.step_recorded action h
      obtain ⟨last, later, hlast, hlater, hrest⟩ := ih _ hnext
      refine ⟨last, first ++ later, hlast, ?_, hhistory.trans hrest⟩
      rw [← List.append_assoc, ← hfirst]
      exact hlater

/-! ## Every run -/

/-- From a database without payments: what goes on is in the mode of its tenant, every
change of mode is one version and one line of the audit, and production never prepares a
payment through a test gateway. -/
theorem modes_are_isolated (start : ModeService) (hfresh : start.db.payments.payments = .empty)
    (actions : List ModeAction) :
    let service := start.run actions
    (∀ row ∈ service.db.payments.payments.rows, row.status.isOutstanding = true →
      service.db.activeMode row.tenantId = some row.gatewayMode) ∧
    (∀ tenantId setting later, service.db.settings.lookup tenantId = some setting →
      ∃ setting' lines, (service.run later).db.settings.lookup tenantId = some setting' ∧
        (service.run later).db.audit = service.db.audit ++ lines ∧
        History tenantId setting lines setting' ∧ setting'.version = setting.version +
          (lines.filter fun line => line.tenantId = tenantId).length) ∧
    (∀ command now createdAt prepared db', (prepareAuthorization .production command now
        createdAt).run service.view.db = .ok (prepared, db') →
      prepared.gateway.mode = .production) ∧
    (actions.all ModeAction.inProduction = true →
      ∀ row ∈ service.db.payments.payments.rows, row.gatewayMode = .production) := by
  have hempty : start.db.payments.payments.rows = [] := by
    rw [hfresh]
    rfl
  refine ⟨run_isolated start actions ?_, fun tenantId setting later hsetting => ?_,
    fun command now createdAt prepared db' hrun => ?_,
    fun hproduction => run_inProduction start actions hproduction ?_⟩
  · intro row hrow
    rw [hempty] at hrow
    cases hrow
  · obtain ⟨setting', lines, hlookup, haudit, hhistory⟩ := run_recorded _ later hsetting
    exact ⟨setting', lines, hlookup, haudit, hhistory, hhistory.version⟩
  · exact ((ensures_prepareAuthorization_mode .production command now createdAt).of_ok
      hrun).1 rfl
  · intro row hrow
    rw [hempty] at hrow
    cases hrow

end ModeService

/-! ## A small launch -/

/-- The small shop before it has settings. -/
def smallModes : ModeService where
  db := {
    payments := (smallShop .epay).db
    settings := .empty
    audit := [] }
  workers := fun _ => none

/-- The shop is set up in test mode, goes into production and sells. -/
def launch : List ModeAction :=
  [.openSettings ⟨⟨1⟩, .test, "operator", 1⟩,
    .switchMode .production (fun _ => .ok ()) ⟨⟨1⟩, .production, 1, "operator", "launch"⟩,
    .pay (.prepareAuthorization .production smallSale 0 0)]

theorem launch_isolated :
    let _ : Sha256 := ⟨fun _ => List.replicate 32 0⟩
    let service := smallModes.run launch
    service.db.payments.payments.rows.map (fun row => (row.status, row.gatewayMode)) =
        [(.requested, .production)] ∧
      service.db.audit = [⟨⟨1⟩, .test, .production, 1, 2, "operator", "launch"⟩] ∧
      ∀ row ∈ service.db.payments.payments.rows, row.status.isOutstanding = true →
        service.db.activeMode row.tenantId = some row.gatewayMode := by
  intro _ service
  refine ⟨?_, ?_, (ModeService.modes_are_isolated smallModes rfl launch).1⟩
  · decide +kernel
  · decide +kernel

end MatchPlane
