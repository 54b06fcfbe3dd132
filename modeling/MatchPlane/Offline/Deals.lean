import MatchPlane.Offline.Listings
import MatchPlane.Payments.Commission

/-!
# Deals

A buyer is introduced to the seller of a listing, the seller agrees to exchange
contacts, both confirm the price that they settled on, and the deal is completed
once the commission of the platform has been captured.

A refusal that is recorded commits, so it is an answer of the transaction.
-/

namespace MatchPlane

open MatchPlane.Library

namespace OfflineDatabase

def dealLog : Part OfflineDatabase (List OfflineDealEvent) :=
  ⟨dealEvents, fun events db => { db with dealEvents := events }⟩

def auditLog : Part OfflineDatabase (List ContactAccess) :=
  ⟨audit, fun events db => { db with audit := events }⟩

end OfflineDatabase

def noteDealEvent (event : OfflineDealEvent) : Tx OfflineDatabase PUnit :=
  OfflineDatabase.dealLog.on (push event)

def offlineDealIn (offlineDealId : OfflineDealId) : Tx OfflineDatabase OfflineDeal := do
  require (.notFound "offline deal") ((← get).deals.lookup offlineDealId)

def updateDeal (offlineDealId : OfflineDealId) (guard : OfflineDeal → Bool)
    (set : OfflineDeal → OfflineDeal) : Tx OfflineDatabase PUnit := do
  let _ ← OfflineDatabase.dealTable.on (Table.update .sqlx offlineDealId guard set)

/-! ## Introductions -/

structure CreateOfflineDeal where
  offlineDealId : OfflineDealId
  tenantId : TenantId
  listingId : VehicleListingId
  buyerRequestId : BuyerRequestId
  buyerPartyId : MarketplacePartyId
  expiresAt : OffsetDateTime
  deriving DecidableEq, Repr

structure OfflineDealOutcome where
  deal : OfflineDeal
  duplicate : Bool
  deriving DecidableEq, Repr

structure CompatiblePair where
  listing : VehicleListing
  asset : VehicleAsset
  request : BuyerVehicleRequest
  deriving DecidableEq

/-- An open listing of an authorized seller and an open request in its currency. -/
def compatiblePair (db : OfflineDatabase) (command : CreateOfflineDeal)
    (clock : OffsetDateTime) : Option CompatiblePair := do
  let listing ← db.listings.lookup command.listingId
  let asset ← db.assets.lookup listing.assetId
  let request ← db.requests.lookup command.buyerRequestId
  if listing.tenantId = command.tenantId ∧ asset.tenantId = listing.tenantId ∧
      asset.domainId = listing.domainId ∧ request.tenantId = listing.tenantId ∧
      request.domainId = listing.domainId ∧ listing.status = .active ∧
      request.status ∈ [.active, .matched] ∧ listing.currency = request.currency ∧
      listing.currencyScale = request.currencyScale ∧ listing.expiresAt.all (clock < ·) ∧
      db.authorized listing.authorizationKey then
    some ⟨listing, asset, request⟩
  else none

def dealCommission (amount commissionBps : Int) : Except StorageError Int :=
  match calculateCommission amount commissionBps.toNat with
  | .ok commission => .ok commission
  | .error error => .error (.invalidData error.message)

def inquiryKey (offlineDealId : OfflineDealId) : String := s!"offline-inquiry:{offlineDealId}"

def CreateOfflineDeal.inquiry (command : CreateOfflineDeal) (now : OffsetDateTime) :
    RecordExposure where
  tenantId := command.tenantId
  listingId := command.listingId
  viewerPartyId := some command.buyerPartyId
  eventType := .inquiry
  source := "offline_match"
  deduplicationKey := inquiryKey command.offlineDealId
  occurredAt := now

/-- The deal of a new introduction. -/
def CreateOfflineDeal.row (command : CreateOfflineDeal) (pair : CompatiblePair)
    (matchReasons : List String) (commissionAmount : Int) : OfflineDeal where
  id := command.offlineDealId
  tenantId := command.tenantId
  listingId := command.listingId
  buyerRequestId := command.buyerRequestId
  sellerPartyId := pair.listing.sellerPartyId
  buyerPartyId := pair.request.buyerPartyId
  matchReasons := matchReasons
  status := .proposed
  contactReleasedAt := none
  sellerContactConsentAt := none
  finalAmount := none
  currency := pair.listing.currency
  currencyScale := pair.listing.currencyScale
  commissionBps := pair.listing.commissionBps
  commissionAmount := some commissionAmount
  commissionCollection := pair.listing.commissionCollection
  commissionPaymentId := none
  sellerConfirmedAt := none
  buyerConfirmedAt := none
  completedAt := none
  expiresAt := timestamptz command.expiresAt

def introduce (command : CreateOfflineDeal) (pair : CompatiblePair)
    (matchReasons : List String) (now : OffsetDateTime) (clock : BillingClock) :
    Tx OfflineDatabase OfflineDealOutcome := do
  let commissionAmount ← dealCommission pair.listing.askingAmount pair.listing.commissionBps
  let deal := command.row pair matchReasons commissionAmount
  OfflineDatabase.dealTable.on (Table.insert .sqlx deal)
  noteDealEvent {
    tenantId := command.tenantId
    offlineDealId := command.offlineDealId
    actorPartyId := command.buyerPartyId
    eventType := .matchProposed commissionAmount pair.listing.commissionBps
    fromStatus := none
    toStatus := some .proposed }
  let _ ← insertExposure (command.inquiry now) clock
  let _ ← OfflineDatabase.requestTable.on (Table.update .sqlx command.buyerRequestId
    (fun row => row.tenantId = command.tenantId ∧ row.status = .active)
    fun row => { row with status := .matched })
  let deal ← offlineDealIn command.offlineDealId
  pure ⟨deal, false⟩

def createOfflineDeal (command : CreateOfflineDeal) (now : OffsetDateTime)
    (clock : BillingClock) : Tx OfflineDatabase OfflineDealOutcome := do
  if command.expiresAt ≤ now then
    throw (.invalidData "offline deal expiry must be in the future")
  ensurePartyRole command.tenantId command.buyerPartyId .buyer
  let db ← get
  match db.deals.rows.find? fun row =>
      row.listingId = command.listingId ∧ row.buyerRequestId = command.buyerRequestId with
  | some deal =>
      if deal.tenantId ≠ command.tenantId ∨ deal.buyerPartyId ≠ command.buyerPartyId then
        throw (.forbidden "existing introduction belongs to another buyer")
      pure ⟨deal, true⟩
  | none =>
      let pair ← require (.notFound "compatible active listing and buyer request")
        (compatiblePair db command clock.listing)
      if pair.request.buyerPartyId ≠ command.buyerPartyId then
        throw (.forbidden "buyer request does not belong to the authenticated buyer")
      if pair.listing.sellerPartyId = pair.request.buyerPartyId then
        throw (.invalidData "buyer and seller must be different parties")
      if pair.listing.expiresAt.any (· < command.expiresAt) then
        throw (.conflict "offline deal expiry cannot outlive the vehicle listing")
      let matchReasons ← require (.conflict "listing is outside the buyer's budget")
        (suitability pair.request.requirements pair.asset.attributes pair.listing.askingAmount
          pair.request.budgetMin pair.request.budgetMax)
      introduce command pair matchReasons now clock

/-! ## Consent -/

structure AcceptContactExchange where
  tenantId : TenantId
  offlineDealId : OfflineDealId
  sellerPartyId : MarketplacePartyId
  deriving DecidableEq, Repr

def acceptContactExchange (command : AcceptContactExchange) (now stamp : OffsetDateTime) :
    Tx OfflineDatabase OfflineDeal := do
  let deal ← offlineDealIn command.offlineDealId
  if deal.tenantId ≠ command.tenantId then
    throw (.notFound "offline deal")
  if deal.sellerPartyId ≠ command.sellerPartyId then
    throw (.forbidden "only the matched seller can accept contact exchange")
  ensurePartyRole command.tenantId command.sellerPartyId .seller
  if deal.expiresAt ≤ now ∨ deal.status ∈ [.declined, .expired, .disputed] then
    throw (.conflict "offline introduction is no longer available")
  if deal.sellerContactConsentAt = none then
    updateDeal command.offlineDealId
      (fun row => row.tenantId = command.tenantId ∧ row.sellerContactConsentAt = none)
      fun row => { row with sellerContactConsentAt := some stamp }
    noteDealEvent {
      tenantId := command.tenantId
      offlineDealId := command.offlineDealId
      actorPartyId := command.sellerPartyId
      eventType := .sellerContactConsent
      fromStatus := none
      toStatus := some deal.status }
  offlineDealIn command.offlineDealId

/-! ## Payments of commissions -/

/-- A payment of the commission of a deal by its seller. -/
def PaymentIntentRow.paysFor (payment : PaymentIntentRow) (deal : OfflineDeal) : Prop :=
  payment.tenantId = deal.tenantId ∧ payment.offlineDealId = some deal.id ∧
    payment.payerPartyId = some deal.sellerPartyId ∧
    payment.transactionChannel = "offline_direct" ∧ payment.purpose = "platform_commission" ∧
    payment.currency = deal.currency ∧ payment.currencyScale = deal.currencyScale

instance (payment : PaymentIntentRow) (deal : OfflineDeal) : Decidable (payment.paysFor deal) :=
  inferInstanceAs (Decidable (_ ∧ _))

/-- Captured for exactly that amount, and not refunded. -/
def PaymentIntentRow.settled (payment : PaymentIntentRow) (amount : Int) : Prop :=
  payment.status = .captured ∧ payment.capturedAmount = amount ∧ payment.refundedAmount = 0 ∧
    payment.commissionAmount = payment.capturedAmount

instance (payment : PaymentIntentRow) (amount : Int) : Decidable (payment.settled amount) :=
  inferInstanceAs (Decidable (_ ∧ _))

/-- Authorized for at least that amount. -/
def PaymentIntentRow.secured (payment : PaymentIntentRow) (amount : Int) : Prop :=
  payment.status = .authorized ∧ amount ≤ payment.amount ∧
    payment.commissionAmount = payment.amount

instance (payment : PaymentIntentRow) (amount : Int) : Decidable (payment.secured amount) :=
  inferInstanceAs (Decidable (_ ∧ _))

def capturedCommissionPayment (db : OfflineDatabase) (deal : OfflineDeal) : Option PaymentId :=
  let commissionAmount := deal.commissionAmount.getD 0
  if commissionAmount = 0 then none
  else (firstBy (fun first second => decide (second.createdAt < first.createdAt))
    (db.surroundings.payments.rows.filter fun payment =>
      payment.paysFor deal ∧ payment.settled commissionAmount)).map PaymentIntentRow.id

/-- Captured payments come first, then newer ones. -/
def PaymentIntentRow.preferred (first second : PaymentIntentRow) : Bool :=
  if first.status = .captured ∧ second.status ≠ .captured then true
  else if first.status ≠ .captured ∧ second.status = .captured then false
  else second.createdAt < first.createdAt

/-- The payment that stands behind a release. -/
def releasePayment (db : OfflineDatabase) (deal : OfflineDeal) (commissionAmount : Int) :
    Option PaymentId :=
  (firstBy PaymentIntentRow.preferred
    (db.surroundings.payments.rows.filter fun payment => payment.paysFor deal ∧
      (payment.secured commissionAmount ∨ payment.settled commissionAmount))).map
        PaymentIntentRow.id

/-! ## Completion -/

/-- The listing of a deal is live, its seller is authorized, and it has not expired. -/
def ensureListingAuthorized (deal : OfflineDeal) (clock : OffsetDateTime) :
    Tx OfflineDatabase PUnit := do
  let listing := ((← get).eligibleListing deal.tenantId deal.listingId clock).filter
    fun listing => listing.sellerPartyId = deal.sellerPartyId
  if listing.isNone then
    throw (.conflict "listing authorization is no longer active")

def validateDealParticipant (deal : OfflineDeal) (tenantId : TenantId)
    (actorPartyId : MarketplacePartyId) : Tx OfflineDatabase Unit := do
  if deal.tenantId ≠ tenantId then
    throw (.notFound "offline deal")
  if actorPartyId ≠ deal.sellerPartyId ∧ actorPartyId ≠ deal.buyerPartyId then
    throw (.forbidden "offline deal is available only to its matched buyer and seller")
  ensurePartyActive tenantId actorPartyId

/-- A deal that is still open when another one of its listing is completed. -/
def OfflineDeal.afterCompletion (completed deal : OfflineDeal) : OfflineDeal :=
  if deal.tenantId = completed.tenantId ∧ deal.listingId = completed.listingId ∧
      deal.id ≠ completed.id ∧
      deal.status ∉ [.completed, .declined, .expired, .disputed] then
    { deal with status := .expired }
  else deal

def completeOfflineDealIn (deal : OfflineDeal) (actorPartyId : MarketplacePartyId)
    (paymentId : Option PaymentId) (now stamp : OffsetDateTime) : Tx OfflineDatabase PUnit := do
  if deal.expiresAt ≤ now then
    throw (.conflict "offline introduction has expired; renew it before completion")
  updateDeal deal.id (fun _ => true) fun row => { row with
    status := .completed
    commissionPaymentId := paymentId
    completedAt := some stamp }
  let _ ← OfflineDatabase.listingTable.on (Table.update .sqlx deal.listingId
    (fun row => row.tenantId = deal.tenantId) fun row => { row with status := .sold })
  let _ ← OfflineDatabase.requestTable.on (Table.update .sqlx deal.buyerRequestId
    (fun row => row.tenantId = deal.tenantId) fun row => { row with status := .closed })
  OfflineDatabase.dealTable.on (Table.updateAll .sqlx deal.afterCompletion)
  noteDealEvent {
    tenantId := deal.tenantId
    offlineDealId := deal.id
    actorPartyId := actorPartyId
    eventType := .dealCompleted paymentId
    fromStatus := some deal.status
    toStatus := some .completed }

inductive NextAction where
  | completed
  | counterpartyConfirmation
  | capturePlatformCommission
  | sellerSettlePlatformCommission
  deriving DecidableEq, Repr

structure OfflineDealProgress where
  deal : OfflineDeal
  nextAction : NextAction
  deriving DecidableEq, Repr

def nextDealAction (db : OfflineDatabase) (deal : OfflineDeal) : NextAction :=
  let commissionAmount := deal.commissionAmount.getD 0
  if deal.status = .completed then .completed
  else if deal.sellerConfirmedAt = none ∨ deal.buyerConfirmedAt = none then
    .counterpartyConfirmation
  else if commissionAmount = 0 then .completed
  else if db.surroundings.payments.rows.any fun payment =>
      payment.paysFor deal ∧ payment.secured commissionAmount then
    .capturePlatformCommission
  else .sellerSettlePlatformCommission

structure ConfirmOfflineDeal where
  tenantId : TenantId
  offlineDealId : OfflineDealId
  actorPartyId : MarketplacePartyId
  finalAmount : Int
  deriving DecidableEq, Repr

/-- The clocks that are read while a deal is confirmed, finalized or released. -/
structure DealClock where
  now : OffsetDateTime
  listing : OffsetDateTime
  completion : OffsetDateTime
  stamp : OffsetDateTime
  deriving DecidableEq, Repr

def OfflineDeal.confirmedBy (deal : OfflineDeal) (actorPartyId : MarketplacePartyId) : Bool :=
  if actorPartyId = deal.sellerPartyId then deal.sellerConfirmedAt.isSome
  else deal.buyerConfirmedAt.isSome

/-- The price that one side has named. -/
def confirmPrice (command : ConfirmOfflineDeal) (commissionAmount : Int)
    (stamp : OffsetDateTime) : Tx OfflineDatabase PUnit := do
  updateDeal command.offlineDealId (fun _ => true) fun row => { row with
    finalAmount := some command.finalAmount
    commissionAmount := some commissionAmount
    sellerConfirmedAt := if row.sellerPartyId = command.actorPartyId then some stamp
      else row.sellerConfirmedAt
    buyerConfirmedAt := if row.buyerPartyId = command.actorPartyId then some stamp
      else row.buyerConfirmedAt
    status := .dealPending }
  noteDealEvent {
    tenantId := command.tenantId
    offlineDealId := command.offlineDealId
    actorPartyId := command.actorPartyId
    eventType := .priceConfirmed command.finalAmount commissionAmount
    fromStatus := none
    toStatus := some .dealPending }

def confirmOfflineDeal (command : ConfirmOfflineDeal) (clock : DealClock) :
    Tx OfflineDatabase OfflineDealProgress := do
  if command.finalAmount ≤ 0 then
    throw (.invalidData "final_amount must be positive")
  let deal ← offlineDealIn command.offlineDealId
  validateDealParticipant deal command.tenantId command.actorPartyId
  if deal.status = .completed then
    pure ⟨deal, .completed⟩
  else
    if deal.expiresAt ≤ clock.now then
      throw (.conflict "offline introduction has expired; renew it before confirming the price")
    ensureListingAuthorized deal clock.listing
    if deal.contactReleasedAt = none ∨
        deal.status ∉ [.contactReleased, .viewingScheduled, .negotiating, .dealPending] then
      throw (.conflict "deal price can be confirmed only after contact release")
    if deal.finalAmount.any (· ≠ command.finalAmount) then
      throw (.conflict "both parties must confirm the same final_amount")
    let commissionAmount ← dealCommission command.finalAmount deal.commissionBps
    if deal.confirmedBy command.actorPartyId = false then
      confirmPrice command commissionAmount clock.stamp
    let confirmed ← offlineDealIn command.offlineDealId
    let paymentId := capturedCommissionPayment (← get) confirmed
    if confirmed.sellerConfirmedAt.isSome ∧ confirmed.buyerConfirmedAt.isSome ∧
        (commissionAmount = 0 ∨ paymentId.isSome) then
      completeOfflineDealIn confirmed command.actorPartyId paymentId clock.completion clock.stamp
    let deal ← offlineDealIn command.offlineDealId
    pure ⟨deal, nextDealAction (← get) deal⟩

structure FinalizeOfflineDeal where
  tenantId : TenantId
  offlineDealId : OfflineDealId
  actorPartyId : MarketplacePartyId
  deriving DecidableEq, Repr

def finalizeOfflineDeal (command : FinalizeOfflineDeal) (clock : DealClock) :
    Tx OfflineDatabase (Answer OfflineDealProgress) := do
  let deal ← offlineDealIn command.offlineDealId
  validateDealParticipant deal command.tenantId command.actorPartyId
  if deal.status = .completed then
    pure (.ok ⟨deal, .completed⟩)
  else
    if deal.expiresAt ≤ clock.now then
      throw (.conflict "offline introduction has expired; renew it before completion")
    ensureListingAuthorized deal clock.listing
    if deal.sellerConfirmedAt = none ∨ deal.buyerConfirmedAt = none ∨
        deal.finalAmount = none then
      throw (.conflict "both parties must confirm the same offline price first")
    let paymentId := capturedCommissionPayment (← get) deal
    if 0 < deal.commissionAmount.getD 0 ∧ paymentId.isNone then
      pure (.error (.conflict "captured platform commission is required before completion"))
    else
      completeOfflineDealIn deal command.actorPartyId paymentId clock.completion clock.stamp
      let deal ← offlineDealIn command.offlineDealId
      pure (.ok ⟨deal, .completed⟩)

/-! ## Viewings -/

structure CreateViewingAppointment where
  viewingId : ViewingId
  tenantId : TenantId
  offlineDealId : OfflineDealId
  proposedBy : MarketplacePartyId
  startsAt : OffsetDateTime
  endsAt : OffsetDateTime
  locationCiphertext : Bytes
  locationNonce : Bytes
  keyVersion : Int
  deriving DecidableEq, Repr

def maxViewingAppointmentsPerDeal : Nat := 32

/-- The clock is read before the transaction, `start`, and in it. -/
def createViewingAppointment (command : CreateViewingAppointment) (start now : OffsetDateTime) :
    Tx OfflineDatabase ViewingAppointment := do
  if command.startsAt ≤ start ∨ command.endsAt ≤ command.startsAt then
    throw (.invalidData "viewing must have a future start and a later end")
  if command.locationNonce.length ≠ 12 ∨ command.keyVersion ≤ 0 then
    throw (.invalidData "viewing location envelope is malformed")
  let deal ← offlineDealIn command.offlineDealId
  validateDealParticipant deal command.tenantId command.proposedBy
  if deal.contactReleasedAt = none ∨
      deal.status ∉ [.contactReleased, .viewingScheduled, .negotiating] then
    throw (.conflict "viewing can be proposed only after contact release")
  if deal.expiresAt ≤ now then
    throw (.conflict "offline introduction has expired; viewing is no longer available")
  if deal.expiresAt < command.endsAt then
    throw (.invalidData "viewing must end before the offline introduction expires")
  let appointments := (← get).viewings.rows.countP fun row =>
    row.tenantId = command.tenantId ∧ row.offlineDealId = command.offlineDealId
  if maxViewingAppointmentsPerDeal ≤ appointments then
    throw (.conflict "offline introduction has reached its viewing appointment limit")
  let viewing : ViewingAppointment := {
    id := command.viewingId
    tenantId := command.tenantId
    offlineDealId := command.offlineDealId
    proposedBy := command.proposedBy
    startsAt := timestamptz command.startsAt
    endsAt := timestamptz command.endsAt
    locationCiphertext := command.locationCiphertext
    locationNonce := command.locationNonce
    encryptionKeyVersion := command.keyVersion
    status := .proposed }
  OfflineDatabase.viewingTable.on (Table.insert .sqlx viewing)
  updateDeal command.offlineDealId (fun row => row.status = .contactReleased)
    fun row => { row with status := .viewingScheduled }
  noteDealEvent {
    tenantId := command.tenantId
    offlineDealId := command.offlineDealId
    actorPartyId := command.proposedBy
    eventType := .viewingProposed command.viewingId command.startsAt
    fromStatus := none
    toStatus := some .viewingScheduled }
  pure viewing

inductive ViewingAction where
  | confirm
  | cancel
  | complete
  deriving DecidableEq, Repr

structure TransitionViewingAppointment where
  tenantId : TenantId
  viewingId : ViewingId
  actorPartyId : MarketplacePartyId
  /-- No action stands for a text that names none. -/
  action : Option ViewingAction
  deriving DecidableEq, Repr

def viewingTarget (current : ViewingAppointment) (command : TransitionViewingAppointment)
    (now : OffsetDateTime) : Option ViewingStatus :=
  match current.status, command.action with
  | .proposed, some .confirm =>
      if command.actorPartyId ≠ current.proposedBy then some .confirmed else none
  | .proposed, some .cancel | .confirmed, some .cancel => some .cancelled
  | .confirmed, some .complete => if current.startsAt ≤ now then some .completed else none
  | _, _ => none

def transitionViewingAppointment (command : TransitionViewingAppointment)
    (now : OffsetDateTime) : Tx OfflineDatabase ViewingAppointment := do
  let current ← require (.notFound "viewing appointment")
    ((← get).viewings.lookup command.viewingId)
  if current.tenantId ≠ command.tenantId then
    throw (.notFound "viewing appointment")
  let deal ← offlineDealIn current.offlineDealId
  validateDealParticipant deal command.tenantId command.actorPartyId
  if deal.expiresAt ≤ now then
    throw (.conflict
      "offline introduction has expired; viewing transitions are no longer available")
  let target ← require (.conflict "viewing cannot apply the action")
    (viewingTarget current command now)
  let updated ← OfflineDatabase.viewingTable.on (Table.update .sqlx command.viewingId
    (fun _ => true) fun row => { row with status := target })
  if target = .completed then
    updateDeal current.offlineDealId (fun row => row.status = .viewingScheduled)
      fun row => { row with status := .negotiating }
  noteDealEvent {
    tenantId := command.tenantId
    offlineDealId := current.offlineDealId
    actorPartyId := command.actorPartyId
    eventType := .viewing target command.viewingId
    fromStatus := none
    toStatus := none }
  require (.notFound "viewing appointment") updated

/-! ## Release of contacts -/

structure ReleaseContact where
  tenantId : TenantId
  offlineDealId : OfflineDealId
  actorPartyId : MarketplacePartyId
  requestFingerprint : Option Bytes
  deriving DecidableEq, Repr

structure ContactEnvelope where
  targetPartyId : MarketplacePartyId
  displayName : String
  ciphertext : Bytes
  nonce : Bytes
  keyVersion : Int
  deal : OfflineDeal
  deriving DecidableEq, Repr

/-- The other side of a deal, for one of its two sides. -/
def OfflineDeal.counterpart (deal : OfflineDeal) (actorPartyId : MarketplacePartyId) :
    Option MarketplacePartyId :=
  if actorPartyId = deal.buyerPartyId then some deal.sellerPartyId
  else if actorPartyId = deal.sellerPartyId then some deal.buyerPartyId
  else none

def insertContactAudit (command : ReleaseContact) (targetPartyId : MarketplacePartyId)
    (decision : ContactDecision) : Tx OfflineDatabase PUnit := do
  if command.requestFingerprint.any (fun fingerprint => fingerprint.length ≠ 32) ∨
      command.actorPartyId = targetPartyId then
    throw .sqlx
  OfflineDatabase.auditLog.on (push {
    tenantId := command.tenantId
    offlineDealId := command.offlineDealId
    actorPartyId := command.actorPartyId
    targetPartyId := targetPartyId
    decision := decision
    requestFingerprint := command.requestFingerprint })

def contactKey (offlineDealId : OfflineDealId) : String := s!"matched-contact:{offlineDealId}"

def OfflineDeal.contactExposure (deal : OfflineDeal) (command : ReleaseContact)
    (now : OffsetDateTime) : RecordExposure where
  tenantId := command.tenantId
  listingId := deal.listingId
  viewerPartyId := some deal.buyerPartyId
  eventType := .matchedContact
  source := "offline_match"
  deduplicationKey := contactKey deal.id
  occurredAt := now

/-- Why a release is refused, if it is, and the payment behind it otherwise. -/
def releaseDecision (db : OfflineDatabase) (deal : OfflineDeal) (now : OffsetDateTime) :
    Except String (Option PaymentId) :=
  let commissionAmount := deal.commissionAmount.getD 0
  if deal.status ∈ [.declined, .expired, .disputed] ∨ deal.expiresAt ≤ now then
    .error "offline introduction is no longer available"
  else if deal.sellerContactConsentAt = none then
    .error "seller consent is required before contact exchange"
  else if deal.commissionCollection = .preauthorized ∧ 0 < commissionAmount then
    match releasePayment db deal commissionAmount with
    | some paymentId => .ok (some paymentId)
    | none => .error "seller commission authorization is required before contact release"
  else .ok deal.commissionPaymentId

/-- The marks of a release; the first one is an event and an exposure of its own. -/
def markReleased (command : ReleaseContact) (deal : OfflineDeal)
    (commissionPaymentId : Option PaymentId) (now stamp : OffsetDateTime)
    (billing : BillingClock) : Tx OfflineDatabase PUnit := do
  if deal.contactReleasedAt = none ∨ deal.commissionPaymentId ≠ commissionPaymentId then
    updateDeal command.offlineDealId (fun _ => true) fun row => { row with
      status := if row.status = .proposed then .contactReleased else row.status
      contactReleasedAt := row.contactReleasedAt.or (some stamp)
      commissionPaymentId := commissionPaymentId.or row.commissionPaymentId }
  if deal.contactReleasedAt = none then
    noteDealEvent {
      tenantId := command.tenantId
      offlineDealId := command.offlineDealId
      actorPartyId := command.actorPartyId
      eventType := .contactReleased
      fromStatus := some .proposed
      toStatus := some .contactReleased }
    let _ ← insertExposure (deal.contactExposure command now) billing

def releaseOfflineContact (command : ReleaseContact) (clock : DealClock)
    (billing : BillingClock) : Tx OfflineDatabase (Answer ContactEnvelope) := do
  let deal ← offlineDealIn command.offlineDealId
  if deal.tenantId ≠ command.tenantId then
    throw (.notFound "offline deal")
  let targetPartyId ← require
    (.forbidden "contact is available only to the matched buyer and seller")
    (deal.counterpart command.actorPartyId)
  ensureListingAuthorized deal clock.listing
  ensurePartyActive command.tenantId command.actorPartyId
  match releaseDecision (← get) deal clock.now with
  | .error message =>
      insertContactAudit command targetPartyId .denied
      pure (.error (.conflict message))
  | .ok commissionPaymentId =>
      markReleased command deal commissionPaymentId clock.completion clock.stamp billing
      insertContactAudit command targetPartyId .allowed
      let contact ← require (.notFound "active counterpart")
        ((← get).surroundings.activeParty command.tenantId targetPartyId)
      let released ← offlineDealIn command.offlineDealId
      pure (.ok {
        targetPartyId := targetPartyId
        displayName := contact.displayName
        ciphertext := contact.contactCiphertext
        nonce := contact.contactNonce
        keyVersion := contact.contactKeyVersion
        deal := released })

end MatchPlane
