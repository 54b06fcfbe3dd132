import MatchPlane.Domain.Text
import MatchPlane.Offline.Schema

/-!
# Exposures and promotions

An exposure is recorded once under its key.  Those that the server observes itself are
charged to the campaigns of their listing, and those that clients report are not.

A campaign that turns out to be over is marked so before the event is refused.  A single
event takes the mark back with it, while a billed exposure goes on; so a refusal is an
answer here and no failure of the transaction.
-/

namespace MatchPlane

open MatchPlane.Library

def maxTrimmed (maximum : Nat) (value : String) : Bool :=
  trim value.toList ≠ [] ∧ value.utf8ByteSize ≤ maximum

/-! ## Parties and listings -/

namespace OfflineSurroundings

variable (surroundings : OfflineSurroundings)

def activeParty (tenantId : TenantId) (partyId : MarketplacePartyId) : Option OfflineParty :=
  surroundings.parties.find? fun party =>
    party.tenantId = tenantId ∧ party.id = partyId ∧ party.active

def policy (tenantId : TenantId) (domainId : DomainId) (currency : String) :
    Option CommissionPolicy :=
  surroundings.policies.find? fun policy =>
    policy.tenantId = tenantId ∧ policy.domainId = domainId ∧ policy.quoteAssetKey = currency

end OfflineSurroundings

def PartyRole.text : PartyRole → String
  | buyer => "buyer"
  | seller => "seller"
  | both => "both"

def ensurePartyRole (tenantId : TenantId) (partyId : MarketplacePartyId)
    (requiredRole : PartyRole) : Tx OfflineDatabase Unit := do
  let party ← require (.notFound "active marketplace party")
    ((← get).surroundings.activeParty tenantId partyId)
  if party.role ≠ requiredRole ∧ party.role ≠ .both then
    throw (.forbidden s!"{requiredRole.text} role is required")

def ensurePartyActive (tenantId : TenantId) (partyId : MarketplacePartyId) :
    Tx OfflineDatabase Unit := do
  if ((← get).surroundings.activeParty tenantId partyId).isNone then
    throw (.forbidden "marketplace party is not active")

namespace OfflineDatabase

variable (db : OfflineDatabase)

def authorized (key : AuthorizationKey) : Bool :=
  (db.authorizations.lookup key).any MarketplaceAssetAuthorization.active

/-- A live listing of an authorized seller that has not expired. -/
def eligibleListing (tenantId : TenantId) (listingId : VehicleListingId)
    (clock : OffsetDateTime) : Option VehicleListing :=
  (db.listings.lookup listingId).filter fun listing =>
    listing.tenantId = tenantId ∧ listing.status.isLive ∧
      listing.expiresAt.all (clock < ·) ∧ db.authorized listing.authorizationKey

end OfflineDatabase

/-! ## Campaigns -/

structure CreateSellerPromotion where
  campaignId : PromotionCampaignId
  tenantId : TenantId
  sponsorPartyId : MarketplacePartyId
  targetKind : String
  targetKey : String
  /-- No policy or model stands for a text that names none. -/
  policy : Option PromotionPolicy
  pricingModel : Option PricingModel
  currency : String
  currencyScale : Int
  unitPrice : Int
  budgetAmount : Int
  settings : Json
  startsAt : OffsetDateTime
  endsAt : Option OffsetDateTime
  deriving DecidableEq

def validatePromotionCommand (command : CreateSellerPromotion) :
    Except StorageError (PromotionPolicy × PricingModel) := do
  if maxTrimmed 64 command.targetKind = false ∨ maxTrimmed 256 command.targetKey = false then
    .error (.invalidData "promotion target is invalid")
  let policy ← match command.policy with
    | some policy => .ok policy
    | none => .error (.invalidData "promotion policy must be seller_promotion or hybrid")
  let pricingModel ← match command.pricingModel with
    | some pricingModel => .ok pricingModel
    | none => .error (.invalidData "unsupported promotion pricing model")
  if isCurrency command.currency = false then
    .error (.invalidData "currency must be a three-letter uppercase ISO code")
  if isScale command.currencyScale = false ∨ command.unitPrice < 0 ∨ command.budgetAmount ≤ 0 ∨
      command.endsAt.any (· ≤ command.startsAt) then
    .error (.invalidData "promotion price, budget, or time window is invalid")
  if command.settings.isObject = false then
    .error (.invalidData "promotion settings must be a JSON object")
  .ok (policy, pricingModel)

def vehicleListingKind : String := "vehicle_listing"

section Creation

variable [Jsonb] [UuidParser]

def ensurePromotionOwner (command : CreateSellerPromotion) : Tx OfflineDatabase Unit := do
  if command.targetKind = vehicleListingKind then
    let listingId ← require (.invalidData "vehicle listing target_key is invalid")
      (UuidParser.parseStr command.targetKey)
    let listing ← require (.notFound "vehicle listing")
      (((← get).listings.lookup ⟨listingId⟩).filter fun listing =>
        listing.tenantId = command.tenantId)
    if listing.sellerPartyId ≠ command.sponsorPartyId then
      throw (.forbidden "seller promotion target is not owned by the sponsor")

def createSellerPromotion (command : CreateSellerPromotion) :
    Tx OfflineDatabase SellerPromotionCampaign := do
  let (policy, pricingModel) ← validatePromotionCommand command
  ensurePartyRole command.tenantId command.sponsorPartyId .seller
  ensurePromotionOwner command
  let campaign : SellerPromotionCampaign := {
    id := command.campaignId
    tenantId := command.tenantId
    sponsorPartyId := command.sponsorPartyId
    targetKind := command.targetKind
    targetKey := command.targetKey
    policy := policy
    pricingModel := pricingModel
    currency := command.currency
    currencyScale := command.currencyScale
    unitPrice := command.unitPrice
    budgetAmount := command.budgetAmount
    spentAmount := 0
    billableUnits := 0
    settings := Jsonb.stored command.settings
    status := .active
    startsAt := timestamptz command.startsAt
    endsAt := command.endsAt.map timestamptz }
  OfflineDatabase.campaignTable.on (Table.insert .sqlx campaign)
  pure campaign

end Creation

/-! ## Charges -/

/-- `saturating_mul` and `saturating_sub` of 128-bit integers. -/
def saturated (value : Int) : Int := max i128Min (min value i128Max)

/-- The units and the charge of an event, from the units before it. -/
def promotionCharge (pricingModel : PricingModel) (eventType : PromotionEventType)
    (priorUnits unitPrice : Int) : Int × Int :=
  match pricingModel, eventType with
  | .cpm, .impression =>
      let newUnits := min (priorUnits + 1) i64Max
      let previousBlocks := priorUnits.tdiv 1000
      let newBlocks := newUnits.tdiv 1000
      (1, saturated ((newBlocks - previousBlocks) * unitPrice))
  | .cpc, .click => (1, unitPrice)
  -- A later contact exchange is recorded, but the inquiry has been charged.
  | .cpl, .qualifiedLead => (1, unitPrice)
  | .fixed, .qualifiedLead => if priorUnits = 0 then (1, unitPrice) else (0, 0)
  | _, _ => (0, 0)

example : promotionCharge .cpm .impression 999 50000 = (1, 50000) ∧
    promotionCharge .cpm .impression 1000 50000 = (1, 0) ∧
    promotionCharge .cpl .contactExchange 1 5000 = (0, 0) := by decide

structure RecordSellerPromotionEvent where
  tenantId : TenantId
  campaignId : PromotionCampaignId
  actorPartyId : Option MarketplacePartyId
  /-- No type stands for a text that names none. -/
  eventType : Option PromotionEventType
  deduplicationKey : String
  occurredAt : OffsetDateTime
  deriving DecidableEq, Repr

def RecordSellerPromotionEvent.key (command : RecordSellerPromotionEvent) : PromotionEventKey :=
  ⟨command.tenantId, command.campaignId, command.deduplicationKey⟩

structure SellerPromotionEventOutcome where
  campaign : SellerPromotionCampaign
  duplicate : Bool
  chargedAmount : Int
  deriving DecidableEq

def sellerPromotionIn (campaignId : PromotionCampaignId) :
    Tx OfflineDatabase SellerPromotionCampaign := do
  require (.notFound "seller promotion campaign") ((← get).campaigns.lookup campaignId)

/-- The charge of a new event of an active campaign. -/
def chargeCampaign (command : RecordSellerPromotionEvent) (eventType : PromotionEventType)
    (campaign : SellerPromotionCampaign) : Tx OfflineDatabase SellerPromotionEventOutcome := do
  let (unitIncrement, calculatedCharge) :=
    promotionCharge campaign.pricingModel eventType campaign.billableUnits campaign.unitPrice
  let newUnits := campaign.billableUnits + unitIncrement
  if (i64Max : Int) < newUnits then
    throw (.invalidData "promotion event count overflow")
  let remaining := saturated (campaign.budgetAmount - campaign.spentAmount)
  let chargedAmount := max (min calculatedCharge remaining) 0
  let newSpent ← require (.invalidData "promotion spend overflow")
    (I128.ofInt? (campaign.spentAmount + chargedAmount))
  let _ ← OfflineDatabase.campaignTable.on (Table.update .sqlx command.campaignId
    (fun row => row.tenantId = command.tenantId)
    fun row => { row with
      spentAmount := newSpent.1
      billableUnits := newUnits
      status := if campaign.budgetAmount ≤ newSpent.1 then .exhausted else .active })
  OfflineDatabase.promotionTable.on (Table.insert .sqlx {
    key := command.key
    actorPartyId := command.actorPartyId
    eventType := eventType
    billableUnits := unitIncrement
    chargedAmount := chargedAmount
    currency := campaign.currency
    currencyScale := campaign.currencyScale
    occurredAt := timestamptz command.occurredAt })
  let charged ← sellerPromotionIn command.campaignId
  pure ⟨charged, false, chargedAmount⟩

def recordSellerPromotionEventIn (command : RecordSellerPromotionEvent)
    (eventType : PromotionEventType) (now : OffsetDateTime) :
    Tx OfflineDatabase (Answer SellerPromotionEventOutcome) := do
  let campaign ← sellerPromotionIn command.campaignId
  if campaign.tenantId ≠ command.tenantId then
    throw (.notFound "seller promotion campaign")
  match (← get).promotionEvents.lookup command.key with
  | some event => pure (.ok ⟨campaign, true, event.chargedAmount⟩)
  | none =>
      if campaign.status ≠ .active then
        pure (.error (.conflict "seller promotion campaign is not active"))
      else if now < campaign.startsAt then
        pure (.error (.conflict "seller promotion campaign has not started"))
      else if campaign.endsAt.any (· ≤ now) then
        let _ ← OfflineDatabase.campaignTable.on (Table.update .sqlx command.campaignId
          (fun row => row.tenantId = command.tenantId)
          fun row => { row with status := .expired })
        pure (.error (.conflict "seller promotion campaign has expired"))
      else
        let outcome ← chargeCampaign command eventType campaign
        pure (.ok outcome)

def validatePromotionEvent (command : RecordSellerPromotionEvent) :
    Except StorageError PromotionEventType := do
  let eventType ← match command.eventType with
    | some eventType => .ok eventType
    | none => .error (.invalidData "unsupported seller promotion event")
  if maxTrimmed 240 command.deduplicationKey = false then
    .error (.invalidData "promotion deduplication key is invalid")
  .ok eventType

/-- A refused event takes everything back. -/
def recordSellerPromotionEvent (command : RecordSellerPromotionEvent) (now : OffsetDateTime) :
    Tx OfflineDatabase SellerPromotionEventOutcome := do
  let eventType ← validatePromotionEvent command
  match ← recordSellerPromotionEventIn command eventType now with
  | .ok outcome => pure outcome
  | .error error => throw error

/-! ## Exposures -/

structure RecordExposure where
  tenantId : TenantId
  listingId : VehicleListingId
  viewerPartyId : Option MarketplacePartyId
  eventType : ExposureEventType
  source : String
  deduplicationKey : String
  occurredAt : OffsetDateTime
  deriving DecidableEq, Repr

def validateExposure (command : RecordExposure) : Except StorageError Unit :=
  if maxTrimmed 100 command.source = false ∨ maxTrimmed 200 command.deduplicationKey = false then
    .error (.invalidData "exposure source or deduplication key is invalid")
  else .ok ()

def ExposureEventType.promotion : ExposureEventType → PromotionEventType
  | impression => .impression
  | detailView | favorite => .click
  | inquiry => .qualifiedLead
  | matchedContact => .contactExchange

/-- The running campaigns of the listing of an exposure. -/
def promotedBy (db : OfflineDatabase) (command : RecordExposure) : List PromotionCampaignId :=
  let occurredAt := timestamptz command.occurredAt
  (db.campaigns.rows.filter fun campaign => campaign.tenantId = command.tenantId ∧
    campaign.targetKind = vehicleListingKind ∧
    campaign.targetKey = toString command.listingId ∧ campaign.status = .active ∧
    campaign.startsAt ≤ occurredAt ∧ campaign.endsAt.all (occurredAt < ·)).map
      SellerPromotionCampaign.id

def RecordExposure.promotionEvent (command : RecordExposure) (campaignId : PromotionCampaignId) :
    RecordSellerPromotionEvent where
  tenantId := command.tenantId
  campaignId := campaignId
  actorPartyId := command.viewerPartyId
  eventType := some command.eventType.promotion
  deduplicationKey := s!"exposure:{command.deduplicationKey}"
  occurredAt := command.occurredAt

/-- One campaign; a refusal of the event does not stop the others. -/
def billCampaign (command : RecordExposure) (clock : PromotionCampaignId → OffsetDateTime)
    (campaignId : PromotionCampaignId) : Tx OfflineDatabase PUnit := do
  match ← recordSellerPromotionEventIn (command.promotionEvent campaignId)
      command.eventType.promotion (clock campaignId) with
  | .ok _ => pure ()
  | .error (.conflict _) => pure ()
  | .error error => throw error

/-- The clock is read once for each campaign. -/
def billPromotionsForExposure (command : RecordExposure)
    (clock : PromotionCampaignId → OffsetDateTime) : Tx OfflineDatabase PUnit := do
  forM (promotedBy (← get) command) (billCampaign command clock)

def RecordExposure.row (command : RecordExposure) : SellerExposureEvent where
  key := ⟨command.tenantId, command.deduplicationKey⟩
  listingId := command.listingId
  viewerPartyId := command.viewerPartyId
  eventType := command.eventType
  source := command.source
  occurredAt := timestamptz command.occurredAt

/-- The clocks that are read while an exposure is billed. -/
structure BillingClock where
  listing : OffsetDateTime
  campaign : PromotionCampaignId → OffsetDateTime

/-- A clock is given where the exposure is billed. -/
def insertExposureWithBilling (command : RecordExposure) (bill : Option BillingClock) :
    Tx OfflineDatabase Bool := do
  validateExposure command
  let db ← get
  if bill.any (fun clock => (db.eligibleListing command.tenantId command.listingId
      clock.listing).isNone) then
    throw (.conflict "listing authorization is no longer active")
  let inserted ← OfflineDatabase.exposureTable.on (Table.insertOrIgnore .sqlx command.row)
  match inserted, bill with
  | true, some clock => billPromotionsForExposure command clock.campaign
  | _, _ => pure ()
  pure inserted

def insertExposure (command : RecordExposure) (clock : BillingClock) : Tx OfflineDatabase Bool :=
  insertExposureWithBilling command (some clock)

def insertExposureUnbilled (command : RecordExposure) : Tx OfflineDatabase Bool :=
  insertExposureWithBilling command none

def recordSellerExposure (command : RecordExposure) (clock : OffsetDateTime) :
    Tx OfflineDatabase Bool := do
  validateExposure command
  let listing := ((← get).listings.lookup command.listingId).filter fun listing =>
    listing.tenantId = command.tenantId ∧ listing.status = .active ∧
      listing.expiresAt.all (clock < ·)
  if listing.isNone then
    throw (.notFound "vehicle listing")
  insertExposureUnbilled command

/-- A request of an authenticated client. -/
structure ExposureRequest where
  tenantId : TenantId
  viewerPartyId : MarketplacePartyId
  listingId : VehicleListingId
  /-- No type stands for a text that names none. -/
  eventType : Option ExposureEventType
  deriving DecidableEq, Repr

def ExposureEventType.text : ExposureEventType → String
  | impression => "impression"
  | detailView => "detail_view"
  | favorite => "favorite"
  | inquiry => "inquiry"
  | matchedContact => "matched_contact"

/-- A viewer counts once a day for each listing and type. -/
def publicKey (request : ExposureRequest) (eventType : ExposureEventType) (now : OffsetDateTime) :
    String :=
  s!"public:{request.viewerPartyId}:{request.listingId}:{eventType.text}:{dateText now}"

def recordExposure (request : ExposureRequest) (now clock : OffsetDateTime) :
    Tx OfflineDatabase Bool := do
  let eventType ← require
    (.invalidData "public exposure endpoint accepts only detail_view or favorite")
    (request.eventType.filter fun eventType => eventType ∈ [.detailView, .favorite])
  ensurePartyRole request.tenantId request.viewerPartyId .buyer
  recordSellerExposure {
    tenantId := request.tenantId
    listingId := request.listingId
    viewerPartyId := some request.viewerPartyId
    eventType := eventType
    source := "buyer_client"
    deduplicationKey := publicKey request eventType now
    occurredAt := now } clock

end MatchPlane
