import MatchPlane.Offline.Frames

/-!
# Moves of the offline marketplace

Everything that the operations do to authorizations, listings, deals and campaigns, as
small moves with the guards they are made under.  A transaction makes a few of them
in a row; the invariants of the later modules only look at the moves.
-/

namespace MatchPlane

open MatchPlane.Library

/-! ## Rows -/

namespace OfflineDeal

variable (deal : OfflineDeal)

def consent (stamp : OffsetDateTime) : OfflineDeal :=
  { deal with sellerContactConsentAt := some stamp }

def release (paymentId : Option PaymentId) (stamp : OffsetDateTime) : OfflineDeal :=
  { deal with
    status := if deal.status = .proposed then .contactReleased else deal.status
    contactReleasedAt := deal.contactReleasedAt.or (some stamp)
    commissionPaymentId := paymentId.or deal.commissionPaymentId }

def price (command : ConfirmOfflineDeal) (commissionAmount : Int) (stamp : OffsetDateTime) :
    OfflineDeal :=
  { deal with
    finalAmount := some command.finalAmount
    commissionAmount := some commissionAmount
    sellerConfirmedAt := if deal.sellerPartyId = command.actorPartyId then some stamp
      else deal.sellerConfirmedAt
    buyerConfirmedAt := if deal.buyerPartyId = command.actorPartyId then some stamp
      else deal.buyerConfirmedAt
    status := .dealPending }

def complete (paymentId : Option PaymentId) (stamp : OffsetDateTime) : OfflineDeal :=
  { deal with
    status := .completed
    commissionPaymentId := paymentId
    completedAt := some stamp }

/-- The listing of the deal is live, and its seller is authorized. -/
def Eligible (db : OfflineDatabase) : Prop :=
  ∃ listing, db.listings.lookup deal.listingId = some listing ∧
    listing.tenantId = deal.tenantId ∧ listing.sellerPartyId = deal.sellerPartyId ∧
    listing.status.isLive = true ∧ db.authorized listing.authorizationKey = true

/-- The commission of the deal has been paid, or there is none to pay. -/
def Paid (db : OfflineDatabase) : Prop :=
  0 < deal.commissionAmount.getD 0 → (capturedCommissionPayment db deal).isSome

/-- The commission of the price that is named again has been paid, or there is none. -/
def PaidFor (db : OfflineDatabase) (amount : Int) : Prop :=
  deal.finalAmount.all (· = amount) ∧ ∃ commissionAmount,
    dealCommission amount deal.commissionBps = .ok commissionAmount ∧
    (commissionAmount = 0 ∨ (capturedCommissionPayment db deal).isSome)

end OfflineDeal

def VehicleListing.sell (listing : VehicleListing) : VehicleListing :=
  { listing with status := .sold }

namespace SellerPromotionCampaign

variable (campaign : SellerPromotionCampaign)

def unitsOf (eventType : PromotionEventType) : Int :=
  (promotionCharge campaign.pricingModel eventType campaign.billableUnits campaign.unitPrice).1

/-- The calculated charge, up to what is left of the budget. -/
def chargeOf (eventType : PromotionEventType) : Int :=
  max (min (promotionCharge campaign.pricingModel eventType campaign.billableUnits
    campaign.unitPrice).2 (saturated (campaign.budgetAmount - campaign.spentAmount))) 0

def charge (eventType : PromotionEventType) : SellerPromotionCampaign :=
  { campaign with
    spentAmount := campaign.spentAmount + campaign.chargeOf eventType
    billableUnits := campaign.billableUnits + campaign.unitsOf eventType
    status := if campaign.budgetAmount ≤ campaign.spentAmount + campaign.chargeOf eventType then
      .exhausted else .active }

end SellerPromotionCampaign

def RecordSellerPromotionEvent.row (command : RecordSellerPromotionEvent)
    (eventType : PromotionEventType) (campaign : SellerPromotionCampaign) :
    SellerPromotionEvent where
  key := command.key
  actorPartyId := command.actorPartyId
  eventType := eventType
  billableUnits := campaign.unitsOf eventType
  chargedAmount := campaign.chargeOf eventType
  currency := campaign.currency
  currencyScale := campaign.currencyScale
  occurredAt := timestamptz command.occurredAt

/-! ## Moves -/

/-- A move that a transaction for the action makes; the transaction started at `origin`. -/
inductive OfflineMove (action : OfflineAction) (origin : OfflineDatabase) :
    OfflineDatabase → OfflineDatabase → Prop
  /-- What is written here is never a guard of another move, payments apart. -/
  | aside (db : OfflineDatabase) (surroundings : OfflineSurroundings)
      (assets : Table vehicleAssets) (submissions : Table listingSubmissions)
      (requests : Table buyerVehicleRequests) (viewings : Table viewingAppointments)
      (dealEvents : List OfflineDealEvent) (audit : List ContactAccess)
      (exposures : Table sellerExposureEvents) :
      OfflineMove action origin db
        { db with
          surroundings := surroundings
          assets := assets
          submissions := submissions
          requests := requests
          viewings := viewings
          dealEvents := dealEvents
          audit := audit
          exposures := exposures }
  | granted (db : OfflineDatabase) (row : MarketplaceAssetAuthorization)
      (authorizations : Table assetAuthorizations) (hactive : row.active = true)
      (hstored : Table.Stored db.authorizations authorizations row) :
      OfflineMove action origin db { db with authorizations := authorizations }
  | revoked (db : OfflineDatabase) (row : MarketplaceAssetAuthorization)
      (authorizations : Table assetAuthorizations) (listings : Table vehicleListings)
      (command : SetMarketplaceAssetAuthorization)
      (haction : action = .setAuthorization command) (hkey : row.key = command.key)
      (hactive : row.active = false)
      (hstored : Table.Stored db.authorizations authorizations row)
      (hlistings : listings.rows = db.listings.rows.map (VehicleListing.afterRevocation row.key)) :
      OfflineMove action origin db
        { db with
          authorizations := authorizations
          listings := listings }
  | listed (db : OfflineDatabase) (listing : VehicleListing) (listings : Table vehicleListings)
      (hstatus : listing.status = .active)
      (hauthorized : db.authorized listing.authorizationKey = true)
      (hrows : listings.rows = db.listings.rows ++ [listing]) :
      OfflineMove action origin db { db with listings := listings }
  | introduced (db : OfflineDatabase) (command : CreateOfflineDeal) (pair : CompatiblePair)
      (matchReasons : List String) (commissionAmount : Int) (deals : Table offlineDeals)
      (hlisting : db.listings.lookup command.listingId = some pair.listing)
      (htenant : pair.listing.tenantId = command.tenantId)
      (hstatus : pair.listing.status = .active)
      (hrows : deals.rows =
        db.deals.rows ++ [command.row pair matchReasons commissionAmount]) :
      OfflineMove action origin db { db with deals := deals }
  | consented (db : OfflineDatabase) (deal : OfflineDeal) (deals : Table offlineDeals)
      (now stamp : OffsetDateTime)
      (haction : action =
        .acceptContact ⟨deal.tenantId, deal.id, deal.sellerPartyId⟩ now stamp)
      (haccepted : Library.succeeds (acceptContactExchange
        ⟨deal.tenantId, deal.id, deal.sellerPartyId⟩ now stamp) origin = true)
      (hconsent : deal.sellerContactConsentAt = none)
      (hwritten : Table.Written db.deals deals deal (deal.consent stamp)) :
      OfflineMove action origin db { db with deals := deals }
  | released (db : OfflineDatabase) (deal : OfflineDeal) (paymentId : Option PaymentId)
      (stamp : OffsetDateTime) (deals : Table offlineDeals)
      (heligible : deal.Eligible db) (hconsent : deal.sellerContactConsentAt ≠ none)
      (hwritten : Table.Written db.deals deals deal (deal.release paymentId stamp)) :
      OfflineMove action origin db { db with deals := deals }
  | viewed (db : OfflineDatabase) (deal : OfflineDeal) (status : OfflineDealStatus)
      (deals : Table offlineDeals)
      (hfrom : deal.status ∈ [.contactReleased, .viewingScheduled])
      (hto : status ∈ [.viewingScheduled, .negotiating])
      (hwritten : Table.Written db.deals deals deal { deal with status := status }) :
      OfflineMove action origin db { db with deals := deals }
  | priced (db : OfflineDatabase) (deal : OfflineDeal) (command : ConfirmOfflineDeal)
      (clock : DealClock) (commissionAmount : Int) (deals : Table offlineDeals)
      (haction : action = .confirm command clock)
      (haccepted : Library.succeeds (confirmOfflineDeal command clock) origin = true)
      (hid : command.offlineDealId = deal.id) (htenant : command.tenantId = deal.tenantId)
      (hactor : command.actorPartyId = deal.sellerPartyId ∨
        command.actorPartyId = deal.buyerPartyId)
      (hstatus : deal.status ≠ .completed) (heligible : deal.Eligible db)
      (hreleased : deal.contactReleasedAt ≠ none)
      (hsame : deal.finalAmount.all (· = command.finalAmount) = true)
      (hcommission : dealCommission command.finalAmount deal.commissionBps =
        .ok commissionAmount)
      (hwritten : Table.Written db.deals deals deal
        (deal.price command commissionAmount clock.stamp)) :
      OfflineMove action origin db { db with deals := deals }
  | completed (db : OfflineDatabase) (deal : OfflineDeal) (stamp : OffsetDateTime)
      (listing : VehicleListing) (written deals : Table offlineDeals)
      (listings : Table vehicleListings)
      (hstatus : deal.status ≠ .completed) (heligible : deal.Eligible db)
      (hseller : deal.sellerConfirmedAt.isSome) (hbuyer : deal.buyerConfirmedAt.isSome)
      (hpayments : db.surroundings = origin.surroundings)
      (hpaid : deal.Paid db ∨ ∃ amount, deal.PaidFor db amount)
      (hwritten : Table.Written db.deals written deal
        (deal.complete (capturedCommissionPayment db deal) stamp))
      (hdeals : deals.rows = written.rows.map deal.afterCompletion)
      (hlisting : listing.id = deal.listingId)
      (hlistings : Table.Written db.listings listings listing listing.sell) :
      OfflineMove action origin db
        { db with
          deals := deals
          listings := listings }
  | opened (db : OfflineDatabase) (campaign : SellerPromotionCampaign)
      (campaigns : Table sellerPromotionCampaigns) (hspent : campaign.spentAmount = 0)
      (hunits : campaign.billableUnits = 0)
      (hrows : campaigns.rows = db.campaigns.rows ++ [campaign]) :
      OfflineMove action origin db { db with campaigns := campaigns }
  | lapsed (db : OfflineDatabase) (campaign : SellerPromotionCampaign)
      (campaigns : Table sellerPromotionCampaigns) (hstatus : campaign.status = .active)
      (hwritten : Table.Written db.campaigns campaigns campaign
        { campaign with status := .expired }) :
      OfflineMove action origin db { db with campaigns := campaigns }
  | charged (db : OfflineDatabase) (campaign : SellerPromotionCampaign)
      (command : RecordSellerPromotionEvent) (eventType : PromotionEventType)
      (campaigns : Table sellerPromotionCampaigns)
      (promotionEvents : Table sellerPromotionEvents)
      (hstatus : campaign.status = .active) (hid : command.campaignId = campaign.id)
      (htenant : command.tenantId = campaign.tenantId)
      (hwritten : Table.Written db.campaigns campaigns campaign (campaign.charge eventType))
      (hrows : promotionEvents.rows =
        db.promotionEvents.rows ++ [command.row eventType campaign]) :
      OfflineMove action origin db
        { db with
          campaigns := campaigns
          promotionEvents := promotionEvents }

abbrev OfflineMoves (action : OfflineAction) (origin : OfflineDatabase) :
    OfflineDatabase → OfflineDatabase → Prop :=
  Relation.ReflTransGen (OfflineMove action origin)

theorem I128.val_of_ofInt? {value : Int} {register : I128}
    (h : I128.ofInt? value = some register) : register.1 = value := by
  unfold I128.ofInt? at h
  split at h
  · cases h
    rfl
  · cases h

/-! ## Promotions -/

section Promotions

variable {action : OfflineAction} {origin : OfflineDatabase}

theorem ensures_ensurePartyRole {db : OfflineDatabase} {tenantId : TenantId}
    {partyId : MarketplacePartyId} {requiredRole : PartyRole}
    {post : Unit → OfflineDatabase → Prop} (h : post () db) :
    Ensures (ensurePartyRole tenantId partyId requiredRole) whatever db post := by
  simp only [ensurePartyRole, ensures_bind, ensures_get, ensures_require, ensures_check]
  exact ⟨fun _ => trivial, fun _ _ => ⟨fun _ => trivial, fun _ => h⟩⟩

theorem ensures_ensurePartyActive {db : OfflineDatabase} {tenantId : TenantId}
    {partyId : MarketplacePartyId} {post : Unit → OfflineDatabase → Prop}
    (h : (db.surroundings.activeParty tenantId partyId).isSome → post () db) :
    Ensures (ensurePartyActive tenantId partyId) whatever db post := by
  simp only [ensurePartyActive, ensures_bind, ensures_get, ensures_check]
  refine ⟨fun _ => trivial, fun hsome => h ?_⟩
  rwa [Bool.not_eq_true, Option.isNone_eq_false_iff] at hsome

theorem ensures_chargeCampaign {db : OfflineDatabase} {command : RecordSellerPromotionEvent}
    {eventType : PromotionEventType} {campaign : SellerPromotionCampaign}
    (hcampaign : db.campaigns.lookup command.campaignId = some campaign)
    (htenant : campaign.tenantId = command.tenantId) (hstatus : campaign.status = .active) :
    Ensures (chargeCampaign command eventType campaign) whatever db fun _ db' =>
      OfflineMoves action origin db db' := by
  have hid : campaign.id = command.campaignId := Table.key_of_lookup hcampaign
  unfold chargeCampaign
  rw [ensures_ite]
  refine ⟨fun _ => trivial, fun _ => ?_⟩
  rw [ensures_bind, ensures_require]
  refine ⟨fun _ => trivial, fun newSpent hspent => ?_⟩
  have hnew : newSpent.1 = campaign.spentAmount + campaign.chargeOf eventType :=
    I128.val_of_ofInt? hspent
  rw [ensures_bind, ensures_on]
  refine Table.ensures_update_cases (fun _ => rfl) trivial (fun hmissed => ?_) ?_
  · exact absurd hmissed (by simp [OfflineDatabase.campaignTable, hcampaign, htenant])
  · intro row campaigns hrow _ hwritten
    have hsame : row = campaign := Option.some.inj (hrow.symm.trans hcampaign)
    subst hsame
    rw [ensures_bind, ensures_on]
    refine Table.ensures_insert trivial fun promotionEvents hrows => ?_
    simp only [sellerPromotionIn, ensures_bind, ensures_get, ensures_require, ensures_pure]
    refine ⟨fun _ => trivial, fun _ _ => .single ?_⟩
    refine .charged db row command eventType campaigns promotionEvents hstatus hid.symm
      htenant.symm ?_ hrows
    rw [hnew] at hwritten
    exact hwritten

theorem follows_recordSellerPromotionEventIn (command : RecordSellerPromotionEvent)
    (eventType : PromotionEventType) (now : OffsetDateTime) :
    Follows (OfflineMove action origin) (recordSellerPromotionEventIn command eventType now) := by
  intro db
  unfold recordSellerPromotionEventIn
  simp only [sellerPromotionIn, ensures_bind, ensures_get, ensures_require]
  refine ⟨fun _ => trivial, fun campaign hcampaign => ?_⟩
  rw [ensures_ite]
  refine ⟨fun _ => trivial, fun htenant => ?_⟩
  rw [not_not] at htenant
  rw [ensures_bind, ensures_get]
  split
  · exact .refl
  · iterate 2
      rw [ensures_ite]
      refine ⟨fun _ => .refl, fun _ => ?_⟩
    rename_i hactive _
    rw [not_not] at hactive
    rw [ensures_ite]
    refine ⟨fun _ => ?_, fun _ => ?_⟩
    · rw [ensures_bind, ensures_on]
      refine Table.ensures_update_cases (fun _ => rfl) trivial (fun _ => .refl) ?_
      intro row campaigns hrow _ hwritten
      have hsame : row = campaign := Option.some.inj (hrow.symm.trans hcampaign)
      subst hsame
      exact .single (.lapsed db row campaigns hactive hwritten)
    · rw [ensures_bind]
      exact ensures_chargeCampaign hcampaign htenant hactive

theorem follows_billPromotionsForExposure (command : RecordExposure)
    (clock : PromotionCampaignId → OffsetDateTime) :
    Follows (OfflineMove action origin) (billPromotionsForExposure command clock) := by
  refine keeps_get.follows.bind fun _ => follows_forM fun campaignId => ?_
  refine (follows_recordSellerPromotionEventIn _ _ _).bind fun answer => ?_
  split
  · exact (keeps_pure _).follows
  · exact (keeps_pure _).follows
  · exact (keeps_throw _).follows

theorem follows_recordSellerPromotionEvent (command : RecordSellerPromotionEvent)
    (now : OffsetDateTime) :
    Follows (OfflineMove action origin) (recordSellerPromotionEvent command now) := by
  refine (keeps_lift _).follows.bind fun eventType => ?_
  refine (follows_recordSellerPromotionEventIn _ _ _).bind fun answer => ?_
  split
  · exact (keeps_pure _).follows
  · exact (keeps_throw _).follows

theorem follows_insertExposureWithBilling (command : RecordExposure)
    (bill : Option BillingClock) :
    Follows (OfflineMove action origin) (insertExposureWithBilling command bill) := by
  refine (keeps_lift _).follows.bind fun _ => keeps_get.follows.bind fun _ => ?_
  refine (keeps_throw _).follows.ite ?_
  refine (follows_on fun _ db => .aside db _ _ _ _ _ _ _ _).bind fun inserted => ?_
  split
  · exact (follows_billPromotionsForExposure _ _).bind fun _ => (keeps_pure _).follows
  · exact (keeps_pure _).follows

theorem follows_recordExposure (request : ExposureRequest) (now clock : OffsetDateTime) :
    Follows (OfflineMove action origin) (recordExposure request now clock) := by
  refine (keeps_require _ _).follows.bind fun _ => ?_
  refine (keeps_ensurePartyRole _ _ _).follows.bind fun _ => (keeps_lift _).follows.bind fun _ => ?_
  refine keeps_get.follows.bind fun _ => (keeps_throw _).follows.ite ?_
  exact follows_insertExposureWithBilling _ none

theorem follows_billRecommendations (command : RecommendVehicleListings)
    (recommendations : List RecommendedListing) (now : VehicleListingId → OffsetDateTime)
    (clock : VehicleListingId → BillingClock) :
    Follows (OfflineMove action origin)
      (billRecommendations command recommendations now clock) := by
  refine follows_forM fun recommendation => ?_
  exact (follows_insertExposureWithBilling _ (some _)).bind fun _ => (keeps_pure _).follows

theorem follows_createSellerPromotion [Jsonb] [UuidParser] (command : CreateSellerPromotion) :
    Follows (OfflineMove action origin) (createSellerPromotion command) := by
  have howner : Keeps id (ensurePromotionOwner command) := by
    refine Keeps.ite ?_ (keeps_pure _)
    refine (keeps_require _ _).bind fun _ => keeps_get.bind fun _ => ?_
    exact (keeps_require _ _).bind fun _ => (keeps_throw _).ite (keeps_pure _)
  refine (keeps_lift _).follows.bind fun _ => ?_
  refine (keeps_ensurePartyRole _ _ _).follows.bind fun _ => howner.follows.bind fun _ => ?_
  refine Follows.bind ?_ fun _ => (keeps_pure _).follows
  intro db
  rw [ensures_on]
  exact Table.ensures_insert trivial fun campaigns hrows =>
    .single (.opened db _ campaigns rfl rfl hrows)

end Promotions

/-! ## Listings -/

section Listings

variable {action : OfflineAction} {origin : OfflineDatabase}

theorem ensures_listingPolicy {db : OfflineDatabase} {tenantId : TenantId} {domainId : DomainId}
    {currency : String} {currencyScale : Int} {post : CommissionPolicy → OfflineDatabase → Prop}
    (h : ∀ policy, post policy db) :
    Ensures (listingPolicy tenantId domainId currency currencyScale) whatever db post := by
  unfold listingPolicy
  rw [ensures_bind, ensures_get, ensures_bind, ensures_require]
  refine ⟨fun _ => trivial, fun policy _ => ?_⟩
  rw [ensures_ite]
  exact ⟨fun _ => trivial, fun _ => h policy⟩

/-- The grant is stored, and a revocation withdraws the listings under it. -/
theorem ensures_setMarketplaceAssetAuthorization {db : OfflineDatabase}
    (command : SetMarketplaceAssetAuthorization) :
    Ensures (setMarketplaceAssetAuthorization command) whatever db fun _ db' =>
      OfflineMoves (.setAuthorization command) origin db db' := by
  let row : MarketplaceAssetAuthorization :=
    ⟨command.key, command.enabled, command.authorizedBy, command.reason⟩
  -- Both ways of storing the grant go on alike.
  have hrest : ∀ authorizations, Table.Stored db.authorizations authorizations row →
      Ensures (if command.enabled = false then do
          OfflineDatabase.listingTable.on
            (Table.updateAll .sqlx (VehicleListing.afterRevocation command.key))
          pure row
        else pure row : Tx OfflineDatabase MarketplaceAssetAuthorization) whatever
        { db with authorizations := authorizations } fun _ db' =>
          OfflineMoves (.setAuthorization command) origin db db' := by
    intro authorizations hstored
    rw [ensures_ite]
    refine ⟨fun hrevoked => ?_, fun hgranted => ?_⟩
    · rw [ensures_bind, ensures_on]
      refine Table.ensures_updateAll_rows trivial fun listings hrows => ?_
      exact .single (.revoked db row authorizations listings command rfl rfl hrevoked hstored hrows)
    · exact .single (.granted db row authorizations (by simpa using hgranted) hstored)
  unfold setMarketplaceAssetAuthorization
  rw [ensures_bind]
  refine ensures_liftAny fun _ _ => ?_
  rw [ensures_bind]
  refine ensures_ensurePartyRole ?_
  rw [ensures_bind, ensures_get, ensures_ite]
  refine ⟨fun _ => trivial, fun _ => ?_⟩
  rw [ensures_bind, ensures_on]
  refine Table.ensures_update_cases (fun _ => rfl) trivial (fun _ => ?_) ?_
  · simp only [Option.isNone_none, if_true, ensures_bind, ensures_on]
    refine Table.ensures_insert trivial fun authorizations hrows => ?_
    exact hrest authorizations (Table.stored_of_inserted hrows)
  · intro old authorizations hold _ hwritten
    have hkey : old.key = command.key := Table.key_of_lookup hold
    rw [hkey] at hwritten
    exact hrest authorizations (hwritten.isStored hkey.symm)

theorem ensures_createVehicleListing {db : OfflineDatabase} (command : CreateVehicleListing)
    (stamp : OffsetDateTime) :
    Ensures (createVehicleListing command stamp) whatever db fun _ db' =>
      OfflineMoves action origin db db' := by
  unfold createVehicleListing
  rw [ensures_ite]
  refine ⟨fun _ => trivial, fun _ => ?_⟩
  rw [ensures_bind]
  refine ensures_ensurePartyRole ?_
  rw [ensures_bind, ensures_get, ensures_ite]
  refine ⟨fun _ => trivial, fun hauthorized => ?_⟩
  rw [Bool.not_eq_false] at hauthorized
  rw [ensures_bind]
  refine ensures_listingPolicy fun policy => ?_
  rw [ensures_bind, ensures_on]
  refine Table.ensures_insert trivial fun listings hrows => .single ?_
  refine .listed db _ listings ?_ ?_ hrows
  · rfl
  · exact hauthorized

theorem ensures_approveMarketplaceListingSubmission {db : OfflineDatabase}
    (command : ApproveMarketplaceListingSubmission) (assetId : AssetId)
    (listingId : VehicleListingId) (stamp : OffsetDateTime) :
    Ensures (approveMarketplaceListingSubmission command assetId listingId stamp) whatever db
      fun _ db' => OfflineMoves action origin db db' := by
  unfold approveMarketplaceListingSubmission
  rw [ensures_bind]
  refine ensures_liftAny fun _ _ => ?_
  rw [ensures_bind, ensures_get, ensures_bind, ensures_require]
  refine ⟨fun _ => trivial, fun submission _ => ?_⟩
  rw [ensures_ite]
  refine ⟨fun _ => trivial, fun _ => ?_⟩
  rw [ensures_bind, ensures_on]
  refine Table.ensures_insert trivial fun assets _ => ?_
  rw [ensures_bind, ensures_on]
  refine Table.ensures_insert trivial fun authorizations hrows => ?_
  rw [ensures_bind]
  refine ensures_listingPolicy fun policy => ?_
  rw [ensures_bind, ensures_on]
  refine Table.ensures_insert trivial fun listings hlistings => ?_
  rw [ensures_bind, ensures_on]
  -- The asset, the grant, the listing under it, and the mark of the submission.
  let withAsset := OfflineDatabase.assetTable.put assets db
  let withGrant := OfflineDatabase.authorizationTable.put authorizations withAsset
  let withListing := OfflineDatabase.listingTable.put listings withGrant
  have hasset : OfflineMove action origin db withAsset := .aside db _ _ _ _ _ _ _ _
  have hstored := Table.stored_of_inserted hrows
  have hgranted : OfflineMove action origin withAsset withGrant :=
    .granted _ _ authorizations rfl hstored
  have hlisted : OfflineMove action origin withGrant withListing := by
    refine .listed _ _ listings ?_ ?_ hlistings
    · rfl
    · exact (congrArg (Option.any _) ((hstored _).trans (if_pos rfl))).trans rfl
  refine (ensures_true _ _).mono (fun _ h => h) fun _ submissions _ => ?_
  exact (((Relation.ReflTransGen.single hasset).tail hgranted).tail hlisted).tail
    (.aside withListing _ _ _ _ _ _ _ _)

theorem follows_createBuyerVehicleRequest [Jsonb] (command : CreateBuyerVehicleRequest) :
    Follows (OfflineMove action origin) (createBuyerVehicleRequest command) := by
  refine (keeps_throw _).follows.ite ((keeps_throw _).follows.ite ?_)
  refine (keeps_ensurePartyRole _ _ _).follows.bind fun _ => ?_
  exact (follows_on fun _ db => .aside db _ _ _ _ _ _ _ _).bind fun _ => (keeps_pure _).follows

end Listings

/-! ## Deals -/

section Statements

variable {db : OfflineDatabase} {offlineDealId : OfflineDealId} {deal : OfflineDeal}

theorem ensures_offlineDealIn {post : OfflineDeal → OfflineDatabase → Prop}
    (h : ∀ deal, db.deals.lookup offlineDealId = some deal → post deal db) :
    Ensures (offlineDealIn offlineDealId) whatever db post := by
  simp only [offlineDealIn, ensures_bind, ensures_get, ensures_require]
  exact ⟨fun _ => trivial, h⟩

theorem follows_noteDealEvent {action : OfflineAction} {origin : OfflineDatabase}
    (event : OfflineDealEvent) : Follows (OfflineMove action origin) (noteDealEvent event) :=
  follows_on fun _ db => .aside db _ _ _ _ _ _ _ _

theorem ensures_noteDealEvent {event : OfflineDealEvent} {post : PUnit → OfflineDatabase → Prop}
    (h : post ⟨⟩ { db with dealEvents := db.dealEvents ++ [event] }) :
    Ensures (noteDealEvent event) whatever db post := by
  unfold noteDealEvent
  rw [ensures_on, ensures_push]
  exact h

theorem ensures_updateDeal {guard : OfflineDeal → Bool} {set : OfflineDeal → OfflineDeal}
    {post : PUnit → OfflineDatabase → Prop} (hset : ∀ other, (set other).id = other.id)
    (hmissed : (db.deals.lookup offlineDealId).filter guard = none → post ⟨⟩ db)
    (hwritten : ∀ deal deals, db.deals.lookup offlineDealId = some deal → guard deal = true →
      Table.Written db.deals deals deal (set deal) → post ⟨⟩ { db with deals := deals }) :
    Ensures (updateDeal offlineDealId guard set) whatever db post := by
  unfold updateDeal
  rw [ensures_bind, ensures_on]
  exact Table.ensures_update_cases hset trivial hmissed hwritten

/-- The update of a deal that is known to satisfy its guard. -/
theorem ensures_updateDeal_of_lookup {guard : OfflineDeal → Bool}
    {set : OfflineDeal → OfflineDeal} {post : PUnit → OfflineDatabase → Prop}
    (hset : ∀ other, (set other).id = other.id)
    (hdeal : db.deals.lookup offlineDealId = some deal) (hguard : guard deal = true)
    (h : ∀ deals, Table.Written db.deals deals deal (set deal) →
      post ⟨⟩ { db with deals := deals }) :
    Ensures (updateDeal offlineDealId guard set) whatever db post := by
  refine ensures_updateDeal hset (fun hmissed => ?_) fun row deals hrow _ hwritten => ?_
  · simp [hdeal, hguard] at hmissed
  · have hsame : row = deal := Option.some.inj (hrow.symm.trans hdeal)
    subst hsame
    exact h deals hwritten

theorem ensures_ensureListingAuthorized {clock : OffsetDateTime}
    {post : PUnit → OfflineDatabase → Prop} (h : deal.Eligible db → post ⟨⟩ db) :
    Ensures (ensureListingAuthorized deal clock) whatever db post := by
  simp only [ensureListingAuthorized, ensures_bind, ensures_get, ensures_check]
  refine ⟨fun _ => trivial, fun hsome => h ?_⟩
  rw [Bool.not_eq_true, Option.isNone_eq_false_iff, Option.isSome_iff_exists] at hsome
  obtain ⟨listing, hlisting⟩ := hsome
  simp only [OfflineDatabase.eligibleListing, Option.filter_eq_some_iff, decide_eq_true_eq]
    at hlisting
  obtain ⟨⟨hlookup, htenant, hlive, _, hauthorized⟩, hseller⟩ := hlisting
  exact ⟨listing, hlookup, htenant, hseller, hlive, hauthorized⟩

theorem ensures_validateDealParticipant {tenantId : TenantId}
    {actorPartyId : MarketplacePartyId} {post : Unit → OfflineDatabase → Prop}
    (h : deal.tenantId = tenantId →
      actorPartyId = deal.sellerPartyId ∨ actorPartyId = deal.buyerPartyId → post () db) :
    Ensures (validateDealParticipant deal tenantId actorPartyId) whatever db post := by
  unfold validateDealParticipant
  iterate 2
    rw [ensures_ite]
    refine ⟨fun _ => trivial, fun _ => ?_⟩
  rename_i htenant hactor
  exact ensures_ensurePartyActive fun _ => h (not_not.mp htenant) (by tauto)

end Statements

section Deals

theorem listing_of_compatiblePair {db : OfflineDatabase} {command : CreateOfflineDeal}
    {clock : OffsetDateTime} {pair : CompatiblePair}
    (h : compatiblePair db command clock = some pair) :
    db.listings.lookup command.listingId = some pair.listing ∧
      pair.listing.tenantId = command.tenantId ∧ pair.listing.status = .active := by
  simp only [compatiblePair, Option.bind_eq_bind, Option.bind_eq_some_iff] at h
  obtain ⟨listing, hlisting, asset, _, request, _, h⟩ := h
  split at h
  · rename_i hcompatible
    cases h
    exact ⟨hlisting, hcompatible.1, hcompatible.2.2.2.2.2.1⟩
  · cases h

variable {action : OfflineAction} {origin : OfflineDatabase}

/-- A deal that is moved along by its viewings. -/
theorem follows_viewed {guard : OfflineDeal → Bool} {status : OfflineDealStatus}
    (offlineDealId : OfflineDealId)
    (hguard : ∀ row, guard row = true → row.status ∈ [.contactReleased, .viewingScheduled])
    (hstatus : status ∈ [OfflineDealStatus.viewingScheduled, .negotiating]) :
    Follows (OfflineMove action origin)
      (updateDeal offlineDealId guard fun row => { row with status := status }) := by
  intro db
  refine ensures_updateDeal (fun _ => rfl) (fun _ => .refl) fun row deals _ hrow hwritten => ?_
  exact .single (.viewed db row status deals (hguard row hrow) hstatus hwritten)

theorem ensures_introduce {db : OfflineDatabase} {command : CreateOfflineDeal}
    {pair : CompatiblePair} {matchReasons : List String} {now : OffsetDateTime}
    {clock : BillingClock} (hlisting : db.listings.lookup command.listingId = some pair.listing)
    (htenant : pair.listing.tenantId = command.tenantId)
    (hstatus : pair.listing.status = .active) :
    Ensures (introduce command pair matchReasons now clock) whatever db fun _ db' =>
      OfflineMoves action origin db db' := by
  unfold introduce
  rw [ensures_bind]
  refine ensures_liftAny fun commissionAmount _ => ?_
  rw [ensures_bind, ensures_on]
  refine Table.ensures_insert trivial fun deals hrows => ?_
  have hintroduced : OfflineMove action origin db (OfflineDatabase.dealTable.put deals db) :=
    .introduced db command pair matchReasons commissionAmount deals hlisting htenant hstatus hrows
  rw [ensures_bind]
  refine Follows.after (.single hintroduced) (follows_noteDealEvent _) fun _ noted hnoted => ?_
  rw [ensures_bind]
  refine Follows.after hnoted (follows_insertExposureWithBilling _ (some clock)) ?_
  intro _ billed hbilled
  rw [ensures_bind]
  refine Follows.after hbilled (follows_on fun _ db => .aside db _ _ _ _ _ _ _ _) ?_
  intro _ matched hmatched
  rw [ensures_bind]
  exact ensures_offlineDealIn fun _ _ => hmatched

theorem ensures_createOfflineDeal {db : OfflineDatabase} (command : CreateOfflineDeal)
    (now : OffsetDateTime) (clock : BillingClock) :
    Ensures (createOfflineDeal command now clock) whatever db fun _ db' =>
      OfflineMoves action origin db db' := by
  unfold createOfflineDeal
  rw [ensures_ite]
  refine ⟨fun _ => trivial, fun _ => ?_⟩
  rw [ensures_bind]
  refine ensures_ensurePartyRole ?_
  rw [ensures_bind, ensures_get]
  split
  · rw [ensures_ite]
    exact ⟨fun _ => trivial, fun _ => .refl⟩
  · rw [ensures_bind, ensures_require]
    refine ⟨fun _ => trivial, fun pair hpair => ?_⟩
    iterate 3
      rw [ensures_ite]
      refine ⟨fun _ => trivial, fun _ => ?_⟩
    rw [ensures_bind, ensures_require]
    refine ⟨fun _ => trivial, fun matchReasons _ => ?_⟩
    obtain ⟨hlisting, htenant, hstatus⟩ := listing_of_compatiblePair hpair
    exact ensures_introduce hlisting htenant hstatus

theorem ensures_acceptContactExchange {db : OfflineDatabase} {command : AcceptContactExchange}
    {now stamp : OffsetDateTime}
    (haccepted : Library.succeeds (acceptContactExchange command now stamp) db = true) :
    Ensures (acceptContactExchange command now stamp) whatever db fun _ db' =>
      OfflineMoves (.acceptContact command now stamp) db db db' := by
  unfold acceptContactExchange
  rw [ensures_bind]
  refine ensures_offlineDealIn fun deal hdeal => ?_
  iterate 2
    rw [ensures_ite]
    refine ⟨fun _ => trivial, fun _ => ?_⟩
  rename_i htenant hseller
  rw [not_not] at htenant hseller
  rw [ensures_bind]
  refine ensures_ensurePartyRole ?_
  rw [ensures_ite]
  refine ⟨fun _ => trivial, fun _ => ?_⟩
  rw [ensures_ite]
  refine ⟨fun hconsent => ?_, fun _ => ?_⟩
  · have hid : deal.id = command.offlineDealId := Table.key_of_lookup hdeal
    have hcommand : command = ⟨deal.tenantId, deal.id, deal.sellerPartyId⟩ := by
      rw [htenant, hid, hseller]
    rw [ensures_bind]
    refine ensures_updateDeal_of_lookup (fun _ => rfl) hdeal (by simp [htenant, hconsent]) ?_
    intro deals hwritten
    rw [hcommand] at haccepted
    have hconsented : OfflineMove (.acceptContact command now stamp) db db
        { db with deals := deals } :=
      .consented db deal deals now stamp (by rw [hcommand]) haccepted hconsent hwritten
    rw [ensures_bind]
    refine Follows.after (.single hconsented) (follows_noteDealEvent _) fun _ noted hnoted => ?_
    exact ensures_offlineDealIn fun _ _ => hnoted
  · exact ensures_offlineDealIn fun _ _ => .refl

/-- The first guards of a viewing, and the marks that it leaves. -/
theorem ensures_createViewingAppointment {db : OfflineDatabase}
    (command : CreateViewingAppointment) (start now : OffsetDateTime) :
    Ensures (createViewingAppointment command start now) whatever db fun _ db' =>
      OfflineMoves action origin db db' := by
  unfold createViewingAppointment
  iterate 2
    rw [ensures_ite]
    refine ⟨fun _ => trivial, fun _ => ?_⟩
  rw [ensures_bind]
  refine ensures_offlineDealIn fun deal hdeal => ?_
  rw [ensures_bind]
  refine ensures_validateDealParticipant fun _ _ => ?_
  iterate 3
    rw [ensures_ite]
    refine ⟨fun _ => trivial, fun _ => ?_⟩
  rw [ensures_bind, ensures_get, ensures_ite]
  refine ⟨fun _ => trivial, fun _ => ?_⟩
  rw [ensures_bind]
  refine Follows.after (.refl : OfflineMoves action origin db db)
    (follows_on fun _ db => .aside db _ _ _ _ _ _ _ _) fun _ proposed hproposed => ?_
  rw [ensures_bind]
  refine Follows.after hproposed (follows_viewed _ (fun row hrow => ?_) ?_)
    fun _ scheduled hscheduled => ?_
  · simp_all
  · simp
  · rw [ensures_bind]
    exact Follows.after hscheduled (follows_noteDealEvent _) fun _ _ hnoted => hnoted

theorem ensures_transitionViewingAppointment {db : OfflineDatabase}
    (command : TransitionViewingAppointment) (now : OffsetDateTime) :
    Ensures (transitionViewingAppointment command now) whatever db fun _ db' =>
      OfflineMoves action origin db db' := by
  unfold transitionViewingAppointment
  rw [ensures_bind, ensures_get, ensures_bind, ensures_require]
  refine ⟨fun _ => trivial, fun current _ => ?_⟩
  rw [ensures_ite]
  refine ⟨fun _ => trivial, fun _ => ?_⟩
  rw [ensures_bind]
  refine ensures_offlineDealIn fun deal hdeal => ?_
  rw [ensures_bind]
  refine ensures_validateDealParticipant fun _ _ => ?_
  rw [ensures_ite]
  refine ⟨fun _ => trivial, fun _ => ?_⟩
  rw [ensures_bind, ensures_require]
  refine ⟨fun _ => trivial, fun target _ => ?_⟩
  rw [ensures_bind]
  refine Follows.after (.refl : OfflineMoves action origin db db)
    (follows_on fun _ db => .aside db _ _ _ _ _ _ _ _) fun updated viewed hviewed => ?_
  have hrest : ∀ reached, OfflineMoves action origin db reached →
      Ensures (do
        noteDealEvent {
          tenantId := command.tenantId
          offlineDealId := current.offlineDealId
          actorPartyId := command.actorPartyId
          eventType := .viewing target command.viewingId
          fromStatus := none
          toStatus := none }
        require (.notFound "viewing appointment") updated : Tx OfflineDatabase ViewingAppointment)
        whatever reached fun _ db' => OfflineMoves action origin db db' := by
    intro reached hreached
    rw [ensures_bind]
    refine Follows.after hreached (follows_noteDealEvent _) fun _ noted hnoted => ?_
    rw [ensures_require]
    exact ⟨fun _ => trivial, fun _ _ => hnoted⟩
  rw [ensures_ite]
  refine ⟨fun _ => ?_, fun _ => hrest viewed hviewed⟩
  rw [ensures_bind]
  refine Follows.after hviewed (follows_viewed _ (fun row hrow => ?_) ?_) fun _ reached hreached => ?_
  · simp_all
  · simp
  · exact hrest reached hreached

theorem ensures_completeOfflineDealIn {start db : OfflineDatabase} {deal : OfflineDeal}
    {actorPartyId : MarketplacePartyId} {now stamp : OffsetDateTime}
    (hsofar : OfflineMoves action origin start db)
    (hdeal : db.deals.lookup deal.id = some deal) (hstatus : deal.status ≠ .completed)
    (heligible : deal.Eligible db) (hseller : deal.sellerConfirmedAt.isSome)
    (hbuyer : deal.buyerConfirmedAt.isSome)
    (hpayments : db.surroundings = origin.surroundings)
    (hpaid : deal.Paid db ∨ ∃ amount, deal.PaidFor db amount) :
    Ensures (completeOfflineDealIn deal actorPartyId (capturedCommissionPayment db deal) now stamp)
      whatever db fun _ db' => OfflineMoves action origin start db' := by
  obtain ⟨listing, hlisting, htenant, _⟩ := heligible
  unfold completeOfflineDealIn
  rw [ensures_ite]
  refine ⟨fun _ => trivial, fun _ => ?_⟩
  rw [ensures_bind]
  refine ensures_updateDeal_of_lookup (fun _ => rfl) hdeal rfl fun written hwritten => ?_
  rw [ensures_bind, ensures_on]
  refine Table.ensures_update_cases (fun _ => rfl) trivial (fun hmissed => ?_) ?_
  · simp [OfflineDatabase.listingTable, hlisting, htenant] at hmissed
  · intro row listings hrow _ hlistings
    have hsame : row = listing := Option.some.inj (hrow.symm.trans hlisting)
    subst hsame
    rw [ensures_bind, ensures_on]
    refine (ensures_true _ _).mono (fun _ h => h) fun _ requests _ => ?_
    rw [ensures_bind, ensures_on]
    refine Table.ensures_updateAll_rows trivial fun deals hdeals => ?_
    let sold : OfflineDatabase := { db with
      deals := deals
      listings := listings }
    have hcompleted : OfflineMove action origin db sold :=
      .completed db deal stamp row written deals listings hstatus ⟨row, hlisting, htenant, ‹_›⟩
        hseller hbuyer hpayments hpaid hwritten hdeals (Table.key_of_lookup hlisting) hlistings
    have hclosed : OfflineMove action origin sold { sold with requests := requests } :=
      .aside sold _ _ _ requests _ _ _ _
    exact Follows.after ((hsofar.tail hcompleted).tail hclosed) (follows_noteDealEvent _)
      fun _ _ hnoted => hnoted

theorem ensures_finalizeOfflineDeal {db : OfflineDatabase} (command : FinalizeOfflineDeal)
    (clock : DealClock) :
    Ensures (finalizeOfflineDeal command clock) whatever db fun _ db' =>
      OfflineMoves action db db db' := by
  unfold finalizeOfflineDeal
  rw [ensures_bind]
  refine ensures_offlineDealIn fun deal hdeal => ?_
  have hid : deal.id = command.offlineDealId := Table.key_of_lookup hdeal
  rw [ensures_bind]
  refine ensures_validateDealParticipant fun _ _ => ?_
  rw [ensures_ite]
  refine ⟨fun _ => .refl, fun hstatus => ?_⟩
  rw [ensures_ite]
  refine ⟨fun _ => trivial, fun _ => ?_⟩
  rw [ensures_bind]
  refine ensures_ensureListingAuthorized fun heligible => ?_
  rw [ensures_ite]
  refine ⟨fun _ => trivial, fun hconfirmed => ?_⟩
  rw [ensures_bind, ensures_get, ensures_ite]
  refine ⟨fun _ => .refl, fun hpaid => ?_⟩
  rw [ensures_bind]
  rw [← hid] at hdeal
  simp only [not_or, ← ne_eq, Option.ne_none_iff_isSome] at hconfirmed
  have hcommission : deal.Paid db := by
    intro hpositive
    rw [← Option.ne_none_iff_isSome]
    simpa [hpositive] using hpaid
  refine Ensures.mono (ensures_completeOfflineDealIn (.refl : OfflineMoves action db db db)
    hdeal hstatus heligible hconfirmed.1 hconfirmed.2.1 rfl (.inl hcommission)) (fun _ h => h) ?_
  intro _ completed hmoved
  rw [ensures_bind]
  exact ensures_offlineDealIn fun _ _ => hmoved

/-- The end of a confirmation, once the price has been named. -/
theorem ensures_confirmed {start db : OfflineDatabase} {command : ConfirmOfflineDeal}
    {clock : DealClock} {commissionAmount : Int}
    (hsofar : OfflineMoves action origin start db)
    (hpayments : db.surroundings = origin.surroundings)
    (hconfirmed : ∀ confirmed, db.deals.lookup command.offlineDealId = some confirmed →
      confirmed.status ≠ .completed ∧ confirmed.Eligible db ∧
        confirmed.finalAmount.all (· = command.finalAmount) = true ∧
        dealCommission command.finalAmount confirmed.commissionBps = .ok commissionAmount) :
    Ensures (do
      let confirmed ← offlineDealIn command.offlineDealId
      let paymentId := capturedCommissionPayment (← get) confirmed
      if confirmed.sellerConfirmedAt.isSome ∧ confirmed.buyerConfirmedAt.isSome ∧
          (commissionAmount = 0 ∨ paymentId.isSome) then
        completeOfflineDealIn confirmed command.actorPartyId paymentId clock.completion clock.stamp
      let deal ← offlineDealIn command.offlineDealId
      pure ⟨deal, nextDealAction (← get) deal⟩ : Tx OfflineDatabase OfflineDealProgress) whatever db
      fun _ db' => OfflineMoves action origin start db' := by
  have hrest : ∀ reached, OfflineMoves action origin start reached →
      Ensures (do
        let deal ← offlineDealIn command.offlineDealId
        pure ⟨deal, nextDealAction (← get) deal⟩ : Tx OfflineDatabase OfflineDealProgress)
        whatever reached fun _ db' => OfflineMoves action origin start db' := by
    intro reached hreached
    rw [ensures_bind]
    refine ensures_offlineDealIn fun _ _ => ?_
    rw [ensures_bind, ensures_get]
    exact hreached
  rw [ensures_bind]
  refine ensures_offlineDealIn fun confirmed hlookup => ?_
  obtain ⟨hstatus, heligible, hamount, hcommission⟩ := hconfirmed confirmed hlookup
  have hid : confirmed.id = command.offlineDealId := Table.key_of_lookup hlookup
  rw [ensures_bind, ensures_get, ensures_ite]
  refine ⟨fun hcompletes => ?_, fun _ => hrest db hsofar⟩
  rw [← hid] at hlookup
  rw [ensures_bind]
  refine Ensures.mono (ensures_completeOfflineDealIn hsofar hlookup hstatus heligible hcompletes.1
    hcompletes.2.1 hpayments (.inr ⟨_, hamount, commissionAmount, hcommission, hcompletes.2.2⟩))
    (fun _ h => h) fun _ completed hmoved => ?_
  exact hrest completed hmoved

theorem ensures_confirmOfflineDeal {db : OfflineDatabase} {command : ConfirmOfflineDeal}
    {clock : DealClock}
    (haccepted : Library.succeeds (confirmOfflineDeal command clock) db = true) :
    Ensures (confirmOfflineDeal command clock) whatever db fun _ db' =>
      OfflineMoves (.confirm command clock) db db db' := by
  unfold confirmOfflineDeal
  rw [ensures_ite]
  refine ⟨fun _ => trivial, fun _ => ?_⟩
  rw [ensures_bind]
  refine ensures_offlineDealIn fun deal hdeal => ?_
  have hid : deal.id = command.offlineDealId := Table.key_of_lookup hdeal
  rw [ensures_bind]
  refine ensures_validateDealParticipant fun htenant hactor => ?_
  rw [ensures_ite]
  refine ⟨fun _ => .refl, fun hstatus => ?_⟩
  rw [ensures_ite]
  refine ⟨fun _ => trivial, fun _ => ?_⟩
  rw [ensures_bind]
  refine ensures_ensureListingAuthorized fun heligible => ?_
  iterate 2
    rw [ensures_ite]
    refine ⟨fun _ => trivial, fun _ => ?_⟩
  rename_i hreleased hamount
  have hsame : deal.finalAmount.all (· = command.finalAmount) = true := by
    cases hfinal : deal.finalAmount <;> simp_all
  rw [ensures_bind]
  refine ensures_liftAny fun commissionAmount hcommission => ?_
  rw [ensures_ite]
  refine ⟨fun _ => ?_, fun _ => ?_⟩
  · unfold confirmPrice
    rw [ensures_bind, ensures_bind]
    refine ensures_updateDeal_of_lookup (fun _ => rfl) hdeal rfl fun deals hwritten => ?_
    have hpriced : OfflineMove (.confirm command clock) db db { db with deals := deals } :=
      .priced db deal command clock commissionAmount deals rfl haccepted hid.symm htenant.symm
        hactor hstatus heligible (by tauto) hsame hcommission hwritten
    let priced : OfflineDatabase := { db with deals := deals }
    refine ensures_noteDealEvent ?_
    have hnoted : ∀ dealEvents, OfflineMoves (.confirm command clock) db db
        { priced with dealEvents := dealEvents } := fun dealEvents =>
      (Relation.ReflTransGen.single hpriced).tail (.aside priced _ _ _ _ _ dealEvents _ _)
    refine ensures_confirmed (hnoted _) rfl fun confirmed hconfirmed => ?_
    have hdealt : confirmed = deal.price command commissionAmount clock.stamp := by
      rw [← hid] at hconfirmed
      exact Option.some.inj (hconfirmed.symm.trans hwritten.lookup_self)
    subst hdealt
    exact ⟨by simp [OfflineDeal.price], heligible, by simp [OfflineDeal.price], hcommission⟩
  · refine ensures_confirmed .refl rfl fun confirmed hconfirmed => ?_
    have hdealt : confirmed = deal := Option.some.inj (hconfirmed.symm.trans hdeal)
    subst hdealt
    exact ⟨hstatus, heligible, hsame, hcommission⟩

theorem ensures_markReleased {db : OfflineDatabase} {command : ReleaseContact}
    {deal : OfflineDeal} {commissionPaymentId : Option PaymentId} {now stamp : OffsetDateTime}
    {billing : BillingClock} (hdeal : db.deals.lookup command.offlineDealId = some deal)
    (heligible : deal.Eligible db) (hconsent : deal.sellerContactConsentAt ≠ none) :
    Ensures (markReleased command deal commissionPaymentId now stamp billing) whatever db
      fun _ db' => OfflineMoves action origin db db' := by
  -- Both branches of the first mark go on alike.
  have hrest : ∀ reached, OfflineMoves action origin db reached →
      Ensures (if deal.contactReleasedAt = none then do
          noteDealEvent {
            tenantId := command.tenantId
            offlineDealId := command.offlineDealId
            actorPartyId := command.actorPartyId
            eventType := .contactReleased
            fromStatus := some .proposed
            toStatus := some .contactReleased }
          let _ ← insertExposure (deal.contactExposure command now) billing
        else pure ⟨⟩ : Tx OfflineDatabase PUnit) whatever reached fun _ db' =>
          OfflineMoves action origin db db' := by
    intro reached hreached
    rw [ensures_ite]
    refine ⟨fun _ => ?_, fun _ => hreached⟩
    rw [ensures_bind]
    refine Follows.after hreached (follows_noteDealEvent _) fun _ noted hnoted => ?_
    rw [ensures_bind]
    exact Follows.after hnoted (follows_insertExposureWithBilling _ (some billing))
      fun _ _ hbilled => hbilled
  unfold markReleased
  rw [ensures_ite]
  refine ⟨fun _ => ?_, fun _ => hrest db .refl⟩
  rw [ensures_bind]
  refine ensures_updateDeal_of_lookup (fun _ => rfl) hdeal rfl fun deals hwritten => ?_
  exact hrest _ (.single (.released db deal commissionPaymentId stamp deals heligible hconsent
    hwritten))

theorem consent_of_releaseDecision {db : OfflineDatabase} {deal : OfflineDeal}
    {now : OffsetDateTime} {paymentId : Option PaymentId}
    (h : releaseDecision db deal now = .ok paymentId) : deal.sellerContactConsentAt ≠ none := by
  intro hnone
  simp only [releaseDecision, hnone, if_true] at h
  split at h <;> cases h

theorem follows_insertContactAudit (command : ReleaseContact)
    (targetPartyId : MarketplacePartyId) (decision : ContactDecision) :
    Follows (OfflineMove action origin) (insertContactAudit command targetPartyId decision) :=
  (keeps_throw _).follows.ite (follows_on fun _ db => .aside db _ _ _ _ _ _ _ _)

theorem ensures_releaseOfflineContact {db : OfflineDatabase} (command : ReleaseContact)
    (clock : DealClock) (billing : BillingClock) :
    Ensures (releaseOfflineContact command clock billing) whatever db fun _ db' =>
      OfflineMoves action origin db db' := by
  unfold releaseOfflineContact
  rw [ensures_bind]
  refine ensures_offlineDealIn fun deal hdeal => ?_
  rw [ensures_ite]
  refine ⟨fun _ => trivial, fun _ => ?_⟩
  rw [ensures_bind, ensures_require]
  refine ⟨fun _ => trivial, fun targetPartyId _ => ?_⟩
  rw [ensures_bind]
  refine ensures_ensureListingAuthorized fun heligible => ?_
  rw [ensures_bind]
  refine ensures_ensurePartyActive fun _ => ?_
  rw [ensures_bind, ensures_get]
  split
  · rw [ensures_bind]
    exact Follows.after (.refl : OfflineMoves action origin db db)
      (follows_insertContactAudit _ _ _) fun _ _ haudited => haudited
  · rename_i paymentId hdecision
    rw [ensures_bind]
    have hconsent := consent_of_releaseDecision hdecision
    have hmarks : Ensures (markReleased command deal paymentId clock.completion clock.stamp billing)
        whatever db fun _ marked => OfflineMoves action origin db marked :=
      ensures_markReleased hdeal heligible hconsent
    refine hmarks.mono (fun _ h => h) fun _ marked hmarked => ?_
    rw [ensures_bind]
    refine Follows.after hmarked (follows_insertContactAudit _ _ _) fun _ audited haudited => ?_
    rw [ensures_bind, ensures_get, ensures_bind, ensures_require]
    refine ⟨fun _ => trivial, fun _ _ => ?_⟩
    rw [ensures_bind]
    exact ensures_offlineDealIn fun _ _ => haudited

end Deals

/-! ## Steps -/

variable [Jsonb] [UuidParser]

/-- A step makes a few moves, each on behalf of its action. -/
theorem OfflineSystem.write_moves (system : OfflineSystem) (action : OfflineAction) :
    OfflineMoves action system.db system.db (system.write action) := by
  cases action with
  | surround surroundings assets submissions =>
      exact .single (.aside system.db surroundings assets submissions _ _ _ _ _)
  | setAuthorization command =>
      exact moved_of_ensures fun _ => ensures_setMarketplaceAssetAuthorization command
  | approveSubmission command assetId listingId stamp =>
      exact moved_of_ensures fun _ =>
        ensures_approveMarketplaceListingSubmission command assetId listingId stamp
  | createListing command stamp =>
      exact moved_of_ensures fun _ => ensures_createVehicleListing command stamp
  | createRequest command =>
      exact moved_of_ensures fun _ => follows_createBuyerVehicleRequest command _
  | rank reader command clock => exact .refl
  | bill reader now clock =>
      simp only [write]
      split
      · exact moved_of_ensures fun _ => follows_billRecommendations _ _ now clock _
      · exact .refl
  | createDeal command now clock =>
      exact moved_of_ensures fun _ => ensures_createOfflineDeal command now clock
  | acceptContact command now stamp => exact moved_of_ensures ensures_acceptContactExchange
  | releaseContact command clock billing =>
      exact moved_of_ensures fun _ => ensures_releaseOfflineContact command clock billing
  | createViewing command start now =>
      exact moved_of_ensures fun _ => ensures_createViewingAppointment command start now
  | transitionViewing command now =>
      exact moved_of_ensures fun _ => ensures_transitionViewingAppointment command now
  | confirm command clock => exact moved_of_ensures ensures_confirmOfflineDeal
  | finalize command clock =>
      exact moved_of_ensures fun _ => ensures_finalizeOfflineDeal command clock
  | createPromotion command =>
      exact moved_of_ensures fun _ => follows_createSellerPromotion command _
  | recordPromotion command now =>
      exact moved_of_ensures fun _ => follows_recordSellerPromotionEvent command now _
  | recordExposure request now clock =>
      exact moved_of_ensures fun _ => follows_recordExposure request now clock _

/-- What every move preserves holds along every run. -/
theorem OfflineSystem.run_invariant [Ranking] {P : OfflineDatabase → Prop}
    (hmove : ∀ action origin db db', P db → OfflineMove action origin db db' → P db')
    {system : OfflineSystem} (h : P system.db) (actions : List OfflineAction) :
    P (system.run actions).db := by
  induction actions generalizing system with
  | nil => exact h
  | cons action rest ih =>
      refine ih ?_
      have hmoves := system.write_moves action
      change P (system.write action)
      generalize system.write action = reached at hmoves ⊢
      induction hmoves with
      | refl => exact h
      | tail _ hlast hbefore => exact hmove _ _ _ _ hbefore hlast

/-- An invariant that also looks at the actions so far, the present one included. -/
theorem OfflineSystem.run_history [Ranking] {P : List OfflineAction → OfflineDatabase → Prop}
    {system : OfflineSystem}
    (hgrow : ∀ actions action db, P actions db → P (actions ++ [action]) db)
    (hmove : ∀ actions action db db', P (actions ++ [action]) db →
      OfflineMove action (system.run actions).db db db' → P (actions ++ [action]) db')
    (h : P [] system.db) (actions : List OfflineAction) : P actions (system.run actions).db := by
  induction actions using List.reverseRecOn with
  | nil => exact h
  | append_singleton actions action ih =>
      rw [OfflineSystem.run_snoc]
      have hmoves := (system.run actions).write_moves action
      change P _ ((system.run actions).write action)
      generalize (system.run actions).write action = reached at hmoves ⊢
      induction hmoves with
      | refl => exact hgrow actions action _ ih
      | tail _ hlast hbefore => exact hmove actions action _ _ hbefore hlast

end MatchPlane
