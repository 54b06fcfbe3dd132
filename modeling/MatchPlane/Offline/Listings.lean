import MatchPlane.Library.Statements
import MatchPlane.Offline.Promotions

/-!
# Listings

A seller lists what an operator has authorized.  A revocation withdraws the live
listings in the same transaction.  Recommendations are read first, and billed by a
transaction of their own.
-/

namespace MatchPlane

open MatchPlane.Library

/-! ## Authorizations -/

structure SetMarketplaceAssetAuthorization where
  tenantId : TenantId
  domainId : DomainId
  assetId : AssetId
  sellerPartyId : MarketplacePartyId
  enabled : Bool
  authorizedBy : String
  reason : String
  deriving DecidableEq, Repr

def SetMarketplaceAssetAuthorization.key (command : SetMarketplaceAssetAuthorization) :
    AuthorizationKey :=
  ⟨command.tenantId, command.domainId, command.assetId, command.sellerPartyId⟩

def validateAuthorizer (authorizedBy reason : String) (label : String) :
    Except StorageError Unit := do
  if maxTrimmed 256 authorizedBy = false then
    .error (.invalidData "authorized_by must contain 1..=256 bytes")
  if maxTrimmed 2000 reason = false then
    .error (.invalidData s!"{label} reason must contain 1..=2000 bytes")

/-- A live listing under a grant that has been taken back. -/
def VehicleListing.afterRevocation (key : AuthorizationKey) (listing : VehicleListing) :
    VehicleListing :=
  if listing.authorizationKey = key ∧ listing.status.isLive then
    { listing with status := .withdrawn }
  else listing

def setMarketplaceAssetAuthorization (command : SetMarketplaceAssetAuthorization) :
    Tx OfflineDatabase MarketplaceAssetAuthorization := do
  validateAuthorizer command.authorizedBy command.reason "authorization"
  ensurePartyRole command.tenantId command.sellerPartyId .seller
  let asset := ((← get).assets.lookup command.assetId).filter fun asset =>
    asset.tenantId = command.tenantId ∧ asset.domainId = command.domainId ∧ asset.active
  if asset.isNone then
    throw (.notFound "active vehicle asset")
  let authorization : MarketplaceAssetAuthorization :=
    ⟨command.key, command.enabled, command.authorizedBy, command.reason⟩
  let updated ← OfflineDatabase.authorizationTable.on (Table.update .sqlx command.key
    (fun _ => true) fun row => { row with
      active := command.enabled
      authorizedBy := command.authorizedBy
      reason := command.reason })
  if updated.isNone then
    OfflineDatabase.authorizationTable.on (Table.insert .sqlx authorization)
  if command.enabled = false then
    OfflineDatabase.listingTable.on
      (Table.updateAll .sqlx (VehicleListing.afterRevocation command.key))
  pure authorization

/-! ## Publication -/

structure ApproveMarketplaceListingSubmission where
  tenantId : TenantId
  submissionId : Uuid
  authorizedBy : String
  reason : String
  deriving DecidableEq, Repr

/-- The market that decides about the commission of a listing. -/
def listingPolicy (tenantId : TenantId) (domainId : DomainId) (currency : String)
    (currencyScale : Int) : Tx OfflineDatabase CommissionPolicy := do
  let policy ← require (.notFound "active marketplace commission policy")
    ((← get).surroundings.policy tenantId domainId currency)
  if policy.priceScale ≠ currencyScale then
    throw (.invalidData s!"currency_scale must equal market price_scale {policy.priceScale}")
  pure policy

/-- The new ids are drawn by the service. -/
def approveMarketplaceListingSubmission (command : ApproveMarketplaceListingSubmission)
    (assetId : AssetId) (listingId : VehicleListingId) (stamp : OffsetDateTime) :
    Tx OfflineDatabase VehicleListing := do
  validateAuthorizer command.authorizedBy command.reason "approval"
  let submission ← require (.notFound "listing submission")
    (((← get).submissions.lookup command.submissionId).filter fun row =>
      row.tenantId = command.tenantId)
  if submission.status ≠ .pendingReview then
    throw (.conflict "listing submission is no longer pending review")
  OfflineDatabase.assetTable.on (Table.insert .sqlx {
    id := assetId
    tenantId := submission.tenantId
    domainId := submission.domainId
    externalKey := submission.externalKey
    displayName := submission.displayName
    attributes := submission.attributes
    active := true })
  OfflineDatabase.authorizationTable.on (Table.insert .sqlx {
    key := ⟨submission.tenantId, submission.domainId, assetId, submission.sellerPartyId⟩
    active := true
    authorizedBy := command.authorizedBy
    reason := command.reason })
  let policy ← listingPolicy submission.tenantId submission.domainId submission.currency
    submission.currencyScale
  let listing : VehicleListing := {
    id := listingId
    tenantId := submission.tenantId
    domainId := submission.domainId
    assetId := assetId
    sellerPartyId := submission.sellerPartyId
    askingAmount := submission.askingAmount
    currency := submission.currency
    currencyScale := submission.currencyScale
    commissionBps := policy.commissionBps
    commissionCollection := policy.offlineCommissionCollection
    status := .active
    publishedAt := some stamp
    expiresAt := none }
  OfflineDatabase.listingTable.on (Table.insert .sqlx listing)
  let _ ← OfflineDatabase.submissionTable.on (Table.update .sqlx command.submissionId
    (fun row => row.tenantId = command.tenantId)
    fun row => { row with
      status := .approved
      reviewedBy := some command.authorizedBy
      reviewReason := some command.reason })
  pure listing

structure CreateVehicleListing where
  listingId : VehicleListingId
  tenantId : TenantId
  domainId : DomainId
  assetId : AssetId
  sellerPartyId : MarketplacePartyId
  askingAmount : Int
  currency : String
  currencyScale : Int
  expiresAt : Option OffsetDateTime
  deriving DecidableEq, Repr

def createVehicleListing (command : CreateVehicleListing) (stamp : OffsetDateTime) :
    Tx OfflineDatabase VehicleListing := do
  if command.askingAmount ≤ 0 then
    throw (.invalidData "asking_amount must be positive")
  ensurePartyRole command.tenantId command.sellerPartyId .seller
  let key : AuthorizationKey :=
    ⟨command.tenantId, command.domainId, command.assetId, command.sellerPartyId⟩
  if (← get).authorized key = false then
    throw (.forbidden "seller is not authorized to publish this vehicle asset")
  let policy ← listingPolicy command.tenantId command.domainId command.currency
    command.currencyScale
  let listing : VehicleListing := {
    id := command.listingId
    tenantId := command.tenantId
    domainId := command.domainId
    assetId := command.assetId
    sellerPartyId := command.sellerPartyId
    askingAmount := command.askingAmount
    currency := command.currency
    currencyScale := command.currencyScale
    commissionBps := policy.commissionBps
    commissionCollection := policy.offlineCommissionCollection
    status := .active
    publishedAt := some stamp
    expiresAt := command.expiresAt.map timestamptz }
  OfflineDatabase.listingTable.on (Table.insert .sqlx listing)
  pure listing

/-! ## Requests -/

structure CreateBuyerVehicleRequest where
  requestId : BuyerRequestId
  tenantId : TenantId
  domainId : DomainId
  buyerPartyId : MarketplacePartyId
  requirements : Json
  budgetMin : Option Int
  budgetMax : Option Int
  currency : String
  currencyScale : Int
  deriving DecidableEq

def createBuyerVehicleRequest [Jsonb] (command : CreateBuyerVehicleRequest) :
    Tx OfflineDatabase BuyerVehicleRequest := do
  if command.requirements.isObject = false then
    throw (.invalidData "requirements must be a JSON object")
  if command.budgetMin.any (· < 0) ∨ command.budgetMax.any (· ≤ 0) ∨
      (command.budgetMin.any fun minimum => command.budgetMax.any (· < minimum)) then
    throw (.invalidData "buyer budget bounds are invalid")
  ensurePartyRole command.tenantId command.buyerPartyId .buyer
  let request : BuyerVehicleRequest := {
    id := command.requestId
    tenantId := command.tenantId
    domainId := command.domainId
    buyerPartyId := command.buyerPartyId
    requirements := Jsonb.stored command.requirements
    budgetMin := command.budgetMin
    budgetMax := command.budgetMax
    currency := command.currency
    currencyScale := command.currencyScale
    status := .active }
  OfflineDatabase.requestTable.on (Table.insert .sqlx request)
  pure request

def Json.fields : Json → Option (List (String × Json))
  | .object fields => some fields
  | _ => none

/-- Why an offer suits a request; none where it is outside of the budget. -/
def suitability (requirements attributes : Json) (askingAmount : Int)
    (budgetMin budgetMax : Option Int) : Option (List String) := do
  if budgetMin.any (askingAmount < ·) ∨ budgetMax.any (· < askingAmount) then
    none
  let required ← requirements.fields
  let _ ← attributes.fields
  let matching := required.filter fun (key, expected) =>
    expected ≠ .null ∧ attributes.get key = some expected
  some (matching.map (fun (key, _) => s!"attribute_match:{key}") ++ ["within_budget"])

/-! ## Recommendations -/

structure RecommendVehicleListings where
  tenantId : TenantId
  requestId : BuyerRequestId
  buyerPartyId : MarketplacePartyId
  exposureKey : String
  limit : Nat
  deriving DecidableEq, Repr

structure RecommendedListing where
  listing : VehicleListing
  matchReasons : List String
  deriving DecidableEq, Repr

/-- The order by floating-point score, asking amount and id. -/
class Ranking where
  rank : BuyerVehicleRequest → List RecommendedListing → List RecommendedListing

/-- Newest first; a listing without a time comes before all others. -/
def VehicleListing.newer (first second : VehicleListing) : Bool :=
  match first.publishedAt, second.publishedAt with
  | none, some _ => true
  | some _, none => false
  | none, none => first.id.uuid ≤ second.id.uuid
  | some published, some other =>
      other < published ∨ (other = published ∧ first.id.uuid ≤ second.id.uuid)

def OfflineDatabase.openListings (db : OfflineDatabase) (request : BuyerVehicleRequest)
    (buyerPartyId : MarketplacePartyId) (clock : OffsetDateTime) :
    List (VehicleListing × VehicleAsset) :=
  let candidates := db.listings.rows.filterMap fun listing =>
    match (db.assets.lookup listing.assetId).filter fun asset =>
        asset.tenantId = listing.tenantId ∧ asset.domainId = listing.domainId with
    | none => none
    | some asset =>
        if listing.tenantId = request.tenantId ∧ listing.domainId = request.domainId ∧
            listing.currency = request.currency ∧
            listing.currencyScale = request.currencyScale ∧ listing.status = .active ∧
            asset.active ∧ listing.sellerPartyId ≠ buyerPartyId ∧
            db.authorized listing.authorizationKey ∧ listing.expiresAt.all (clock < ·) then
          some (listing, asset)
        else none
  (candidates.mergeSort fun first second => first.1.newer second.1).take 500

section Recommendations

variable [Ranking]

def rankVehicleListings (command : RecommendVehicleListings) (db : OfflineDatabase)
    (clock : OffsetDateTime) : Except StorageError (List RecommendedListing) := do
  if maxTrimmed 120 command.exposureKey = false then
    .error (.invalidData "exposure_key must contain 1..=120 bytes")
  let request ← match db.requests.lookup command.requestId with
    | some request => .ok request
    | none => .error (.notFound "buyer vehicle request")
  if request.tenantId ≠ command.tenantId ∨ request.buyerPartyId ≠ command.buyerPartyId then
    .error (.forbidden "buyer request does not belong to the authenticated buyer")
  if request.status ≠ .active ∧ request.status ≠ .matched then
    .error (.conflict "buyer request is not open for recommendations")
  let recommendations := (db.openListings request command.buyerPartyId clock).filterMap
    fun (listing, asset) =>
      (suitability request.requirements asset.attributes listing.askingAmount request.budgetMin
        request.budgetMax).map fun reasons => ⟨listing, reasons⟩
  .ok ((Ranking.rank request recommendations).take (max 1 (min command.limit 100)))

end Recommendations

/-- A buyer counts once a day for each listing, whatever key the client sends. -/
def recommendationKey (buyerPartyId : MarketplacePartyId) (listingId : VehicleListingId)
    (now : OffsetDateTime) : String :=
  s!"recommend:{buyerPartyId}:{listingId}:{dateText now}"

/-- The exposure of a listing that has been recommended. -/
def RecommendVehicleListings.exposure (command : RecommendVehicleListings)
    (listingId : VehicleListingId) (now : OffsetDateTime) : RecordExposure where
  tenantId := command.tenantId
  listingId := listingId
  viewerPartyId := some command.buyerPartyId
  eventType := .impression
  source := "buyer_recommendations"
  deduplicationKey := recommendationKey command.buyerPartyId listingId now
  occurredAt := now

/-- The listings that were read before; the clocks are read anew for each of them. -/
def billRecommendations (command : RecommendVehicleListings)
    (recommendations : List RecommendedListing) (now : VehicleListingId → OffsetDateTime)
    (clock : VehicleListingId → BillingClock) : Tx OfflineDatabase PUnit :=
  forM recommendations fun recommendation => do
    let listingId := recommendation.listing.id
    let _ ← insertExposure (command.exposure listingId (now listingId)) (clock listingId)

end MatchPlane
