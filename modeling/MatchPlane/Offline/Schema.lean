import MatchPlane.Marketplace.Schema
import MatchPlane.Payments.Schema

/-!
# Tables of the offline marketplace

Listings and the authorizations behind them, requests of buyers, deals that are
settled face to face, and what sellers pay to be seen.  Parties and market policies
belong to other parts of the system, and payments to the payment service; they may
change at any time.
-/

namespace MatchPlane

open MatchPlane.Library

/-! ## Listings -/

structure VehicleAsset where
  id : AssetId
  tenantId : TenantId
  domainId : DomainId
  externalKey : String
  displayName : String
  attributes : Json
  active : Bool
  deriving DecidableEq

def vehicleAssets : Schema AssetId VehicleAsset where
  key := VehicleAsset.id
  clash := fun first second => first.tenantId = second.tenantId ∧
    first.domainId = second.domainId ∧ first.externalKey = second.externalKey
  check := fun row => hasLength 256 row.externalKey ∧ hasLength 500 row.displayName ∧
    row.attributes.isObject

/-- A seller's right to publish an asset. -/
structure AuthorizationKey where
  tenantId : TenantId
  domainId : DomainId
  assetId : AssetId
  sellerPartyId : MarketplacePartyId
  deriving DecidableEq, Repr

structure MarketplaceAssetAuthorization where
  key : AuthorizationKey
  active : Bool
  authorizedBy : String
  reason : String
  deriving DecidableEq, Repr

def assetAuthorizations : Schema AuthorizationKey MarketplaceAssetAuthorization where
  key := MarketplaceAssetAuthorization.key
  clash := fun _ _ => false
  check := fun row => hasLength 256 row.authorizedBy ∧ hasLength 2000 row.reason

inductive ListingStatus where
  | draft
  | active
  | reserved
  | sold
  | withdrawn
  | expired
  deriving DecidableEq, Repr

def ListingStatus.isLive : ListingStatus → Bool
  | active | reserved => true
  | _ => false

inductive CommissionCollection where
  | preauthorized
  | postpaid
  deriving DecidableEq, Repr

def isBasisPoints (value : Int) : Bool := 0 ≤ value ∧ value ≤ 10000

structure VehicleListing where
  id : VehicleListingId
  tenantId : TenantId
  domainId : DomainId
  assetId : AssetId
  sellerPartyId : MarketplacePartyId
  askingAmount : Int
  currency : String
  currencyScale : Int
  commissionBps : Int
  commissionCollection : CommissionCollection
  status : ListingStatus
  publishedAt : Option OffsetDateTime
  expiresAt : Option OffsetDateTime
  deriving DecidableEq, Repr

def VehicleListing.authorizationKey (listing : VehicleListing) : AuthorizationKey :=
  ⟨listing.tenantId, listing.domainId, listing.assetId, listing.sellerPartyId⟩

def vehicleListings : Schema VehicleListingId VehicleListing where
  key := VehicleListing.id
  -- An asset has at most one live listing.
  clash := fun first second => first.tenantId = second.tenantId ∧
    first.assetId = second.assetId ∧ first.status.isLive ∧ second.status.isLive
  check := fun row => isNumeric row.askingAmount ∧ 0 < row.askingAmount ∧
    isCurrency row.currency ∧ isScale row.currencyScale ∧ isBasisPoints row.commissionBps ∧
    (row.expiresAt.all fun expires => row.publishedAt.all (· < expires))

inductive SubmissionStatus where
  | pendingReview
  | approved
  | rejected
  | withdrawn
  deriving DecidableEq, Repr

structure ListingSubmission where
  id : Uuid
  tenantId : TenantId
  domainId : DomainId
  sellerPartyId : MarketplacePartyId
  externalKey : String
  displayName : String
  attributes : Json
  askingAmount : Int
  currency : String
  currencyScale : Int
  status : SubmissionStatus
  reviewedBy : Option String
  reviewReason : Option String
  deriving DecidableEq

def listingSubmissions : Schema Uuid ListingSubmission where
  key := ListingSubmission.id
  clash := fun first second => first.tenantId = second.tenantId ∧
    first.domainId = second.domainId ∧ first.sellerPartyId = second.sellerPartyId ∧
    first.externalKey = second.externalKey
  check := fun row => hasLength 256 row.externalKey ∧ hasLength 500 row.displayName ∧
    row.attributes.isObject ∧ isNumeric row.askingAmount ∧ 0 < row.askingAmount ∧
    isCurrency row.currency ∧ isScale row.currencyScale ∧
    (row.status ≠ .pendingReview ∨ row.reviewedBy = none)

/-! ## Requests -/

inductive BuyerRequestStatus where
  | active
  | matched
  | closed
  | expired
  deriving DecidableEq, Repr

structure BuyerVehicleRequest where
  id : BuyerRequestId
  tenantId : TenantId
  domainId : DomainId
  buyerPartyId : MarketplacePartyId
  requirements : Json
  budgetMin : Option Int
  budgetMax : Option Int
  currency : String
  currencyScale : Int
  status : BuyerRequestStatus
  deriving DecidableEq

def buyerVehicleRequests : Schema BuyerRequestId BuyerVehicleRequest where
  key := BuyerVehicleRequest.id
  clash := fun _ _ => false
  check := fun row => row.requirements.isObject ∧ row.budgetMin.all isNumeric ∧
    (row.budgetMax.all fun amount => isNumeric amount ∧ 0 < amount) ∧
    isCurrency row.currency ∧ isScale row.currencyScale ∧
    (row.budgetMin.all fun minimum => row.budgetMax.all (minimum ≤ ·))

/-! ## Deals -/

structure OfflineDeal where
  id : OfflineDealId
  tenantId : TenantId
  listingId : VehicleListingId
  buyerRequestId : BuyerRequestId
  sellerPartyId : MarketplacePartyId
  buyerPartyId : MarketplacePartyId
  matchReasons : List String
  status : OfflineDealStatus
  contactReleasedAt : Option OffsetDateTime
  sellerContactConsentAt : Option OffsetDateTime
  finalAmount : Option Int
  currency : String
  currencyScale : Int
  commissionBps : Int
  commissionAmount : Option Int
  commissionCollection : CommissionCollection
  commissionPaymentId : Option PaymentId
  sellerConfirmedAt : Option OffsetDateTime
  buyerConfirmedAt : Option OffsetDateTime
  completedAt : Option OffsetDateTime
  expiresAt : OffsetDateTime
  deriving DecidableEq, Repr

def offlineDeals : Schema OfflineDealId OfflineDeal where
  key := OfflineDeal.id
  clash := fun first second => first.listingId = second.listingId ∧
    first.buyerRequestId = second.buyerRequestId
  check := fun row => (row.finalAmount.all fun amount => isNumeric amount ∧ 0 < amount) ∧
    isCurrency row.currency ∧ isScale row.currencyScale ∧ isBasisPoints row.commissionBps ∧
    row.commissionAmount.all isNumeric ∧ row.sellerPartyId ≠ row.buyerPartyId ∧
    (row.status ≠ .proposed ∨ row.contactReleasedAt = none) ∧
    (row.status ≠ .completed ∨ (row.sellerConfirmedAt.isSome ∧ row.buyerConfirmedAt.isSome ∧
      row.completedAt.isSome ∧ row.finalAmount.isSome ∧ row.commissionAmount.isSome))

inductive ViewingStatus where
  | proposed
  | confirmed
  | completed
  | cancelled
  | noShow
  deriving DecidableEq, Repr

structure ViewingAppointment where
  id : ViewingId
  tenantId : TenantId
  offlineDealId : OfflineDealId
  proposedBy : MarketplacePartyId
  startsAt : OffsetDateTime
  endsAt : OffsetDateTime
  locationCiphertext : Bytes
  locationNonce : Bytes
  encryptionKeyVersion : Int
  status : ViewingStatus
  deriving DecidableEq, Repr

def viewingAppointments : Schema ViewingId ViewingAppointment where
  key := ViewingAppointment.id
  clash := fun _ _ => false
  check := fun row => row.locationNonce.length = 12 ∧ 0 < row.encryptionKeyVersion ∧
    row.startsAt < row.endsAt

/-- What happened to a deal, with what the event notes about it. -/
inductive DealEventType where
  | matchProposed (commissionAmount commissionBps : Int)
  | sellerContactConsent
  | contactReleased
  | viewingProposed (viewingId : ViewingId) (startsAt : OffsetDateTime)
  | viewing (target : ViewingStatus) (viewingId : ViewingId)
  | priceConfirmed (finalAmount commissionAmount : Int)
  | dealCompleted (commissionPaymentId : Option PaymentId)
  deriving DecidableEq, Repr

structure OfflineDealEvent where
  tenantId : TenantId
  offlineDealId : OfflineDealId
  actorPartyId : MarketplacePartyId
  eventType : DealEventType
  fromStatus : Option OfflineDealStatus
  toStatus : Option OfflineDealStatus
  deriving DecidableEq, Repr

structure ContactAccess where
  tenantId : TenantId
  offlineDealId : OfflineDealId
  actorPartyId : MarketplacePartyId
  targetPartyId : MarketplacePartyId
  decision : ContactDecision
  requestFingerprint : Option Bytes
  deriving DecidableEq, Repr

/-! ## Promotions -/

inductive ExposureEventType where
  | impression
  | detailView
  | favorite
  | inquiry
  | matchedContact
  deriving DecidableEq, Repr

structure ExposureKey where
  tenantId : TenantId
  deduplicationKey : String
  deriving DecidableEq, Repr

structure SellerExposureEvent where
  key : ExposureKey
  listingId : VehicleListingId
  viewerPartyId : Option MarketplacePartyId
  eventType : ExposureEventType
  source : String
  occurredAt : OffsetDateTime
  deriving DecidableEq, Repr

def sellerExposureEvents : Schema ExposureKey SellerExposureEvent where
  key := SellerExposureEvent.key
  clash := fun _ _ => false
  check := fun row => hasLength 100 row.source ∧ hasLength 200 row.key.deduplicationKey

inductive PromotionPolicy where
  | sellerPromotion
  | hybrid
  deriving DecidableEq, Repr

inductive PricingModel where
  | fixed
  | cpm
  | cpc
  | cpl
  deriving DecidableEq, Repr

inductive CampaignStatus where
  | draft
  | active
  | paused
  | exhausted
  | expired
  | cancelled
  deriving DecidableEq, Repr

structure SellerPromotionCampaign where
  id : PromotionCampaignId
  tenantId : TenantId
  sponsorPartyId : MarketplacePartyId
  targetKind : String
  targetKey : String
  policy : PromotionPolicy
  pricingModel : PricingModel
  currency : String
  currencyScale : Int
  unitPrice : Int
  budgetAmount : Int
  spentAmount : Int
  billableUnits : Int
  settings : Json
  status : CampaignStatus
  startsAt : OffsetDateTime
  endsAt : Option OffsetDateTime
  deriving DecidableEq

/-- The pattern of a target kind. -/
def isTargetKind (value : String) : Bool :=
  match value.toList with
  | [] => false
  | first :: rest => first.isLower && decide (rest.length ≤ 63) &&
      rest.all fun char => char.isLower || char.isDigit || char ∈ ['_', '.', '/', '-']

def sellerPromotionCampaigns : Schema PromotionCampaignId SellerPromotionCampaign where
  key := SellerPromotionCampaign.id
  clash := fun _ _ => false
  check := fun row => isTargetKind row.targetKind ∧ hasLength 256 row.targetKey ∧
    isCurrency row.currency ∧ isScale row.currencyScale ∧ isNumeric row.unitPrice ∧
    isNumeric row.budgetAmount ∧ 0 < row.budgetAmount ∧ isNumeric row.spentAmount ∧
    0 ≤ row.billableUnits ∧ row.billableUnits ≤ i64Max ∧ row.settings.isObject ∧
    row.endsAt.all (row.startsAt < ·) ∧ row.spentAmount ≤ row.budgetAmount

inductive PromotionEventType where
  | impression
  | click
  | qualifiedLead
  | contactExchange
  deriving DecidableEq, Repr

structure PromotionEventKey where
  tenantId : TenantId
  campaignId : PromotionCampaignId
  deduplicationKey : String
  deriving DecidableEq, Repr

structure SellerPromotionEvent where
  key : PromotionEventKey
  actorPartyId : Option MarketplacePartyId
  eventType : PromotionEventType
  billableUnits : Int
  chargedAmount : Int
  currency : String
  currencyScale : Int
  occurredAt : OffsetDateTime
  deriving DecidableEq, Repr

def sellerPromotionEvents : Schema PromotionEventKey SellerPromotionEvent where
  key := SellerPromotionEvent.key
  clash := fun _ _ => false
  check := fun row => 0 ≤ row.billableUnits ∧ row.billableUnits ≤ i64Max ∧
    isNumeric row.chargedAmount ∧ isCurrency row.currency ∧ isScale row.currencyScale ∧
    hasLength 240 row.key.deduplicationKey

/-! ## Surroundings -/

inductive PartyRole where
  | buyer
  | seller
  | both
  deriving DecidableEq, Repr

structure OfflineParty where
  id : MarketplacePartyId
  tenantId : TenantId
  displayName : String
  role : PartyRole
  contactCiphertext : Bytes
  contactNonce : Bytes
  contactKeyVersion : Int
  active : Bool
  deriving DecidableEq, Repr

/-- The policy of an active market, in the order of the market ids. -/
structure CommissionPolicy where
  tenantId : TenantId
  domainId : DomainId
  quoteAssetKey : String
  priceScale : Int
  commissionBps : Int
  offlineCommissionCollection : CommissionCollection
  deriving DecidableEq, Repr

structure OfflineSurroundings where
  parties : List OfflineParty
  policies : List CommissionPolicy
  payments : Table paymentIntents

structure OfflineDatabase where
  surroundings : OfflineSurroundings
  assets : Table vehicleAssets
  authorizations : Table assetAuthorizations
  listings : Table vehicleListings
  submissions : Table listingSubmissions
  requests : Table buyerVehicleRequests
  deals : Table offlineDeals
  viewings : Table viewingAppointments
  dealEvents : List OfflineDealEvent
  audit : List ContactAccess
  exposures : Table sellerExposureEvents
  campaigns : Table sellerPromotionCampaigns
  promotionEvents : Table sellerPromotionEvents

namespace OfflineDatabase

def assetTable : Part OfflineDatabase (Table vehicleAssets) :=
  ⟨assets, fun table db => { db with assets := table }⟩

def authorizationTable : Part OfflineDatabase (Table assetAuthorizations) :=
  ⟨authorizations, fun table db => { db with authorizations := table }⟩

def listingTable : Part OfflineDatabase (Table vehicleListings) :=
  ⟨listings, fun table db => { db with listings := table }⟩

def submissionTable : Part OfflineDatabase (Table listingSubmissions) :=
  ⟨submissions, fun table db => { db with submissions := table }⟩

def requestTable : Part OfflineDatabase (Table buyerVehicleRequests) :=
  ⟨requests, fun table db => { db with requests := table }⟩

def dealTable : Part OfflineDatabase (Table offlineDeals) :=
  ⟨deals, fun table db => { db with deals := table }⟩

def viewingTable : Part OfflineDatabase (Table viewingAppointments) :=
  ⟨viewings, fun table db => { db with viewings := table }⟩

def exposureTable : Part OfflineDatabase (Table sellerExposureEvents) :=
  ⟨exposures, fun table db => { db with exposures := table }⟩

def campaignTable : Part OfflineDatabase (Table sellerPromotionCampaigns) :=
  ⟨campaigns, fun table db => { db with campaigns := table }⟩

def promotionTable : Part OfflineDatabase (Table sellerPromotionEvents) :=
  ⟨promotionEvents, fun table db => { db with promotionEvents := table }⟩

end OfflineDatabase

end MatchPlane
