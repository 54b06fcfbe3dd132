import MatchPlane.Domain.Json
import MatchPlane.Payments.Money
import MatchPlane.Storage.Schema

/-!
# Tables of the generic marketplace

Intents of demand and supply, offers, introductions and the audit of contact
requests.  Parties, stores, domains and authorizations belong to other parts of
the system, which may change them at any time.

JSON columns are read back through PostgreSQL and the parser.  What becomes of a
value on the way is up to them and a parameter.
-/

namespace MatchPlane

open MatchPlane.Library

/-! ## Stored values -/

/-- What PostgreSQL and the parser make of JSON values. -/
class Jsonb where
  /-- The value that is read back for a stored one. -/
  stored : Json → Json
  /-- The integer that a literal with a fraction or an exponent denotes. -/
  wholeNumber : String → Option Int
  /-- The text of a value that is not a string. -/
  render : Json → String

/-- What is written is read back, and nothing but strings is ever rendered. -/
@[reducible] def plainJsonb : Jsonb := ⟨id, fun _ => none, fun _ => ""⟩

namespace Json

def isObject : Json → Bool
  | object _ => true
  | _ => false

def setField (key : String) (value : Json) : List (String × Json) → List (String × Json)
  | [] => [(key, value)]
  | (other, field) :: rest =>
      if key < other then (key, value) :: (other, field) :: rest
      else if key = other then (key, value) :: rest
      else (other, field) :: setField key value rest

/-- `jsonb_set` of a field of an object. -/
def set (value : Json) (key : String) (field : Json) : Json :=
  match value with
  | object fields => object (setField key field fields)
  | other => other

/-- An object without a field. -/
def remove (value : Json) (key : String) : Json :=
  match value with
  | object fields => object (fields.filter fun (other, _) => other ≠ key)
  | other => other

/-- The `->>` operator. -/
def fieldText [Jsonb] (value : Json) (key : String) : Option String :=
  match value.get key with
  | none | some null => none
  | some (string text) => some text
  | some other => some (Jsonb.render other)

end Json

/-- A timestamp column holds microseconds, counted from the year 2000 towards zero. -/
def timestamptz (value : OffsetDateTime) : OffsetDateTime :=
  946684800000000000 + (value - 946684800000000000).tdiv 1000 * 1000

/-- What a committed transaction answers. -/
abbrev Answer (α : Type) := Except StorageError α

/-! ## Intents -/

inductive IntentSide where
  | demand
  | supply
  deriving DecidableEq, Repr

inductive MarketIntentStatus where
  | active
  | matched
  | closed
  | expired
  deriving DecidableEq, Repr

structure MarketplaceIntent where
  id : MarketplaceIntentId
  tenantId : TenantId
  domainId : DomainId
  participantId : MarketplacePartyId
  side : IntentSide
  narrative : String
  attributes : Json
  terms : Json
  supplyDiscoveryEnabled : Bool
  supplyDiscoveryExpiresAt : Option OffsetDateTime
  idempotencyKey : String
  status : MarketIntentStatus
  expiresAt : Option OffsetDateTime
  version : Int
  deriving DecidableEq

/-- `length(column) BETWEEN 1 AND limit`. -/
def hasLength (limit : Nat) (value : String) : Bool := 1 ≤ value.length ∧ value.length ≤ limit

def marketplaceIntents : Schema MarketplaceIntentId MarketplaceIntent where
  key := MarketplaceIntent.id
  clash := fun first second =>
    first.tenantId = second.tenantId ∧ first.participantId = second.participantId ∧
      first.idempotencyKey = second.idempotencyKey
  check := fun row =>
    hasLength 10000 row.narrative ∧ row.attributes.isObject ∧ row.terms.isObject ∧
      hasLength 240 row.idempotencyKey ∧ 0 < row.version ∧
      (row.supplyDiscoveryExpiresAt = none ∨ row.supplyDiscoveryEnabled = true) ∧
      (row.supplyDiscoveryEnabled = false ∨ row.side = .demand)

/-! ## Offers -/

inductive OfferStatus where
  | draft
  | active
  | reserved
  | sold
  | withdrawn
  | expired
  deriving DecidableEq, Repr

structure MarketplaceOffer where
  id : MarketplaceOfferId
  tenantId : TenantId
  domainId : DomainId
  supplyPartyId : MarketplacePartyId
  storeId : Option Uuid
  assetId : Option AssetId
  externalKey : String
  displayName : String
  attributes : Json
  terms : Json
  availableQuantity : Option Int
  status : OfferStatus
  publishedAt : Option OffsetDateTime
  expiresAt : Option OffsetDateTime
  version : Int
  deriving DecidableEq

def marketplaceOffers : Schema MarketplaceOfferId MarketplaceOffer where
  key := MarketplaceOffer.id
  -- External keys are unique in a store, or in the domain outside of stores.
  clash := fun first second =>
    first.tenantId = second.tenantId ∧ first.externalKey = second.externalKey ∧
      first.storeId = second.storeId ∧
      (first.storeId.isSome ∨ first.domainId = second.domainId)
  check := fun row =>
    hasLength 256 row.externalKey ∧ hasLength 500 row.displayName ∧ row.attributes.isObject ∧
      row.terms.isObject ∧ 0 < row.version ∧
      (row.publishedAt.all fun published => row.expiresAt.all (published < ·))

/-! ## Introductions -/

inductive IntroductionStatus where
  | proposed
  | contactRequested
  | contactReleased
  | declined
  | expired
  | completed
  | disputed
  deriving DecidableEq, Repr

structure MarketplaceIntroduction where
  id : MatchIntroductionId
  tenantId : TenantId
  demandIntentId : MarketplaceIntentId
  supplyOfferId : MarketplaceOfferId
  demandPartyId : MarketplacePartyId
  supplyPartyId : MarketplacePartyId
  score : Rat
  reasons : List String
  status : IntroductionStatus
  supplyContactConsentAt : Option OffsetDateTime
  contactReleasedAt : Option OffsetDateTime
  idempotencyKey : String
  expiresAt : OffsetDateTime
  version : Int
  deriving DecidableEq

def marketplaceIntroductions : Schema MatchIntroductionId MarketplaceIntroduction where
  key := MarketplaceIntroduction.id
  clash := fun first second =>
    first.tenantId = second.tenantId ∧
      ((first.demandIntentId = second.demandIntentId ∧
          first.supplyOfferId = second.supplyOfferId) ∨
        (first.demandPartyId = second.demandPartyId ∧
          first.idempotencyKey = second.idempotencyKey))
  check := fun row =>
    0 ≤ row.score ∧ row.score ≤ 1 ∧ hasLength 240 row.idempotencyKey ∧ 0 < row.version ∧
      row.demandPartyId ≠ row.supplyPartyId ∧
      (row.status ≠ .proposed ∨
        (row.supplyContactConsentAt = none ∧ row.contactReleasedAt = none)) ∧
      (row.contactReleasedAt = none ∨ row.supplyContactConsentAt.isSome)

inductive ContactEventType where
  | contactRequested
  | contactConsent
  | contactRelease
  deriving DecidableEq, Repr

inductive ContactDecision where
  | allowed
  | denied
  deriving DecidableEq, Repr

/-- The columns under which a contact action is recorded once. -/
structure ContactKey where
  tenantId : TenantId
  introductionId : MatchIntroductionId
  actorPartyId : MarketplacePartyId
  eventType : ContactEventType
  idempotencyKey : String
  deriving DecidableEq, Repr

structure ContactEvent where
  key : ContactKey
  targetPartyId : MarketplacePartyId
  decision : ContactDecision
  requestFingerprint : Option Bytes
  deriving DecidableEq, Repr

def contactEvents : Schema ContactKey ContactEvent where
  key := ContactEvent.key
  clash := fun _ _ => false
  check := fun row =>
    row.requestFingerprint.all (fun fingerprint => fingerprint.length = 32) ∧
      row.key.actorPartyId ≠ row.targetPartyId ∧ hasLength 240 row.key.idempotencyKey

/-! ## Surroundings -/

structure MarketplaceParty where
  tenantId : TenantId
  id : MarketplacePartyId
  displayName : String
  contactCiphertext : Bytes
  contactNonce : Bytes
  contactKeyVersion : Int
  storeId : Option Uuid
  active : Bool
  deriving DecidableEq, Repr

structure Storefront where
  tenantId : TenantId
  id : Uuid
  domainId : DomainId
  active : Bool
  isPublic : Bool
  hosted : Bool
  deriving DecidableEq, Repr

/-- A picture of a hosted store that is pending or published. -/
structure HostedMedia where
  tenantId : TenantId
  storeId : Uuid
  id : Uuid
  deriving DecidableEq, Repr

structure MarketSurroundings where
  parties : List MarketplaceParty
  stores : List Storefront
  media : List HostedMedia
  activeDomain : TenantId → DomainId → Bool
  /-- The seller may publish the asset. -/
  authorized : TenantId → DomainId → AssetId → MarketplacePartyId → Bool
  /-- The supply party, its store and the canonical path of the store share one scope. -/
  inScope : TenantId → DomainId → MarketplacePartyId → Bool

namespace MarketSurroundings

variable (surroundings : MarketSurroundings)

def party (tenantId : TenantId) (partyId : MarketplacePartyId) : Option MarketplaceParty :=
  surroundings.parties.find? fun party => party.tenantId = tenantId ∧ party.id = partyId

def partyStore (tenantId : TenantId) (partyId : MarketplacePartyId) : Option Uuid :=
  (surroundings.party tenantId partyId).bind MarketplaceParty.storeId

def store (tenantId : TenantId) (domainId : DomainId) (storeId : Uuid) : Option Storefront :=
  surroundings.stores.find? fun store =>
    store.tenantId = tenantId ∧ store.id = storeId ∧ store.domainId = domainId

end MarketSurroundings

structure MarketDatabase where
  surroundings : MarketSurroundings
  intents : Table marketplaceIntents
  offers : Table marketplaceOffers
  introductions : Table marketplaceIntroductions
  contacts : Table contactEvents

namespace MarketDatabase

def intentTable : Part MarketDatabase (Table marketplaceIntents) :=
  ⟨intents, fun table db => { db with intents := table }⟩

def offerTable : Part MarketDatabase (Table marketplaceOffers) :=
  ⟨offers, fun table db => { db with offers := table }⟩

def introductionTable : Part MarketDatabase (Table marketplaceIntroductions) :=
  ⟨introductions, fun table db => { db with introductions := table }⟩

def contactTable : Part MarketDatabase (Table contactEvents) :=
  ⟨contacts, fun table db => { db with contacts := table }⟩

end MarketDatabase

end MatchPlane
