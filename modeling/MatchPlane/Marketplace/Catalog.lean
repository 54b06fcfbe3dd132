import MatchPlane.Marketplace.Schema

/-!
# Intents and offers

An intent or an offer is created by statements of their own: a look-up under its
key and an insert.  Anything may happen between them, so each of them is given the
database that it sees.  The other operations are single transactions.

The clocks of the service and of the database are read by the caller and passed in.
-/

namespace MatchPlane

open MatchPlane.Library

/-! ## Validation -/

def isAsciiControl (char : Char) : Bool := char.toNat < 32 ∨ char.toNat = 127

def validateText (value : String) (maximum : Nat) (field : String) : Except StorageError Unit :=
  if trim value.toList = [] ∨ maximum < value.utf8ByteSize ∨ value.toList.any isAsciiControl then
    .error (.invalidData s!"{field} must contain 1..={maximum} printable bytes")
  else .ok ()

def validateObject (value : Json) (field : String) : Except StorageError Unit :=
  if value.isObject then .ok () else .error (.invalidData s!"{field} must be a JSON object")

/-- A time that must not have passed yet. -/
def validateFuture (value : Option OffsetDateTime) (now : OffsetDateTime) (message : String) :
    Except StorageError Unit :=
  if value.any (· ≤ now) then .error (.invalidData message) else .ok ()

def maxNarrativeBytes : Nat := 10000

def maxIdempotencyKeyBytes : Nat := 240

def maxExternalKeyBytes : Nat := 256

def maxDisplayNameBytes : Nat := 500

/-! ## Intents -/

structure CreateMarketplaceIntent where
  intentId : MarketplaceIntentId
  tenantId : TenantId
  domainId : DomainId
  participantId : MarketplacePartyId
  /-- No side stands for a text that names none. -/
  side : Option IntentSide
  narrative : String
  attributes : Json
  terms : Json
  supplyDiscoveryEnabled : Bool
  supplyDiscoveryExpiresAt : Option OffsetDateTime
  idempotencyKey : String
  expiresAt : Option OffsetDateTime
  deriving DecidableEq

structure MarketplaceIntentOutcome where
  intent : MarketplaceIntent
  duplicate : Bool
  deriving DecidableEq

def validateIntent (command : CreateMarketplaceIntent) (now : OffsetDateTime) :
    Except StorageError Unit := do
  if command.side = none then
    .error (.invalidData "intent side must be demand or supply")
  validateText command.narrative maxNarrativeBytes "intent narrative"
  validateText command.idempotencyKey maxIdempotencyKeyBytes "intent idempotency key"
  validateObject command.attributes "intent attributes"
  validateObject command.terms "intent terms"
  validateFuture command.expiresAt now "intent expiry must be in the future"
  validateFuture command.supplyDiscoveryExpiresAt now
    "supply discovery expiry must be in the future"
  if command.supplyDiscoveryExpiresAt.isSome ∧ command.supplyDiscoveryEnabled = false then
    .error (.invalidData "supply discovery expiry requires explicit discovery opt-in")
  if command.supplyDiscoveryEnabled ∧ command.side ≠ some .demand then
    .error (.invalidData "supply discovery is available only for demand intents")

/-- The request asks for the intent as it is now. -/
def MarketplaceIntent.Same (existing : MarketplaceIntent) (command : CreateMarketplaceIntent) :
    Prop :=
  existing.id = command.intentId ∧ existing.domainId = command.domainId ∧
    existing.participantId = command.participantId ∧ some existing.side = command.side ∧
    existing.narrative = command.narrative ∧ existing.attributes = command.attributes ∧
    existing.terms = command.terms ∧
    existing.supplyDiscoveryEnabled = command.supplyDiscoveryEnabled ∧
    existing.supplyDiscoveryExpiresAt = command.supplyDiscoveryExpiresAt ∧
    existing.expiresAt = command.expiresAt

instance (existing : MarketplaceIntent) (command : CreateMarketplaceIntent) :
    Decidable (existing.Same command) :=
  inferInstanceAs (Decidable (_ ∧ _))

def ensureSameIntent (existing : MarketplaceIntent) (command : CreateMarketplaceIntent) :
    Except StorageError Unit :=
  if existing.Same command then .ok () else .error .idempotencyConflict

def selectIntent (intents : Table marketplaceIntents) (command : CreateMarketplaceIntent) :
    Option MarketplaceIntent :=
  intents.rows.find? fun row => row.tenantId = command.tenantId ∧
    row.participantId = command.participantId ∧ row.idempotencyKey = command.idempotencyKey

section Intents

variable [Jsonb]

def CreateMarketplaceIntent.row (command : CreateMarketplaceIntent) (side : IntentSide) :
    MarketplaceIntent where
  id := command.intentId
  tenantId := command.tenantId
  domainId := command.domainId
  participantId := command.participantId
  side := side
  narrative := command.narrative
  attributes := Jsonb.stored command.attributes
  terms := Jsonb.stored command.terms
  supplyDiscoveryEnabled := command.supplyDiscoveryEnabled
  supplyDiscoveryExpiresAt := command.supplyDiscoveryExpiresAt.map timestamptz
  idempotencyKey := command.idempotencyKey
  status := .active
  expiresAt := command.expiresAt.map timestamptz
  version := 1

def insertIntent (command : CreateMarketplaceIntent) : Tx MarketDatabase MarketplaceIntent := do
  let side ← require .sqlx command.side
  let row := command.row side
  MarketDatabase.intentTable.on (Table.insert .sqlx row)
  pure row

/-- The answer, once the request is valid and its look-up has seen `looked`. -/
def createMarketplaceIntent (command : CreateMarketplaceIntent) (now : OffsetDateTime)
    (looked : MarketDatabase) : Tx MarketDatabase MarketplaceIntentOutcome := do
  validateIntent command now
  match selectIntent looked.intents command with
  | some intent =>
      ensureSameIntent intent command
      pure ⟨intent, true⟩
  | none =>
      let intent ← insertIntent command
      pure ⟨intent, false⟩

structure UpdateMarketplaceIntent where
  tenantId : TenantId
  domainId : DomainId
  intentId : MarketplaceIntentId
  participantId : MarketplacePartyId
  narrative : String
  attributes : Json
  terms : Json
  expectedVersion : Int
  deriving DecidableEq

def MarketIntentStatus.isOpen : MarketIntentStatus → Bool
  | active | matched => true
  | _ => false

def updateMarketplaceIntent (command : UpdateMarketplaceIntent) :
    Tx MarketDatabase MarketplaceIntent := do
  validateText command.narrative maxNarrativeBytes "intent narrative"
  validateObject command.attributes "intent attributes"
  validateObject command.terms "intent terms"
  if command.expectedVersion < 1 then
    throw (.invalidData "intent expected version must be positive")
  let updated ← MarketDatabase.intentTable.on (Table.update .sqlx command.intentId
    (fun row => row.tenantId = command.tenantId ∧ row.domainId = command.domainId ∧
      row.participantId = command.participantId ∧ row.status.isOpen ∧
      row.version = command.expectedVersion)
    fun row => { row with
      narrative := command.narrative
      attributes := Jsonb.stored command.attributes
      terms := Jsonb.stored command.terms
      version := row.version + 1 })
  require (.conflict "intent is stale, closed, or not owned by this participant") updated

end Intents

structure UpdateMarketplaceDemandDiscovery where
  tenantId : TenantId
  domainId : DomainId
  intentId : MarketplaceIntentId
  participantId : MarketplacePartyId
  enabled : Bool
  expiresAt : Option OffsetDateTime
  deriving DecidableEq

def updateMarketplaceDemandDiscovery (command : UpdateMarketplaceDemandDiscovery)
    (now : OffsetDateTime) : Tx MarketDatabase MarketplaceIntent := do
  validateFuture command.expiresAt now "supply discovery expiry must be in the future"
  if command.expiresAt.isSome ∧ command.enabled = false then
    throw (.invalidData "supply discovery expiry requires explicit discovery opt-in")
  let updated ← MarketDatabase.intentTable.on (Table.update .sqlx command.intentId
    (fun row => row.tenantId = command.tenantId ∧ row.domainId = command.domainId ∧
      row.participantId = command.participantId ∧ row.side = .demand ∧ row.status.isOpen)
    fun row => { row with
      supplyDiscoveryEnabled := command.enabled
      supplyDiscoveryExpiresAt := command.expiresAt.map timestamptz
      version := row.version + 1 })
  require (.notFound "marketplace demand intent") updated

/-! ## Stock

A trigger keeps `stock_quantity` of the attributes equal to the quantity column. -/

section Stock

variable [Jsonb]

/-- The stock of some attributes; text, fractions and negative numbers count as none. -/
def quantityFromAttributes (payload : Json) : Option Int :=
  match payload.get "stock_quantity" with
  | none => none
  | some stock =>
      let number := match stock with
        | .integer value => some value
        | .float literal => Jsonb.wholeNumber literal
        | _ => none
      some ((number.filter fun value => 0 ≤ value ∧ value ≤ 9007199254740991).getD 0)

def inventoryMirror (payload : Json) : Option Int → Json
  | none => payload.remove "stock_quantity"
  | some quantity => payload.set "stock_quantity" (.integer quantity)

/-- The attributes and the quantity of an offer whose attributes are replaced. -/
def compatibilityWrite (old : MarketplaceOffer) (attributes : Json) : Json × Option Int :=
  let changed := attributes.get "stock_quantity" ≠ old.attributes.get "stock_quantity"
  let quantity := if changed ∧ (attributes.get "stock_quantity").isSome then
    quantityFromAttributes attributes else old.availableQuantity
  (inventoryMirror attributes quantity, quantity)

end Stock

/-! ## Offers -/

structure CreateMarketplaceOffer where
  offerId : MarketplaceOfferId
  tenantId : TenantId
  domainId : DomainId
  supplyPartyId : MarketplacePartyId
  assetId : Option AssetId
  externalKey : String
  displayName : String
  attributes : Json
  terms : Json
  expiresAt : Option OffsetDateTime
  deriving DecidableEq

structure MarketplaceOfferOutcome where
  offer : MarketplaceOffer
  duplicate : Bool
  deriving DecidableEq

def validateOffer (command : CreateMarketplaceOffer) (now : OffsetDateTime) :
    Except StorageError Unit := do
  validateText command.externalKey maxExternalKeyBytes "offer external key"
  validateText command.displayName maxDisplayNameBytes "offer display name"
  validateObject command.attributes "offer attributes"
  validateObject command.terms "offer terms"
  validateFuture command.expiresAt now "offer expiry must be in the future"

/-- The request asks for the offer as it is now. -/
def MarketplaceOffer.Same (existing : MarketplaceOffer) (command : CreateMarketplaceOffer) :
    Prop :=
  existing.id = command.offerId ∧ existing.supplyPartyId = command.supplyPartyId ∧
    existing.assetId = command.assetId ∧ existing.displayName = command.displayName ∧
    existing.attributes = command.attributes ∧ existing.terms = command.terms ∧
    existing.expiresAt = command.expiresAt

instance (existing : MarketplaceOffer) (command : CreateMarketplaceOffer) :
    Decidable (existing.Same command) :=
  inferInstanceAs (Decidable (_ ∧ _))

def ensureSameOffer (existing : MarketplaceOffer) (command : CreateMarketplaceOffer) :
    Except StorageError Unit :=
  if existing.Same command then .ok () else .error .idempotencyConflict

/-- The offer of that key in the store of the party. -/
def selectOffer (db : MarketDatabase) (command : CreateMarketplaceOffer) :
    Option MarketplaceOffer :=
  db.offers.rows.find? fun row => row.tenantId = command.tenantId ∧
    row.domainId = command.domainId ∧ row.externalKey = command.externalKey ∧
    row.storeId = db.surroundings.partyStore command.tenantId command.supplyPartyId

section Offers

variable [Jsonb]

def CreateMarketplaceOffer.row (command : CreateMarketplaceOffer) (storeId : Option Uuid) :
    MarketplaceOffer :=
  let attributes := Jsonb.stored command.attributes
  let quantity := quantityFromAttributes attributes
  { id := command.offerId
    tenantId := command.tenantId
    domainId := command.domainId
    supplyPartyId := command.supplyPartyId
    storeId := storeId
    assetId := command.assetId
    externalKey := command.externalKey
    displayName := command.displayName
    attributes := inventoryMirror attributes quantity
    terms := Jsonb.stored command.terms
    availableQuantity := quantity
    status := .draft
    publishedAt := none
    expiresAt := command.expiresAt.map timestamptz
    version := 1 }

def insertOffer (command : CreateMarketplaceOffer) : Tx MarketDatabase MarketplaceOffer := do
  let surroundings := (← get).surroundings
  let storeId := surroundings.partyStore command.tenantId command.supplyPartyId
  -- A trigger takes the store from the supply party and checks that both share a scope.
  if storeId.isSome ∧
      surroundings.inScope command.tenantId command.domainId command.supplyPartyId = false then
    throw .sqlx
  let row := command.row storeId
  MarketDatabase.offerTable.on (Table.insert .sqlx row)
  pure row

/-- The answer, once the look-up has seen `looked` and the authorization `authorizing`. -/
def createMarketplaceOffer (command : CreateMarketplaceOffer) (now : OffsetDateTime)
    (looked : MarketDatabase) (authorizing : MarketSurroundings) :
    Tx MarketDatabase MarketplaceOfferOutcome := do
  validateOffer command now
  match selectOffer looked command with
  | some offer =>
      ensureSameOffer offer command
      pure ⟨offer, true⟩
  | none =>
      if command.assetId.any (fun assetId => authorizing.authorized command.tenantId
          command.domainId assetId command.supplyPartyId = false) then
        throw (.forbidden "supply participant is not authorized to publish this asset")
      let offer ← insertOffer command
      pure ⟨offer, false⟩

end Offers

/-! ## Management -/

def lockMarketplaceOffer (tenantId : TenantId) (domainId : DomainId)
    (offerId : MarketplaceOfferId) : Tx MarketDatabase MarketplaceOffer := do
  let offer := (← get).offers.lookup offerId
  require (.notFound "marketplace offer")
    (offer.filter fun row => row.tenantId = tenantId ∧ row.domainId = domainId)

def authorizeOfferManagement (offer : MarketplaceOffer) (actorPartyId : MarketplacePartyId)
    (canManageDomain : Bool) : Except StorageError Unit :=
  if offer.supplyPartyId = actorPartyId ∨ canManageDomain then .ok ()
  else .error (.forbidden "marketplace offer belongs to another supply participant")

def ensureOfferVersion (offer : MarketplaceOffer) (expectedVersion : Int) :
    Except StorageError Unit :=
  if expectedVersion < 1 then
    .error (.invalidData "marketplace offer version must be positive")
  else if offer.version = expectedVersion then .ok ()
  else .error (.conflict "marketplace offer version is stale")

structure UpdateMarketplaceOffer where
  tenantId : TenantId
  domainId : DomainId
  offerId : MarketplaceOfferId
  actorPartyId : MarketplacePartyId
  canManageDomain : Bool
  displayName : String
  attributes : Json
  terms : Json
  expectedVersion : Int
  deriving DecidableEq

def validateOfferUpdate (command : UpdateMarketplaceOffer) : Except StorageError Unit := do
  validateText command.displayName maxDisplayNameBytes "offer display name"
  validateObject command.attributes "offer attributes"
  validateObject command.terms "offer terms"
  if command.expectedVersion < 1 then
    .error (.invalidData "marketplace offer version must be positive")

def updateMarketplaceOffer [Jsonb] (command : UpdateMarketplaceOffer) :
    Tx MarketDatabase MarketplaceOffer := do
  validateOfferUpdate command
  let current ← lockMarketplaceOffer command.tenantId command.domainId command.offerId
  authorizeOfferManagement current command.actorPartyId command.canManageDomain
  ensureOfferVersion current command.expectedVersion
  if current.status ∉ [.draft, .active, .withdrawn] then
    throw (.conflict "marketplace offer cannot be edited in its current status")
  let updated ← MarketDatabase.offerTable.on (Table.update .sqlx command.offerId
    (fun row => row.tenantId = command.tenantId ∧ row.domainId = command.domainId)
    fun row =>
      let (attributes, quantity) := compatibilityWrite row (Jsonb.stored command.attributes)
      { row with
        displayName := command.displayName
        attributes := attributes
        terms := Jsonb.stored command.terms
        availableQuantity := quantity
        status := .draft
        publishedAt := none
        version := row.version + 1 })
  require .sqlx updated

structure WithdrawMarketplaceOffer where
  tenantId : TenantId
  domainId : DomainId
  offerId : MarketplaceOfferId
  actorPartyId : MarketplacePartyId
  canManageDomain : Bool
  expectedVersion : Int
  deriving DecidableEq

def withdrawMarketplaceOffer (command : WithdrawMarketplaceOffer) :
    Tx MarketDatabase MarketplaceOffer := do
  let current ← lockMarketplaceOffer command.tenantId command.domainId command.offerId
  authorizeOfferManagement current command.actorPartyId command.canManageDomain
  ensureOfferVersion current command.expectedVersion
  if current.status ∉ [.draft, .active] then
    throw (.conflict "marketplace offer cannot be withdrawn in its current status")
  let updated ← MarketDatabase.offerTable.on (Table.update .sqlx command.offerId
    (fun row => row.tenantId = command.tenantId ∧ row.domainId = command.domainId)
    fun row => { row with
      status := .withdrawn
      version := row.version + 1 })
  require .sqlx updated

/-! ## Moderation -/

section Moderation

variable [Jsonb]

def isDecimalAmount (text : String) : Bool :=
  1 ≤ text.length ∧ text.length ≤ 38 ∧ text.toList.all Char.isDigit ∧
    text.toList.any (· ≠ '0')

/-- Something other than blanks is left. -/
def hasText (text : String) : Bool := text.toList.any (· ≠ ' ')

def attachmentsOf (attributes : Json) : List Json :=
  match attributes.get "attachments" with
  | some (.array attachments) => attachments
  | _ => []

/-- An attachment that shows a picture which the public may see. -/
def MarketSurroundings.showsPicture (surroundings : MarketSurroundings) (offer : MarketplaceOffer)
    (store : Storefront) (attachment : Json) : Bool :=
  attachment.fieldText "kind" = some "image" ∧
    ((surroundings.media.any fun media => media.tenantId = offer.tenantId ∧
        some media.storeId = offer.storeId ∧
        attachment.fieldText "attachment_ref" = some s!"media://hosted/{hyphenated media.id}") ∨
      (store.hosted = false ∧ ((attachment.get "metadata").bind fun metadata =>
        metadata.fieldText "public_url").any fun url => "https://".toList <+: url.toList))

/-- An offer of a store is published only when it is complete. -/
def MarketSurroundings.publishable (surroundings : MarketSurroundings)
    (offer : MarketplaceOffer) : Bool :=
  match offer.storeId with
  | none => true
  | some storeId =>
      (surroundings.store offer.tenantId offer.domainId storeId).any fun store =>
        store.active ∧ store.isPublic ∧ hasText offer.displayName ∧
          hasText ((offer.attributes.fieldText "description").getD "") ∧
          offer.terms.fieldText "pricing_mode" = some "fixed" ∧
          (offer.terms.fieldText "amount_minor").any isDecimalAmount ∧
          (offer.terms.fieldText "currency").any (fun currency =>
            currency.length = 3 ∧ currency.toList.all Char.isUpper) ∧
          (offer.terms.fieldText "currency_scale").any (fun scale =>
            scale ∈ (List.range 19).map toString) ∧
          (attachmentsOf offer.attributes).any (surroundings.showsPicture offer store)

def activateMarketplaceOffer (tenantId : TenantId) (offerId : MarketplaceOfferId)
    (expectedVersion : Int) (stamp : OffsetDateTime) : Tx MarketDatabase MarketplaceOffer := do
  if expectedVersion < 1 then
    throw (.invalidData "marketplace offer version must be positive")
  let surroundings := (← get).surroundings
  let updated ← MarketDatabase.offerTable.on (Table.update .sqlx offerId
    (fun row => row.tenantId = tenantId ∧ row.version = expectedVersion ∧
      row.status ∈ [.draft, .withdrawn] ∧ surroundings.publishable row)
    fun row => { row with
      status := .active
      publishedAt := row.publishedAt.or (some stamp)
      version := row.version + 1 })
  require (.conflict
    "marketplace offer is not awaiting activation or is incomplete for publication") updated

end Moderation

def rejectMarketplaceOffer (tenantId : TenantId) (offerId : MarketplaceOfferId)
    (expectedVersion : Int) : Tx MarketDatabase MarketplaceOffer := do
  if expectedVersion < 1 then
    throw (.invalidData "marketplace offer version must be positive")
  let updated ← MarketDatabase.offerTable.on (Table.update .sqlx offerId
    (fun row => row.tenantId = tenantId ∧ row.version = expectedVersion ∧ row.status = .draft)
    fun row => { row with
      status := .withdrawn
      version := row.version + 1 })
  require (.conflict "marketplace offer is not awaiting moderation") updated

end MatchPlane
