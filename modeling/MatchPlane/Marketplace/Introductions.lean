import MatchPlane.Marketplace.Catalog

/-!
# Introductions

The demand side asks for the contact, the supply side consents, and then either of
them is given the encrypted contact of the other.  Every decision is recorded once
under the key of its request.  A refusal that is recorded commits, so it is an
answer of the transaction and no failure of it.
-/

namespace MatchPlane

open MatchPlane.Library

/-! ## Proposals -/

structure CreateMarketplaceIntroduction where
  introductionId : MatchIntroductionId
  tenantId : TenantId
  participantId : MarketplacePartyId
  intentId : MarketplaceIntentId
  offerId : MarketplaceOfferId
  /-- No score stands for one that is not finite. -/
  score : Option Rat
  reasons : List String
  idempotencyKey : String
  expiresAt : OffsetDateTime
  deriving DecidableEq

structure MarketplaceIntroductionOutcome where
  introduction : MarketplaceIntroduction
  duplicate : Bool
  deriving DecidableEq

def validateIntroduction (command : CreateMarketplaceIntroduction) (now : OffsetDateTime) :
    Except StorageError Rat := do
  let score ← match command.score.filter fun score => 0 ≤ score ∧ score ≤ 1 with
    | some score => .ok score
    | none => .error (.invalidData "introduction score must be finite and between 0 and 1")
  if 24 < command.reasons.length ∨ command.reasons.any (500 < ·.utf8ByteSize) then
    .error (.invalidData "introduction reasons are too large")
  validateText command.idempotencyKey maxIdempotencyKeyBytes "introduction idempotency key"
  if command.expiresAt ≤ now then
    .error (.invalidData "introduction expiry must be in the future")
  .ok score

/-- The store of an offer, if it has one, is open to the public. -/
def MarketSurroundings.discoverable (surroundings : MarketSurroundings) (tenantId : TenantId)
    (domainId : DomainId) : Option Uuid → Bool
  | none => true
  | some storeId => (surroundings.store tenantId domainId storeId).any fun store =>
      store.active ∧ store.isPublic ∧ surroundings.activeDomain tenantId domainId

def introductionByKey (introductions : Table marketplaceIntroductions)
    (command : CreateMarketplaceIntroduction) : Option MarketplaceIntroduction :=
  introductions.rows.find? fun row => row.tenantId = command.tenantId ∧
    row.demandPartyId = command.participantId ∧ row.idempotencyKey = command.idempotencyKey

def introductionByPair (introductions : Table marketplaceIntroductions)
    (command : CreateMarketplaceIntroduction) : Option MarketplaceIntroduction :=
  introductions.rows.find? fun row => row.tenantId = command.tenantId ∧
    row.demandIntentId = command.intentId ∧ row.supplyOfferId = command.offerId

/-- The intent and the offer of an introduction, in one domain of the tenant. -/
def introducedPair (db : MarketDatabase) (command : CreateMarketplaceIntroduction) :
    Option (MarketplaceIntent × MarketplaceOffer) :=
  match db.intents.lookup command.intentId, db.offers.lookup command.offerId with
  | some intent, some offer =>
      if intent.tenantId = command.tenantId ∧ offer.tenantId = intent.tenantId ∧
          offer.domainId = intent.domainId then some (intent, offer)
      else none
  | _, _ => none

def createMarketplaceIntroduction (command : CreateMarketplaceIntroduction)
    (now : OffsetDateTime) : Tx MarketDatabase MarketplaceIntroductionOutcome := do
  let score ← validateIntroduction command now
  let db ← get
  match introductionByKey db.introductions command with
  | some introduction =>
      if introduction.demandIntentId ≠ command.intentId ∨
          introduction.supplyOfferId ≠ command.offerId then
        throw .idempotencyConflict
      pure ⟨introduction, true⟩
  | none =>
      let (intent, offer) ← require (.notFound "marketplace intent or offer")
        (introducedPair db command)
      if intent.participantId ≠ command.participantId then
        throw (.forbidden "marketplace intent does not belong to the authenticated participant")
      if intent.side ≠ .demand then
        throw (.conflict "introduction requires a demand intent")
      if intent.participantId = offer.supplyPartyId then
        throw (.invalidData "demand and supply participants must differ")
      if intent.status.isOpen = false ∨ offer.status ≠ .active ∨
          db.surroundings.discoverable command.tenantId intent.domainId offer.storeId = false ∨
          intent.expiresAt.any (· ≤ now) ∨ offer.expiresAt.any (· ≤ now) then
        throw (.conflict "intent or offer is no longer active")
      if intent.expiresAt.any (· < command.expiresAt) ∨
          offer.expiresAt.any (· < command.expiresAt) then
        throw (.conflict "introduction expiry cannot outlive its intent or offer")
      match introductionByPair db.introductions command with
      | some introduction =>
          if introduction.demandPartyId ≠ command.participantId then
            throw (.forbidden "existing introduction belongs to another participant")
          pure ⟨introduction, true⟩
      | none =>
          let row : MarketplaceIntroduction := {
            id := command.introductionId
            tenantId := command.tenantId
            demandIntentId := command.intentId
            supplyOfferId := command.offerId
            demandPartyId := intent.participantId
            supplyPartyId := offer.supplyPartyId
            score := score
            reasons := command.reasons
            status := .proposed
            supplyContactConsentAt := none
            contactReleasedAt := none
            idempotencyKey := command.idempotencyKey
            expiresAt := timestamptz command.expiresAt
            version := 1 }
          MarketDatabase.introductionTable.on (Table.insert .sqlx row)
          let _ ← MarketDatabase.intentTable.on (Table.update .sqlx command.intentId
            (fun row => row.tenantId = command.tenantId ∧ row.status = .active)
            fun row => { row with
              status := .matched
              version := row.version + 1 })
          pure ⟨row, false⟩

/-! ## Audit -/

/-- The events once a decision is recorded under its key; a repetition must be the same. -/
def insertMarketplaceContactEvent (event : ContactEvent) : Tx MarketDatabase Unit := do
  let inserted ← MarketDatabase.contactTable.on (Table.insertOrIgnore .sqlx event)
  if inserted = false then
    let stored := (← get).contacts.lookup event.key
    if stored.any (fun row => row.requestFingerprint = event.requestFingerprint ∧
        row.targetPartyId = event.targetPartyId ∧ row.decision = event.decision) = false then
      throw (.conflict "contact action idempotency key was reused with a different payload")

def lockIntroduction (tenantId : TenantId) (introductionId : MatchIntroductionId) :
    Tx MarketDatabase MarketplaceIntroduction := do
  let introduction := (← get).introductions.lookup introductionId
  require (.notFound "marketplace introduction")
    (introduction.filter fun row => row.tenantId = tenantId)

def updateIntroduction (introductionId : MatchIntroductionId)
    (guard : MarketplaceIntroduction → Bool)
    (set : MarketplaceIntroduction → MarketplaceIntroduction) : Tx MarketDatabase Unit := do
  let _ ← MarketDatabase.introductionTable.on (Table.update .sqlx introductionId guard set)

/-! ## Contacts -/

structure RequestMarketplaceContact where
  tenantId : TenantId
  introductionId : MatchIntroductionId
  demandPartyId : MarketplacePartyId
  idempotencyKey : String
  requestFingerprint : Option Bytes
  deriving DecidableEq, Repr

def requestMarketplaceContact (command : RequestMarketplaceContact) (now : OffsetDateTime) :
    Tx MarketDatabase (Answer MarketplaceIntroduction) := do
  validateText command.idempotencyKey maxIdempotencyKeyBytes "contact request idempotency key"
  let current ← lockIntroduction command.tenantId command.introductionId
  if current.demandPartyId ≠ command.demandPartyId then
    throw (.forbidden "only the demand participant can request contact")
  let event := fun decision : ContactDecision => ({
    key := ⟨command.tenantId, command.introductionId, command.demandPartyId, .contactRequested,
      command.idempotencyKey⟩
    targetPartyId := current.supplyPartyId
    decision := decision
    requestFingerprint := command.requestFingerprint } : ContactEvent)
  if current.expiresAt ≤ now ∨ current.status ∈ [.declined, .expired, .disputed] then
    insertMarketplaceContactEvent (event .denied)
    pure (.error (.conflict "marketplace introduction is no longer available"))
  else
    if current.status = .proposed then
      updateIntroduction command.introductionId
        (fun row => row.tenantId = command.tenantId ∧ row.status = .proposed)
        fun row => { row with
          status := .contactRequested
          version := row.version + 1 }
    insertMarketplaceContactEvent (event .allowed)
    let introduction ← lockIntroduction command.tenantId command.introductionId
    pure (.ok introduction)

structure AcceptMarketplaceContact where
  tenantId : TenantId
  introductionId : MatchIntroductionId
  supplyPartyId : MarketplacePartyId
  idempotencyKey : String
  deriving DecidableEq, Repr

def acceptMarketplaceContact (command : AcceptMarketplaceContact) (now stamp : OffsetDateTime) :
    Tx MarketDatabase (Answer MarketplaceIntroduction) := do
  validateText command.idempotencyKey maxIdempotencyKeyBytes "contact consent idempotency key"
  let current ← lockIntroduction command.tenantId command.introductionId
  if current.supplyPartyId ≠ command.supplyPartyId then
    throw (.forbidden "only the supply participant can consent to contact")
  let event := fun decision : ContactDecision => ({
    key := ⟨command.tenantId, command.introductionId, command.supplyPartyId, .contactConsent,
      command.idempotencyKey⟩
    targetPartyId := current.demandPartyId
    decision := decision
    requestFingerprint := none } : ContactEvent)
  if current.expiresAt ≤ now ∨ current.status ∉ [.contactRequested, .contactReleased] then
    insertMarketplaceContactEvent (event .denied)
    pure (.error (.conflict "marketplace introduction is not awaiting supply consent"))
  else
    if current.supplyContactConsentAt = none then
      updateIntroduction command.introductionId
        (fun row => row.tenantId = command.tenantId ∧ row.supplyContactConsentAt = none)
        fun row => { row with
          supplyContactConsentAt := some stamp
          status := .contactReleased
          version := row.version + 1 }
    insertMarketplaceContactEvent (event .allowed)
    let introduction ← lockIntroduction command.tenantId command.introductionId
    pure (.ok introduction)

structure ReleaseMarketplaceContact where
  tenantId : TenantId
  introductionId : MatchIntroductionId
  actorPartyId : MarketplacePartyId
  idempotencyKey : String
  requestFingerprint : Option Bytes
  deriving DecidableEq, Repr

def ReleaseMarketplaceContact.key (command : ReleaseMarketplaceContact) : ContactKey :=
  ⟨command.tenantId, command.introductionId, command.actorPartyId, .contactRelease,
    command.idempotencyKey⟩

structure MarketplaceContactEnvelope where
  targetPartyId : MarketplacePartyId
  displayName : String
  ciphertext : Bytes
  nonce : Bytes
  keyVersion : Int
  introduction : MarketplaceIntroduction
  deriving DecidableEq

/-- The other side of an introduction, for one of its two sides. -/
def MarketplaceIntroduction.counterpart (introduction : MarketplaceIntroduction)
    (actorPartyId : MarketplacePartyId) : Option MarketplacePartyId :=
  if introduction.demandPartyId = actorPartyId then some introduction.supplyPartyId
  else if introduction.supplyPartyId = actorPartyId then some introduction.demandPartyId
  else none

def releaseMarketplaceContact (command : ReleaseMarketplaceContact)
    (now stamp : OffsetDateTime) : Tx MarketDatabase (Answer MarketplaceContactEnvelope) := do
  validateText command.idempotencyKey maxIdempotencyKeyBytes "contact release idempotency key"
  let current ← lockIntroduction command.tenantId command.introductionId
  let targetPartyId ← require
    (.forbidden "contact is available only to the matched participants")
    (current.counterpart command.actorPartyId)
  let event := fun decision : ContactDecision => ({
    key := command.key
    targetPartyId := targetPartyId
    decision := decision
    requestFingerprint := command.requestFingerprint } : ContactEvent)
  if current.expiresAt ≤ now ∨ current.status ∉ [.contactReleased, .completed] ∨
      current.supplyContactConsentAt = none then
    insertMarketplaceContactEvent (event .denied)
    pure (.error (.conflict "supply consent is required before contact release"))
  else
    updateIntroduction command.introductionId (fun row => row.tenantId = command.tenantId)
      fun row => { row with
        contactReleasedAt := row.contactReleasedAt.or (some stamp)
        version := if row.contactReleasedAt = none then row.version + 1 else row.version }
    insertMarketplaceContactEvent (event .allowed)
    let contact ← require (.notFound "active counterpart")
      (((← get).surroundings.party command.tenantId targetPartyId).filter
        MarketplaceParty.active)
    let introduction ← lockIntroduction command.tenantId command.introductionId
    pure (.ok {
      targetPartyId := targetPartyId
      displayName := contact.displayName
      ciphertext := contact.contactCiphertext
      nonce := contact.contactNonce
      keyVersion := contact.contactKeyVersion
      introduction := introduction })

end MatchPlane
