import MatchPlane.Platform.Triggers

/-!
# Projection jobs of offers

A change of an offer, and the activation of a release, ask for the delivery of offers to
the store that shows them.  At most one job is kept for each version of an offer and
registration; a job that is there already is left as it is.
-/

namespace MatchPlane.Platform

open MatchPlane.Library

/-- What the database gives to the job of an offer that a statement inserts. -/
structure FreshJobs where
  id : MarketplaceOfferId → JobId
  requestId : MarketplaceOfferId → Uuid
  now : OffsetDateTime

/-- Where an offer is delivered to. -/
structure ProjectionTarget where
  tenantId : TenantId
  domainId : DomainId
  storeId : StoreId
  offerId : MarketplaceOfferId
  canonicalVersion : Int
  registrationId : Option RegistrationId
  platformPath : Option String
  mcpServerKey : Option String
  deriving DecidableEq

def ProjectionTarget.job (target : ProjectionTarget) (fresh : FreshJobs) : ProjectionJob where
  id := fresh.id target.offerId
  tenantId := target.tenantId
  domainId := target.domainId
  storeId := target.storeId
  offerId := target.offerId
  canonicalVersion := target.canonicalVersion
  requestId := fresh.requestId target.offerId
  registrationId := target.registrationId
  platformPath := target.platformPath
  mcpServerKey := target.mcpServerKey
  status := .pending
  attempts := 0
  nextAttemptAt := fresh.now
  leaseOwner := none
  leaseExpiresAt := none
  lastErrorCode := none
  lastError := none
  ackedAt := none

/-- `ON CONFLICT (tenant_id, offer_id, canonical_version, registration_id) DO NOTHING`. -/
def insertJob (job : ProjectionJob) : Tx PUnit := do
  let db ← get
  if projectionJobs.check job = false then throw .constraint
  if db.jobs.rows.any (fun other =>
      other.registrationId.isSome ∧ other.destination = job.destination) then
    pure ⟨⟩
  else PlatformDatabase.jobsPart.on (Table.insert .constraint job)

def ProjectionJob.supersede (job : ProjectionJob) : ProjectionJob :=
  { job with
    status := .superseded
    leaseOwner := none
    leaseExpiresAt := none
    lastErrorCode := none
    lastError := none
    ackedAt := none }

/-- The waiting jobs that a condition selects are superseded. -/
def supersedeJobs (selects : ProjectionJob → Bool) (set : ProjectionJob → ProjectionJob) :
    Tx PUnit :=
  PlatformDatabase.jobsPart.on <| Table.updateAll .constraint fun job =>
    if job.status ∈ [.pending, .retry] ∧ selects job then set job else job

section Manifests

variable [Jsonb]

/-- `NULLIF(manifest -> 'agent' ->> 'mcpServerKey', '')`. -/
def manifestServerKey (manifest : Json) : Option String :=
  ((manifest.get "agent").bind (·.fieldText "mcpServerKey")).filter (· ≠ "")

def Registration.serverKey (registration : Registration) : String :=
  (manifestServerKey registration.manifest).getD registration.slug

end Manifests

/-- The strings of an array. -/
def strings : Json → List String
  | .array elements => elements.filterMap Json.asStr
  | _ => []

def agentStrings (manifest : Json) (field : String) : List String :=
  (((manifest.get "agent").bind (·.get field)).map strings).getD []

def declaredMcpTools (manifest : Json) : List String :=
  ((agentStrings manifest "mcpTools").filter isServerKey).take 64

/-- The tool that takes offers. -/
def catalogTool : String := "catalog.upsert"

/-! ## Changes of offers -/

section Offers

variable [Jsonb]

/-- The store of an offer. -/
def PlatformDatabase.offerStore (db : PlatformDatabase) (offer : MarketplaceOffer) :
    Option Store :=
  db.stores.rows.find? fun store =>
    store.tenantId = offer.tenantId ∧ store.domainId = offer.domainId ∧
      some store.id.uuid = offer.storeId

/-- The active release that a store shows. -/
def PlatformDatabase.currentRelease (db : PlatformDatabase) (store : Store) :
    Option Registration :=
  (store.currentRegistrationId.bind db.registrations.lookup).filter fun registration =>
    registration.tenantId = store.tenantId ∧ registration.domainId = store.domainId ∧
      registration.state = .active

/-- The row `target` of `enqueue_marketplace_offer_projection`. -/
def PlatformDatabase.offerTarget (db : PlatformDatabase) (tenantId : TenantId)
    (domainId : DomainId) (offerId : MarketplaceOfferId) (canonicalVersion : Int) :
    Option ProjectionTarget := do
  let offer ← (db.offers.lookup offerId).filter fun offer =>
    offer.tenantId = tenantId ∧ offer.domainId = domainId ∧ offer.version = canonicalVersion
  let store ← (db.offerStore offer).filter (·.integrationKind ≠ .hosted)
  let row ← db.canonicalAlias store.tenantId store.id
  let registration ← (db.currentRelease store).filter fun registration =>
    catalogTool ∈ agentStrings registration.manifest "mcpTools"
  pure {
    tenantId := offer.tenantId
    domainId := offer.domainId
    storeId := store.id
    offerId := offer.id
    canonicalVersion := offer.version
    registrationId := some registration.id
    platformPath := some row.path
    mcpServerKey := some registration.serverKey }

def enqueueMarketplaceOfferProjection (fresh : FreshJobs) (tenantId : TenantId)
    (domainId : DomainId) (offerId : MarketplaceOfferId) (canonicalVersion : Int) :
    Tx PUnit := do
  let db ← get
  match db.offerTarget tenantId domainId offerId canonicalVersion with
  | none => pure ⟨⟩
  | some target => do
      supersedeJobs
        (fun job => job.tenantId = target.tenantId ∧ job.offerId = target.offerId ∧
          job.canonicalVersion < target.canonicalVersion)
        fun job => { job.supersede with nextAttemptAt := fresh.now }
      insertJob (target.job fresh)

end Offers

/-! ## Activations -/

section Activations

variable [Jsonb]

/-- The rows `target` of the offers in the stores that show a registration. -/
def PlatformDatabase.releaseTargets (db : PlatformDatabase) (registration : Registration) :
    List ProjectionTarget :=
  (db.stores.rows.filter fun store =>
    store.tenantId = registration.tenantId ∧ store.domainId = registration.domainId ∧
      store.currentRegistrationId = some registration.id ∧
      store.integrationKind ≠ .hosted).flatMap fun store =>
    match db.canonicalAlias store.tenantId store.id with
    | none => []
    | some row =>
        (db.offers.rows.filter fun offer =>
          offer.tenantId = store.tenantId ∧ offer.domainId = store.domainId ∧
            offer.storeId = some store.id.uuid).map fun offer =>
          { tenantId := offer.tenantId
            domainId := offer.domainId
            storeId := store.id
            offerId := offer.id
            canonicalVersion := offer.version
            registrationId := some registration.id
            platformPath := some row.path
            mcpServerKey := some registration.serverKey }

def enqueueRegistrationCatalogProjections (fresh : FreshJobs) (registration : Registration) :
    Tx PUnit := do
  if catalogTool ∉ declaredMcpTools registration.manifest then pure ⟨⟩
  else do
    let db ← get
    let targets := db.releaseTargets registration
    supersedeJobs
      (fun job => job.registrationId ≠ some registration.id ∧
        targets.any fun target => target.tenantId = job.tenantId ∧ target.offerId = job.offerId)
      ProjectionJob.supersede
    forM targets fun target => insertJob (target.job fresh)

end Activations

end MatchPlane.Platform
