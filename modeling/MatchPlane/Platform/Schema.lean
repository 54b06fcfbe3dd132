import MatchPlane.Library.Statements
import MatchPlane.Marketplace.Schema

/-!
# Tables of the storefront platform

Organizations, registrations of packages, federation bindings, the stores that are
projected from them, and the jobs that deliver offers to stores.  A store points at the
registration it runs and at the binding of that registration; both pointers name a row
of its own tenant, domain and slug.

Organizations and domains belong to the authentication service and to operators, which
may change them at any time.
-/

namespace MatchPlane.Platform

open MatchPlane.Library

/-! ## Identifiers -/

structure OrganizationId where
  uuid : Uuid
  deriving DecidableEq, Repr

structure RegistrationId where
  uuid : Uuid
  deriving DecidableEq, Repr

structure BindingId where
  uuid : Uuid
  deriving DecidableEq, Repr

structure InviteId where
  uuid : Uuid
  deriving DecidableEq, Repr

structure StoreId where
  uuid : Uuid
  deriving DecidableEq, Repr

structure LeaseId where
  uuid : Uuid
  deriving DecidableEq, Repr

structure JobId where
  uuid : Uuid
  deriving DecidableEq, Repr

/-! ## Patterns -/

def isAlphanumeric (character : Char) : Bool := character.isLower ∨ character.isDigit

/-- `^[a-z0-9][…]{1,limit}$`, where the class of the later characters is given. -/
def isKey (later : Char → Bool) (limit : Nat) (text : String) : Bool :=
  match text.toList with
  | [] => false
  | first :: rest =>
      isAlphanumeric first ∧ 1 ≤ rest.length ∧ rest.length ≤ limit ∧ rest.all later

def isSlug : String → Bool :=
  isKey (fun character => isAlphanumeric character ∨ character = '-') 62

def isPackageId : String → Bool :=
  isKey (fun character => isAlphanumeric character ∨ character ∈ ['.', '_', '-']) 127

/-- The pattern of server keys; tools are named by the same pattern. -/
def isServerKey : String → Bool :=
  isKey (fun character => isAlphanumeric character ∨ character ∈ ['.', '_', ':', '-']) 127

/-- `!~ '(^/|(^|/)\.\.?(/|$)|\\)'` of a column with a bounded length. -/
def isArtifactPath (limit : Nat) (text : String) : Bool :=
  hasLength limit text ∧ text.toList.head? ≠ some '/' ∧
    (text.toList.splitOn '/').all (fun segment => segment ≠ ['.'] ∧ segment ≠ ['.', '.']) ∧
    '\\' ∉ text.toList

/-! ## Organizations -/

structure Organization where
  id : OrganizationId
  name : String
  slug : String
  tenantId : Option TenantId
  domainId : Option DomainId
  parentOrganizationId : Option OrganizationId
  rootPlatform : Bool
  deriving DecidableEq

def organizations : Schema OrganizationId Organization where
  key := Organization.id
  clash := fun first second =>
    first.slug = second.slug ∨
      (first.rootPlatform = true ∧ second.rootPlatform = true ∧
        first.tenantId = second.tenantId ∧ first.tenantId.isSome)
  check := fun row =>
    row.parentOrganizationId ≠ some row.id ∧
      (row.rootPlatform = false ∨ row.parentOrganizationId = none)

def Organization.isRoot (organization : Organization) : Bool :=
  organization.rootPlatform ∧ organization.parentOrganizationId = none

/-! ## Registrations -/

inductive SourceKind where
  | git
  | archive
  | remote
  deriving DecidableEq, Repr

inductive MembershipPolicy where
  | everyone
  | invite
  deriving DecidableEq, Repr

inductive RegistrationState where
  | received
  | validated
  | building
  | ready
  | active
  | disabled
  | rejected
  deriving DecidableEq, Repr

/-- A release of a package or of a remote node.  Digests are read as lower-case hex. -/
structure Registration where
  id : RegistrationId
  tenantId : TenantId
  domainId : DomainId
  packageId : String
  slug : String
  sourceKind : SourceKind
  sourceLocator : String
  pinnedRevision : String
  sourceDigest : String
  manifestDigest : String
  buildDigest : Option String
  manifest : Json
  membershipPolicy : MembershipPolicy
  state : RegistrationState
  version : Nat
  federationBindingId : Option BindingId
  artifactLocator : Option String
  artifactEntry : String
  buildLeaseId : Option LeaseId
  buildStartedAt : Option OffsetDateTime
  buildAttempts : Nat
  buildError : Option String
  registeredBy : String
  registeredAt : OffsetDateTime
  deriving DecidableEq

def registrations : Schema RegistrationId Registration where
  key := Registration.id
  clash := fun first second =>
    (first.tenantId = second.tenantId ∧ first.slug = second.slug ∧
        first.version = second.version) ∨
      (first.tenantId = second.tenantId ∧ first.packageId = second.packageId ∧
        first.sourceDigest = second.sourceDigest) ∨
      (first.federationBindingId.isSome ∧
        first.federationBindingId = second.federationBindingId)
  check := fun row =>
    isPackageId row.packageId ∧ isSlug row.slug ∧ hasLength 2048 row.sourceLocator ∧
      hasLength 256 row.pinnedRevision ∧ row.manifest.isObject ∧ 0 < row.version ∧
      row.artifactLocator.all (isArtifactPath 512) ∧ isArtifactPath 256 row.artifactEntry ∧
      row.buildAttempts ≤ 100 ∧ row.buildError.all (hasLength 4000) ∧
      hasLength 200 row.registeredBy

namespace Registration

/-- The tenant and the slug, which number the releases. -/
def line (registration : Registration) : TenantId × String :=
  (registration.tenantId, registration.slug)

/-- The columns that a store and its registration have in common. -/
def scope (registration : Registration) : TenantId × DomainId × String :=
  (registration.tenantId, registration.domainId, registration.slug)

end Registration

/-! ## Federation bindings -/

/-- A right to enroll one node, held by whoever knows the token. -/
structure Invite where
  id : InviteId
  tenantId : TenantId
  parentOrganizationId : OrganizationId
  domainId : DomainId
  tokenHash : Bytes
  expiresAt : OffsetDateTime
  used : Bool
  deriving DecidableEq

def invites : Schema InviteId Invite where
  key := Invite.id
  clash := fun first second => first.tokenHash = second.tokenHash
  check := fun row => row.tokenHash.length = 32

inductive BindingStatus where
  | pending
  | active
  | degraded
  | revoked
  deriving DecidableEq, Repr

structure Binding where
  id : BindingId
  inviteId : InviteId
  tenantId : TenantId
  domainId : DomainId
  parentOrganizationId : OrganizationId
  organizationId : Option OrganizationId
  registrationId : Option RegistrationId
  nodeId : FederationNodeId
  slug : String
  displayName : String
  endpoint : String
  mcpServerKey : String
  manifest : Json
  manifestDigest : String
  tokenEnv : Option String
  status : BindingStatus
  lastError : Option String
  deriving DecidableEq

def bindings : Schema BindingId Binding where
  key := Binding.id
  clash := fun first second =>
    first.inviteId = second.inviteId ∨
      (first.organizationId.isSome ∧ first.organizationId = second.organizationId) ∨
      (first.registrationId.isSome ∧ first.registrationId = second.registrationId) ∨
      first.nodeId = second.nodeId ∨
      (first.tenantId = second.tenantId ∧ first.mcpServerKey = second.mcpServerKey) ∨
      -- The partial index over the bindings that are not revoked.
      (first.tenantId = second.tenantId ∧ first.slug = second.slug ∧
        first.status ≠ .revoked ∧ second.status ≠ .revoked)
  check := fun row =>
    isSlug row.slug ∧ hasLength 200 row.displayName ∧ hasLength 2048 row.endpoint ∧
      isServerKey row.mcpServerKey ∧ row.manifest.isObject ∧ row.lastError.all (hasLength 4000)

namespace Binding

def line (binding : Binding) : TenantId × String := (binding.tenantId, binding.slug)

def scope (binding : Binding) : TenantId × DomainId × String :=
  (binding.tenantId, binding.domainId, binding.slug)

end Binding

/-! ## Stores -/

inductive StoreStatus where
  | pending
  | active
  | suspended
  | closed
  deriving DecidableEq, Repr

inductive StoreVisibility where
  | listed
  | members
  deriving DecidableEq, Repr

inductive IntegrationKind where
  | hosted
  | package
  | external
  deriving DecidableEq, Repr

structure Store where
  id : StoreId
  tenantId : TenantId
  organizationId : OrganizationId
  domainId : DomainId
  slug : String
  displayName : String
  description : String
  status : StoreStatus
  visibility : StoreVisibility
  integrationKind : IntegrationKind
  currentRegistrationId : Option RegistrationId
  federationBindingId : Option BindingId
  version : Nat
  createdBy : String
  deriving DecidableEq

def stores : Schema StoreId Store where
  key := Store.id
  clash := fun first second =>
    first.organizationId = second.organizationId ∨
      (first.tenantId = second.tenantId ∧ first.slug = second.slug)
  check := fun row =>
    isSlug row.slug ∧ hasLength 200 row.displayName ∧ row.description.length ≤ 2000 ∧
      0 < row.version ∧ hasLength 200 row.createdBy

namespace Store

def scope (store : Store) : TenantId × DomainId × String :=
  (store.tenantId, store.domainId, store.slug)

def canonicalPath (store : Store) : String := "/" ++ store.slug

end Store

structure PathAlias where
  tenantId : TenantId
  storeId : StoreId
  path : String
  isCanonical : Bool
  deriving DecidableEq

/-- `^/[a-z0-9][a-z0-9-]{1,62}$`. -/
def isStorePath (path : String) : Bool :=
  match path.toList with
  | '/' :: slug => isSlug (String.ofList slug)
  | _ => false

def pathAliases : Schema (TenantId × String) PathAlias where
  key := fun row => (row.tenantId, row.path)
  clash := fun first second =>
    first.tenantId = second.tenantId ∧ first.storeId = second.storeId ∧
      first.isCanonical = true ∧ second.isCanonical = true
  check := fun row => isStorePath row.path

/-! ## Projection jobs -/

inductive JobStatus where
  | pending
  | processing
  | retry
  | acked
  | superseded
  | dead
  deriving DecidableEq, Repr

/-- The delivery of one version of an offer to one release of its store. -/
structure ProjectionJob where
  id : JobId
  tenantId : TenantId
  domainId : DomainId
  storeId : StoreId
  offerId : MarketplaceOfferId
  canonicalVersion : Int
  requestId : Uuid
  registrationId : Option RegistrationId
  platformPath : Option String
  mcpServerKey : Option String
  status : JobStatus
  attempts : Nat
  nextAttemptAt : OffsetDateTime
  leaseOwner : Option String
  leaseExpiresAt : Option OffsetDateTime
  lastErrorCode : Option String
  lastError : Option String
  ackedAt : Option OffsetDateTime
  deriving DecidableEq

/-- `^/(?:[a-z0-9-]+(?:/[a-z0-9-]+)*)$` with at most 512 characters. -/
def isPlatformPath (path : String) : Bool :=
  match path.toList with
  | '/' :: rest =>
      path.length ≤ 512 ∧ (rest.splitOn '/').all fun segment =>
        segment ≠ [] ∧ segment.all fun character =>
          isAlphanumeric character ∨ character = '-'
  | _ => false

/-- `^[a-z0-9][a-z0-9._-]{0,127}$`, which has no colon. -/
def isJobServerKey (key : String) : Bool :=
  match key.toList with
  | [] => false
  | first :: rest => isAlphanumeric first ∧ rest.length ≤ 127 ∧
      rest.all fun character => isAlphanumeric character ∨ character ∈ ['.', '_', '-']

namespace ProjectionJob

/-- The columns that a conflict of insertions is about. -/
def destination (job : ProjectionJob) :
    TenantId × MarketplaceOfferId × Int × Option RegistrationId :=
  (job.tenantId, job.offerId, job.canonicalVersion, job.registrationId)

def hasDestinationShape (job : ProjectionJob) : Bool :=
  match job.registrationId, job.platformPath, job.mcpServerKey with
  | none, none, none => true
  | some _, some path, some key => isPlatformPath path ∧ isJobServerKey key
  | _, _, _ => false

end ProjectionJob

def projectionJobs : Schema JobId ProjectionJob where
  key := ProjectionJob.id
  clash := fun first second =>
    first.requestId = second.requestId ∨
      (first.registrationId.isSome ∧ first.destination = second.destination)
  check := fun row =>
    0 < row.canonicalVersion ∧ row.attempts ≤ 8 ∧ row.leaseOwner.all (hasLength 200) ∧
      row.lastErrorCode.all (hasLength 80) ∧ row.lastError.all (hasLength 1000) ∧
      row.leaseOwner.isSome = (row.status = .processing : Bool) ∧
      row.leaseExpiresAt.isSome = (row.status = .processing : Bool) ∧
      row.ackedAt.isSome = (row.status = .acked : Bool) ∧ row.hasDestinationShape

/-! ## The database -/

structure PlatformDatabase where
  organizations : Table organizations
  /-- The domains that are active. -/
  domains : List (TenantId × DomainId)
  invites : Table invites
  bindings : Table bindings
  registrations : Table registrations
  stores : Table stores
  aliases : Table pathAliases
  offers : Table marketplaceOffers
  jobs : Table projectionJobs

namespace PlatformDatabase

def bindingsPart : Part PlatformDatabase (Table Platform.bindings) where
  get := bindings
  put := fun table db => { db with bindings := table }

def registrationsPart : Part PlatformDatabase (Table Platform.registrations) where
  get := registrations
  put := fun table db => { db with registrations := table }

def storesPart : Part PlatformDatabase (Table Platform.stores) where
  get := stores
  put := fun table db => { db with stores := table }

def aliasesPart : Part PlatformDatabase (Table pathAliases) where
  get := aliases
  put := fun table db => { db with aliases := table }

def invitesPart : Part PlatformDatabase (Table Platform.invites) where
  get := invites
  put := fun table db => { db with invites := table }

def offersPart : Part PlatformDatabase (Table marketplaceOffers) where
  get := offers
  put := fun table db => { db with offers := table }

def jobsPart : Part PlatformDatabase (Table projectionJobs) where
  get := jobs
  put := fun table db => { db with jobs := table }

def organizationsPart : Part PlatformDatabase (Table Platform.organizations) where
  get := organizations
  put := fun table db => { db with organizations := table }

/-- The alias under which the market shows a store. -/
def canonicalAlias (db : PlatformDatabase) (tenantId : TenantId) (storeId : StoreId) :
    Option PathAlias :=
  db.aliases.rows.find? fun row =>
    row.tenantId = tenantId ∧ row.storeId = storeId ∧ row.isCanonical

/-- The greatest version of the active registrations of a scope. -/
def highestActiveVersion (db : PlatformDatabase) (scope : TenantId × DomainId × String) :
    Option Nat :=
  ((db.registrations.rows.filter fun row => row.scope = scope ∧ row.state = .active).map
    Registration.version).max?

/-- The organization directly below the root that a registration belongs to. -/
def storeOrganization (db : PlatformDatabase) (registration : Registration) :
    Option Organization :=
  db.organizations.rows.find? fun child =>
    child.tenantId = some registration.tenantId ∧ child.domainId = some registration.domainId ∧
      child.slug = registration.slug ∧ child.rootPlatform = false ∧
      db.organizations.rows.any fun root =>
        child.parentOrganizationId = some root.id ∧ root.tenantId = child.tenantId ∧ root.isRoot

/-- The store of an organization. -/
def storeOf (db : PlatformDatabase) (organizationId : OrganizationId) : Option Store :=
  db.stores.rows.find? fun store => store.organizationId = organizationId

end PlatformDatabase

end MatchPlane.Platform
