import MatchPlane.Platform.System

/-!
# Routes to children

The market routes a conversation to the stores that are active, and below an organization
that is not a store of the market to its active registrations.  A server key is resolved
to the endpoint of an active binding first, and to the configuration after it.
-/

namespace MatchPlane.Platform

open MatchPlane.Library

/-- Who asks for routes; memberships belong to the authentication service. -/
structure Viewer where
  isMember : OrganizationId → Bool
  organizationId : Option OrganizationId
  isRootAdministrator : Bool

/-- An administrator of the market. -/
def Viewer.rootAdministrator : Viewer := ⟨fun _ => false, none, true⟩

structure PlatformChildRoute where
  slug : String
  path : String
  displayName : String
  description : String
  tenantId : TenantId
  domainId : DomainId
  capabilities : List String
  agentStages : List String
  agentSkills : List String
  agentMcpTools : List String
  mcpServerKey : String
  deriving DecidableEq, Repr

/-- `^\/[a-z0-9-]+(?:\/[a-z0-9-]+)*$`. -/
def isRoutePath (path : String) : Bool :=
  match path.toList with
  | '/' :: rest => (rest.splitOn '/').all fun segment =>
      segment ≠ [] ∧ segment.all fun character => isAlphanumeric character ∨ character = '-'
  | _ => false

def safeRoutePath (value fallbackSlug : String) : String :=
  if isRoutePath value then value else "/" ++ fallbackSlug

def boundedMcpServerKey (value fallback : String) : String :=
  let candidate := JavaScript.trim value
  if isServerKey candidate then candidate else fallback

section Stores

variable [Jsonb]

namespace PlatformDatabase

/-- The registration that the query joins to a store. -/
def routedRegistration (db : PlatformDatabase) (store : Store) : Option Registration :=
  (store.currentRegistrationId.bind db.registrations.lookup).filter fun registration =>
    registration.scope = store.scope ∧ registration.state = .active

/-- The binding that the query joins to a store and its registration. -/
def routedBinding (db : PlatformDatabase) (store : Store) (registration : Option Registration) :
    Option Binding :=
  (store.federationBindingId.bind db.bindings.lookup).filter fun binding =>
    binding.scope = store.scope ∧ binding.organizationId = some store.organizationId ∧
      binding.registrationId.isSome ∧ binding.registrationId = registration.map (·.id) ∧
      binding.status = .active

/-- `COALESCE(NULLIF(binding.mcp_server_key, ''), NULLIF(… ->> 'mcpServerKey', ''), slug)`. -/
def routeKey (binding : Option Binding) (registration : Option Registration) (slug : String) :
    String :=
  (((binding.map (·.mcpServerKey)).filter (· ≠ "")).or
    (registration.bind fun registration => manifestServerKey registration.manifest)).getD slug

/-- The route of a store with the path of its canonical alias. -/
def storeRoute (db : PlatformDatabase) (store : Store) (path : String) : PlatformChildRoute :=
  let registration := db.routedRegistration store
  let binding := db.routedBinding store registration
  let agent := fun field => (registration.map fun registration =>
    agentStrings registration.manifest field).getD []
  { slug := store.slug
    path := safeRoutePath path store.slug
    displayName := store.displayName
    description := store.description
    tenantId := store.tenantId
    domainId := store.domainId
    capabilities := (((registration.bind (·.manifest.get "capabilities")).map strings).getD
      (if store.integrationKind = .hosted then ["marketplace"] else [])).take 64
    agentStages := (agent "stages").take 8
    agentSkills := (agent "skills").take 32
    agentMcpTools := (agent "mcpTools").take 64
    mcpServerKey := boundedMcpServerKey (routeKey binding registration store.slug) store.slug }

/-- The `WHERE` clause on a store and what is joined to it. -/
def isRouted (db : PlatformDatabase) (tenantId : TenantId) (viewer : Viewer) (store : Store) :
    Bool :=
  let registration := db.routedRegistration store
  store.tenantId = tenantId ∧ store.status = .active ∧
    (store.tenantId, store.domainId) ∈ db.domains ∧
    (store.integrationKind = .hosted ∨
      registration.any fun row =>
        row.sourceKind ≠ .remote ∨ (db.routedBinding store registration).isSome) ∧
    (store.visibility = .listed ∨ viewer.isMember store.organizationId ∨
      viewer.organizationId = some store.organizationId ∨ viewer.isRootAdministrator)

/-- `readActiveStoreRoutes`. -/
def readActiveStoreRoutes (db : PlatformDatabase) (tenantId : TenantId) (viewer : Viewer) :
    List PlatformChildRoute :=
  let routed := (db.stores.rows.filter (db.isRouted tenantId viewer)).filterMap fun store =>
    (db.canonicalAlias store.tenantId store.id).map fun row => db.storeRoute store row.path
  routed.mergeSort fun first second => first.slug ≤ second.slug

end PlatformDatabase

end Stores

/-! ## Organizations below the market -/

/-- A row of `platform_tree`. -/
structure TreeNode where
  organization : Organization
  path : String
  isActive : Bool

namespace PlatformDatabase

/-- The organization has an active registration in an active domain. -/
def hasActiveRegistration (db : PlatformDatabase) (tenantId : TenantId)
    (organization : Organization) : Bool :=
  db.registrations.rows.any fun row =>
    row.tenantId = tenantId ∧ row.slug = organization.slug ∧
      some row.domainId = organization.domainId ∧ row.state = .active ∧
      (row.tenantId, row.domainId) ∈ db.domains

/-- A node and everything below it, down to a depth. -/
def descend (db : PlatformDatabase) (tenantId : TenantId) : Nat → TreeNode → List TreeNode
  | 0, node => [node]
  | depth + 1, node =>
      node :: if node.path.length < 4096 then
        (db.organizations.rows.filter fun child =>
          child.parentOrganizationId = some node.organization.id ∧
            child.tenantId = node.organization.tenantId).flatMap fun child =>
          db.descend tenantId depth
            { organization := child
              path := (if node.path = "/" then "/" else node.path ++ "/") ++ child.slug
              isActive := node.isActive ∧ db.hasActiveRegistration tenantId child }
      else []

/-- `platform_tree`. -/
def platformTree (db : PlatformDatabase) (tenantId : TenantId) : List TreeNode :=
  (db.organizations.rows.filter fun root =>
    root.tenantId = some tenantId ∧ root.parentOrganizationId = none ∧
      root.rootPlatform).flatMap fun root => db.descend tenantId 64 ⟨root, "/", true⟩

/-- `key_scope`, from an organization down. -/
def isBelow (db : PlatformDatabase) (ancestor : OrganizationId) : Nat → OrganizationId → Bool
  | 0, id => id = ancestor
  | depth + 1, id => id = ancestor ∨ db.organizations.rows.any fun row =>
      row.id = id ∧ row.parentOrganizationId.any (db.isBelow ancestor depth)

/-- The active binding of a registration. -/
def activeBinding (db : PlatformDatabase) (registration : Registration) : Option Binding :=
  db.bindings.rows.find? fun binding =>
    binding.registrationId = some registration.id ∧ binding.status = .active

variable [Jsonb]

/-- The route of a registration below a path. -/
def registrationRoute (db : PlatformDatabase) (platformPath : String)
    (registration : Registration) : PlatformChildRoute where
  slug := registration.slug
  path := safeRoutePath ((if platformPath = "/" then "/" else platformPath ++ "/") ++
    registration.slug) registration.slug
  displayName := (registration.manifest.fieldText "displayName").getD registration.slug
  description := (registration.manifest.fieldText "description").getD ""
  tenantId := registration.tenantId
  domainId := registration.domainId
  capabilities := (((registration.manifest.get "capabilities").map strings).getD []).take 64
  agentStages := (agentStrings registration.manifest "stages").take 8
  agentSkills := (agentStrings registration.manifest "skills").take 32
  agentMcpTools := (agentStrings registration.manifest "mcpTools").take 64
  mcpServerKey := boundedMcpServerKey
    (routeKey (db.activeBinding registration) (some registration) registration.slug)
    registration.slug

/-- A child of the current node with an active registration that the viewer may see. -/
def isVisible (db : PlatformDatabase) (viewer : Viewer) (registration : Registration)
    (organization : Organization) : Bool :=
  (registration.sourceKind ≠ .remote ∨ (db.activeBinding registration).isSome) ∧
    (registration.membershipPolicy = .everyone ∨ viewer.isMember organization.id ∨
      viewer.organizationId.any (db.isBelow · 64 organization.id) ∨ viewer.isRootAdministrator)

/-- `readActiveDirectChildRoutes`. -/
def readActiveDirectChildRoutes (db : PlatformDatabase) (platformPath : String)
    (tenantId : TenantId) (viewer : Viewer) : List PlatformChildRoute :=
  if platformPath = "/" then db.readActiveStoreRoutes tenantId viewer
  else
    let tree := db.platformTree tenantId
    let routed := (db.registrations.rows.filter fun row =>
        row.tenantId = tenantId ∧ row.state = .active ∧
          (row.tenantId, row.domainId) ∈ db.domains).flatMap fun row =>
      (db.organizations.rows.filter fun organization =>
          organization.slug = row.slug ∧ organization.tenantId = some row.tenantId ∧
            organization.rootPlatform = false ∧ some row.domainId = organization.domainId ∧
            db.isVisible viewer row organization).flatMap fun organization =>
        (tree.filter fun node => node.organization.id = organization.id ∧ node.isActive).flatMap
          fun _ => (tree.filter fun current =>
            some current.organization.id = organization.parentOrganizationId ∧
              current.isActive ∧ current.path = platformPath).map fun _ =>
            db.registrationRoute platformPath row
    routed.mergeSort fun first second => first.slug ≤ second.slug

end PlatformDatabase

/-! ## Endpoints -/

structure SubplatformMcpEndpoint where
  serverKey : String
  url : String
  bearerToken : Option String
  timeoutMs : Nat
  deriving DecidableEq, Repr

/-- The environment of the service, and what it finds out about an address. -/
structure EndpointEnvironment where
  rootTenantId : Option TenantId
  /-- The entry of a key with its address and token variable, if it is valid and safe. -/
  readEntry : String → String → Option String → Option SubplatformMcpEndpoint
  /-- The entry of a key in the configuration, if it is valid and safe. -/
  configured : String → Option SubplatformMcpEndpoint

/-- `resolveSubplatformMcpEndpoint`. -/
def resolveSubplatformMcpEndpoint (environment : EndpointEnvironment) (db : PlatformDatabase)
    (serverKey : String) : Option SubplatformMcpEndpoint :=
  if isServerKey serverKey = false then none
  else
    match environment.rootTenantId.bind fun tenantId => db.bindings.rows.find? fun binding =>
        binding.tenantId = tenantId ∧ binding.mcpServerKey = serverKey ∧
          binding.status = .active with
    | some binding => environment.readEntry serverKey binding.endpoint binding.tokenEnv
    | none => environment.configured serverKey

end MatchPlane.Platform
