import MatchPlane.Platform.Builds
import MatchPlane.Platform.Projections

/-!
# Releases of packages

A package is registered as the next release of its slug, and activated by the digest of
its build.  The activation retires the releases that are older.
-/

namespace MatchPlane.Platform

open MatchPlane.Library

variable [Jsonb]

/-! ## Registration -/

/-- A valid key of the agent section, or none. -/
def isAgentKey (field : Option Json) : Bool :=
  match field with
  | none => true
  | some (.string key) => isServerKey key
  | some _ => false

/-- A list of keys, all of them valid. -/
def isAgentList (limit : Nat) (field : Option Json) : Bool :=
  match field with
  | some (.array elements) => elements.length ≤ limit ∧ elements.all fun element =>
      element.asStr.any isServerKey
  | _ => false

def validateAgentManifest (agent : Json) : Bool :=
  match agent with
  | .object fields =>
      fields.all (fun (key, _) =>
        key ∈ ["protocol", "stages", "skills", "mcpTools", "mcpServerKey"]) ∧
      agent.text "protocol" = some "matchplane.agent/v1" ∧
      isAgentList 8 (agent.get "stages") ∧ isAgentList 32 (agent.get "skills") ∧
      isAgentList 64 (agent.get "mcpTools") ∧ isAgentKey (agent.get "mcpServerKey")
  | _ => false

/-- What JavaScript takes for false. -/
def isFalsy : Json → Bool
  | .null | .bool false | .string "" => true
  | .integer value => value = 0
  | _ => false

structure RegistrationRequest where
  registrationId : RegistrationId
  tenantId : TenantId
  domainId : DomainId
  packageId : String
  slug : String
  sourceKind : SourceKind
  sourceLocator : String
  pinnedRevision : String
  sourceDigest : String
  manifest : Json
  manifestDigest : String
  membershipPolicy : MembershipPolicy
  /-- The organization of the slug, found or created before the transaction. -/
  organizationId : OrganizationId
  /-- The organization of the market. -/
  parentOrganizationId : OrganizationId
  registeredBy : String
  now : OffsetDateTime

namespace RegistrationRequest

/-- The part of `validateManifest` that later queries depend on. -/
def validateManifest (request : RegistrationRequest) : Bool :=
  request.manifest.isObject ∧ request.manifest.text "id" = some request.packageId ∧
    isPackageId request.packageId ∧ request.manifest.text "slug" = some request.slug ∧
    isSlug request.slug ∧ request.slug ≠ "root" ∧
    (request.manifest.get "agent").all fun agent => isFalsy agent ∨ validateAgentManifest agent

def row (request : RegistrationRequest) (version : Nat) : Registration where
  id := request.registrationId
  tenantId := request.tenantId
  domainId := request.domainId
  packageId := request.packageId
  slug := request.slug
  sourceKind := request.sourceKind
  sourceLocator := request.sourceLocator
  pinnedRevision := request.pinnedRevision
  sourceDigest := JavaScript.toLowerCase request.sourceDigest
  manifestDigest := request.manifestDigest
  buildDigest := none
  manifest := Jsonb.stored request.manifest
  membershipPolicy := request.membershipPolicy
  state := .validated
  version := version
  federationBindingId := none
  artifactLocator := none
  artifactEntry := "index.html"
  buildLeaseId := none
  buildStartedAt := none
  buildAttempts := 0
  buildError := none
  registeredBy := request.registeredBy
  registeredAt := request.now

/-- The organization may be given the scope of the registration. -/
def mayProject (request : RegistrationRequest) (organization : Organization) : Bool :=
  organization.rootPlatform = false ∧
    organization.tenantId.all (· = request.tenantId) ∧
    organization.domainId.all (· = request.domainId) ∧
    organization.parentOrganizationId.all (· = request.parentOrganizationId)

def project (request : RegistrationRequest) (organization : Organization) : Organization :=
  { organization with
    tenantId := some request.tenantId
    domainId := some request.domainId
    parentOrganizationId := some request.parentOrganizationId }

end RegistrationRequest

/-- `COALESCE(MAX(version), 0) + 1` of the registrations of a slug. -/
def PlatformDatabase.nextVersion (db : PlatformDatabase) (line : TenantId × String) : Nat :=
  (((db.registrations.rows.filter fun row => row.line = line).map
    Registration.version).max?).getD 0 + 1

/-- `POST /api/platform/subplatforms`. -/
def registerPackage (storeId : StoreId) (request : RegistrationRequest) : Tx Registration := do
  if request.validateManifest = false then
    throw (.response 400 "manifest 无效")
  if request.sourceKind = .remote then
    throw (.response 400 "sourceKind must be git or archive")
  let db ← get
  let version := db.nextVersion (request.tenantId, request.slug)
  let projected ← PlatformDatabase.organizationsPart.on <|
    Table.update .constraint request.organizationId request.mayProject request.project
  if projected = none then
    throw (.response 500 "子平台注册记录保存失败")
  insertRegistration storeId (request.row version)
  pure (request.row version)

/-! ## Activation -/

structure ActivationRequest where
  registrationId : RegistrationId
  buildDigest : String
  deriving DecidableEq

/-- The states from which a registration can be activated. -/
def RegistrationState.isActivatable (state : RegistrationState) : Bool :=
  state ∈ [.validated, .building, .ready]

namespace ActivationRequest

/-- What is checked of the registration before the transaction. -/
def admits (request : ActivationRequest) (row : Registration) : Except PlatformError Unit :=
  if row.state ≠ .active ∧ row.state.isActivatable = false then
    throw (.response 409 s!"当前状态 {row.state.text} 不允许激活")
  else if row.state ≠ .active ∧ row.buildDigest = none then
    throw (.response 409 "隔离构建器尚未附加 buildDigest")
  else if row.state ≠ .active ∧
      row.buildDigest ≠ some (JavaScript.toLowerCase request.buildDigest) then
    throw (.response 409 "buildDigest 与已验证构建产物不一致")
  else pure ⟨⟩

/-- The registration is still the one that was read before the transaction. -/
def isUnchanged (read target : Registration) : Bool :=
  target.tenantId = read.tenantId ∧ target.slug = read.slug ∧
    target.domainId = read.domainId ∧ target.version = read.version ∧
    target.manifestDigest = read.manifestDigest

/-- The `WHERE` clause of the activation. -/
def accepts (request : ActivationRequest) (version : Nat) (row : Registration) : Bool :=
  row.state.isActivatable ∧ row.version = version ∧
    row.buildDigest = some (JavaScript.toLowerCase request.buildDigest)

end ActivationRequest

def Registration.activate (registration : Registration) : Registration :=
  { registration with state := .active }

/-- The active registration of a slug with the greatest version. -/
def PlatformDatabase.activeRelease (db : PlatformDatabase) (line : TenantId × String) :
    Option Registration :=
  firstBy (fun first second => decide (second.version < first.version))
    (db.registrations.rows.filter fun row => row.line = line ∧ row.state = .active)

def PlatformDatabase.hasOrganization (db : PlatformDatabase) (registration : Registration) :
    Bool :=
  db.organizations.rows.any fun organization =>
    organization.slug = registration.slug ∧ organization.tenantId = some registration.tenantId

/-- Older active releases of a slug. -/
def Registration.isOlder (target row : Registration) : Bool :=
  row.line = target.line ∧ row.id ≠ target.id ∧ row.state = .active ∧
    row.version < target.version

/-- `POST /api/platform/subplatforms/activate`; `read` was read before the transaction. -/
def activateRegistration (storeId : StoreId) (fresh : FreshJobs) (request : ActivationRequest)
    (read : Registration) : Tx Registration := do
  liftM (request.admits read)
  let db ← get
  let target ← require (.response 409 "注册版本已被其他操作修改，请重新读取后再试")
    ((db.registrations.lookup request.registrationId).filter fun target =>
      db.hasOrganization target ∧ ActivationRequest.isUnchanged read target)
  if target.buildDigest ≠ some (JavaScript.toLowerCase request.buildDigest) then
    throw (.response 409 (if target.state = .active then
      "已激活版本的 buildDigest 不匹配，不能覆盖不可变发布"
      else "buildDigest 与已验证构建产物不一致"))
  let currentActive := db.activeRelease target.line
  if target.state = .active then
    if currentActive.map (·.id) ≠ some target.id then
      throw (.response 409 "已有更新的注册版本处于激活状态，不能回退覆盖")
    enqueueRegistrationCatalogProjections fresh target
    pure target
  else do
    if target.state.isActivatable = false then
      throw (.response 409 s!"当前状态 {target.state.text} 不允许激活")
    if currentActive.any (fun active => target.version ≤ active.version) then
      throw (.response 409 "目标注册版本必须严格新于当前激活版本")
    let updated ← updateRegistration storeId target.id (request.accepts target.version)
      Registration.activate
    let active ← require (.response 409 "注册版本已被其他操作修改，请重新读取后再试") updated
    disableRegistrations storeId active.isOlder
    enqueueRegistrationCatalogProjections fresh target
    pure active

end MatchPlane.Platform
