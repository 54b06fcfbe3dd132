import MatchPlane.Platform.Triggers

/-!
# Federation bindings

A remote node is enrolled once with an invite, activated by an administrator, probed, and
revoked.  Probes and the creation of organizations happen between transactions; what
they find out is an argument here.
-/

namespace MatchPlane.Platform

open MatchPlane.Library

/-! ## Enrollment -/

/-- What is kept of a signed enrollment that has been verified. -/
structure Enrollment where
  nodeId : FederationNodeId
  slug : String
  displayName : String
  endpoint : String
  mcpServerKey : String
  manifest : Json
  manifestDigest : String

section Enrollment

variable [Jsonb]

/-- A tool of a manifest has the form of a server key. -/
def hasServerKeys (field : Option Json) : Bool :=
  match field with
  | none => true
  | some (.array elements) => elements.length ≤ 64 ∧ elements.all fun element =>
      element.asStr.any isServerKey
  | some _ => false

/-- The agent section of a remote manifest; its server key is not looked at. -/
def validateRemoteAgent (agent : Option Json) : Bool :=
  match agent with
  | none => true
  | some (.object fields) =>
      (((Json.object fields).get "protocol").all (· = .string "matchplane.agent/v1")) ∧
        hasServerKeys ((Json.object fields).get "mcpTools")
  | some _ => false

namespace Enrollment

/-- The checks of `verifyFederationEnrollment` on keys and the manifest. -/
def isValid (enrollment : Enrollment) : Bool :=
  isSlug enrollment.slug ∧ isServerKey enrollment.mcpServerKey ∧
    enrollment.manifest.isObject ∧
    enrollment.manifest.text "slug" = some enrollment.slug ∧
    (enrollment.manifest.text "id").any isPackageId ∧
    validateRemoteAgent (enrollment.manifest.get "agent")

def row (enrollment : Enrollment) (id : BindingId) (invite : Invite) : Binding where
  id := id
  inviteId := invite.id
  tenantId := invite.tenantId
  domainId := invite.domainId
  parentOrganizationId := invite.parentOrganizationId
  organizationId := none
  registrationId := none
  nodeId := enrollment.nodeId
  slug := enrollment.slug
  displayName := enrollment.displayName
  endpoint := enrollment.endpoint
  mcpServerKey := enrollment.mcpServerKey
  manifest := Jsonb.stored enrollment.manifest
  manifestDigest := enrollment.manifestDigest
  tokenEnv := none
  status := .pending
  lastError := none

/-- The node, the slug or the server key is taken, by a revoked binding as well. -/
def isDuplicate (enrollment : Enrollment) (tenantId : TenantId) (binding : Binding) : Bool :=
  binding.tenantId = tenantId ∧
    (binding.nodeId = enrollment.nodeId ∨ binding.slug = enrollment.slug ∨
      binding.mcpServerKey = enrollment.mcpServerKey)

end Enrollment

/-- `POST /api/platform/federation/enroll`. -/
def enrollNode (storeId : StoreId) (bindingId : BindingId) (tokenHash : Bytes)
    (enrollment : Enrollment) (now : OffsetDateTime) : Tx Binding := do
  if enrollment.isValid = false then
    throw (.response 400 "入驻报文必须是 JSON 对象")
  let db ← get
  let invite ← require (.response 410 "enrollment token 不存在、已使用或已过期")
    (db.invites.rows.find? fun invite =>
      invite.tokenHash = tokenHash ∧ invite.used = false ∧ now < invite.expiresAt)
  if db.bindings.rows.any (enrollment.isDuplicate invite.tenantId) then
    throw (.response 409 "nodeId、slug 或 mcpServerKey 已被当前平台占用")
  insertBinding storeId (enrollment.row bindingId invite)
  let _ ← PlatformDatabase.invitesPart.on <|
    Table.update .constraint invite.id (fun _ => true) fun row => { row with used := true }
  pure (enrollment.row bindingId invite)

def createInvite (invite : Invite) : Tx PUnit :=
  PlatformDatabase.invitesPart.on (Table.insert .constraint { invite with used := false })

end Enrollment

/-! ## Activation -/

section Activation

variable [Jsonb]

/-- The organization that was created for a binding before its activation. -/
def linkOrganization (storeId : StoreId) (bindingId : BindingId)
    (organizationId : OrganizationId) : Tx Binding := do
  let linked ← updateBinding storeId bindingId (fun row => row.organizationId = none) fun row =>
    { row with organizationId := some organizationId }
  require (.response 409 "联邦绑定在激活期间已被其他请求占用") linked

structure BindingActivation where
  bindingId : BindingId
  tenantId : TenantId
  organizationId : OrganizationId
  tokenEnv : Option String
  membershipPolicy : MembershipPolicy
  registrationId : RegistrationId
  activatedBy : String
  now : OffsetDateTime

namespace BindingActivation

/-- The registration of a binding that has none yet. -/
def row (activation : BindingActivation) (binding : Binding) : Registration where
  id := activation.registrationId
  tenantId := binding.tenantId
  domainId := binding.domainId
  packageId := "federated." ++
    String.ofList ((hyphenated binding.nodeId.uuid).toList.filter (· ≠ '-'))
  slug := binding.slug
  sourceKind := .remote
  sourceLocator := "federation://" ++ hyphenated binding.id.uuid
  pinnedRevision := binding.manifestDigest
  sourceDigest := binding.manifestDigest
  manifestDigest := binding.manifestDigest
  buildDigest := none
  manifest := Jsonb.stored binding.manifest
  membershipPolicy := activation.membershipPolicy
  state := .active
  version := 1
  federationBindingId := some binding.id
  artifactLocator := none
  artifactEntry := "index.html"
  buildLeaseId := none
  buildStartedAt := none
  buildAttempts := 0
  buildError := none
  registeredBy := activation.activatedBy
  registeredAt := activation.now

def promote (activation : BindingActivation) (registrationId : RegistrationId)
    (binding : Binding) : Binding :=
  { binding with
    organizationId := some activation.organizationId
    registrationId := some registrationId
    status := .active
    tokenEnv := activation.tokenEnv }

/-- The organization may be given the scope of the binding. -/
def mayProject (binding : Binding) (organization : Organization) : Bool :=
  organization.slug = binding.slug ∧ organization.rootPlatform = false ∧
    organization.tenantId.all (· = binding.tenantId) ∧
    organization.domainId.all (· = binding.domainId) ∧
    organization.parentOrganizationId.all (· = binding.parentOrganizationId)

def project (binding : Binding) (organization : Organization) : Organization :=
  { organization with
    tenantId := some binding.tenantId
    domainId := some binding.domainId
    parentOrganizationId := some binding.parentOrganizationId }

end BindingActivation

/-- The status of a binding can be promoted. -/
def BindingStatus.isPromotable (status : BindingStatus) : Bool := status ∈ [.pending, .active]

/-- The latest registration of a binding, or of a remote node of the slug. -/
def PlatformDatabase.remoteRelease (db : PlatformDatabase) (binding : Binding) :
    Option Registration :=
  firstBy (fun first second => decide (second.version < first.version))
    (db.registrations.rows.filter fun row =>
      row.federationBindingId = some binding.id ∨
        (row.line = binding.line ∧ row.sourceKind = .remote))

def promoteBinding (storeId : StoreId) (activation : BindingActivation)
    (registrationId : RegistrationId) : Tx Binding := do
  let promoted ← updateBinding storeId activation.bindingId (·.status.isPromotable)
    (activation.promote registrationId)
  require (.response 409 "联邦绑定状态已在激活期间改变") promoted

/-- The projection of an organization, a statement of its own before the transaction. -/
def projectOrganization (activation : BindingActivation) : Tx PUnit := do
  let db ← get
  let binding ← require (.response 404 "联邦绑定不存在")
    ((db.bindings.lookup activation.bindingId).filter (·.tenantId = activation.tenantId))
  let projected ← PlatformDatabase.organizationsPart.on <|
    Table.update .constraint activation.organizationId
      (BindingActivation.mayProject binding) (BindingActivation.project binding)
  if projected = none then
    throw (.response 409 "联邦绑定组织不属于当前租户或父平台")

/-- The transaction of `POST /api/platform/federation/bindings/activate`.

What the route reads of a binding before it never changes, its status and its
registration apart; those are read again here. -/
def activateBinding (storeId : StoreId) (activation : BindingActivation) : Tx Binding := do
  let db ← get
  let binding ← require (.response 409 "联邦绑定已在激活期间撤销")
    ((db.bindings.lookup activation.bindingId).filter fun binding =>
      binding.tenantId = activation.tenantId ∧ binding.status ≠ .revoked)
  if binding.status = .degraded then
    throw (.response 409 "联邦 MCP 健康状态已在激活期间降级，请重新执行健康检查")
  match db.remoteRelease binding with
  | some existing =>
      if existing.state ≠ .active then
        throw (.response 409 "联邦注册版本尚未处于 active，不能启用路由")
      else promoteBinding storeId activation existing.id
  | none => do
      insertRegistration storeId (activation.row binding)
      promoteBinding storeId activation activation.registrationId

end Activation

/-! ## Health and revocation -/

section Health

variable [Jsonb]

/-- A probe of the endpoint of a binding. -/
structure Probe where
  ok : Bool
  error : Option String
  deriving DecidableEq

def Probe.record (probe : Probe) (binding : Binding) : Binding :=
  { binding with
    status := if probe.ok then .active else .degraded
    lastError := probe.error }

/-- `POST /api/platform/federation/bindings/health`. -/
def recordHealth (storeId : StoreId) (bindingId : BindingId) (tenantId : TenantId)
    (probe : Probe) : Tx Binding := do
  let recorded ← updateBinding storeId bindingId
    (fun row => row.tenantId = tenantId ∧ row.status ≠ .revoked) probe.record
  require (.response 409 "联邦绑定已被撤销") recorded

def Binding.revoke (binding : Binding) : Binding :=
  { binding with
    status := .revoked
    lastError := some "revoked by root administrator" }

/-- A registration whose binding has been revoked. -/
def Registration.revoke (registration : Registration) : Registration :=
  { registration with
    state := .disabled
    version := registration.version + 1 }

/-- `PATCH /api/platform/federation/bindings`. -/
def revokeBinding (storeId : StoreId) (bindingId : BindingId) (tenantId : TenantId) :
    Tx Binding := do
  let revoked ← updateBinding storeId bindingId
    (fun row => row.tenantId = tenantId ∧ row.status ≠ .revoked) Binding.revoke
  let binding ← require (.response 404 "联邦绑定不存在或已经撤销") revoked
  match binding.registrationId with
  | none => pure binding
  | some registrationId => do
      let _ ← updateRegistration storeId registrationId (fun row => row.state = .active)
        Registration.revoke
      pure binding

end Health

end MatchPlane.Platform
