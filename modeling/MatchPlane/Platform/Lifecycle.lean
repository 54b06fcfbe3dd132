import MatchPlane.Platform.Triggers

/-!
# Stores of their owners

An owner opens a hosted store, edits its profile, closes it and reopens it.
-/

namespace MatchPlane.Platform

open MatchPlane.Library

inductive LifecycleAction where
  | close
  | reopen
  deriving DecidableEq, Repr

namespace LifecycleAction

def targetStatus : LifecycleAction → StoreStatus
  | close => .closed
  | reopen => .active

def sourceStatus : LifecycleAction → StoreStatus
  | close => .active
  | reopen => .closed

end LifecycleAction

structure LifecycleRequest where
  action : LifecycleAction
  tenantId : TenantId
  storeId : StoreId
  expectedVersion : Nat
  deriving DecidableEq

namespace LifecycleRequest

/-- What is checked of the store before the statement; some requests end there. -/
def admits (request : LifecycleRequest) (read : Store) : Except PlatformError Bool :=
  if read.version ≠ request.expectedVersion then
    throw (.response 409 "店铺状态已被其他操作更新，请刷新后重试")
  else if read.status = request.action.targetStatus then pure false
  else if read.status = request.action.sourceStatus then pure true
  else if read.status = .suspended then
    throw (.response 409 "店铺已被商城暂停，不能由店主更改营业状态")
  else
    throw (.response 409 (if request.action = .close then "只有营业中的店铺可以关闭"
      else "只有已关闭的店铺可以重新开店"))

/-- A store that is connected can only be reopened on a live release. -/
def isReady (db : PlatformDatabase) (store : Store) : Bool :=
  (store.integrationKind = .hosted ∨
    (store.currentRegistrationId.bind db.registrations.lookup).any fun registration =>
      registration.tenantId = store.tenantId ∧ registration.state = .active) ∧
  (store.integrationKind ≠ .external ∨
    (store.federationBindingId.bind db.bindings.lookup).any fun binding =>
      binding.tenantId = store.tenantId ∧ binding.status = .active)

/-- The `WHERE` clause of the statement. -/
def accepts (request : LifecycleRequest) (db : PlatformDatabase) (store : Store) : Bool :=
  store.tenantId = request.tenantId ∧ store.version = request.expectedVersion ∧
    store.status = request.action.sourceStatus ∧
    (request.action = .close ∨ isReady db store)

def set (request : LifecycleRequest) (store : Store) : Store :=
  { store with
    status := request.action.targetStatus
    version := store.version + 1 }

end LifecycleRequest

/-- `PATCH /api/stores/:storeId/lifecycle`; `read` was read before the statement. -/
def changeLifecycle (request : LifecycleRequest) (read : Store) : Tx PUnit := do
  if ← liftM (request.admits read) then do
    let db ← get
    let store ← require (.response 409 (if request.action = .reopen then
        "店铺接入尚未就绪，暂时不能重新开店" else "店铺状态已被其他操作更新，请刷新后重试"))
      ((db.stores.lookup request.storeId).filter (request.accepts db))
    liftM (validateStoreProjection db (request.set store))
    let _ ← PlatformDatabase.storesPart.on <|
      Table.update .constraint store.id (fun _ => true) request.set

structure ProfileRequest where
  tenantId : TenantId
  storeId : StoreId
  displayName : String
  description : String
  expectedVersion : Nat
  deriving DecidableEq

/-- `PATCH /api/stores/:storeId`; no column that the trigger watches is written. -/
def updateProfile (request : ProfileRequest) : Tx PUnit := do
  let updated ← PlatformDatabase.storesPart.on <|
    Table.update .constraint request.storeId
      (fun store => store.tenantId = request.tenantId ∧ store.version = request.expectedVersion)
      fun store =>
        { store with
          displayName := request.displayName
          description := request.description
          version := store.version + 1 }
  if updated = none then
    throw (.response 409 "店铺资料已被其他操作更新，请刷新后重试")

structure HostedStore where
  id : StoreId
  tenantId : TenantId
  organizationId : OrganizationId
  domainId : DomainId
  slug : String
  displayName : String
  description : String
  createdBy : String
  deriving DecidableEq

def HostedStore.row (request : HostedStore) : Store where
  id := request.id
  tenantId := request.tenantId
  organizationId := request.organizationId
  domainId := request.domainId
  slug := request.slug
  displayName := request.displayName
  description := request.description
  status := .active
  visibility := .listed
  integrationKind := .hosted
  currentRegistrationId := none
  federationBindingId := none
  version := 1
  createdBy := request.createdBy

/-- The transaction of `POST /api/stores`. -/
def openHostedStore (request : HostedStore) : Tx PUnit := do
  let db ← get
  liftM (validateStoreProjection db request.row)
  PlatformDatabase.storesPart.on (Table.insert .constraint request.row)
  let row : PathAlias := ⟨request.tenantId, request.id, request.row.canonicalPath, true⟩
  let db ← get
  liftM (validateStorePathAlias db row)
  PlatformDatabase.aliasesPart.on (Table.insert .constraint row)

end MatchPlane.Platform
