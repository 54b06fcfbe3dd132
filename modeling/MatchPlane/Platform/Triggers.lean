import MatchPlane.Platform.Schema

/-!
# Triggers on stores, registrations and bindings

Every statement that writes one of these tables runs the triggers of the table: a store
is checked against its pointers, a registration that becomes active is projected into
its store, and a registration or a binding that is no longer active suspends it.
-/

namespace MatchPlane.Platform

open MatchPlane.Library

inductive PlatformError where
  /-- A constraint that a table declares. -/
  | constraint
  | foreignKeyViolation (message : String)
  | checkViolation (message : String)
  | uniqueViolation (message : String)
  /-- The answer of a route. -/
  | response (status : Nat) (message : String)
  deriving DecidableEq, Repr

/-- The transactions of the platform. -/
abbrev Tx := Transaction PlatformError PlatformDatabase

def RegistrationState.text : RegistrationState → String
  | received => "received"
  | validated => "validated"
  | building => "building"
  | ready => "ready"
  | active => "active"
  | disabled => "disabled"
  | rejected => "rejected"

def BindingStatus.text : BindingStatus → String
  | pending => "pending"
  | active => "active"
  | degraded => "degraded"
  | revoked => "revoked"

/-! ## Checks of stores and aliases -/

/-- The row that the registration pointer of a store names in its scope. -/
def PlatformDatabase.registrationOf (db : PlatformDatabase) (store : Store)
    (registrationId : RegistrationId) : Option Registration :=
  (db.registrations.lookup registrationId).filter fun row => row.scope = store.scope

/-- The row that the binding pointer of a store names in its scope. -/
def PlatformDatabase.bindingOf (db : PlatformDatabase) (store : Store)
    (bindingId : BindingId) : Option Binding :=
  (db.bindings.lookup bindingId).filter fun row =>
    row.scope = store.scope ∧ row.organizationId = some store.organizationId

def validateStoreBinding (db : PlatformDatabase) (store : Store) : Except PlatformError Unit :=
  match store.federationBindingId with
  | none => pure ⟨⟩
  | some bindingId =>
      match db.bindingOf store bindingId with
      | none => throw (.foreignKeyViolation
          "store federation binding does not match its tenant/domain/path organization scope")
      | some binding =>
          if store.status = .active ∧ binding.status ≠ .active then
            throw (.checkViolation s!"an active store cannot use federation binding state {
              binding.status.text}")
          else pure ⟨⟩

def validateStorePointers (db : PlatformDatabase) (store : Store) :
    Except PlatformError Unit :=
  match store.currentRegistrationId with
  | none =>
      if store.federationBindingId.isSome then
        throw (.checkViolation "a store federation binding requires a current registration")
      else if store.status = .active ∧ store.integrationKind ≠ .hosted then
        throw (.checkViolation
          "an active connected store requires an active scoped registration")
      else pure ⟨⟩
  | some registrationId =>
      match db.registrationOf store registrationId with
      | none => throw (.foreignKeyViolation
          "store registration pointer does not match its tenant/domain/slug scope")
      | some registration =>
          if store.status = .active ∧ registration.state ≠ .active then
            throw (.checkViolation s!"an active store cannot point at registration state {
              registration.state.text}")
          else if store.federationBindingId ≠ registration.federationBindingId then
            throw (.checkViolation
              "store federation binding must be the binding recorded by its current registration")
          else validateStoreBinding db store

/-- `matchplane_validate_store_projection`. -/
def validateStoreProjection (db : PlatformDatabase) (store : Store) :
    Except PlatformError Unit := do
  validateStorePointers db store
  if (db.canonicalAlias store.tenantId store.id).any (·.path ≠ store.canonicalPath) then
    throw (.checkViolation "store slug and canonical path disagree")
  else pure ⟨⟩

/-- `matchplane_validate_store_path_alias` for an insertion. -/
def validateStorePathAlias (db : PlatformDatabase) (row : PathAlias) :
    Except PlatformError Unit :=
  match (db.stores.lookup row.storeId).filter (·.tenantId = row.tenantId) with
  | none => throw (.foreignKeyViolation "store path alias references an unknown scoped store")
  | some store =>
      if row.isCanonical ∧ row.path ≠ store.canonicalPath then
        throw (.checkViolation s!"canonical store path {row.path} must equal /{store.slug}")
      else pure ⟨⟩

/-! ## Stores -/

def Store.suspend (store : Store) : Store :=
  { store with
    status := .suspended
    version := store.version + 1 }

/-- The active stores that a condition selects are suspended. -/
def suspendStores (selects : Store → Bool) : Tx PUnit := do
  let db ← get
  forM (db.stores.rows.filter fun store => selects store ∧ store.status = .active) fun store =>
    liftM (validateStoreProjection db store.suspend)
  PlatformDatabase.storesPart.on <| Table.updateAll .constraint fun store =>
    if selects store ∧ store.status = .active then store.suspend else store

section Projection

variable [Jsonb]

/-- The columns of a store that its registration and its organization determine. -/
def Store.project (registration : Registration) (child : Organization) (store : Store) : Store :=
  { store with
    displayName := child.name
    description := (registration.manifest.fieldText "description").getD ""
    visibility := if registration.membershipPolicy = .everyone then .listed else .members
    integrationKind := if registration.sourceKind = .remote then .external else .package
    currentRegistrationId := some registration.id
    federationBindingId := registration.federationBindingId
    status := .active
    version := store.version + 1 }

def Store.projected (registration : Registration) (child : Organization) (id : StoreId) :
    Store where
  id := id
  tenantId := registration.tenantId
  organizationId := child.id
  domainId := registration.domainId
  slug := registration.slug
  displayName := child.name
  description := (registration.manifest.fieldText "description").getD ""
  status := .active
  visibility := if registration.membershipPolicy = .everyone then .listed else .members
  integrationKind := if registration.sourceKind = .remote then .external else .package
  currentRegistrationId := some registration.id
  federationBindingId := registration.federationBindingId
  version := 1
  createdBy := registration.registeredBy

/-- The store shows a registration that is at least as new. -/
def PlatformDatabase.outruns (db : PlatformDatabase) (store : Store)
    (registration : Registration) : Bool :=
  store.currentRegistrationId ≠ some registration.id ∧
    registration.version ≤
      ((store.currentRegistrationId.bind db.registrations.lookup).map (·.version)).getD 0

/-- The binding of a remote registration vouches for its scope. -/
def PlatformDatabase.vouches (db : PlatformDatabase) (registration : Registration)
    (organizationId : OrganizationId) (bindingId : BindingId) : Bool :=
  (db.bindings.lookup bindingId).any fun binding =>
    binding.scope = registration.scope ∧ binding.organizationId = some organizationId ∧
      binding.registrationId = some registration.id ∧ binding.status = .active

/-- The canonical alias of the store of an organization. -/
def claimCanonicalPath (registration : Registration) (organizationId : OrganizationId) :
    Tx PUnit := do
  let db ← get
  let store ← require .constraint (db.storeOf organizationId)
  if (db.aliases.lookup (registration.tenantId, "/" ++ registration.slug)).any
      (·.storeId ≠ store.id) then
    throw (.uniqueViolation
      s!"canonical store path /{registration.slug} is already owned by another store")
  let row : PathAlias := ⟨registration.tenantId, store.id, store.canonicalPath, true⟩
  liftM (validateStorePathAlias db row)
  match db.aliases.lookup (row.tenantId, row.path) with
  | none => PlatformDatabase.aliasesPart.on (Table.insert .constraint row)
  | some other =>
      if other.storeId = row.storeId then do
        let _ ← PlatformDatabase.aliasesPart.on <|
          Table.update .constraint (row.tenantId, row.path) (fun _ => true) fun current =>
            { current with isCanonical := true }
      else
        throw (.uniqueViolation
          s!"canonical store path /{registration.slug} collided with another store")

/-- The store of an organization shows a registration, unless it shows a newer one. -/
def projectStore (storeId : StoreId) (registration : Registration) (child : Organization) :
    Tx PUnit := do
  let db ← get
  match db.storeOf child.id with
  | some store =>
      if db.outruns store registration then pure ⟨⟩
      else do
        liftM (validateStoreProjection db (store.project registration child))
        let _ ← PlatformDatabase.storesPart.on <|
          Table.update .constraint store.id (fun _ => true) (Store.project registration child)
        claimCanonicalPath registration child.id
  | none => do
      liftM (validateStoreProjection db (Store.projected registration child storeId))
      PlatformDatabase.storesPart.on <|
        Table.insert .constraint (Store.projected registration child storeId)
      claimCanonicalPath registration child.id

/-- `matchplane_project_store_registration`; a store that it inserts gets `storeId`. -/
def projectStoreRegistration (storeId : StoreId) (old : Option Registration)
    (new : Registration) : Tx PUnit := do
  let db ← get
  if new.state ≠ .active then
    match old with
    | some old =>
        if old.state = .active then
          suspendStores fun store => store.currentRegistrationId = some old.id
        else pure ⟨⟩
    | none => pure ⟨⟩
  else if db.highestActiveVersion new.scope ≠ some new.version then pure ⟨⟩
  else
    match db.storeOrganization new with
    | none => pure ⟨⟩
    | some child =>
        -- A remote registration waits for its binding.
        if new.federationBindingId.all (db.vouches new child.id) then
          projectStore storeId new child
        else pure ⟨⟩

/-! ## Statements on registrations -/

def insertRegistration (storeId : StoreId) (row : Registration) : Tx PUnit := do
  PlatformDatabase.registrationsPart.on (Table.insert .constraint row)
  projectStoreRegistration storeId none row

def updateRegistration (storeId : StoreId) (id : RegistrationId) (guard : Registration → Bool)
    (set : Registration → Registration) : Tx (Option Registration) := do
  let db ← get
  match (db.registrations.lookup id).filter guard with
  | none => pure none
  | some old => do
      let _ ← PlatformDatabase.registrationsPart.on (Table.update .constraint id guard set)
      projectStoreRegistration storeId (some old) (set old)
      pure (some (set old))

def Registration.disable (registration : Registration) : Registration :=
  { registration with state := .disabled }

/-- The registrations that a condition selects are disabled. -/
def disableRegistrations (storeId : StoreId) (selects : Registration → Bool) : Tx PUnit := do
  let db ← get
  PlatformDatabase.registrationsPart.on <| Table.updateAll .constraint fun row =>
    if selects row then row.disable else row
  forM (db.registrations.rows.filter selects) fun row =>
    projectStoreRegistration storeId (some row) row.disable

/-! ## Statements on bindings -/

/-- `matchplane_reconcile_store_federation_binding`. -/
def reconcileStoreFederationBinding (storeId : StoreId) (binding : Binding) : Tx PUnit := do
  if binding.status ≠ .active then
    suspendStores fun store => store.federationBindingId = some binding.id
  else
    match binding.registrationId with
    | none => pure ⟨⟩
    | some registrationId => do
        -- `SET state = state` writes nothing and runs the trigger.
        let _ ← updateRegistration storeId registrationId
          (fun row => row.federationBindingId = some binding.id ∧ row.state = .active) id

def insertBinding (storeId : StoreId) (row : Binding) : Tx PUnit := do
  PlatformDatabase.bindingsPart.on (Table.insert .constraint row)
  reconcileStoreFederationBinding storeId row

/-- The scope that a store refers to is still the one of its binding. -/
def Store.refersTo (store : Store) (binding : Binding) : Bool :=
  store.scope = binding.scope ∧ some store.organizationId = binding.organizationId

def updateBinding (storeId : StoreId) (id : BindingId) (guard : Binding → Bool)
    (set : Binding → Binding) : Tx (Option Binding) := do
  let db ← get
  match (db.bindings.lookup id).filter guard with
  | none => pure none
  | some old => do
      let _ ← PlatformDatabase.bindingsPart.on (Table.update .constraint id guard set)
      if db.stores.rows.any (fun store =>
          store.federationBindingId = some id ∧ ¬store.refersTo (set old)) then
        throw (.foreignKeyViolation "stores refer to the scope of the federation binding")
      reconcileStoreFederationBinding storeId (set old)
      pure (some (set old))

end Projection

end MatchPlane.Platform
