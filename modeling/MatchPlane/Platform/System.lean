import MatchPlane.Platform.Bindings
import MatchPlane.Platform.Lifecycle
import MatchPlane.Platform.Releases

/-!
# The platform

The platform as a state machine: every step is one transaction, or one statement of a
route that has no transaction.  A run is a serial order of any interleaving.  What a
route reads before its transaction is an argument of the step, so it may be out of date.
-/

namespace MatchPlane.Platform

open MatchPlane.Library

/-- What the system does; `storeId` is for the store that a trigger inserts. -/
inductive PlatformAction where
  /-- The authentication service, operators, owners of offers and relays go on. -/
  | surround (organizations : Table organizations) (domains : List (TenantId × DomainId))
      (offers : Table marketplaceOffers) (jobs : Table projectionJobs)
  | invite (invite : Invite)
  | enroll (storeId : StoreId) (bindingId : BindingId) (tokenHash : Bytes)
      (enrollment : Enrollment) (now : OffsetDateTime)
  | linkOrganization (storeId : StoreId) (bindingId : BindingId)
      (organizationId : OrganizationId)
  | projectOrganization (activation : BindingActivation)
  | activateBinding (storeId : StoreId) (activation : BindingActivation)
  | recordHealth (storeId : StoreId) (bindingId : BindingId) (tenantId : TenantId)
      (probe : Probe)
  | revokeBinding (storeId : StoreId) (bindingId : BindingId) (tenantId : TenantId)
  | register (storeId : StoreId) (request : RegistrationRequest)
  | claimBuild (storeId : StoreId) (claim : BuildClaim)
  | completeBuild (storeId : StoreId) (request : BuilderRequest)
  | failBuild (storeId : StoreId) (failure : BuildFailure) (now : OffsetDateTime)
  | activate (storeId : StoreId) (fresh : FreshJobs) (request : ActivationRequest)
      (read : Registration)
  | lifecycle (request : LifecycleRequest) (read : Store)
  | profile (request : ProfileRequest)
  | openStore (request : HostedStore)

namespace PlatformDatabase

/-- Nothing has been registered, enrolled or opened yet. -/
structure Initial (db : PlatformDatabase) : Prop where
  invites : db.invites.rows = []
  bindings : db.bindings.rows = []
  registrations : db.registrations.rows = []
  stores : db.stores.rows = []
  aliases : db.aliases.rows = []

variable [Jsonb]

/-- The transaction of a step, without its answer. -/
def transaction : PlatformAction → Tx PUnit
  | .surround organizations domains offers jobs => modify fun db =>
      { db with
        organizations := organizations
        domains := domains
        offers := offers
        jobs := jobs }
  | .invite invite => createInvite invite
  | .enroll storeId bindingId tokenHash enrollment now => do
      let _ ← enrollNode storeId bindingId tokenHash enrollment now
  | .linkOrganization storeId bindingId organizationId => do
      let _ ← linkOrganization storeId bindingId organizationId
  | .projectOrganization activation => projectOrganization activation
  | .activateBinding storeId activation => do
      let _ ← activateBinding storeId activation
  | .recordHealth storeId bindingId tenantId probe => do
      let _ ← recordHealth storeId bindingId tenantId probe
  | .revokeBinding storeId bindingId tenantId => do
      let _ ← revokeBinding storeId bindingId tenantId
  | .register storeId request => do
      let _ ← registerPackage storeId request
  | .claimBuild storeId claim => do
      let _ ← claimBuild storeId claim
  | .completeBuild storeId request => do
      let _ ← completeBuild storeId request
  | .failBuild storeId failure now => do
      let _ ← failBuild storeId failure now
  | .activate storeId fresh request read => do
      let _ ← activateRegistration storeId fresh request read
  | .lifecycle request read => changeLifecycle request read
  | .profile request => updateProfile request
  | .openStore request => openHostedStore request

/-- A refused request leaves the database as it was. -/
def step (db : PlatformDatabase) (action : PlatformAction) : PlatformDatabase :=
  committed (transaction action) db

/-- The request of a step is granted. -/
def accepts (db : PlatformDatabase) (action : PlatformAction) : Bool :=
  succeeds (transaction action) db

def run (db : PlatformDatabase) (actions : List PlatformAction) : PlatformDatabase :=
  actions.foldl step db

theorem run_append (db : PlatformDatabase) (first second : List PlatformAction) :
    db.run (first ++ second) = (db.run first).run second :=
  List.foldl_append

theorem run_snoc (db : PlatformDatabase) (actions : List PlatformAction)
    (action : PlatformAction) :
    db.run (actions ++ [action]) = (db.run actions).step action := by
  rw [run_append]
  rfl

theorem run_cons (db : PlatformDatabase) (action : PlatformAction)
    (actions : List PlatformAction) :
    db.run (action :: actions) = (db.step action).run actions := rfl

/-- What every step preserves holds along every run. -/
theorem run_invariant {inv : PlatformDatabase → Prop}
    (hstep : ∀ db action, inv db → inv (db.step action)) {db : PlatformDatabase} (h : inv db)
    (actions : List PlatformAction) : inv (db.run actions) := by
  induction actions generalizing db with
  | nil => exact h
  | cons action actions ih => exact ih (hstep db action h)

/-- A state of some run from a database that is empty. -/
def Reachable (db : PlatformDatabase) : Prop :=
  ∃ start actions, Initial start ∧ db = run start actions

theorem Reachable.run {db : PlatformDatabase} (h : db.Reachable)
    (actions : List PlatformAction) : (db.run actions).Reachable := by
  obtain ⟨start, earlier, hinitial, rfl⟩ := h
  exact ⟨start, earlier ++ actions, hinitial, (run_append start earlier actions).symm⟩

theorem Reachable.step {db : PlatformDatabase} (h : db.Reachable) (action : PlatformAction) :
    (db.step action).Reachable :=
  h.run [action]

/-- An invariant of every step that holds at the start holds wherever a run gets to. -/
theorem Reachable.invariant (inv : PlatformDatabase → Prop) {db : PlatformDatabase}
    (h : db.Reachable) (hinitial : ∀ start, Initial start → inv start)
    (hstep : ∀ db action, inv db → inv (db.step action)) : inv db := by
  obtain ⟨start, actions, hstart, rfl⟩ := h
  exact run_invariant hstep (hinitial start hstart) actions

end PlatformDatabase

end MatchPlane.Platform
