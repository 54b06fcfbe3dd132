import MatchPlane.Platform.Consistent

/-!
# Moves of the platform

Everything that an accepted request does to registrations, bindings and stores, with the
guards that it is accepted under.  Requests keep the database consistent; the invariants
of the later modules look at the moves only.
-/

namespace MatchPlane.Platform

open MatchPlane.Library

variable [Jsonb]

/-- What an accepted request makes of the database. -/
inductive PlatformMove (db : PlatformDatabase) : PlatformAction → PlatformDatabase → Prop
  /-- Nothing but the surroundings of registrations, bindings and stores changes, if
  anything does. -/
  | aside (action : PlatformAction) (db' : PlatformDatabase)
      (haction : ∀ storeId fresh request read, action ≠ .activate storeId fresh request read)
      (hregistrations : db'.registrations = db.registrations)
      (hbindings : db'.bindings = db.bindings) (hstores : db'.stores = db.stores)
      (haliases : db'.aliases = db.aliases) : PlatformMove db action db'
  | enrolled (storeId : StoreId) (bindingId : BindingId) (tokenHash : Bytes)
      (enrollment : Enrollment) (now : OffsetDateTime) (invite : Invite)
      (invites' : Table invites) (bindings' : Table bindings) (stores' : Table stores)
      (hvalid : enrollment.isValid = true)
      (hfree : ∀ binding ∈ db.bindings.rows,
        enrollment.isDuplicate invite.tenantId binding = false)
      (hrows : bindings'.rows = db.bindings.rows ++ [enrollment.row bindingId invite])
      (hstores : stores'.rows = db.stores.rows.map
        (suspended fun store => store.federationBindingId = some bindingId)) :
      PlatformMove db (.enroll storeId bindingId tokenHash enrollment now)
        { db with
          invites := invites'
          bindings := bindings'
          stores := stores' }
  | linked (storeId : StoreId) (organizationId : OrganizationId) (old : Binding)
      (bindings' : Table bindings) (db' : PlatformDatabase)
      (hunlinked : old.organizationId = none)
      (hwritten : Table.Written db.bindings bindings' old
        { old with organizationId := some organizationId })
      (hreconciled : Reconciled storeId { old with organizationId := some organizationId }
        { db with bindings := bindings' } db') :
      PlatformMove db (.linkOrganization storeId old.id organizationId) db'
  | probed (storeId : StoreId) (probe : Probe) (old : Binding) (bindings' : Table bindings)
      (db' : PlatformDatabase) (hstatus : old.status ≠ .revoked)
      (hwritten : Table.Written db.bindings bindings' old (probe.record old))
      (hreconciled : Reconciled storeId (probe.record old)
        { db with bindings := bindings' } db') :
      PlatformMove db (.recordHealth storeId old.id old.tenantId probe) db'
  /-- A binding is activated on the registration that it has already. -/
  | promoted (storeId : StoreId) (activation : BindingActivation) (old : Binding)
      (existing : Registration) (bindings' : Table bindings) (db' : PlatformDatabase)
      (hid : activation.bindingId = old.id) (hstatus : old.status.isPromotable = true)
      (hexisting : db.remoteRelease old = some existing) (hstate : existing.state = .active)
      (hwritten : Table.Written db.bindings bindings' old (activation.promote existing.id old))
      (hreconciled : Reconciled storeId (activation.promote existing.id old)
        { db with bindings := bindings' } db') :
      PlatformMove db (.activateBinding storeId activation) db'
  /-- A binding is activated with a new registration. -/
  | federated (storeId : StoreId) (activation : BindingActivation) (old : Binding)
      (registrations' : Table registrations) (bindings' : Table bindings)
      (db' db'' : PlatformDatabase)
      (hid : activation.bindingId = old.id) (hstatus : old.status.isPromotable = true)
      (hnew : db.remoteRelease old = none)
      (hrows : registrations'.rows = db.registrations.rows ++ [activation.row old])
      (hreprojected : Reprojected storeId none (activation.row old)
        { db with registrations := registrations' } db')
      (hwritten : Table.Written db'.bindings bindings' old
        (activation.promote activation.registrationId old))
      (hreconciled : Reconciled storeId (activation.promote activation.registrationId old)
        { db' with bindings := bindings' } db'') :
      PlatformMove db (.activateBinding storeId activation) db''
  /-- The binding is revoked, and there is no active registration to disable. -/
  | revoked (storeId : StoreId) (old : Binding) (bindings' : Table bindings)
      (db' : PlatformDatabase) (hstatus : old.status ≠ .revoked)
      (hregistration : ∀ id, old.registrationId = some id → ∀ row,
        db.registrations.lookup id = some row → row.state ≠ .active)
      (hwritten : Table.Written db.bindings bindings' old old.revoke)
      (hreconciled : Reconciled storeId old.revoke { db with bindings := bindings' } db') :
      PlatformMove db (.revokeBinding storeId old.id old.tenantId) db'
  /-- The binding is revoked, and its registration is disabled. -/
  | disabled (storeId : StoreId) (old : Binding) (registration : Registration)
      (bindings' : Table bindings) (registrations' : Table registrations)
      (db' db'' : PlatformDatabase) (hstatus : old.status ≠ .revoked)
      (hid : old.registrationId = some registration.id)
      (hstate : registration.state = .active)
      (hwritten : Table.Written db.bindings bindings' old old.revoke)
      (hreconciled : Reconciled storeId old.revoke { db with bindings := bindings' } db')
      (hdisabled : Table.Written db'.registrations registrations' registration
        registration.revoke)
      (hreprojected : Reprojected storeId (some registration) registration.revoke
        { db' with registrations := registrations' } db'') :
      PlatformMove db (.revokeBinding storeId old.id old.tenantId) db''
  | registered (storeId : StoreId) (request : RegistrationRequest)
      (organizations' : Table organizations) (registrations' : Table registrations)
      (hkind : request.sourceKind ≠ .remote) (hvalid : request.validateManifest = true)
      (hrows : registrations'.rows = db.registrations.rows ++
        [request.row (db.nextVersion (request.tenantId, request.slug))]) :
      PlatformMove db (.register storeId request)
        { db with
          organizations := organizations'
          registrations := registrations' }
  | claimed (storeId : StoreId) (claim : BuildClaim) (old : Registration)
      (registrations' : Table registrations)
      (hclaimable : old.isClaimable claim.leaseSeconds claim.now = true)
      (hwritten : Table.Written db.registrations registrations' old
        (old.lease claim.leaseId claim.now)) :
      PlatformMove db (.claimBuild storeId claim) { db with registrations := registrations' }
  | built (storeId : StoreId) (request : BuilderRequest) (old : Registration)
      (registrations' : Table registrations) (hid : request.registrationId = old.id)
      (haccepts : request.accepts old = true)
      (hwritten : Table.Written db.registrations registrations' old (request.attach old)) :
      PlatformMove db (.completeBuild storeId request)
        { db with registrations := registrations' }
  | failed (storeId : StoreId) (failure : BuildFailure) (now : OffsetDateTime)
      (message : String) (old : Registration) (registrations' : Table registrations)
      (hid : failure.registrationId = old.id) (hstate : old.state = .building)
      (hlease : old.buildLeaseId = some failure.leaseId)
      (hwritten : Table.Written db.registrations registrations' old
        (failure.record message now old)) :
      PlatformMove db (.failBuild storeId failure now)
        { db with registrations := registrations' }
  /-- The registration is the active one already. -/
  | renewed (storeId : StoreId) (fresh : FreshJobs) (request : ActivationRequest)
      (read target : Registration) (jobs' : Table projectionJobs)
      (hlookup : db.registrations.lookup request.registrationId = some target)
      (hstate : target.state = .active)
      (hcurrent : (db.activeRelease target.line).map (·.id) = some target.id)
      (hdigest : target.buildDigest = some (JavaScript.toLowerCase request.buildDigest)) :
      PlatformMove db (.activate storeId fresh request read) { db with jobs := jobs' }
  | activated (storeId : StoreId) (fresh : FreshJobs) (request : ActivationRequest)
      (read target : Registration) (registrations' : Table registrations)
      (db' : PlatformDatabase) (registrations'' : Table registrations) (stores' : Table stores)
      (shows : Store → Bool) (jobs' : Table projectionJobs)
      (hid : request.registrationId = target.id)
      (haccepts : request.accepts target.version target = true)
      (hnewest : ∀ active, db.activeRelease target.line = some active →
        active.version < target.version)
      (hwritten : Table.Written db.registrations registrations' target target.activate)
      (hreprojected : Reprojected storeId (some target) target.activate
        { db with registrations := registrations' } db')
      (hrows : registrations''.rows = db'.registrations.rows.map fun row =>
        if target.activate.isOlder row then row.disable else row)
      (hstores : stores'.rows = db'.stores.rows.map (suspended shows))
      (hshows : ∀ store, shows store = true ↔ ∃ row ∈ db'.registrations.rows,
        target.activate.isOlder row = true ∧ store.currentRegistrationId = some row.id) :
      PlatformMove db (.activate storeId fresh request read)
        { db' with
          registrations := registrations''
          stores := stores'
          jobs := jobs' }
  | changed (request : LifecycleRequest) (read : Store) (old : Store) (stores' : Table stores)
      (haccepts : request.accepts db old = true) (hid : request.storeId = old.id)
      (hvalid : validateStoreProjection db (request.set old) = .ok ⟨⟩)
      (hwritten : Table.Written db.stores stores' old (request.set old)) :
      PlatformMove db (.lifecycle request read) { db with stores := stores' }
  | profiled (request : ProfileRequest) (old new : Store) (stores' : Table stores)
      (hnew : new = { old with
        displayName := request.displayName
        description := request.description
        version := old.version + 1 })
      (hwritten : Table.Written db.stores stores' old new) :
      PlatformMove db (.profile request) { db with stores := stores' }
  | opened (request : HostedStore) (stores' : Table stores) (aliases' : Table pathAliases)
      (hvalid : validateStoreProjection db request.row = .ok ⟨⟩)
      (hrows : stores'.rows = db.stores.rows ++ [request.row])
      (haliases : aliases'.rows = db.aliases.rows ++
        [⟨request.tenantId, request.id, request.row.canonicalPath, true⟩]) :
      PlatformMove db (.openStore request)
        { db with
          stores := stores'
          aliases := aliases' }

/-- An accepted request moves, and keeps the database consistent. -/
def Moved (db : PlatformDatabase) (action : PlatformAction) (db' : PlatformDatabase) : Prop :=
  Consistent db' ∧ PlatformMove db action db'

section Aside

variable {db db' : PlatformDatabase}

omit [Jsonb] in
theorem Consistent.of_same (h : Consistent db)
    (hregistrations : db'.registrations = db.registrations)
    (hbindings : db'.bindings = db.bindings) (hstores : db'.stores = db.stores)
    (haliases : db'.aliases = db.aliases) : Consistent db' := by
  refine ⟨⟨?_, ?_⟩, ?_, ?_, ?_⟩
  · rw [hstores]
    exact fun store hstore => (h.pointed store hstore).transfer hregistrations hbindings
  · rw [hstores]
    intro store hstore
    unfold Store.Named
    rw [haliases]
    exact h.named store hstore
  · rw [hstores]
    exact fun store hstore hactive =>
      (h.live store hstore hactive).transfer hregistrations hbindings
  · rw [hstores]
    exact h.kinds
  · rw [hregistrations]
    exact h.remote

theorem moved_aside (h : Consistent db) {action : PlatformAction}
    (haction : ∀ storeId fresh request read, action ≠ .activate storeId fresh request read)
    (hregistrations : db'.registrations = db.registrations)
    (hbindings : db'.bindings = db.bindings) (hstores : db'.stores = db.stores)
    (haliases : db'.aliases = db.aliases) : Moved db action db' :=
  ⟨h.of_same hregistrations hbindings hstores haliases,
    .aside action db' haction hregistrations hbindings hstores haliases⟩

end Aside

/-! ## Federation -/

section Federation

variable {db : PlatformDatabase} {storeId : StoreId}

theorem ensures_enrollNode (h : Consistent db) (bindingId : BindingId) (tokenHash : Bytes)
    (enrollment : Enrollment) (now : OffsetDateTime) :
    Ensures (enrollNode storeId bindingId tokenHash enrollment now) whatever db fun _ db' =>
      Moved db (.enroll storeId bindingId tokenHash enrollment now) db' := by
  unfold enrollNode
  rw [ensures_ite]
  refine ⟨fun _ => trivial, fun hvalid => ?_⟩
  rw [Bool.not_eq_false] at hvalid
  rw [ensures_bind, ensures_get, ensures_bind, ensures_require]
  refine ⟨fun _ => trivial, fun invite hinvite => ?_⟩
  rw [ensures_ite]
  refine ⟨fun _ => trivial, fun hduplicate => ?_⟩
  rw [ensures_bind]
  refine ensures_insertBinding h rfl fun bindings' stores' hrows hstores hconsistent => ?_
  rw [ensures_bind, ensures_on]
  refine Table.ensures_update trivial fun invites' _ => ?_
  refine ⟨hconsistent.of_same rfl rfl rfl rfl, .enrolled storeId bindingId tokenHash enrollment
    now invite invites' bindings' stores' hvalid (fun binding hbinding => ?_) hrows hstores⟩
  by_contra hne
  rw [Bool.not_eq_false] at hne
  exact hduplicate (List.any_eq_true.mpr ⟨binding, hbinding, hne⟩)

theorem ensures_linkOrganization (h : Consistent db) (bindingId : BindingId)
    (organizationId : OrganizationId) :
    Ensures (linkOrganization storeId bindingId organizationId) whatever db fun _ db' =>
      Moved db (.linkOrganization storeId bindingId organizationId) db' := by
  unfold linkOrganization
  rw [ensures_bind]
  refine ensures_updateBinding h ⟨fun _ => rfl, fun _ => rfl⟩ (fun _ => trivial) ?_
  intro old bindings' db' hlookup hguard hwritten hreconciled hconsistent
  rw [ensures_require_some]
  rw [decide_eq_true_eq] at hguard
  cases Table.key_of_lookup hlookup
  exact ⟨hconsistent, .linked storeId organizationId old bindings' db' hguard hwritten
    hreconciled⟩

theorem ensures_promoteBinding (h : Consistent db) (activation : BindingActivation)
    (registrationId : RegistrationId) {post : Binding → PlatformDatabase → Prop}
    (hpost : ∀ old bindings' db', activation.bindingId = old.id →
      db.bindings.lookup old.id = some old → old.status.isPromotable = true →
      Table.Written db.bindings bindings' old (activation.promote registrationId old) →
      Reconciled storeId (activation.promote registrationId old)
        { db with bindings := bindings' } db' → Consistent db' →
      post (activation.promote registrationId old) db') :
    Ensures (promoteBinding storeId activation registrationId) whatever db post := by
  unfold promoteBinding
  rw [ensures_bind]
  refine ensures_updateBinding h ⟨fun _ => rfl, fun _ => rfl⟩ (fun _ => trivial) ?_
  intro old bindings' db' hlookup hguard hwritten hreconciled hconsistent
  rw [ensures_require_some]
  have hid : old.id = activation.bindingId := Table.key_of_lookup hlookup
  exact hpost old bindings' db' hid.symm (by rw [hid]; exact hlookup) hguard hwritten hreconciled
    hconsistent

theorem ensures_activateBinding (h : Consistent db) (activation : BindingActivation) :
    Ensures (activateBinding storeId activation) whatever db fun _ db' =>
      Moved db (.activateBinding storeId activation) db' := by
  unfold activateBinding
  rw [ensures_bind, ensures_get, ensures_bind, ensures_require]
  refine ⟨fun _ => trivial, fun binding hbinding => ?_⟩
  rw [ensures_ite]
  refine ⟨fun _ => trivial, fun _ => ?_⟩
  obtain ⟨hlookup, _⟩ := Option.filter_eq_some_iff.mp hbinding
  have hkey : binding.id = activation.bindingId := Table.key_of_lookup hlookup
  cases hrelease : db.remoteRelease binding with
  | some existing =>
      dsimp only
      rw [ensures_ite]
      refine ⟨fun _ => trivial, fun hstate => ?_⟩
      rw [not_not] at hstate
      refine ensures_promoteBinding h activation existing.id
        fun old bindings' db' hid hold hstatus hwritten hreconciled hconsistent => ?_
      have hsame : old = binding := by
        rw [← hid, hlookup, Option.some.injEq] at hold
        exact hold.symm
      subst hsame
      exact ⟨hconsistent, .promoted storeId activation old existing bindings' db' hid hstatus
        hrelease hstate hwritten hreconciled⟩
  | none =>
      dsimp only
      rw [ensures_bind]
      refine ensures_insertRegistration h (by simp [BindingActivation.row])
        fun registrations' db' hrows hreprojected hconsistent => ?_
      have hbindings : db'.bindings = db.bindings := by
        cases hreprojected with
        | kept => rfl
        | suspended => rfl
        | projected _ _ hprojected => cases hprojected <;> rfl
      refine ensures_promoteBinding hconsistent activation activation.registrationId
        fun old bindings' db'' hid hold hstatus hwritten hreconciled hconsistent' => ?_
      have hsame : old = binding := by
        rw [← hid, hbindings, hlookup, Option.some.injEq] at hold
        exact hold.symm
      subst hsame
      exact ⟨hconsistent', .federated storeId activation old registrations' bindings' db' db''
        hid hstatus hrelease hrows hreprojected hwritten hreconciled⟩

theorem ensures_projectOrganization (h : Consistent db) (activation : BindingActivation) :
    Ensures (projectOrganization activation) whatever db fun _ db' =>
      Moved db (.projectOrganization activation) db' := by
  unfold projectOrganization
  rw [ensures_bind, ensures_get, ensures_bind, ensures_require]
  refine ⟨fun _ => trivial, fun binding _ => ?_⟩
  rw [ensures_bind, ensures_on]
  refine Table.ensures_update trivial fun organizations' _ => ?_
  rw [ensures_check]
  exact ⟨fun _ => trivial, fun _ =>
    moved_aside h (fun _ _ _ _ heq => nomatch heq) rfl rfl rfl rfl⟩

theorem ensures_recordHealth (h : Consistent db) (bindingId : BindingId) (tenantId : TenantId)
    (probe : Probe) :
    Ensures (recordHealth storeId bindingId tenantId probe) whatever db fun _ db' =>
      Moved db (.recordHealth storeId bindingId tenantId probe) db' := by
  unfold recordHealth
  rw [ensures_bind]
  refine ensures_updateBinding h ⟨fun _ => rfl, fun _ => rfl⟩ (fun _ => trivial) ?_
  intro old bindings' db' hlookup hguard hwritten hreconciled hconsistent
  rw [ensures_require_some]
  rw [decide_eq_true_eq] at hguard
  cases Table.key_of_lookup hlookup
  cases hguard.1
  exact ⟨hconsistent, .probed storeId probe old bindings' db' hguard.2 hwritten hreconciled⟩

omit [Jsonb] in
theorem keepsPlace_revoke : KeepsPlace Registration.revoke :=
  ⟨fun _ => rfl, fun _ => rfl, fun _ => rfl, fun _ => rfl⟩

theorem Projected.records {registration : Registration} {db' : PlatformDatabase}
    (h : Projected storeId registration db db') :
    db'.registrations = db.registrations ∧ db'.bindings = db.bindings := by
  cases h <;> exact ⟨rfl, rfl⟩

theorem Reprojected.records {old : Option Registration} {new : Registration}
    {db' : PlatformDatabase} (h : Reprojected storeId old new db db') :
    db'.registrations = db.registrations ∧ db'.bindings = db.bindings := by
  cases h with
  | kept => exact ⟨rfl, rfl⟩
  | suspended => exact ⟨rfl, rfl⟩
  | projected _ _ hprojected => exact hprojected.records

theorem Reconciled.records {binding : Binding} {db' : PlatformDatabase}
    (h : Reconciled storeId binding db db') :
    db'.registrations = db.registrations ∧ db'.bindings = db.bindings := by
  cases h with
  | suspended => exact ⟨rfl, rfl⟩
  | kept => exact ⟨rfl, rfl⟩
  | projected _ _ _ _ _ _ _ hprojected => exact hprojected.records

theorem ensures_revokeBinding (h : Consistent db) (bindingId : BindingId) (tenantId : TenantId) :
    Ensures (revokeBinding storeId bindingId tenantId) whatever db fun _ db' =>
      Moved db (.revokeBinding storeId bindingId tenantId) db' := by
  unfold revokeBinding
  rw [ensures_bind]
  refine ensures_updateBinding h ⟨fun _ => rfl, fun _ => rfl⟩ (fun _ => trivial) ?_
  intro old bindings' db' hlookup hguard hwritten hreconciled hconsistent
  rw [ensures_bind, ensures_require_some]
  rw [decide_eq_true_eq] at hguard
  cases Table.key_of_lookup hlookup
  cases hguard.1
  have hregistrations : db'.registrations = db.registrations := hreconciled.records.1
  have hrevoked (hnone : ∀ id, old.registrationId = some id → ∀ row,
      db.registrations.lookup id = some row → row.state ≠ .active) :
      Moved db (.revokeBinding storeId old.id old.tenantId) db' :=
    ⟨hconsistent, .revoked storeId old bindings' db' hguard.2 hnone hwritten hreconciled⟩
  have hsame : old.revoke.registrationId = old.registrationId := rfl
  rw [hsame]
  cases hid : old.registrationId with
  | none => exact hrevoked fun id hsome => by rw [hid] at hsome; cases hsome
  | some registrationId =>
      dsimp only
      rw [ensures_bind]
      refine ensures_updateRegistration hconsistent keepsPlace_revoke (fun hmissed => ?_) ?_
      · refine hrevoked fun id hsome row hrow hactive => ?_
        cases hid.symm.trans hsome
        rw [hregistrations, Option.filter_eq_none_iff] at hmissed
        exact hmissed row hrow (by simpa using hactive)
      · intro registration registrations' db'' hfound hstate hdisabled hreprojected hconsistent'
        rw [decide_eq_true_eq] at hstate
        cases Table.key_of_lookup hfound
        exact ⟨hconsistent', .disabled storeId old registration bindings' registrations' db' db''
          hguard.2 hid hstate hwritten hreconciled hdisabled hreprojected⟩

end Federation

/-! ## Packages -/

section Packages

variable {db : PlatformDatabase} {storeId : StoreId}

theorem Reprojected.eq_of_inactive {old : Option Registration} {new : Registration}
    {db' : PlatformDatabase} (h : Reprojected storeId old new db db')
    (hnew : new.state ≠ .active) (hold : ∀ row, old = some row → row.state ≠ .active) :
    db' = db := by
  cases h with
  | kept => rfl
  | suspended row _ _ hrow hactive => exact absurd hactive (hold row hrow)
  | projected _ hstate => exact absurd hstate hnew

/-- An accepted request has its registration appended. -/
theorem ensures_registerPackage_rows (h : Consistent db) (request : RegistrationRequest) :
    Ensures (registerPackage storeId request) whatever db fun _ db' =>
      request.sourceKind ≠ .remote ∧ request.validateManifest = true ∧ Consistent db' ∧
      ∃ organizations' registrations',
        registrations'.rows = db.registrations.rows ++
          [request.row (db.nextVersion (request.tenantId, request.slug))] ∧
        db' = { db with organizations := organizations', registrations := registrations' } := by
  unfold registerPackage
  rw [ensures_ite]
  refine ⟨fun _ => trivial, fun hvalid => ?_⟩
  rw [Bool.not_eq_false] at hvalid
  rw [ensures_ite]
  refine ⟨fun _ => trivial, fun hkind => ?_⟩
  rw [ensures_bind, ensures_get, ensures_bind, ensures_on]
  refine Table.ensures_update trivial fun organizations' _ => ?_
  rw [ensures_ite]
  refine ⟨fun _ => trivial, fun _ => ?_⟩
  rw [ensures_bind]
  have hconsistent : Consistent { db with organizations := organizations' } :=
    h.of_same rfl rfl rfl rfl
  refine ensures_insertRegistration hconsistent (by simpa [RegistrationRequest.row] using hkind)
    fun registrations' db' hrows hreprojected hconsistent' => ?_
  cases hreprojected.eq_of_inactive (fun hstate => nomatch hstate) (fun _ hrow => nomatch hrow)
  exact ⟨hkind, hvalid, hconsistent', organizations', registrations', hrows, rfl⟩

theorem ensures_registerPackage (h : Consistent db) (request : RegistrationRequest) :
    Ensures (registerPackage storeId request) whatever db fun _ db' =>
      Moved db (.register storeId request) db' := by
  refine (ensures_registerPackage_rows h request).mono (fun _ h => h) ?_
  rintro _ _ ⟨hkind, hvalid, hconsistent, organizations', registrations', hrows, rfl⟩
  exact ⟨hconsistent, .registered storeId request organizations' registrations' hkind hvalid
    hrows⟩

/-- A write between inactive states of a registration leaves the stores alone. -/
theorem ensures_updateRegistration_inactive (h : Consistent db) {id : RegistrationId}
    {guard : Registration → Bool} {set : Registration → Registration}
    {post : Option Registration → PlatformDatabase → Prop} (hset : KeepsPlace set)
    (hguard : ∀ row, guard row = true → row.state ≠ .active ∧ (set row).state ≠ .active)
    (hmissed : (db.registrations.lookup id).filter guard = none → post none db)
    (hpost : ∀ old registrations', db.registrations.lookup id = some old → guard old = true →
      Table.Written db.registrations registrations' old (set old) →
      Consistent { db with registrations := registrations' } →
      post (some (set old)) { db with registrations := registrations' }) :
    Ensures (updateRegistration storeId id guard set) whatever db post := by
  refine ensures_updateRegistration h hset hmissed ?_
  intro old registrations' db' hlookup hold hwritten hreprojected hconsistent
  obtain ⟨hbefore, hafter⟩ := hguard old hold
  have hsame := hreprojected.eq_of_inactive hafter fun row hrow => by
    cases hrow
    exact hbefore
  subst hsame
  exact hpost old registrations' hlookup hold hwritten hconsistent

omit [Jsonb] in
theorem isClaimable_iff {registration : Registration} {leaseSeconds : Nat}
    {now : OffsetDateTime} : registration.isClaimable leaseSeconds now = true ↔
      registration.isPackage = true ∧ registration.buildAttempts < 100 ∧
        (registration.state = .validated ∨
          (registration.state = .building ∧
            registration.leaseEnded leaseSeconds now = true)) := by
  simp [Registration.isClaimable]

theorem ensures_claimBuild (h : Consistent db) (claim : BuildClaim) :
    Ensures (claimBuild storeId claim) whatever db fun _ db' =>
      Moved db (.claimBuild storeId claim) db' := by
  unfold claimBuild
  rw [ensures_bind, ensures_get]
  have hidle : Moved db (.claimBuild storeId claim) db :=
    moved_aside h (fun _ _ _ _ heq => nomatch heq) rfl rfl rfl rfl
  cases hcandidate : claim.candidate db with
  | none => exact hidle
  | some candidate =>
      have hmem := List.mem_filter.mp (mem_of_firstBy hcandidate)
      simp only [decide_eq_true_eq] at hmem
      have hclaimable := isClaimable_iff.mp hmem.2.1
      have hlookup : db.registrations.lookup candidate.id = some candidate :=
        Table.lookup_of_mem hmem.1
      have hbefore : candidate.state ≠ .active := by
        rcases hclaimable.2.2 with hstate | ⟨hstate, _⟩ <;> simp [hstate]
      refine ensures_updateRegistration h ⟨fun _ => rfl, fun _ => rfl, fun _ => rfl,
        fun _ => rfl⟩ (fun _ => hidle) ?_
      intro old registrations' db' hfound _ hwritten hreprojected hconsistent
      cases hlookup.symm.trans hfound
      have hsame := hreprojected.eq_of_inactive (fun hstate => nomatch hstate) fun row hrow => by
        cases hrow
        exact hbefore
      subst hsame
      exact ⟨hconsistent, .claimed storeId claim candidate registrations' hmem.2.1 hwritten⟩

omit [Jsonb] in
theorem BuilderRequest.accepts_iff {request : BuilderRequest} {row : Registration} :
    request.accepts row = true ↔
      row.state ∈ [.validated, .building, .ready] ∧
        row.buildLeaseId = some request.leaseId ∧
        row.buildDigest.all (· = JavaScript.toLowerCase request.buildDigest) = true ∧
        request.sourceDigest.all (row.sourceDigest = JavaScript.toLowerCase ·) = true ∧
        request.manifestDigest.all (row.manifestDigest = JavaScript.toLowerCase ·) = true ∧
        (row.artifactLocator = none ∨ request.artifactPath = none ∨
          row.artifactLocator = request.artifactPath) ∧
        (request.artifactEntry.all (row.artifactEntry = ·) = true ∨
          row.artifactLocator = none) := by
  rw [BuilderRequest.accepts, decide_eq_true_eq]

theorem ensures_completeBuild (h : Consistent db) (request : BuilderRequest) :
    Ensures (completeBuild storeId request) whatever db fun _ db' =>
      Moved db (.completeBuild storeId request) db' := by
  unfold completeBuild
  rw [ensures_ite]
  refine ⟨fun _ => trivial, fun _ => ?_⟩
  rw [ensures_bind]
  refine ensures_liftAny fun _ _ => ?_
  rw [ensures_bind]
  refine ensures_updateRegistration_inactive h ⟨fun _ => rfl, fun _ => rfl, fun _ => rfl,
    fun _ => rfl⟩ (fun row hrow => ?_) (fun _ => ?_) ?_
  · have hstate := (BuilderRequest.accepts_iff.mp hrow).1
    simp only [List.mem_cons, List.not_mem_nil, or_false] at hstate
    rcases hstate with hstate | hstate | hstate <;> simp [BuilderRequest.attach, hstate]
  · dsimp only
    rw [ensures_bind, ensures_get]
    refine ensures_liftAny fun _ _ => ?_
    exact moved_aside h (fun _ _ _ _ heq => nomatch heq) rfl rfl rfl rfl
  · intro old registrations' hlookup haccepts hwritten hconsistent
    have hid : request.registrationId = old.id := (Table.key_of_lookup hlookup).symm
    exact ⟨hconsistent, .built storeId request old registrations' hid haccepts hwritten⟩

theorem ensures_failBuild (h : Consistent db) (failure : BuildFailure) (now : OffsetDateTime) :
    Ensures (failBuild storeId failure now) whatever db fun _ db' =>
      Moved db (.failBuild storeId failure now) db' := by
  unfold failBuild
  rw [ensures_bind, ensures_require]
  refine ⟨fun _ => trivial, fun message _ => ?_⟩
  rw [ensures_bind]
  refine ensures_updateRegistration_inactive h ⟨fun _ => rfl, fun _ => rfl, fun _ => rfl,
    fun _ => rfl⟩ (fun row hrow => ?_) (fun _ => trivial) ?_
  · rw [decide_eq_true_eq] at hrow
    refine ⟨by simp [hrow.1], ?_⟩
    unfold BuildFailure.record
    dsimp only
    split <;> exact fun hstate => nomatch hstate
  · intro old registrations' hlookup hguard hwritten hconsistent
    rw [decide_eq_true_eq] at hguard
    rw [ensures_require_some]
    have hid : failure.registrationId = old.id := (Table.key_of_lookup hlookup).symm
    exact ⟨hconsistent, .failed storeId failure now message old registrations' hid hguard.1
      hguard.2 hwritten⟩

omit [Jsonb] in
/-- The jobs are all that a request for projections changes. -/
theorem ensures_insertJob {job : ProjectionJob} :
    Ensures (insertJob job) whatever db fun _ db' => ∃ jobs', db' = { db with jobs := jobs' } := by
  unfold insertJob
  rw [ensures_bind, ensures_get, ensures_ite]
  refine ⟨fun _ => trivial, fun _ => ?_⟩
  rw [ensures_ite]
  refine ⟨fun _ => ⟨db.jobs, rfl⟩, fun _ => ?_⟩
  rw [ensures_on]
  exact Table.ensures_insert trivial fun jobs' _ => ⟨jobs', rfl⟩

theorem ensures_enqueueRegistrationCatalogProjections {fresh : FreshJobs}
    {registration : Registration} :
    Ensures (enqueueRegistrationCatalogProjections fresh registration) whatever db fun _ db' =>
      ∃ jobs', db' = { db with jobs := jobs' } := by
  unfold enqueueRegistrationCatalogProjections
  rw [ensures_ite]
  refine ⟨fun _ => ⟨db.jobs, rfl⟩, fun _ => ?_⟩
  rw [ensures_bind, ensures_get, ensures_bind, supersedeJobs, ensures_on]
  refine Table.ensures_updateAll_rows trivial fun jobs' _ => ?_
  refine Ensures.forM (fun _ db' => ∃ jobs', db' = { db with jobs := jobs' })
    (fun target rest db' _ hdb' => ?_) ⟨jobs', rfl⟩
  obtain ⟨earlier, rfl⟩ := hdb'
  refine ensures_insertJob.mono (fun _ h => h) ?_
  rintro _ _ ⟨later, rfl⟩
  exact ⟨later, rfl⟩

omit [Jsonb] in
theorem keepsPlace_activate : KeepsPlace Registration.activate :=
  ⟨fun _ => rfl, fun _ => rfl, fun _ => rfl, fun _ => rfl⟩

omit [Jsonb] in
theorem isOlder_iff {target row : Registration} : target.isOlder row = true ↔
    row.line = target.line ∧ row.id ≠ target.id ∧ row.state = .active ∧
      row.version < target.version := by
  simp [Registration.isOlder]

theorem ensures_activateRegistration (h : Consistent db) (fresh : FreshJobs)
    (request : ActivationRequest) (read : Registration) :
    Ensures (activateRegistration storeId fresh request read) whatever db fun _ db' =>
      Moved db (.activate storeId fresh request read) db' := by
  unfold activateRegistration
  rw [ensures_bind]
  refine ensures_liftAny fun _ _ => ?_
  rw [ensures_bind, ensures_get, ensures_bind, ensures_require]
  refine ⟨fun _ => trivial, fun target htarget => ?_⟩
  obtain ⟨hlookup, _⟩ := Option.filter_eq_some_iff.mp htarget
  rw [ensures_ite]
  refine ⟨fun _ => trivial, fun hdigest => ?_⟩
  rw [not_not] at hdigest
  rw [ensures_ite]
  refine ⟨fun hstate => ?_, fun _ => ?_⟩
  · rw [ensures_ite]
    refine ⟨fun _ => trivial, fun hcurrent => ?_⟩
    rw [not_not] at hcurrent
    rw [ensures_bind]
    refine ensures_enqueueRegistrationCatalogProjections.mono (fun _ h => h) ?_
    rintro _ _ ⟨jobs', rfl⟩
    exact ⟨h.of_same rfl rfl rfl rfl, .renewed storeId fresh request read target jobs' hlookup
      hstate hcurrent hdigest⟩
  · rw [ensures_ite]
    refine ⟨fun _ => trivial, fun _ => ?_⟩
    rw [ensures_ite]
    refine ⟨fun _ => trivial, fun hnewest => ?_⟩
    rw [ensures_bind]
    refine ensures_updateRegistration h keepsPlace_activate (fun _ => trivial) ?_
    intro old registrations' db' hfound haccepts hwritten hreprojected hconsistent
    have hid : target.id = request.registrationId := Table.key_of_lookup hlookup
    rw [hid, hlookup, Option.some.injEq] at hfound
    subst hfound
    rw [ensures_bind, ensures_require_some, ensures_bind]
    refine ensures_disableRegistrations hconsistent
      (fun row hrow => (isOlder_iff.mp hrow).2.2.1) ?_
    intro registrations'' stores' shows hrows hstores hshows hconsistent'
    rw [ensures_bind]
    refine ensures_enqueueRegistrationCatalogProjections.mono (fun _ h => h) ?_
    rintro _ _ ⟨jobs', rfl⟩
    refine ⟨hconsistent'.of_same rfl rfl rfl rfl, .activated storeId fresh request read target
      registrations' db' registrations'' stores' shows jobs' hid.symm haccepts
      (fun active hactive => ?_) hwritten hreprojected hrows hstores hshows⟩
    rw [hactive, Option.any_some, decide_eq_true_eq] at hnewest
    exact Nat.lt_of_not_le hnewest

end Packages

/-! ## Owners -/

section Owners

variable {db : PlatformDatabase}

omit [Jsonb] in
/-- A store that has been checked may take the place of another one. -/
theorem Consistent.writeStore (h : Consistent db) {old new : Store} {stores' : Table stores}
    (hwritten : Table.Written db.stores stores' old new)
    (hscoped : new.Scoped db) (hlive : new.status = .active → new.Live db)
    (hnamed : new.Named db)
    (hkind : new.integrationKind = .external → new.federationBindingId.isSome) :
    Consistent { db with stores := stores' } := by
  refine ⟨⟨fun store hstore => ?_, fun store hstore => ?_⟩, fun store hstore hactive => ?_,
    fun store hstore => ?_, h.remote⟩
  · rcases hwritten.mem_cases hstore with rfl | ⟨hstore, _⟩
    · exact hscoped.transfer rfl rfl
    · exact (h.pointed store hstore).transfer rfl rfl
  · rcases hwritten.mem_cases hstore with rfl | ⟨hstore, _⟩
    · exact hnamed
    · exact h.named store hstore
  · rcases hwritten.mem_cases hstore with rfl | ⟨hstore, _⟩
    · exact (hlive hactive).transfer rfl rfl
    · exact (h.live store hstore hactive).transfer rfl rfl
  · rcases hwritten.mem_cases hstore with rfl | ⟨hstore, _⟩
    · exact hkind
    · exact h.kinds store hstore

theorem ensures_changeLifecycle (h : Consistent db) (request : LifecycleRequest)
    (read : Store) :
    Ensures (changeLifecycle request read) whatever db fun _ db' =>
      Moved db (.lifecycle request read) db' := by
  unfold changeLifecycle
  rw [ensures_bind]
  refine ensures_liftAny fun goesOn _ => ?_
  rw [ensures_ite]
  refine ⟨fun _ => ?_, fun _ =>
    moved_aside h (fun _ _ _ _ heq => nomatch heq) rfl rfl rfl rfl⟩
  rw [ensures_bind, ensures_get, ensures_bind, ensures_require]
  refine ⟨fun _ => trivial, fun store hstore => ?_⟩
  obtain ⟨hlookup, haccepts⟩ := Option.filter_eq_some_iff.mp hstore
  have hid : store.id = request.storeId := Table.key_of_lookup hlookup
  have hmem := Table.mem_of_lookup hlookup
  rw [ensures_bind]
  refine ensures_liftAny fun _ hvalid => ?_
  rw [ensures_bind, ensures_on]
  refine Table.ensures_update_written (by rw [hid]; exact hlookup) (fun _ => rfl) trivial
    fun stores' hwritten => ?_
  obtain ⟨hscoped, hlive⟩ := pointed_of_validateStoreProjection hvalid
  exact ⟨h.writeStore hwritten hscoped hlive (named_of_validateStoreProjection hvalid)
    (h.kinds store hmem), .changed request read store stores' haccepts hid.symm hvalid hwritten⟩

theorem ensures_updateProfile (h : Consistent db) (request : ProfileRequest) :
    Ensures (updateProfile request) whatever db fun _ db' =>
      Moved db (.profile request) db' := by
  unfold updateProfile
  rw [ensures_bind, ensures_on]
  refine Table.ensures_update_cases (fun _ => rfl) trivial (fun _ => ?_)
    fun store stores' hlookup _ hwritten => ?_
  · rw [ensures_check]
    exact ⟨fun _ => trivial, fun hnone => absurd rfl hnone⟩
  · rw [ensures_check]
    refine ⟨fun hnone => (nomatch hnone), fun _ => ?_⟩
    have hmem : store ∈ db.stores.rows := Table.mem_of_lookup hlookup
    have hscoped := h.pointed store hmem
    refine ⟨h.writeStore hwritten
      ⟨hscoped.unregistered, hscoped.registered, hscoped.bound⟩ (fun hactive => ?_)
      (h.named store hmem) (h.kinds store hmem), .profiled request store _ stores' rfl hwritten⟩
    have hlive := h.live store hmem hactive
    exact ⟨hlive.registration, hlive.binding⟩

theorem ensures_openHostedStore (h : Consistent db) (request : HostedStore) :
    Ensures (openHostedStore request) whatever db fun _ db' =>
      Moved db (.openStore request) db' := by
  unfold openHostedStore
  rw [ensures_bind, ensures_get, ensures_bind]
  refine ensures_liftAny fun _ hvalid => ?_
  rw [ensures_bind, ensures_on]
  refine Table.ensures_insert trivial fun stores' hrows => ?_
  rw [ensures_bind, ensures_get, ensures_bind]
  refine ensures_liftAny fun _ _ => ?_
  rw [ensures_on]
  refine Table.ensures_insert trivial fun aliases' haliases => ?_
  have hnone := Table.lookup_inserted_none hrows
  have hnew : ∀ store ∈ db.stores.rows, store.id ≠ request.id :=
    Table.lookup_eq_none_iff.mp hnone
  obtain ⟨hscoped, hlive⟩ := pointed_of_validateStoreProjection hvalid
  have hnamed := named_of_validateStoreProjection hvalid
  have hcases : ∀ store ∈ stores'.rows, store = request.row ∨ store ∈ db.stores.rows := by
    intro store hstore
    rw [hrows, List.mem_append, List.mem_singleton] at hstore
    exact hstore.symm
  refine ⟨⟨⟨fun store hstore => ?_, fun store hstore => ?_⟩, fun store hstore hactive => ?_,
    fun store hstore => ?_, h.remote⟩, .opened request stores' aliases' hvalid hrows haliases⟩
  · rcases hcases store hstore with rfl | hstore
    · exact hscoped.transfer rfl rfl
    · exact (h.pointed store hstore).transfer rfl rfl
  · intro row hrow hcanonical htenant hid
    have hmem : row ∈ aliases'.rows := hrow
    rw [haliases, List.mem_append, List.mem_singleton] at hmem
    rcases hmem with hmem | rfl
    · rcases hcases store hstore with rfl | hstore
      · exact hnamed row hmem hcanonical htenant hid
      · exact h.named store hstore row hmem hcanonical htenant hid
    · rcases hcases store hstore with rfl | hstore
      · rfl
      · exact absurd hid.symm (hnew store hstore)
  · rcases hcases store hstore with rfl | hstore
    · exact (hlive hactive).transfer rfl rfl
    · exact (h.live store hstore hactive).transfer rfl rfl
  · rcases hcases store hstore with rfl | hstore
    · exact fun hkind => nomatch hkind
    · exact h.kinds store hstore

end Owners

/-! ## Steps -/

section Steps

variable {db : PlatformDatabase}

omit [Jsonb] in
theorem ensures_discard {α : Type} {x : Tx α} {post : PUnit → PlatformDatabase → Prop}
    (h : Ensures x whatever db fun _ => post ⟨⟩) :
    Ensures (do let _ ← x) whatever db post := by
  rw [ensures_bind]
  exact h.mono (fun _ h => h) fun _ _ hpost => hpost

theorem ensures_transaction (h : Consistent db) (action : PlatformAction) :
    Ensures (PlatformDatabase.transaction action) whatever db fun _ db' =>
      Moved db action db' := by
  cases action with
  | surround organizations domains offers jobs =>
      have hmoved : Moved db (.surround organizations domains offers jobs)
          { db with
            organizations := organizations
            domains := domains
            offers := offers
            jobs := jobs } :=
        moved_aside h (fun _ _ _ _ heq => nomatch heq) rfl rfl rfl rfl
      rw [PlatformDatabase.transaction]
      exact hmoved
  | invite invite =>
      rw [PlatformDatabase.transaction, createInvite, ensures_on]
      exact Table.ensures_insert trivial fun _ _ =>
        moved_aside h (fun _ _ _ _ heq => nomatch heq) rfl rfl rfl rfl
  | enroll storeId bindingId tokenHash enrollment now =>
      rw [PlatformDatabase.transaction]
      exact ensures_discard (ensures_enrollNode h bindingId tokenHash enrollment now)
  | linkOrganization storeId bindingId organizationId =>
      rw [PlatformDatabase.transaction]
      exact ensures_discard (ensures_linkOrganization h bindingId organizationId)
  | projectOrganization activation =>
      rw [PlatformDatabase.transaction]
      exact ensures_projectOrganization h activation
  | activateBinding storeId activation =>
      rw [PlatformDatabase.transaction]
      exact ensures_discard (ensures_activateBinding h activation)
  | recordHealth storeId bindingId tenantId probe =>
      rw [PlatformDatabase.transaction]
      exact ensures_discard (ensures_recordHealth h bindingId tenantId probe)
  | revokeBinding storeId bindingId tenantId =>
      rw [PlatformDatabase.transaction]
      exact ensures_discard (ensures_revokeBinding h bindingId tenantId)
  | register storeId request =>
      rw [PlatformDatabase.transaction]
      exact ensures_discard (ensures_registerPackage h request)
  | claimBuild storeId claim =>
      rw [PlatformDatabase.transaction]
      exact ensures_discard (ensures_claimBuild h claim)
  | completeBuild storeId request =>
      rw [PlatformDatabase.transaction]
      exact ensures_discard (ensures_completeBuild h request)
  | failBuild storeId failure now =>
      rw [PlatformDatabase.transaction]
      exact ensures_discard (ensures_failBuild h failure now)
  | activate storeId fresh request read =>
      rw [PlatformDatabase.transaction]
      exact ensures_discard (ensures_activateRegistration h fresh request read)
  | lifecycle request read =>
      rw [PlatformDatabase.transaction]
      exact ensures_changeLifecycle h request read
  | profile request =>
      rw [PlatformDatabase.transaction]
      exact ensures_updateProfile h request
  | openStore request =>
      rw [PlatformDatabase.transaction]
      exact ensures_openHostedStore h request

/-- A refused request changes nothing, and an accepted one moves. -/
theorem PlatformDatabase.step_cases (h : Consistent db) (action : PlatformAction) :
    (db.accepts action = false ∧ db.step action = db) ∨
      (db.accepts action = true ∧ Moved db action (db.step action)) := by
  unfold PlatformDatabase.accepts PlatformDatabase.step
  rcases committed_cases (ensures_transaction h action) with hrefused | ⟨haccepted, _, hmoved⟩
  · exact .inl hrefused
  · exact .inr ⟨haccepted, hmoved⟩

theorem Consistent.step (h : Consistent db) (action : PlatformAction) :
    Consistent (db.step action) := by
  rcases db.step_cases h action with ⟨_, hsame⟩ | ⟨_, hmoved⟩
  · rwa [hsame]
  · exact hmoved.1

omit [Jsonb] in
theorem PlatformDatabase.Initial.consistent (h : db.Initial) : Consistent db := by
  refine ⟨⟨?_, ?_⟩, ?_, ?_, ?_⟩
  · simp [h.stores]
  · simp [h.stores]
  · simp [h.stores]
  · simp [h.stores]
  · simp [h.registrations]

theorem PlatformDatabase.Reachable.consistent (h : db.Reachable) : Consistent db :=
  h.invariant Consistent (fun _ hstart => hstart.consistent) fun _ action hinv => hinv.step action

/-- An invariant of every move holds wherever a run gets to. -/
theorem PlatformDatabase.Reachable.of_moves (inv : PlatformDatabase → Prop)
    (h : db.Reachable) (hinitial : ∀ start, Initial start → inv start)
    (hmove : ∀ db action db', Consistent db → PlatformMove db action db' → inv db → inv db') :
    inv db := by
  have hboth : Consistent db ∧ inv db := by
    refine h.invariant (fun db => Consistent db ∧ inv db)
      (fun start hstart => ⟨hstart.consistent, hinitial start hstart⟩) ?_
    rintro db action ⟨hconsistent, hinv⟩
    refine ⟨hconsistent.step action, ?_⟩
    rcases db.step_cases hconsistent action with ⟨_, hsame⟩ | ⟨_, hmoved⟩
    · rwa [hsame]
    · exact hmove db action _ hconsistent hmoved.2 hinv
  exact hboth.2

end Steps

end MatchPlane.Platform
