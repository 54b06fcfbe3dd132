import MatchPlane.Platform.Triggers

/-!
# What the triggers leave

The checks of a store hold exactly when its pointers name rows of its scope and, where the
store is active, active ones.  Each trigger is described once by what it may make of the
stores; the statements that run them are described by the row that they write and by
their trigger.
-/

namespace MatchPlane.Platform

open MatchPlane.Library

/-! ## Pointers -/

/-- The pointers of a store name rows of its own scope. -/
structure Store.Scoped (db : PlatformDatabase) (store : Store) : Prop where
  unregistered : store.currentRegistrationId = none →
    store.federationBindingId = none ∧
      (store.status = .active → store.integrationKind = .hosted)
  registered : ∀ id, store.currentRegistrationId = some id → ∃ registration,
    db.registrations.lookup id = some registration ∧ registration.scope = store.scope ∧
      registration.federationBindingId = store.federationBindingId
  bound : ∀ id, store.federationBindingId = some id → ∃ binding,
    db.bindings.lookup id = some binding ∧ binding.scope = store.scope ∧
      binding.organizationId = some store.organizationId

/-- The rows that the pointers of a store name are active. -/
structure Store.Live (db : PlatformDatabase) (store : Store) : Prop where
  registration : ∀ id, store.currentRegistrationId = some id → ∃ registration,
    db.registrations.lookup id = some registration ∧ registration.state = .active
  binding : ∀ id, store.federationBindingId = some id → ∃ binding,
    db.bindings.lookup id = some binding ∧ binding.status = .active

section Checks

variable {db db' : PlatformDatabase} {store : Store}

theorem Store.Scoped.transfer (h : store.Scoped db)
    (hregistrations : db'.registrations = db.registrations)
    (hbindings : db'.bindings = db.bindings) : store.Scoped db' := by
  refine ⟨h.unregistered, ?_, ?_⟩
  · rw [hregistrations]
    exact h.registered
  · rw [hbindings]
    exact h.bound

theorem Store.Live.transfer (h : store.Live db)
    (hregistrations : db'.registrations = db.registrations)
    (hbindings : db'.bindings = db.bindings) : store.Live db' := by
  refine ⟨?_, ?_⟩
  · rw [hregistrations]
    exact h.registration
  · rw [hbindings]
    exact h.binding

theorem registrationOf_eq_some_iff {id : RegistrationId} {registration : Registration} :
    db.registrationOf store id = some registration ↔
      db.registrations.lookup id = some registration ∧ registration.scope = store.scope := by
  simp [PlatformDatabase.registrationOf, Option.filter_eq_some_iff]

theorem bindingOf_eq_some_iff {id : BindingId} {binding : Binding} :
    db.bindingOf store id = some binding ↔
      db.bindings.lookup id = some binding ∧ binding.scope = store.scope ∧
        binding.organizationId = some store.organizationId := by
  simp [PlatformDatabase.bindingOf, Option.filter_eq_some_iff]

theorem validateStoreBinding_eq_ok_iff : validateStoreBinding db store = .ok ⟨⟩ ↔
    ∀ id, store.federationBindingId = some id → ∃ binding,
      db.bindingOf store id = some binding ∧
        (store.status = .active → binding.status = .active) := by
  unfold validateStoreBinding
  cases hid : store.federationBindingId with
  | none => simp [pure, Except.pure]
  | some id =>
      dsimp only
      cases hbinding : db.bindingOf store id with
      | none => simp [hbinding, throw, throwThe, MonadExceptOf.throw]
      | some binding =>
          by_cases hactive : store.status = .active ∧ binding.status ≠ .active
          · simp [hbinding, hactive, throw, throwThe, MonadExceptOf.throw]
          · simp only [if_neg hactive, pure, Except.pure, true_iff]
            rintro _ ⟨⟩
            exact ⟨binding, hbinding, fun h => by simpa [h] using hactive⟩

theorem validateStorePointers_eq_ok_iff : validateStorePointers db store = .ok ⟨⟩ ↔
    store.Scoped db ∧ (store.status = .active → store.Live db) := by
  unfold validateStorePointers
  cases hid : store.currentRegistrationId with
  | none =>
      constructor
      · intro h
        have hunbound : store.federationBindingId = none := by
          by_contra hne
          simp [Option.isSome_iff_ne_none.mpr hne, throw, throwThe, MonadExceptOf.throw] at h
        have hhosted : store.status = .active → store.integrationKind = .hosted := by
          intro hactive
          by_contra hne
          simp [hunbound, hactive, hne, throw, throwThe, MonadExceptOf.throw] at h
        refine ⟨⟨fun _ => ⟨hunbound, hhosted⟩, ?_, ?_⟩, fun _ => ⟨?_, ?_⟩⟩ <;>
          simp [hid, hunbound]
      · rintro ⟨hscoped, -⟩
        obtain ⟨hunbound, hhosted⟩ := hscoped.unregistered hid
        by_cases hactive : store.status = .active
        · simp [hunbound, hhosted hactive, pure, Except.pure]
        · simp [hunbound, hactive, pure, Except.pure]
  | some id =>
      constructor
      · intro h
        cases hregistration : db.registrationOf store id with
        | none => simp [hregistration, throw, throwThe, MonadExceptOf.throw] at h
        | some registration =>
            simp only [hregistration] at h
            split at h
            · simp [throw, throwThe, MonadExceptOf.throw] at h
            rename_i hstate
            split at h
            · simp [throw, throwThe, MonadExceptOf.throw] at h
            rename_i hbinding
            rw [not_not] at hbinding
            rw [validateStoreBinding_eq_ok_iff] at h
            rw [registrationOf_eq_some_iff] at hregistration
            obtain ⟨hlookup, hscope⟩ := hregistration
            refine ⟨⟨by simp [hid], ?_, ?_⟩, fun hactive => ⟨?_, ?_⟩⟩
            · intro other hother
              cases hid.symm.trans hother
              exact ⟨registration, hlookup, hscope, hbinding.symm⟩
            · intro bindingId hbound
              obtain ⟨binding, hfound, -⟩ := h bindingId hbound
              exact ⟨binding, bindingOf_eq_some_iff.mp hfound⟩
            · intro other hother
              cases hid.symm.trans hother
              exact ⟨registration, hlookup, by simpa [hactive] using hstate⟩
            · intro bindingId hbound
              obtain ⟨binding, hfound, hlive⟩ := h bindingId hbound
              exact ⟨binding, (bindingOf_eq_some_iff.mp hfound).1, hlive hactive⟩
      · rintro ⟨hscoped, hlive⟩
        obtain ⟨registration, hlookup, hscope, hbinding⟩ := hscoped.registered id hid
        have hstate : ¬(store.status = .active ∧ registration.state ≠ .active) := by
          rintro ⟨hactive, hne⟩
          obtain ⟨other, hother, hstate⟩ := (hlive hactive).registration id hid
          rw [hlookup, Option.some.injEq] at hother
          rw [hother] at hne
          exact hne hstate
        simp only [registrationOf_eq_some_iff.mpr ⟨hlookup, hscope⟩, if_neg hstate, hbinding,
          ne_eq, not_true, if_false]
        rw [validateStoreBinding_eq_ok_iff]
        intro bindingId hbound
        obtain ⟨binding, hfound, hplace⟩ := hscoped.bound bindingId hbound
        refine ⟨binding, bindingOf_eq_some_iff.mpr ⟨hfound, hplace⟩, fun hactive => ?_⟩
        obtain ⟨other, hother, hstatus⟩ := (hlive hactive).binding bindingId hbound
        rw [hfound, Option.some.injEq] at hother
        rwa [hother]

/-- The canonical alias of a store is named after its slug. -/
def Store.Named (db : PlatformDatabase) (store : Store) : Prop :=
  ∀ row ∈ db.aliases.rows, row.isCanonical = true → row.tenantId = store.tenantId →
    row.storeId = store.id → row.path = store.canonicalPath

theorem validateStoreProjection_of_pointed (hscoped : store.Scoped db)
    (hlive : store.status = .active → store.Live db) (hnamed : store.Named db) :
    validateStoreProjection db store = .ok ⟨⟩ := by
  have hpath : (db.canonicalAlias store.tenantId store.id).any
      (·.path ≠ store.canonicalPath) = false := by
    cases hrow : db.canonicalAlias store.tenantId store.id with
    | none => rfl
    | some row =>
        have hmatch := List.find?_some hrow
        simp only [decide_eq_true_eq] at hmatch
        simpa using hnamed row (List.mem_of_find?_eq_some hrow) hmatch.2.2 hmatch.1 hmatch.2.1
  rw [validateStoreProjection, validateStorePointers_eq_ok_iff.mpr ⟨hscoped, hlive⟩, hpath]
  rfl

theorem pointed_of_validateStoreProjection (h : validateStoreProjection db store = .ok ⟨⟩) :
    store.Scoped db ∧ (store.status = .active → store.Live db) := by
  rw [← validateStorePointers_eq_ok_iff]
  unfold validateStoreProjection at h
  cases hpointers : validateStorePointers db store with
  | ok value => rfl
  | error error =>
      rw [hpointers] at h
      cases h

/-- A store has one canonical alias, and the check has looked at it. -/
theorem named_of_validateStoreProjection (h : validateStoreProjection db store = .ok ⟨⟩) :
    store.Named db := by
  intro row hrow hcanonical htenant hstore
  have hpath : (db.canonicalAlias store.tenantId store.id).any
      (·.path ≠ store.canonicalPath) = false := by
    rw [validateStoreProjection, validateStorePointers_eq_ok_iff.mpr
      (pointed_of_validateStoreProjection h)] at h
    by_contra hne
    rw [Bool.not_eq_false] at hne
    simp only [bind, Except.bind, hne, if_true] at h
    cases h
  unfold PlatformDatabase.canonicalAlias at hpath
  cases hfound : db.aliases.rows.find? fun row =>
      row.tenantId = store.tenantId ∧ row.storeId = store.id ∧ row.isCanonical with
  | none =>
      have hnone := List.find?_eq_none.mp hfound row hrow
      simp [htenant, hstore, hcanonical] at hnone
  | some other =>
      have hmatch := List.find?_some hfound
      simp only [decide_eq_true_eq] at hmatch
      have hsame : other = row := by
        refine Table.eq_of_clash (fun first second => ?_) (List.mem_of_find?_eq_some hfound) hrow ?_
        · simp only [pathAliases]
          grind
        · simp [pathAliases, hmatch, htenant, hstore, hcanonical]
      rw [hfound, Option.any_some] at hpath
      rw [← hsame]
      simpa using hpath

end Checks

/-! ## Suspension -/

/-- The stores after the active ones that a condition selects have been suspended. -/
def suspended (selects : Store → Bool) (store : Store) : Store :=
  if selects store ∧ store.status = .active then store.suspend else store

section Suspended

variable {db : PlatformDatabase} {selects : Store → Bool} {store : Store}

@[simp] theorem suspended_id : (suspended selects store).id = store.id := by
  unfold suspended
  split <;> rfl

@[simp] theorem suspended_scope : (suspended selects store).scope = store.scope := by
  unfold suspended
  split <;> rfl

@[simp] theorem suspended_organizationId :
    (suspended selects store).organizationId = store.organizationId := by
  unfold suspended
  split <;> rfl

@[simp] theorem suspended_currentRegistrationId :
    (suspended selects store).currentRegistrationId = store.currentRegistrationId := by
  unfold suspended
  split <;> rfl

@[simp] theorem suspended_federationBindingId :
    (suspended selects store).federationBindingId = store.federationBindingId := by
  unfold suspended
  split <;> rfl

@[simp] theorem suspended_integrationKind :
    (suspended selects store).integrationKind = store.integrationKind := by
  unfold suspended
  split <;> rfl

theorem suspended_active (h : (suspended selects store).status = .active) :
    suspended selects store = store ∧ store.status = .active ∧ selects store = false := by
  unfold suspended at h ⊢
  by_cases hselected : selects store = true ∧ store.status = .active
  · rw [if_pos hselected] at h
    cases h
  · rw [if_neg hselected] at h ⊢
    refine ⟨rfl, h, ?_⟩
    simpa [h] using hselected

/-- Suspension touches active stores only. -/
theorem suspended_of_not_active (h : store.status ≠ .active) :
    suspended selects store = store :=
  if_neg fun hboth => h hboth.2

theorem Store.Scoped.suspend (h : store.Scoped db) : store.suspend.Scoped db :=
  ⟨fun hid => ⟨(h.unregistered hid).1, fun hactive => nomatch hactive⟩, h.registered, h.bound⟩

theorem valid_suspended : stores.Valid (db.stores.rows.map (suspended selects)) := by
  have hsame : ∀ first second, stores.clash (suspended selects first)
      (suspended selects second) = stores.clash first second := by
    intro first second
    unfold suspended
    split <;> split <;> rfl
  refine Table.valid_map (fun _ => suspended_id) hsame fun row hrow => ?_
  have hcheck := db.stores.valid.checked row hrow
  unfold suspended
  split
  · simp only [stores, decide_eq_true_eq] at hcheck ⊢
    exact ⟨hcheck.1, hcheck.2.1, hcheck.2.2.1, Nat.succ_pos _, hcheck.2.2.2.2⟩
  · exact hcheck

end Suspended

/-- The stores of a database are scoped and named, so that suspending them cannot fail. -/
structure Scoped (db : PlatformDatabase) : Prop where
  pointed : ∀ store ∈ db.stores.rows, store.Scoped db
  named : ∀ store ∈ db.stores.rows, store.Named db

theorem ensures_suspendStores {db : PlatformDatabase} (h : Scoped db) {selects : Store → Bool}
    {failure : PlatformError → Prop} {post : PUnit → PlatformDatabase → Prop}
    (hpost : ∀ stores', stores'.rows = db.stores.rows.map (suspended selects) →
      post ⟨⟩ { db with stores := stores' }) :
    Ensures (suspendStores selects) failure db post := by
  unfold suspendStores
  rw [ensures_bind, ensures_get, ensures_bind]
  have hchecks : Ensures
      (forM (db.stores.rows.filter fun store => selects store ∧ store.status = .active)
        fun store => (liftM (validateStoreProjection db store.suspend) : Tx PUnit))
      failure db fun _ db' => db' = db := by
    refine Ensures.forM (fun _ db' => db' = db) (fun store rest db' hsuffix hdb' => ?_) rfl
    have hstore : store ∈ db.stores.rows :=
      (List.mem_filter.mp (hsuffix.subset List.mem_cons_self)).1
    rw [validateStoreProjection_of_pointed (h.pointed store hstore).suspend
      (fun hactive => nomatch hactive) (h.named store hstore)]
    exact hdb'
  refine hchecks.mono (fun _ h => h) ?_
  rintro _ _ rfl
  rw [ensures_on]
  exact Table.ensures_updateAll valid_suspended hpost

/-! ## Projection -/

/-- Aliases that are new belong to one store, and are named after its slug. -/
def Claimed (before after : Table pathAliases) (store : Store) : Prop :=
  ∀ row ∈ after.rows, row ∈ before.rows ∨
    (row.storeId = store.id ∧ row.path = store.canonicalPath)

section Projected

variable [Jsonb]

/-- What the projection of an active registration may make of the stores. -/
inductive Projected (storeId : StoreId) (registration : Registration) (db : PlatformDatabase) :
    PlatformDatabase → Prop
  | kept : Projected storeId registration db db
  | updated (child : Organization) (store : Store) (stores' : Table stores)
      (aliases' : Table pathAliases)
      (hhighest : db.highestActiveVersion registration.scope = some registration.version)
      (hchild : db.storeOrganization registration = some child)
      (hvouched : registration.federationBindingId.all (db.vouches registration child.id) = true)
      (hstore : db.storeOf child.id = some store)
      (hnewer : db.outruns store registration = false)
      (hvalid : validateStoreProjection db (store.project registration child) = .ok ⟨⟩)
      (hwritten : Table.Written db.stores stores' store (store.project registration child))
      (hclaimed : Claimed db.aliases aliases' store) :
      Projected storeId registration db
        { db with
          stores := stores'
          aliases := aliases' }
  | inserted (child : Organization) (stores' : Table stores) (aliases' : Table pathAliases)
      (hhighest : db.highestActiveVersion registration.scope = some registration.version)
      (hchild : db.storeOrganization registration = some child)
      (hvouched : registration.federationBindingId.all (db.vouches registration child.id) = true)
      (hvalid : validateStoreProjection db (Store.projected registration child storeId) = .ok ⟨⟩)
      (hrows : stores'.rows = db.stores.rows ++ [Store.projected registration child storeId])
      (hclaimed : Claimed db.aliases aliases' (Store.projected registration child storeId)) :
      Projected storeId registration db
        { db with
          stores := stores'
          aliases := aliases' }

omit [Jsonb] in
theorem ensures_claimCanonicalPath {db : PlatformDatabase} {registration : Registration}
    {organizationId : OrganizationId} {store : Store} {post : PUnit → PlatformDatabase → Prop}
    (hstore : db.storeOf organizationId = some store)
    (hpost : ∀ aliases', Claimed db.aliases aliases' store →
      post ⟨⟩ { db with aliases := aliases' }) :
    Ensures (claimCanonicalPath registration organizationId) whatever db post := by
  unfold claimCanonicalPath
  rw [ensures_bind, ensures_get, ensures_bind, hstore, ensures_require_some, ensures_ite]
  refine ⟨fun _ => trivial, fun _ => ?_⟩
  rw [ensures_bind]
  refine ensures_liftAny fun _ _ => ?_
  cases hlookup : db.aliases.lookup (registration.tenantId, store.canonicalPath) with
  | none =>
      rw [ensures_on]
      refine Table.ensures_insert trivial fun aliases' hrows => hpost aliases' fun row hrow => ?_
      rw [hrows, List.mem_append, List.mem_singleton] at hrow
      rcases hrow with hrow | rfl
      · exact .inl hrow
      · exact .inr ⟨rfl, rfl⟩
  | some other =>
      dsimp only
      rw [ensures_ite]
      refine ⟨fun hsame => ?_, fun _ => trivial⟩
      rw [ensures_bind, ensures_on]
      refine Table.ensures_update_written hlookup (fun _ => rfl) trivial
        fun aliases' hwritten => hpost aliases' fun row hrow => ?_
      rcases hwritten.mem_cases hrow with rfl | ⟨hrow, _⟩
      · exact .inr ⟨hsame, congrArg Prod.snd (Table.key_of_lookup hlookup)⟩
      · exact .inl hrow

omit [Jsonb] in
/-- The store of an organization is found. -/
theorem storeOf_of_mem {db : PlatformDatabase} {store : Store}
    (hstore : store ∈ db.stores.rows) : db.storeOf store.organizationId = some store := by
  unfold PlatformDatabase.storeOf
  cases hfound : db.stores.rows.find? fun other =>
      other.organizationId = store.organizationId with
  | none =>
      have := List.find?_eq_none.mp hfound store hstore
      simp at this
  | some other =>
      have hsame := List.find?_some hfound
      rw [decide_eq_true_eq] at hsame
      rw [Table.eq_of_clash (fun first second => ?_) (List.mem_of_find?_eq_some hfound) hstore]
      · simp [stores, hsame]
      · simp only [stores, eq_comm]

omit [Jsonb] in
theorem mem_of_storeOf {db : PlatformDatabase} {organizationId : OrganizationId} {store : Store}
    (h : db.storeOf organizationId = some store) :
    store ∈ db.stores.rows ∧ store.organizationId = organizationId := by
  refine ⟨List.mem_of_find?_eq_some h, ?_⟩
  have hsame := List.find?_some h
  rwa [decide_eq_true_eq] at hsame

theorem ensures_projectStore {db : PlatformDatabase} {storeId : StoreId}
    {registration : Registration} {child : Organization}
    (hhighest : db.highestActiveVersion registration.scope = some registration.version)
    (hchild : db.storeOrganization registration = some child)
    (hvouched : registration.federationBindingId.all (db.vouches registration child.id) = true) :
    Ensures (projectStore storeId registration child) whatever db fun _ db' =>
      Projected storeId registration db db' := by
  unfold projectStore
  rw [ensures_bind, ensures_get]
  cases hstore : db.storeOf child.id with
  | some store =>
      dsimp only
      rw [ensures_ite]
      refine ⟨fun _ => .kept, fun hnewer => ?_⟩
      rw [Bool.not_eq_true] at hnewer
      rw [ensures_bind]
      refine ensures_liftAny fun _ hvalid => ?_
      rw [ensures_bind, ensures_on]
      have hlookup : db.stores.lookup store.id = some store :=
        Table.lookup_of_mem (mem_of_storeOf hstore).1
      refine Table.ensures_update_written hlookup (fun _ => rfl) trivial
        fun stores' hwritten => ?_
      have hmem : store.project registration child ∈ stores'.rows :=
        Table.mem_of_lookup hwritten.lookup_self
      have horganization : store.organizationId = child.id := (mem_of_storeOf hstore).2
      have hfound : (PlatformDatabase.storesPart.put stores' db).storeOf _ = some _ :=
        storeOf_of_mem hmem
      refine ensures_claimCanonicalPath (horganization ▸ hfound) fun aliases' hclaimed => ?_
      exact .updated child store stores' aliases' hhighest hchild hvouched hstore hnewer hvalid
        hwritten hclaimed
  | none =>
      dsimp only
      rw [ensures_bind]
      refine ensures_liftAny fun _ hvalid => ?_
      rw [ensures_bind, ensures_on]
      refine Table.ensures_insert trivial fun stores' hrows => ?_
      have hmem : Store.projected registration child storeId ∈ stores'.rows := by simp [hrows]
      have hfound : (PlatformDatabase.storesPart.put stores' db).storeOf _ = some _ :=
        storeOf_of_mem hmem
      refine ensures_claimCanonicalPath hfound fun aliases' hclaimed => ?_
      exact .inserted child stores' aliases' hhighest hchild hvouched hvalid hrows hclaimed

/-- What the trigger of registrations may make of the stores. -/
inductive Reprojected (storeId : StoreId) (old : Option Registration) (new : Registration)
    (db : PlatformDatabase) : PlatformDatabase → Prop
  | kept (hstate : new.state ≠ .active) (hold : ∀ row, old = some row → row.state ≠ .active) :
      Reprojected storeId old new db db
  | suspended (row : Registration) (stores' : Table stores) (hstate : new.state ≠ .active)
      (hold : old = some row) (hactive : row.state = .active)
      (hrows : stores'.rows = db.stores.rows.map
        (suspended fun store => store.currentRegistrationId = some row.id)) :
      Reprojected storeId old new db { db with stores := stores' }
  | projected (db' : PlatformDatabase) (hstate : new.state = .active)
      (hprojected : Projected storeId new db db') : Reprojected storeId old new db db'

theorem ensures_projectStoreRegistration {db : PlatformDatabase} (h : Scoped db)
    {storeId : StoreId} {old : Option Registration} {new : Registration}
    {failure : PlatformError → Prop}
    (hfailure : new.state = .active → ∀ error, failure error) :
    Ensures (projectStoreRegistration storeId old new) failure db fun _ db' =>
      Reprojected storeId old new db db' := by
  unfold projectStoreRegistration
  rw [ensures_bind, ensures_get, ensures_ite]
  refine ⟨fun hstate => ?_, fun hstate => ?_⟩
  · cases old with
    | none => exact .kept hstate (fun _ hold => nomatch hold)
    | some row =>
        dsimp only
        rw [ensures_ite]
        refine ⟨fun hactive => ?_, fun hactive => ?_⟩
        · exact ensures_suspendStores h fun stores' hrows =>
            .suspended row stores' hstate rfl hactive hrows
        · refine .kept hstate fun other hother => ?_
          cases hother
          exact hactive
  · rw [not_not] at hstate
    rw [ensures_ite]
    refine ⟨fun _ => .projected db hstate .kept, fun hhighest => ?_⟩
    rw [not_not] at hhighest
    cases hchild : db.storeOrganization new with
    | none => exact .projected db hstate .kept
    | some child =>
        dsimp only
        rw [ensures_ite]
        refine ⟨fun hvouched => ?_, fun _ => .projected db hstate .kept⟩
        exact (ensures_projectStore hhighest hchild hvouched).mono
          (fun error _ => hfailure hstate error) fun _ db' hprojected =>
            .projected db' hstate hprojected

end Projected

end MatchPlane.Platform
