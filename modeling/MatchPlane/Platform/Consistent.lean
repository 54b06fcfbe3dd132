import MatchPlane.Platform.Settled
import MatchPlane.Platform.System

/-!
# Stores follow their registrations

A database is consistent when the pointers of every store name rows of its scope, and
active ones where the store is active.  A write to a registration or to a binding can
break this; the trigger of the statement restores it.
-/

namespace MatchPlane.Platform

open MatchPlane.Library

/-- An active store shows an active registration, and a remote one an active binding. -/
structure Consistent (db : PlatformDatabase) : Prop extends Scoped db where
  live : ∀ store ∈ db.stores.rows, store.status = .active → store.Live db
  kinds : ∀ store ∈ db.stores.rows, store.integrationKind = .external →
    store.federationBindingId.isSome
  remote : ∀ row ∈ db.registrations.rows,
    (row.sourceKind = .remote ↔ row.federationBindingId.isSome)

/-! ## Writes below the stores -/

/-- Stores keep their pointers as long as the rows they name keep their scope. -/
theorem Scoped.of_rows {db db' : PlatformDatabase} (h : Scoped db)
    (hstores : db'.stores = db.stores) (haliases : db'.aliases = db.aliases)
    (hregistrations : ∀ id row, db.registrations.lookup id = some row → ∃ row',
      db'.registrations.lookup id = some row' ∧ row'.scope = row.scope ∧
        row'.federationBindingId = row.federationBindingId)
    (hbindings : ∀ store ∈ db.stores.rows, ∀ id, store.federationBindingId = some id →
      ∃ row', db'.bindings.lookup id = some row' ∧ row'.scope = store.scope ∧
        row'.organizationId = some store.organizationId) : Scoped db' := by
  refine ⟨fun store hstore => ?_, fun store hstore => ?_⟩
  · rw [hstores] at hstore
    have hold := h.pointed store hstore
    refine ⟨hold.unregistered, fun id hid => ?_, hbindings store hstore⟩
    obtain ⟨row, hrow, hscope, hbinding⟩ := hold.registered id hid
    obtain ⟨row', hrow', hscope', hbinding'⟩ := hregistrations id row hrow
    exact ⟨row', hrow', hscope'.trans hscope, hbinding'.trans hbinding⟩
  · rw [hstores] at hstore
    unfold Store.Named
    rw [haliases]
    exact h.named store hstore

section Writes

variable {db : PlatformDatabase}

theorem Scoped.insertRegistration (h : Scoped db) {row : Registration}
    {registrations' : Table registrations}
    (hrows : registrations'.rows = db.registrations.rows ++ [row]) :
    Scoped { db with registrations := registrations' } := by
  refine h.of_rows rfl rfl (fun id other hother => ?_) fun store hstore => ?_
  · exact ⟨other, Table.lookup_inserted_of_some hrows hother, rfl, rfl⟩
  · exact (h.pointed store hstore).bound

theorem Scoped.writeRegistration (h : Scoped db) {old new : Registration}
    {registrations' : Table registrations}
    (hwritten : Table.Written db.registrations registrations' old new)
    (hscope : new.scope = old.scope)
    (hbinding : new.federationBindingId = old.federationBindingId) :
    Scoped { db with registrations := registrations' } := by
  refine h.of_rows rfl rfl (fun id row hrow => ?_) fun store hstore => ?_
  · by_cases hid : id = old.id
    · subst hid
      cases hwritten.stored.symm.trans hrow
      exact ⟨new, hwritten.lookup_self, hscope, hbinding⟩
    · exact ⟨row, (hwritten.lookup_of_ne hid).trans hrow, rfl, rfl⟩
  · exact (h.pointed store hstore).bound

theorem Scoped.insertBinding (h : Scoped db) {row : Binding} {bindings' : Table bindings}
    (hrows : bindings'.rows = db.bindings.rows ++ [row]) :
    Scoped { db with bindings := bindings' } := by
  refine h.of_rows rfl rfl (fun id other hother => ⟨other, hother, rfl, rfl⟩) ?_
  intro store hstore id hid
  obtain ⟨binding, hbinding, hplace⟩ := (h.pointed store hstore).bound id hid
  exact ⟨binding, Table.lookup_inserted_of_some hrows hbinding, hplace⟩

/-- The foreign key of the stores keeps the scope of a binding that is referred to. -/
theorem Scoped.writeBinding (h : Scoped db) {old new : Binding} {bindings' : Table bindings}
    (hwritten : Table.Written db.bindings bindings' old new)
    (hforeign : ∀ store ∈ db.stores.rows, store.federationBindingId = some old.id →
      store.refersTo new = true) : Scoped { db with bindings := bindings' } := by
  refine h.of_rows rfl rfl (fun id other hother => ⟨other, hother, rfl, rfl⟩) ?_
  intro store hstore id hid
  by_cases hsame : id = old.id
  · subst hsame
    have hrefers := hforeign store hstore hid
    rw [Store.refersTo, decide_eq_true_eq] at hrefers
    exact ⟨new, hwritten.lookup_self, hrefers.1.symm, hrefers.2.symm⟩
  · obtain ⟨binding, hbinding, hplace⟩ := (h.pointed store hstore).bound id hid
    exact ⟨binding, (hwritten.lookup_of_ne hsame).trans hbinding, hplace⟩

end Writes

/-! ## Suspensions and projections -/

section Triggers

variable {db : PlatformDatabase}

/-- A consistent database after a suspension that leaves only live stores active. -/
theorem Consistent.of_suspended {selects : Store → Bool} {stores' : Table stores}
    (hscoped : Scoped db)
    (hkinds : ∀ store ∈ db.stores.rows, store.integrationKind = .external →
      store.federationBindingId.isSome)
    (hremote : ∀ row ∈ db.registrations.rows,
      (row.sourceKind = .remote ↔ row.federationBindingId.isSome))
    (hrows : stores'.rows = db.stores.rows.map (suspended selects))
    (hlive : ∀ store ∈ db.stores.rows, store.status = .active → selects store = false →
      store.Live db) : Consistent { db with stores := stores' } := by
  have hback : ∀ store ∈ stores'.rows, ∃ old ∈ db.stores.rows, store = suspended selects old := by
    intro store hstore
    rw [hrows, List.mem_map] at hstore
    obtain ⟨old, hold, rfl⟩ := hstore
    exact ⟨old, hold, rfl⟩
  refine ⟨⟨fun store hstore => ?_, fun store hstore => ?_⟩, fun store hstore hactive => ?_,
    fun store hstore => ?_, hremote⟩
  · obtain ⟨old, hold, rfl⟩ := hback store hstore
    have hpointed := hscoped.pointed old hold
    refine ⟨fun hid => ?_, fun id hid => ?_, fun id hid => ?_⟩
    · rw [suspended_currentRegistrationId] at hid
      obtain ⟨hbinding, hhosted⟩ := hpointed.unregistered hid
      refine ⟨hbinding ▸ suspended_federationBindingId, fun hactive => ?_⟩
      rw [suspended_integrationKind]
      exact hhosted (suspended_active hactive).2.1
    · simpa using hpointed.registered id (by simpa using hid)
    · simpa using hpointed.bound id (by simpa using hid)
  · obtain ⟨old, hold, rfl⟩ := hback store hstore
    intro row hrow hcanonical htenant hid
    rw [suspended_id] at hid
    have htenants : (suspended selects old).tenantId = old.tenantId :=
      congrArg Prod.fst suspended_scope
    have hslugs : (suspended selects old).slug = old.slug :=
      congrArg (·.2.2) suspended_scope
    rw [Store.canonicalPath, hslugs]
    exact hscoped.named old hold row hrow hcanonical (htenant.trans htenants) hid
  · obtain ⟨old, hold, rfl⟩ := hback store hstore
    obtain ⟨hsame, holdactive, hselects⟩ := suspended_active hactive
    rw [hsame]
    exact (hlive old hold holdactive hselects).transfer rfl rfl
  · obtain ⟨old, hold, rfl⟩ := hback store hstore
    simpa using hkinds old hold

section Projections

variable [Jsonb]

/-- A projection keeps a database consistent: what it writes has been checked. -/
theorem Consistent.projected (h : Consistent db) {storeId : StoreId}
    {registration : Registration} {db' : PlatformDatabase}
    (hregistration : registration ∈ db.registrations.rows)
    (hprojected : Projected storeId registration db db') : Consistent db' := by
  have hexternal : (if registration.sourceKind = .remote then IntegrationKind.external
      else .package) = .external → registration.federationBindingId.isSome := by
    intro hkind
    split at hkind
    · rename_i hremote
      exact (h.remote registration hregistration).mp hremote
    · cases hkind
  cases hprojected with
  | kept => exact h
  | updated child store stores' aliases' _ _ _ hstore _ hvalid hwritten hclaimed =>
      obtain ⟨hscoped, hlive⟩ := pointed_of_validateStoreProjection hvalid
      have hnamed := named_of_validateStoreProjection hvalid
      refine ⟨⟨fun other hother => ?_, fun other hother => ?_⟩, fun other hother hactive => ?_,
        fun other hother => ?_, h.remote⟩
      · rcases hwritten.mem_cases hother with rfl | ⟨hother, _⟩
        · exact hscoped.transfer rfl rfl
        · exact (h.pointed other hother).transfer rfl rfl
      · intro row hrow hcanonical htenant hid
        rcases hclaimed row hrow with hold | ⟨hnew, hpath⟩
        · rcases hwritten.mem_cases hother with rfl | ⟨hother, _⟩
          · exact hnamed row hold hcanonical htenant hid
          · exact h.named other hother row hold hcanonical htenant hid
        · rcases hwritten.mem_cases hother with rfl | ⟨_, hne⟩
          · exact hpath
          · exact absurd (hid.symm.trans hnew) hne
      · rcases hwritten.mem_cases hother with rfl | ⟨hother, _⟩
        · exact (hlive hactive).transfer rfl rfl
        · exact (h.live other hother hactive).transfer rfl rfl
      · rcases hwritten.mem_cases hother with rfl | ⟨hother, _⟩
        · exact hexternal
        · exact h.kinds other hother
  | inserted child stores' aliases' _ _ _ hvalid hrows hclaimed =>
      obtain ⟨hscoped, hlive⟩ := pointed_of_validateStoreProjection hvalid
      have hnamed := named_of_validateStoreProjection hvalid
      have hcases : ∀ other ∈ stores'.rows,
          other = Store.projected registration child storeId ∨ (other ∈ db.stores.rows ∧
            other.id ≠ storeId) := by
        intro other hother
        rw [hrows, List.mem_append, List.mem_singleton] at hother
        rcases hother with hother | rfl
        · exact .inr ⟨hother, Table.lookup_eq_none_iff.mp (Table.lookup_inserted_none hrows)
            other hother⟩
        · exact .inl rfl
      refine ⟨⟨fun other hother => ?_, fun other hother => ?_⟩, fun other hother hactive => ?_,
        fun other hother => ?_, h.remote⟩
      · rcases hcases other hother with rfl | ⟨hother, _⟩
        · exact hscoped.transfer rfl rfl
        · exact (h.pointed other hother).transfer rfl rfl
      · intro row hrow hcanonical htenant hid
        rcases hclaimed row hrow with hold | ⟨hnew, hpath⟩
        · rcases hcases other hother with rfl | ⟨hother, _⟩
          · exact hnamed row hold hcanonical htenant hid
          · exact h.named other hother row hold hcanonical htenant hid
        · rcases hcases other hother with rfl | ⟨_, hne⟩
          · exact hpath
          · exact absurd (hid.symm.trans hnew) hne
      · rcases hcases other hother with rfl | ⟨hother, _⟩
        · exact (hlive hactive).transfer rfl rfl
        · exact (h.live other hother hactive).transfer rfl rfl
      · rcases hcases other hother with rfl | ⟨hother, _⟩
        · exact hexternal
        · exact h.kinds other hother

/-- The trigger of registrations suspends what has lost its registration. -/
theorem Consistent.of_reprojected {storeId : StoreId} {old : Option Registration}
    {new : Registration} {db' : PlatformDatabase} (hscoped : Scoped db)
    (hkinds : ∀ store ∈ db.stores.rows, store.integrationKind = .external →
      store.federationBindingId.isSome)
    (hremote : ∀ row ∈ db.registrations.rows,
      (row.sourceKind = .remote ↔ row.federationBindingId.isSome))
    (hnew : new ∈ db.registrations.rows)
    (hlive : ∀ store ∈ db.stores.rows, store.status = .active →
      (new.state ≠ .active → ∀ row, old = some row → row.state = .active →
        store.currentRegistrationId ≠ some row.id) → store.Live db)
    (h : Reprojected storeId old new db db') : Consistent db' := by
  cases h with
  | kept hstate hold =>
      refine ⟨hscoped, fun store hstore hactive => ?_, hkinds, hremote⟩
      exact hlive store hstore hactive fun _ row hrow hrowactive =>
        absurd hrowactive (hold row hrow)
  | suspended row stores' hstate hold hactive hrows =>
      refine Consistent.of_suspended hscoped hkinds hremote hrows
        fun store hstore hstoreactive hselects => ?_
      refine hlive store hstore hstoreactive fun _ other hother _ => ?_
      cases hold.symm.trans hother
      simpa using hselects
  | projected _ hstate hprojected =>
      have hconsistent : Consistent db := ⟨hscoped, fun store hstore hactive =>
        hlive store hstore hactive fun hne => absurd hstate hne, hkinds, hremote⟩
      exact hconsistent.projected hnew hprojected

end Projections

end Triggers

/-! ## Statements on registrations -/

section Registrations

variable [Jsonb] {db : PlatformDatabase} {storeId : StoreId}

theorem ensures_insertRegistration (h : Consistent db) {row : Registration}
    {post : PUnit → PlatformDatabase → Prop}
    (hremote : row.sourceKind = .remote ↔ row.federationBindingId.isSome)
    (hpost : ∀ registrations' db', registrations'.rows = db.registrations.rows ++ [row] →
      Reprojected storeId none row { db with registrations := registrations' } db' →
      Consistent db' → post ⟨⟩ db') :
    Ensures (insertRegistration storeId row) whatever db post := by
  unfold insertRegistration
  rw [ensures_bind, ensures_on]
  refine Table.ensures_insert trivial fun registrations' hrows => ?_
  have hscoped := h.toScoped.insertRegistration hrows
  refine (ensures_projectStoreRegistration hscoped fun _ _ => trivial).mono (fun _ h => h)
    fun _ db' hreprojected => hpost registrations' db' hrows hreprojected ?_
  have hrow : row ∈ registrations'.rows := by simp [hrows]
  refine Consistent.of_reprojected hscoped h.kinds (fun other hother => ?_) hrow ?_ hreprojected
  · have hmem : other ∈ registrations'.rows := hother
    rw [hrows, List.mem_append, List.mem_singleton] at hmem
    rcases hmem with hmem | rfl
    · exact h.remote other hmem
    · exact hremote
  · intro store hstore hactive _
    have hlive := h.live store hstore hactive
    refine ⟨fun id hid => ?_, hlive.binding⟩
    obtain ⟨other, hother, hstate⟩ := hlive.registration id hid
    exact ⟨other, Table.lookup_inserted_of_some hrows hother, hstate⟩

/-- A write of a registration keeps the columns that its store and its binding share. -/
structure KeepsPlace (set : Registration → Registration) : Prop where
  id : ∀ row, (set row).id = row.id
  scope : ∀ row, (set row).scope = row.scope
  federationBindingId : ∀ row, (set row).federationBindingId = row.federationBindingId
  sourceKind : ∀ row, (set row).sourceKind = row.sourceKind

theorem ensures_updateRegistration (h : Consistent db) {id : RegistrationId}
    {guard : Registration → Bool} {set : Registration → Registration}
    {post : Option Registration → PlatformDatabase → Prop} (hset : KeepsPlace set)
    (hmissed : (db.registrations.lookup id).filter guard = none → post none db)
    (hpost : ∀ old registrations' db', db.registrations.lookup id = some old →
      guard old = true → Table.Written db.registrations registrations' old (set old) →
      Reprojected storeId (some old) (set old) { db with registrations := registrations' } db' →
      Consistent db' → post (some (set old)) db') :
    Ensures (updateRegistration storeId id guard set) whatever db post := by
  unfold updateRegistration
  rw [ensures_bind, ensures_get]
  cases hmatch : (db.registrations.lookup id).filter guard with
  | none => exact hmissed hmatch
  | some old =>
      obtain ⟨hlookup, hguard⟩ := Option.filter_eq_some_iff.mp hmatch
      dsimp only
      rw [ensures_bind, ensures_on]
      refine Table.ensures_update_cases hset.id trivial (fun hnone => ?_)
        fun row registrations' hrow _ hwritten => ?_
      · change (db.registrations.lookup id).filter guard = none at hnone
        rw [hmatch] at hnone
        cases hnone
      · cases hlookup.symm.trans hrow
        have hscoped := h.toScoped.writeRegistration hwritten (hset.scope old)
          (hset.federationBindingId old)
        rw [ensures_bind]
        refine (ensures_projectStoreRegistration hscoped fun _ _ => trivial).mono
          (fun _ h => h) fun _ db' hreprojected =>
            hpost old registrations' db' hlookup hguard hwritten hreprojected ?_
        have hnew : set old ∈ registrations'.rows := Table.mem_of_lookup hwritten.lookup_self
        refine Consistent.of_reprojected hscoped h.kinds (fun other hother => ?_) hnew ?_
          hreprojected
        · rcases hwritten.mem_cases hother with rfl | ⟨hother, _⟩
          · rw [hset.sourceKind, hset.federationBindingId]
            exact h.remote old (Table.mem_of_lookup hlookup)
          · exact h.remote other hother
        · intro store hstore hactive hkept
          have hlive := h.live store hstore hactive
          refine ⟨fun other hother => ?_, hlive.binding⟩
          obtain ⟨row, hrow, hstate⟩ := hlive.registration other hother
          by_cases hsame : other = old.id
          · subst hsame
            cases hwritten.stored.symm.trans hrow
            refine ⟨set old, hwritten.lookup_self, ?_⟩
            by_contra hne
            exact hkept hne old rfl hstate hother
          · exact ⟨row, (hwritten.lookup_of_ne hsame).trans hrow, hstate⟩

omit [Jsonb] in
/-- Two suspensions are one, since a suspended store is not suspended again. -/
theorem suspended_suspended {first second : Store → Bool} (store : Store) :
    suspended second (suspended first store) =
      suspended (fun store => first store || second store) store := by
  by_cases hactive : store.status = .active
  · by_cases hfirst : first store = true
    · have hsuspended : suspended first store = store.suspend := if_pos ⟨hfirst, hactive⟩
      have hinactive : store.suspend.status ≠ .active := fun h => nomatch h
      rw [hsuspended, suspended_of_not_active hinactive]
      exact (if_pos ⟨by simp [hfirst], hactive⟩).symm
    · rw [Bool.not_eq_true] at hfirst
      have hkept : suspended first store = store := if_neg (by simp [hfirst])
      rw [hkept]
      simp [suspended, hfirst]
  · simp only [suspended_of_not_active hactive]

/-- The active registrations that a condition selects are disabled with their stores. -/
theorem ensures_disableRegistrations (h : Consistent db) {selects : Registration → Bool}
    {post : PUnit → PlatformDatabase → Prop}
    (hselects : ∀ row, selects row = true → row.state = .active)
    (hpost : ∀ registrations' stores' shows,
      registrations'.rows =
        db.registrations.rows.map (fun row => if selects row then row.disable else row) →
      stores'.rows = db.stores.rows.map (suspended shows) →
      (∀ store, shows store = true ↔ ∃ row ∈ db.registrations.rows,
        selects row = true ∧ store.currentRegistrationId = some row.id) →
      Consistent { db with registrations := registrations', stores := stores' } →
      post ⟨⟩ { db with registrations := registrations', stores := stores' }) :
    Ensures (disableRegistrations storeId selects) whatever db post := by
  unfold disableRegistrations
  rw [ensures_bind, ensures_get, ensures_bind, ensures_on]
  refine Table.ensures_updateAll_rows trivial fun registrations' hrows => ?_
  have hlookup := Table.lookup_updatedAll hrows (by intro row; split <;> rfl)
  have hscoped : Scoped { db with registrations := registrations' } := by
    refine h.toScoped.of_rows rfl rfl (fun id row hrow => ?_) fun store hstore => ?_
    · refine ⟨if selects row then row.disable else row, ?_, ?_, ?_⟩
      · change registrations'.lookup id = _
        rw [hlookup]
        exact congrArg (Option.map _) hrow
      · split <;> rfl
      · split <;> rfl
    · exact (h.pointed store hstore).bound
  -- The triggers of the rows still to come suspend the rest.
  let rows := db.registrations.rows.filter selects
  let inv : List Registration → PlatformDatabase → Prop := fun rest db' =>
    ∃ stores' shows, db' = { db with registrations := registrations', stores := stores' } ∧
      stores'.rows = db.stores.rows.map (suspended shows) ∧
      (∀ store, shows store = true → ∃ row ∈ rows, store.currentRegistrationId = some row.id) ∧
      ∀ row ∈ rows, row ∈ rest ∨ ∀ store : Store, store.currentRegistrationId = some row.id →
        shows store = true
  have hscopedAt : ∀ stores' shows, stores'.rows = db.stores.rows.map (suspended shows) →
      Scoped { db with registrations := registrations', stores := stores' } := by
    intro stores' shows hstores
    refine ⟨fun store hstore => ?_, fun store hstore => ?_⟩
    · have hmem : store ∈ stores'.rows := hstore
      rw [hstores, List.mem_map] at hmem
      obtain ⟨old, hold, rfl⟩ := hmem
      unfold suspended
      split
      · exact (hscoped.pointed old hold).suspend.transfer rfl rfl
      · exact (hscoped.pointed old hold).transfer rfl rfl
    · have hmem : store ∈ stores'.rows := hstore
      rw [hstores, List.mem_map] at hmem
      obtain ⟨old, hold, rfl⟩ := hmem
      unfold suspended
      split
      · exact hscoped.named old hold
      · exact hscoped.named old hold
  refine (Ensures.forM inv (fun row rest db' hsuffix hinv => ?_) ?_).mono (fun _ h => h) ?_
  · obtain ⟨stores', shows, rfl, hstores, hback, hcovered⟩ := hinv
    have hrow : row ∈ rows := hsuffix.subset List.mem_cons_self
    have hactive : row.state = .active := hselects row (List.mem_filter.mp hrow).2
    refine (ensures_projectStoreRegistration (hscopedAt stores' shows hstores)
      (fun hstate => (nomatch (show RegistrationState.disabled = .active from hstate)))).mono (fun _ h => h) fun _ db' hreprojected => ?_
    cases hreprojected with
    | kept _ hold => exact absurd hactive (hold row rfl)
    | projected _ hstate _ => cases hstate
    | suspended other stores'' _ hother _ hsuspended =>
        cases hother
        refine ⟨stores'', fun store =>
          shows store || decide (store.currentRegistrationId = some row.id), rfl, ?_, ?_, ?_⟩
        · rw [hsuspended]
          change stores'.rows.map _ = _
          rw [hstores, List.map_map]
          refine List.map_congr_left fun store _ => ?_
          exact suspended_suspended store
        · intro store hshows
          rw [Bool.or_eq_true, decide_eq_true_eq] at hshows
          rcases hshows with hshows | hshows
          · exact hback store hshows
          · exact ⟨row, hrow, hshows⟩
        · intro other hmem
          rcases hcovered other hmem with hrest | hshown
          · rcases List.mem_cons.mp hrest with rfl | hrest
            · exact .inr fun store hid => by simp [hid]
            · exact .inl hrest
          · exact .inr fun store hid => by simp [hshown store hid]
  · refine ⟨db.stores, fun _ => false, rfl, ?_, fun _ hfalse => (nomatch hfalse),
      fun row hrow => .inl hrow⟩
    refine (List.map_id' _).symm.trans (List.map_congr_left fun store _ => ?_)
    exact (if_neg fun hboth => (nomatch hboth.1)).symm
  · rintro _ db' ⟨stores', shows, rfl, hstores, hback, hcovered⟩
    have hiff : ∀ store, shows store = true ↔ ∃ row ∈ db.registrations.rows,
        selects row = true ∧ store.currentRegistrationId = some row.id := by
      intro store
      constructor
      · intro hshows
        obtain ⟨row, hrow, hid⟩ := hback store hshows
        exact ⟨row, (List.mem_filter.mp hrow).1, (List.mem_filter.mp hrow).2, hid⟩
      · rintro ⟨row, hrow, hselected, hid⟩
        rcases hcovered row (List.mem_filter.mpr ⟨hrow, hselected⟩) with hrest | hshown
        · cases hrest
        · exact hshown store hid
    refine hpost registrations' stores' shows hrows hstores hiff ?_
    refine (@Consistent.of_suspended { db with registrations := registrations' } _ _ hscoped
      h.kinds (fun row hrow => ?_) hstores fun store hstore hactive hshows => ?_)
    · have hmem : row ∈ registrations'.rows := hrow
      rw [hrows, List.mem_map] at hmem
      obtain ⟨old, hold, rfl⟩ := hmem
      have hremote := h.remote old hold
      split
      · exact hremote
      · exact hremote
    · have hlive := h.live store hstore hactive
      refine ⟨fun id hid => ?_, hlive.binding⟩
      obtain ⟨row, hrow, hstate⟩ := hlive.registration id hid
      refine ⟨row, ?_, hstate⟩
      change registrations'.lookup id = some row
      rw [hlookup]
      refine (congrArg (Option.map _) hrow).trans ?_
      by_cases hselected : selects row = true
      · have hshown : shows store = true := (hiff store).mpr
          ⟨row, Table.mem_of_lookup hrow, hselected, by
            rw [hid, ← Table.key_of_lookup hrow]
            rfl⟩
        rw [hshows] at hshown
        cases hshown
      · simp [hselected]

end Registrations

/-! ## Statements on bindings -/

section Bindings

variable [Jsonb] {db : PlatformDatabase} {storeId : StoreId}

/-- What the trigger of bindings may make of the stores. -/
inductive Reconciled (storeId : StoreId) (binding : Binding) (db : PlatformDatabase) :
    PlatformDatabase → Prop
  | suspended (stores' : Table stores) (hstatus : binding.status ≠ .active)
      (hrows : stores'.rows = db.stores.rows.map
        (suspended fun store => store.federationBindingId = some binding.id)) :
      Reconciled storeId binding db { db with stores := stores' }
  | kept (hstatus : binding.status = .active) : Reconciled storeId binding db db
  | projected (registration : Registration) (db' : PlatformDatabase)
      (hstatus : binding.status = .active)
      (hid : binding.registrationId = some registration.id)
      (hregistration : db.registrations.lookup registration.id = some registration)
      (hbinding : registration.federationBindingId = some binding.id)
      (hstate : registration.state = .active)
      (hprojected : Projected storeId registration db db') :
      Reconciled storeId binding db db'

omit [Jsonb] in
/-- An update that writes nothing leaves the table as it is. -/
theorem ensures_update_id {κ ρ ε : Type} [DecidableEq κ] {schema : Schema κ ρ}
    {t : Table schema} {violation : ε} {k : κ} {guard : ρ → Bool} {failure : ε → Prop}
    {post : Option ρ → Table schema → Prop} (h : post ((t.lookup k).filter guard) t) :
    Ensures (Table.update violation k guard id) failure t post := by
  have hrows : t.replaced k guard id = t.rows := by
    refine (List.map_congr_left fun row _ => ?_).trans (List.map_id' _)
    split <;> rfl
  simpa [Ensures, Table.update, StateT.run, hrows, t.valid] using h

theorem ensures_reconcile (h : Scoped db) {binding : Binding} {failure : PlatformError → Prop}
    (hfailure : binding.status = .active → ∀ error, failure error) :
    Ensures (reconcileStoreFederationBinding storeId binding) failure db fun _ db' =>
      Reconciled storeId binding db db' := by
  unfold reconcileStoreFederationBinding
  rw [ensures_ite]
  refine ⟨fun hstatus => ?_, fun hstatus => ?_⟩
  · exact ensures_suspendStores h fun stores' hrows => .suspended stores' hstatus hrows
  · rw [not_not] at hstatus
    cases hid : binding.registrationId with
    | none => exact .kept hstatus
    | some registrationId =>
        dsimp only
        rw [ensures_bind]
        unfold updateRegistration
        rw [ensures_bind, ensures_get]
        cases hmatch : (db.registrations.lookup registrationId).filter fun row =>
            row.federationBindingId = some binding.id ∧ row.state = .active with
        | none => exact .kept hstatus
        | some registration =>
            obtain ⟨hlookup, hguard⟩ := Option.filter_eq_some_iff.mp hmatch
            rw [decide_eq_true_eq] at hguard
            dsimp only
            rw [ensures_bind, ensures_on]
            refine ensures_update_id ?_
            rw [ensures_bind]
            refine (ensures_projectStoreRegistration h fun _ => hfailure hstatus).mono
              (fun _ h => h) fun _ db' hreprojected => ?_
            have hkey : registration.id = registrationId := Table.key_of_lookup hlookup
            cases hreprojected with
            | kept hstate _ => exact absurd hguard.2 hstate
            | suspended _ _ hstate => exact absurd hguard.2 hstate
            | projected _ hstate hprojected =>
                exact .projected registration db' hstatus (by rw [hid, hkey])
                  (by rw [hkey, hlookup]) hguard.1 hstate hprojected

theorem Consistent.of_reconciled {binding : Binding} {db' : PlatformDatabase}
    (hscoped : Scoped db)
    (hkinds : ∀ store ∈ db.stores.rows, store.integrationKind = .external →
      store.federationBindingId.isSome)
    (hremote : ∀ row ∈ db.registrations.rows,
      (row.sourceKind = .remote ↔ row.federationBindingId.isSome))
    (hlive : ∀ store ∈ db.stores.rows, store.status = .active →
      (binding.status ≠ .active → store.federationBindingId ≠ some binding.id) → store.Live db)
    (h : Reconciled storeId binding db db') : Consistent db' := by
  have hconsistent (hstatus : binding.status = .active) : Consistent db :=
    ⟨hscoped, fun store hstore hactive =>
      hlive store hstore hactive fun hne => absurd hstatus hne, hkinds, hremote⟩
  cases h with
  | suspended stores' hstatus hrows =>
      refine Consistent.of_suspended hscoped hkinds hremote hrows
        fun store hstore hactive hselects => ?_
      exact hlive store hstore hactive fun _ => by simpa using hselects
  | kept hstatus => exact hconsistent hstatus
  | projected registration _ hstatus _ hregistration _ _ hprojected =>
      exact (hconsistent hstatus).projected (Table.mem_of_lookup hregistration) hprojected

theorem ensures_insertBinding (h : Consistent db) {row : Binding}
    {post : PUnit → PlatformDatabase → Prop} (hstatus : row.status = .pending)
    (hpost : ∀ bindings' stores', bindings'.rows = db.bindings.rows ++ [row] →
      stores'.rows = db.stores.rows.map
        (suspended fun store => store.federationBindingId = some row.id) →
      Consistent { db with bindings := bindings', stores := stores' } →
      post ⟨⟩ { db with bindings := bindings', stores := stores' }) :
    Ensures (insertBinding storeId row) whatever db post := by
  unfold insertBinding
  rw [ensures_bind, ensures_on]
  refine Table.ensures_insert trivial fun bindings' hrows => ?_
  have hscoped := h.toScoped.insertBinding hrows
  refine (ensures_reconcile hscoped fun _ _ => trivial).mono (fun _ h => h)
    fun _ db' hreconciled => ?_
  have hconsistent : Consistent db' := by
    refine Consistent.of_reconciled hscoped h.kinds h.remote
      (fun store hstore hactive _ => ?_) hreconciled
    have hlive := h.live store hstore hactive
    refine ⟨hlive.registration, fun id hid => ?_⟩
    obtain ⟨other, hother, hother'⟩ := hlive.binding id hid
    exact ⟨other, Table.lookup_inserted_of_some hrows hother, hother'⟩
  cases hreconciled with
  | suspended stores' _ hstores => exact hpost bindings' stores' hrows hstores hconsistent
  | kept hactive =>
      rw [hstatus] at hactive
      cases hactive
  | projected _ _ hactive =>
      rw [hstatus] at hactive
      cases hactive

/-- A write of a binding keeps the columns that its stores refer to, apart from the
organization, which the foreign key protects. -/
structure KeepsBinding (set : Binding → Binding) : Prop where
  id : ∀ row, (set row).id = row.id
  scope : ∀ row, (set row).scope = row.scope

theorem ensures_updateBinding (h : Consistent db) {id : BindingId} {guard : Binding → Bool}
    {set : Binding → Binding} {post : Option Binding → PlatformDatabase → Prop}
    (hset : KeepsBinding set)
    (hmissed : (db.bindings.lookup id).filter guard = none → post none db)
    (hpost : ∀ old bindings' db', db.bindings.lookup id = some old → guard old = true →
      Table.Written db.bindings bindings' old (set old) →
      Reconciled storeId (set old) { db with bindings := bindings' } db' →
      Consistent db' → post (some (set old)) db') :
    Ensures (updateBinding storeId id guard set) whatever db post := by
  unfold updateBinding
  rw [ensures_bind, ensures_get]
  cases hmatch : (db.bindings.lookup id).filter guard with
  | none => exact hmissed hmatch
  | some old =>
      obtain ⟨hlookup, hguard⟩ := Option.filter_eq_some_iff.mp hmatch
      have hkey : old.id = id := Table.key_of_lookup hlookup
      dsimp only
      rw [ensures_bind, ensures_on]
      refine Table.ensures_update_cases hset.id trivial (fun hnone => ?_)
        fun row bindings' hrow _ hwritten => ?_
      · change (db.bindings.lookup id).filter guard = none at hnone
        rw [hmatch] at hnone
        cases hnone
      · cases hlookup.symm.trans hrow
        rw [ensures_ite]
        refine ⟨fun _ => trivial, fun hforeign => ?_⟩
        have hrefers : ∀ store ∈ db.stores.rows, store.federationBindingId = some old.id →
            store.refersTo (set old) = true := by
          intro store hstore hid
          by_contra hne
          refine hforeign (List.any_eq_true.mpr ⟨store, hstore, ?_⟩)
          rw [decide_eq_true_eq]
          exact ⟨by rw [hid, hkey], hne⟩
        have hscoped := h.toScoped.writeBinding hwritten hrefers
        rw [ensures_bind]
        refine (ensures_reconcile hscoped fun _ _ => trivial).mono (fun _ h => h)
          fun _ db' hreconciled =>
            hpost old bindings' db' hlookup hguard hwritten hreconciled ?_
        refine Consistent.of_reconciled hscoped h.kinds h.remote
          (fun store hstore hactive hkept => ?_) hreconciled
        have hlive := h.live store hstore hactive
        refine ⟨hlive.registration, fun other hother => ?_⟩
        obtain ⟨row, hrow, hstatus⟩ := hlive.binding other hother
        by_cases hsame : other = old.id
        · subst hsame
          refine ⟨set old, hwritten.lookup_self, ?_⟩
          by_contra hne
          exact hkept hne (by rw [hother, hset.id])
        · exact ⟨row, (hwritten.lookup_of_ne hsame).trans hrow, hstatus⟩

end Bindings

end MatchPlane.Platform
