import MatchPlane.Platform.Numbered

/-!
# Live stores show live releases

The triggers keep every active store on the one active release of its slug.  A release
that is retired takes only those stores with it that still show it.
-/

namespace MatchPlane.Platform

open MatchPlane.Library

/-- The store shows an active release of its own scope that no active release is newer than. -/
def ShowsLatest (db : PlatformDatabase) (store : Store) : Prop :=
  ∃ registration ∈ db.registrations.rows, store.currentRegistrationId = some registration.id ∧
    registration.tenantId = store.tenantId ∧ registration.domainId = store.domainId ∧
    registration.slug = store.slug ∧ registration.state = .active ∧
    ∀ other ∈ db.registrations.rows, other.scope = registration.scope →
      other.state = .active → other.version ≤ registration.version

/-- The binding of the store is active. -/
def IsBound (db : PlatformDatabase) (store : Store) : Prop :=
  ∃ binding ∈ db.bindings.rows, store.federationBindingId = some binding.id ∧
    binding.status = .active

section Retired

variable [Jsonb]

/-- Every store that does not show one of the releases is left as it is. -/
def Untouched (selects : Registration → Bool) (db db' : PlatformDatabase) : Prop :=
  ∀ store ∈ db.stores.rows,
    (∀ row ∈ db.registrations.rows, selects row = true →
      store.currentRegistrationId ≠ some row.id) →
    store ∈ db'.stores.rows

variable {db : PlatformDatabase} {storeId : StoreId}

omit [Jsonb] in
theorem ensures_suspendStores_kept {selects : Store → Bool} :
    Ensures (suspendStores selects) whatever db fun _ db' =>
      db'.registrations = db.registrations ∧
        ∀ store ∈ db.stores.rows, selects store = false → store ∈ db'.stores.rows := by
  unfold suspendStores
  rw [ensures_bind, ensures_get, ensures_bind]
  have hchecks : Ensures
      (forM (db.stores.rows.filter fun store => selects store ∧ store.status = .active)
        fun store => (liftM (validateStoreProjection db store.suspend) : Tx PUnit))
      whatever db fun _ db' => db' = db := by
    refine Ensures.forM (fun _ db' => db' = db) (fun store rest db' _ hdb' => ?_) rfl
    exact ensures_liftAny fun _ _ => hdb'
  refine hchecks.mono (fun _ h => h) ?_
  rintro _ _ rfl
  rw [ensures_on]
  refine Table.ensures_updateAll_rows trivial fun stores' hrows =>
    ⟨rfl, fun store hstore hselects => ?_⟩
  change store ∈ stores'.rows
  rw [hrows, List.mem_map]
  exact ⟨store, hstore, by simp [hselects]⟩

/-- The trigger of a retired registration leaves the stores of other registrations alone. -/
theorem ensures_projectStoreRegistration_retired {old new : Registration}
    (hnew : new.state ≠ .active) :
    Ensures (projectStoreRegistration storeId (some old) new) whatever db fun _ db' =>
      db'.registrations = db.registrations ∧
        ∀ store ∈ db.stores.rows, store.currentRegistrationId ≠ some old.id →
          store ∈ db'.stores.rows := by
  unfold projectStoreRegistration
  rw [ensures_bind, ensures_get, ensures_ite]
  refine ⟨fun _ => ?_, fun hactive => absurd hnew hactive⟩
  dsimp only
  rw [ensures_ite]
  refine ⟨fun _ => ?_, fun _ => ⟨rfl, fun store hstore _ => hstore⟩⟩
  refine ensures_suspendStores_kept.mono (fun _ h => h) ?_
  rintro _ db' ⟨hregistrations, hkept⟩
  exact ⟨hregistrations, fun store hstore hother => hkept store hstore (by simpa using hother)⟩

theorem ensures_disableRegistrations_untouched {selects : Registration → Bool} :
    Ensures (disableRegistrations storeId selects) whatever db fun _ db' =>
      Untouched selects db db' := by
  unfold disableRegistrations
  rw [ensures_bind, ensures_get, ensures_bind, ensures_on]
  refine Table.ensures_updateAll_rows trivial fun registrations' _ => ?_
  refine Ensures.forM (fun _ db' => Untouched selects db db')
    (fun row rest db' hsuffix huntouched => ?_) fun store hstore _ => hstore
  have hrow := List.mem_filter.mp (hsuffix.subset List.mem_cons_self)
  have hretired : row.disable.state ≠ .active := fun hstate => nomatch hstate
  refine (ensures_projectStoreRegistration_retired hretired).mono (fun _ h => h) ?_
  rintro _ db'' ⟨_, hkept⟩ store hstore hother
  exact hkept store (huntouched store hstore hother) (hother row hrow.1 hrow.2)

theorem ensures_updateRegistration_untouched {id : RegistrationId} {guard : Registration → Bool} :
    Ensures (updateRegistration storeId id guard Registration.revoke) whatever db fun _ db' =>
      Untouched (fun row => row.id = id) db db' := by
  unfold updateRegistration
  rw [ensures_bind, ensures_get]
  cases hfound : (db.registrations.lookup id).filter guard with
  | none => exact fun store hstore _ => hstore
  | some old =>
      dsimp only
      obtain ⟨hlookup, _⟩ := Option.filter_eq_some_iff.mp hfound
      rw [ensures_bind, ensures_on]
      refine Table.ensures_update trivial fun registrations' _ => ?_
      rw [ensures_bind]
      have hretired : old.revoke.state ≠ .active := fun hstate => nomatch hstate
      refine (ensures_projectStoreRegistration_retired hretired).mono (fun _ h => h) ?_
      rintro _ db'' ⟨_, hkept⟩ store hstore hother
      refine hkept store hstore (hother old (Table.mem_of_lookup hlookup) ?_)
      rw [decide_eq_true_eq]
      exact Table.key_of_lookup hlookup

end Retired

section Latest

variable {db : PlatformDatabase} {store : Store}

theorem Numbered.showsLatest (h : Numbered db) (hconsistent : Consistent db)
    (hstore : store ∈ db.stores.rows) (hactive : store.status = .active)
    (hkind : store.integrationKind ≠ .hosted) : ShowsLatest db store := by
  have hscoped := hconsistent.pointed store hstore
  cases hid : store.currentRegistrationId with
  | none => exact absurd ((hscoped.unregistered hid).2 hactive) hkind
  | some id =>
      obtain ⟨registration, hlookup, hscope, _⟩ := hscoped.registered id hid
      obtain ⟨other, hother, hstate⟩ := (hconsistent.live store hstore hactive).registration id hid
      cases hlookup.symm.trans hother
      have hmem := Table.mem_of_lookup hlookup
      have hkey : registration.id = id := Table.key_of_lookup hlookup
      obtain ⟨htenant, hdomain, hslug⟩ :
          registration.tenantId = store.tenantId ∧ registration.domainId = store.domainId ∧
            registration.slug = store.slug := by
        simpa [Registration.scope, Store.scope] using hscope
      refine ⟨registration, hmem, by rw [hid, hkey], htenant, hdomain, hslug, hstate,
        fun other hother hsame hotherstate => ?_⟩
      rw [h.single other hother registration hmem (line_of_scope hsame) hotherstate hstate]

theorem Consistent.isBound (h : Consistent db) (hstore : store ∈ db.stores.rows)
    (hactive : store.status = .active) (hkind : store.integrationKind = .external) :
    IsBound db store := by
  obtain ⟨id, hid⟩ := Option.isSome_iff_exists.mp (h.kinds store hstore hkind)
  obtain ⟨binding, hlookup, hstatus⟩ := (h.live store hstore hactive).binding id hid
  have hkey : binding.id = id := Table.key_of_lookup hlookup
  exact ⟨binding, Table.mem_of_lookup hlookup, by rw [hid, hkey], hstatus⟩

end Latest

variable [Jsonb]

/-- In every committed state live stores show the latest release; and within any state a
release is retired without a change to the stores that show another one. -/
theorem live_stores_show_live_releases :
    (∀ db : PlatformDatabase, db.Reachable →
      (∀ store ∈ db.stores.rows, store.status = .active → store.integrationKind ≠ .hosted →
        ShowsLatest db store) ∧
      (∀ store ∈ db.stores.rows, store.status = .active → store.integrationKind = .external →
        IsBound db store) ∧
      (∀ first ∈ db.registrations.rows, ∀ second ∈ db.registrations.rows,
        first.tenantId = second.tenantId → first.slug = second.slug →
          first.state = .active → second.state = .active → first = second)) ∧
    (∀ (db : PlatformDatabase) (storeId : StoreId) (selects : Registration → Bool),
      Ensures (disableRegistrations storeId selects) whatever db fun _ db' =>
        Untouched selects db db') ∧
    ∀ (db : PlatformDatabase) (storeId : StoreId) (id : RegistrationId)
      (guard : Registration → Bool),
      Ensures (updateRegistration storeId id guard Registration.revoke) whatever db fun _ db' =>
        Untouched (fun row => row.id = id) db db' := by
  refine ⟨fun db h => ⟨?_, ?_, ?_⟩, fun _ _ _ => ensures_disableRegistrations_untouched,
    fun _ _ _ _ => ensures_updateRegistration_untouched⟩
  · exact fun store hstore hactive hkind =>
      h.numbered.showsLatest h.consistent hstore hactive hkind
  · exact fun store hstore hactive hkind => h.consistent.isBound hstore hactive hkind
  · intro first hfirst second hsecond htenant hslug hfirstactive hsecondactive
    refine h.numbered.single first hfirst second hsecond ?_ hfirstactive hsecondactive
    simp [Registration.line, htenant, hslug]

/-! ## A market with one shop -/

def marketOrganization : Organization :=
  ⟨⟨1⟩, "Market", "market", some ⟨1⟩, some ⟨1⟩, none, true⟩

def shopOrganization : Organization := ⟨⟨2⟩, "Shop", "shop", none, none, none, false⟩

/-- Only the organizations of the market and of the shop are there. -/
def shopMarket : PlatformDatabase where
  organizations := ⟨[marketOrganization, shopOrganization], by decide +kernel⟩
  domains := [(⟨1⟩, ⟨1⟩)]
  invites := .empty
  bindings := .empty
  registrations := .empty
  stores := .empty
  aliases := .empty
  offers := .empty
  jobs := .empty

omit [Jsonb] in
theorem shopMarket_initial : shopMarket.Initial := ⟨rfl, rfl, rfl, rfl, rfl⟩

def shopDigest : String := String.ofList (List.replicate 64 'a')

def shopManifest : Json := .object [("id", .string "shop-package"), ("slug", .string "shop")]

/-- The package of the shop, from the source with a digest. -/
def shopRequest (id : RegistrationId) (sourceDigest : String) : RegistrationRequest where
  registrationId := id
  tenantId := ⟨1⟩
  domainId := ⟨1⟩
  packageId := "shop-package"
  slug := "shop"
  sourceKind := .git
  sourceLocator := "https://example.com/shop.git"
  pinnedRevision := "main"
  sourceDigest := sourceDigest
  manifest := shopManifest
  manifestDigest := shopDigest
  membershipPolicy := .everyone
  organizationId := ⟨2⟩
  parentOrganizationId := ⟨1⟩
  registeredBy := "operator"
  now := 1

def shopFresh : FreshJobs := ⟨fun _ => ⟨1⟩, fun _ => 1, 1⟩

/-- A release of the shop is registered and built. -/
def buildShop (id : RegistrationId) (sourceDigest : String) : List PlatformAction := [
  .register ⟨1⟩ (shopRequest id sourceDigest),
  .claimBuild ⟨1⟩ ⟨60, 2, ⟨id.uuid⟩, fun _ => false⟩,
  .completeBuild ⟨1⟩ ⟨id, ⟨id.uuid⟩, shopDigest, none, none, none, none⟩]

/-- A release of the shop that has been built is activated. -/
def activateShop (id : RegistrationId) (sourceDigest : String) (version : Nat) :
    PlatformAction :=
  .activate ⟨1⟩ shopFresh ⟨id, shopDigest⟩
    { (shopRequest id sourceDigest).row version with
      state := .ready
      buildDigest := some shopDigest }

/-- The store of the shop once it has been opened. -/
def shopStore : Store where
  id := ⟨1⟩
  tenantId := ⟨1⟩
  organizationId := ⟨2⟩
  domainId := ⟨1⟩
  slug := "shop"
  displayName := "Shop"
  description := ""
  status := .active
  visibility := .listed
  integrationKind := .package
  currentRegistrationId := some ⟨1⟩
  federationBindingId := none
  version := 1
  createdBy := "operator"

/-- The first release of the shop opens its store. -/
def openShop : List PlatformAction := buildShop ⟨1⟩ "a" ++ [activateShop ⟨1⟩ "a" 1]

omit [Jsonb] in
theorem shop_shows_latest : shopStore ∈
      (@PlatformDatabase.run plainJsonb shopMarket (@openShop plainJsonb)).stores.rows ∧
    ShowsLatest (@PlatformDatabase.run plainJsonb shopMarket (@openShop plainJsonb))
      shopStore := by
  have hstore : shopStore ∈
      (@PlatformDatabase.run plainJsonb shopMarket (@openShop plainJsonb)).stores.rows := by
    decide +kernel
  have hreachable : @PlatformDatabase.Reachable plainJsonb
      (@PlatformDatabase.run plainJsonb shopMarket (@openShop plainJsonb)) :=
    ⟨shopMarket, _, shopMarket_initial, rfl⟩
  refine ⟨hstore, ((@live_stores_show_live_releases plainJsonb).1 _ hreachable).1 shopStore
    hstore rfl ?_⟩
  exact fun hkind => nomatch hkind

end MatchPlane.Platform
