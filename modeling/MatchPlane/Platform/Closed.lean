import MatchPlane.Platform.Fenced

/-!
# Closed stores

Nothing but a reopening should open a store that its owner has closed.  The triggers do
not look at the status that they overwrite: whatever projects a registration into the
store opens it.
-/

namespace MatchPlane.Platform

open MatchPlane.Library

/-! ## Organizations of bindings -/

/-- A binding that has a registration has an organization. -/
def Linked (db : PlatformDatabase) : Prop :=
  ∀ binding ∈ db.bindings.rows, binding.organizationId = none → binding.registrationId = none

section Linked

variable {db db' : PlatformDatabase} {action : PlatformAction}

theorem Linked.write (h : Linked db) {old new : Binding} {bindings' : Table bindings}
    (hwritten : Table.Written db.bindings bindings' old new)
    (hnew : new.organizationId = none →
      old.organizationId = none ∧ new.registrationId = old.registrationId) :
    ∀ binding ∈ bindings'.rows, binding.organizationId = none →
      binding.registrationId = none := by
  intro binding hbinding hnone
  rcases hwritten.mem_cases hbinding with rfl | ⟨hbinding, _⟩
  · obtain ⟨hold, hsame⟩ := hnew hnone
    exact hsame.trans (h old (Table.mem_of_lookup hwritten.stored) hold)
  · exact h binding hbinding hnone

theorem Linked.move [Jsonb] (h : Linked db) (hmove : PlatformMove db action db') :
    Linked db' := by
  unfold Linked
  cases hmove with
  | aside _ _ _ _ hbindings => rwa [hbindings]
  | enrolled _ bindingId _ enrollment _ invite _ _ _ _ _ hrows =>
      intro binding hbinding hnone
      change binding ∈ _ at hbinding
      rw [hrows, List.mem_append, List.mem_singleton] at hbinding
      rcases hbinding with hbinding | rfl
      · exact h binding hbinding hnone
      · rfl
  | linked _ _ _ _ _ _ hwritten hreconciled =>
      rw [hreconciled.records.2]
      exact h.write hwritten fun hnone => nomatch hnone
  | probed _ _ _ _ _ _ hwritten hreconciled =>
      rw [hreconciled.records.2]
      exact h.write hwritten fun hnone => ⟨hnone, rfl⟩
  | promoted _ _ _ _ _ _ _ _ _ _ hwritten hreconciled =>
      rw [hreconciled.records.2]
      exact h.write hwritten fun hnone => nomatch hnone
  | federated _ _ _ _ _ _ _ _ _ _ _ hreprojected hwritten hreconciled =>
      rw [hreprojected.records.2] at hwritten
      rw [hreconciled.records.2]
      exact h.write hwritten fun hnone => nomatch hnone
  | revoked _ _ _ _ _ _ hwritten hreconciled =>
      rw [hreconciled.records.2]
      exact h.write hwritten fun hnone => ⟨hnone, rfl⟩
  | disabled _ _ _ _ _ _ _ _ _ _ hwritten hreconciled _ hreprojected =>
      rw [hreprojected.records.2]
      rw [hreconciled.records.2]
      exact h.write hwritten fun hnone => ⟨hnone, rfl⟩
  | activated _ _ _ _ _ _ _ _ _ _ _ _ _ _ _ hreprojected =>
      rwa [hreprojected.records.2]
  | registered => exact h
  | claimed => exact h
  | built => exact h
  | failed => exact h
  | renewed => exact h
  | changed => exact h
  | profiled => exact h
  | opened => exact h

theorem PlatformDatabase.Reachable.linked [Jsonb] (h : db.Reachable) : Linked db :=
  h.of_moves Linked (fun _ hstart => by simp [Linked, hstart.bindings])
    fun _ _ _ _ hmove hlinked => hlinked.move hmove

end Linked

/-! ## Projections into a store -/

/-- The trigger of the registration writes the store. -/
def Projects (db : PlatformDatabase) (registration : Registration) (store : Store) : Prop :=
  ∃ child, db.storeOrganization registration = some child ∧ child.id = store.organizationId ∧
    db.outruns store registration = false

/-- A request that puts a release in charge of a store, whatever the owner has decided. -/
def Disturbs [Jsonb] (db : PlatformDatabase) (store : Store) : PlatformAction → Prop
  | .activate _ _ request _ => ∃ target,
      db.registrations.lookup request.registrationId = some target ∧
        request.accepts target.version target = true ∧ Projects db target store
  | .recordHealth _ bindingId _ probe => probe.ok = true ∧ ∃ binding registration,
      db.bindings.lookup bindingId = some binding ∧
        binding.organizationId = some store.organizationId ∧
        binding.registrationId = some registration.id ∧
        db.registrations.lookup registration.id = some registration ∧
        registration.state = .active ∧ Projects db registration store
  | .activateBinding _ activation => activation.organizationId = store.organizationId ∧
      ∃ binding, db.bindings.lookup activation.bindingId = some binding ∧
        Projects db ((db.remoteRelease binding).getD (activation.row binding)) store
  | _ => False

/-- The store is closed. -/
def IsClosed (db : PlatformDatabase) (id : StoreId) : Prop :=
  ∃ store, db.stores.lookup id = some store ∧ store.status = .closed

section Stores

variable {db db' : PlatformDatabase} {store : Store} {storeId : StoreId}

theorem IsClosed.of_suspended {selects : Store → Bool} {stores' : Table stores}
    (hrows : stores'.rows = db.stores.rows.map (suspended selects))
    (hstore : db.stores.lookup store.id = some store) (hclosed : store.status = .closed) :
    stores'.lookup store.id = some store := by
  have hkept : suspended selects store = store :=
    suspended_of_not_active (by simp [hclosed])
  exact (Table.lookup_updatedAll hrows (fun _ => suspended_id) store.id).trans
    ((congrArg (Option.map _) hstore).trans (congrArg some hkept))

/-- A projection writes the store of its organization only. -/
theorem Projected.store_cases {registration : Registration} [Jsonb]
    (h : Projected storeId registration db db')
    (hstore : db.stores.lookup store.id = some store) :
    db'.stores.lookup store.id = some store ∨
      (Projects db registration store ∧ ∀ id, registration.federationBindingId = some id →
        ∃ binding, db.bindings.lookup id = some binding ∧
          binding.organizationId = some store.organizationId ∧
          binding.registrationId = some registration.id) := by
  cases h with
  | kept => exact .inl hstore
  | updated child other _ _ _ hchild hvouched hother hnewer _ hwritten _ =>
      by_cases hid : store.id = other.id
      · rw [hid] at hstore
        cases hwritten.stored.symm.trans hstore
        have horganization := (mem_of_storeOf hother).2
        refine .inr ⟨⟨child, hchild, horganization.symm, hnewer⟩, fun id hbound => ?_⟩
        rw [hbound, Option.all_some] at hvouched
        unfold PlatformDatabase.vouches at hvouched
        cases hbinding : db.bindings.lookup id with
        | none => simp [hbinding] at hvouched
        | some binding =>
            simp only [hbinding, Option.any_some, decide_eq_true_eq] at hvouched
            exact ⟨binding, rfl, hvouched.2.1.trans (by rw [horganization]), hvouched.2.2.1⟩
      · exact .inl ((hwritten.lookup_of_ne hid).trans hstore)
  | inserted _ _ _ _ _ _ _ hrows => exact .inl (Table.lookup_inserted_of_some hrows hstore)

theorem outruns_congr {db' : PlatformDatabase} {first second : Registration}
    (hid : first.id = second.id) (hversion : first.version = second.version)
    (hlookup : ∀ id, store.currentRegistrationId = some id → id ≠ second.id →
      (db'.registrations.lookup id).map (·.version) =
        (db.registrations.lookup id).map (·.version)) :
    db'.outruns store first = db.outruns store second := by
  unfold PlatformDatabase.outruns
  rw [hid, hversion]
  by_cases hcurrent : store.currentRegistrationId = some second.id
  · simp [hcurrent]
  · cases hnone : store.currentRegistrationId with
    | none => rfl
    | some id =>
        have hne : id ≠ second.id := by
          rintro rfl
          exact hcurrent hnone
        simp only [Option.bind_some, hlookup id hnone hne]

section Moves

variable [Jsonb] {action : PlatformAction}

theorem Reprojected.store_cases {old : Option Registration} {new : Registration}
    (h : Reprojected storeId old new db db') (hstore : db.stores.lookup store.id = some store)
    (hclosed : store.status = .closed) :
    db'.stores.lookup store.id = some store ∨
      (Projects db new store ∧ ∀ id, new.federationBindingId = some id →
        ∃ binding, db.bindings.lookup id = some binding ∧
          binding.organizationId = some store.organizationId ∧
          binding.registrationId = some new.id) := by
  cases h with
  | kept => exact .inl hstore
  | suspended _ _ _ _ _ hrows => exact .inl (IsClosed.of_suspended hrows hstore hclosed)
  | projected _ _ hprojected => exact hprojected.store_cases hstore

theorem Reconciled.store_cases {binding : Binding} (h : Reconciled storeId binding db db')
    (hbinding : db.bindings.lookup binding.id = some binding)
    (hstore : db.stores.lookup store.id = some store) (hclosed : store.status = .closed) :
    db'.stores.lookup store.id = some store ∨ ∃ registration, binding.status = .active ∧
      binding.organizationId = some store.organizationId ∧
      binding.registrationId = some registration.id ∧
      db.registrations.lookup registration.id = some registration ∧
      registration.state = .active ∧ Projects db registration store := by
  cases h with
  | suspended _ _ hrows => exact .inl (IsClosed.of_suspended hrows hstore hclosed)
  | kept => exact .inl hstore
  | projected registration _ hstatus hid hregistration hbound hstate hprojected =>
      rcases hprojected.store_cases hstore with hkept | ⟨hprojects, hvouched⟩
      · exact .inl hkept
      · obtain ⟨other, hother, horganization, _⟩ := hvouched binding.id hbound
        cases hbinding.symm.trans hother
        exact .inr ⟨registration, hstatus, horganization, hid, hregistration, hstate, hprojects⟩

theorem Reprojected.organizations {old : Option Registration} {new : Registration}
    (h : Reprojected storeId old new db db') : db'.organizations = db.organizations := by
  cases h with
  | kept => rfl
  | suspended => rfl
  | projected _ _ hprojected => cases hprojected <;> rfl

/-- A closed store is only written by its owner and by a request that disturbs it. -/
theorem PlatformMove.closed (hmove : PlatformMove db action db') (hscoped : Scoped db)
    (hnumbered : Numbered db) (hlinked : Linked db)
    (hstore : db.stores.lookup store.id = some store) (hclosed : store.status = .closed)
    (hdisturbs : ¬Disturbs db store action)
    (hreopen : ∀ request read, action = .lifecycle request read → request.action = .reopen →
      request.storeId ≠ store.id) :
    IsClosed db' store.id := by
  cases hmove with
  | aside _ _ _ _ _ hstores => exact ⟨store, hstores ▸ hstore, hclosed⟩
  | enrolled _ _ _ _ _ _ _ _ _ _ _ _ hrows =>
      exact ⟨store, IsClosed.of_suspended hrows hstore hclosed, hclosed⟩
  | linked _ organizationId old _ _ hunlinked hwritten hreconciled =>
      rcases hreconciled.store_cases hwritten.lookup_self hstore hclosed with
        hkept | ⟨registration, _, _, hid, _⟩
      · exact ⟨store, hkept, hclosed⟩
      · have hnone := hlinked old (Table.mem_of_lookup hwritten.stored) hunlinked
        exact absurd (hid.symm.trans hnone) (fun h => nomatch h)
  | probed _ probe old _ _ _ hwritten hreconciled =>
      rcases hreconciled.store_cases hwritten.lookup_self hstore hclosed with
        hkept | ⟨registration, hactive, horganization, hid, hregistration, hstate, hprojects⟩
      · exact ⟨store, hkept, hclosed⟩
      · refine absurd ⟨?_, old, registration, hwritten.stored, horganization, hid, hregistration,
          hstate, hprojects⟩ hdisturbs
        unfold Probe.record at hactive
        dsimp only at hactive
        split at hactive
        · assumption
        · cases hactive
  | promoted _ activation old existing _ _ hid _ hexisting _ hwritten hreconciled =>
      rcases hreconciled.store_cases hwritten.lookup_self hstore hclosed with
        hkept | ⟨registration, _, horganization, hown, hregistration, _, hprojects⟩
      · exact ⟨store, hkept, hclosed⟩
      · refine absurd ⟨Option.some.inj horganization, old, hid ▸ hwritten.stored, ?_⟩ hdisturbs
        have hmem := (List.mem_filter.mp (mem_of_firstBy hexisting)).1
        have hfound := Table.lookup_of_mem hmem
        change db.registrations.lookup existing.id = some existing at hfound
        rw [Option.some.inj hown] at hfound
        cases hregistration.symm.trans hfound
        rw [hexisting]
        exact hprojects
  | federated _ activation old registrations' _ db' _ hid _ hnew hrows hreprojected hwritten
      hreconciled =>
      have hold : db.bindings.lookup old.id = some old := by
        rw [← hreprojected.records.2]
        exact hwritten.stored
      have hfresh : db.registrations.lookup (activation.row old).id = none :=
        Table.lookup_inserted_none hrows
      -- The binding does not vouch for its registration before it is promoted.
      have hfirst : db'.stores.lookup store.id = some store := by
        rcases hreprojected.store_cases hstore hclosed with hkept | ⟨_, hvouched⟩
        · exact hkept
        · obtain ⟨binding, hbinding, _, hback⟩ := hvouched old.id rfl
          cases hold.symm.trans hbinding
          obtain ⟨row, hrow, _⟩ := hnumbered.registered old (Table.mem_of_lookup hold) _ hback
          exact absurd (hfresh.symm.trans hrow) (fun h => nomatch h)
      rcases hreconciled.store_cases hwritten.lookup_self hfirst hclosed with
        hkept | ⟨registration, _, horganization, hown, hregistration, _, child, hchild, hplace,
          hnewer⟩
      · exact ⟨store, hkept, hclosed⟩
      · refine absurd ⟨Option.some.inj horganization, old, by rw [hid]; exact hold, ?_⟩ hdisturbs
        have hself : registration = activation.row old := by
          have hmem : activation.row old ∈ registrations'.rows := by simp [hrows]
          have hinserted := Table.lookup_of_mem hmem
          change db'.registrations.lookup registration.id = some registration at hregistration
          rw [hreprojected.records.1, ← Option.some.inj hown] at hregistration
          exact Option.some.inj (hregistration.symm.trans hinserted)
        subst hself
        rw [hnew]
        refine ⟨child, ?_, hplace, ?_⟩
        · unfold PlatformDatabase.storeOrganization at hchild ⊢
          dsimp only at hchild
          rwa [hreprojected.organizations] at hchild
        · rw [← hnewer]
          refine (outruns_congr rfl rfl fun id hcurrent _ => ?_).symm
          obtain ⟨row, hrow, _⟩ :=
            (hscoped.pointed store (Table.mem_of_lookup hstore)).registered id hcurrent
          change (db'.registrations.lookup id).map _ = _
          rw [hreprojected.records.1]
          exact congrArg _ ((Table.lookup_inserted_of_some hrows hrow).trans hrow.symm)
  | revoked _ _ _ _ _ _ hwritten hreconciled =>
      rcases hreconciled.store_cases hwritten.lookup_self hstore hclosed with
        hkept | ⟨_, hactive, _⟩
      · exact ⟨store, hkept, hclosed⟩
      · cases hactive
  | disabled _ _ _ _ _ _ _ _ _ _ hwritten hreconciled _ hreprojected =>
      rcases hreconciled.store_cases hwritten.lookup_self hstore hclosed with
        hkept | ⟨_, hactive, _⟩
      · cases hreprojected with
        | kept => exact ⟨store, hkept, hclosed⟩
        | suspended _ _ _ _ _ hrows =>
            exact ⟨store, IsClosed.of_suspended hrows hkept hclosed, hclosed⟩
        | projected _ hstate => cases hstate
      · cases hactive
  | registered => exact ⟨store, hstore, hclosed⟩
  | claimed => exact ⟨store, hstore, hclosed⟩
  | built => exact ⟨store, hstore, hclosed⟩
  | failed => exact ⟨store, hstore, hclosed⟩
  | renewed => exact ⟨store, hstore, hclosed⟩
  | activated _ _ request _ target registrations' db' _ _ shows _ hid haccepts _ hwritten
      hreprojected _ hstores =>
      rcases hreprojected.store_cases hstore hclosed with hkept | ⟨hprojects, _⟩
      · exact ⟨store, IsClosed.of_suspended hstores hkept hclosed, hclosed⟩
      · refine absurd ⟨target, by rw [hid]; exact hwritten.stored, haccepts, ?_⟩ hdisturbs
        obtain ⟨child, hchild, hplace, hnewer⟩ := hprojects
        refine ⟨child, hchild, hplace, ?_⟩
        rw [← hnewer]
        refine (outruns_congr rfl rfl fun id _ hne => ?_).symm
        exact congrArg _ (hwritten.lookup_of_ne hne)
  | changed request read old _ haccepts hid _ hwritten =>
      by_cases hsame : store.id = old.id
      · rw [hsame] at hstore
        cases hwritten.stored.symm.trans hstore
        have hreopening : request.action = .reopen := by
          simp only [LifecycleRequest.accepts, decide_eq_true_eq, hclosed] at haccepts
          cases haction : request.action with
          | reopen => rfl
          | close => simp [haction, LifecycleAction.sourceStatus] at haccepts
        exact absurd (hid.trans hsame.symm) (hreopen request read rfl hreopening)
      · exact ⟨store, (hwritten.lookup_of_ne hsame).trans hstore, hclosed⟩
  | profiled request old new _ hnew hwritten =>
      by_cases hsame : store.id = old.id
      · rw [hsame] at hstore ⊢
        cases hwritten.stored.symm.trans hstore
        exact ⟨new, hwritten.lookup_self, hnew ▸ hclosed⟩
      · exact ⟨store, (hwritten.lookup_of_ne hsame).trans hstore, hclosed⟩
  | opened _ _ _ _ hrows =>
      exact ⟨store, Table.lookup_inserted_of_some hrows hstore, hclosed⟩

end Moves

end Stores

/-! ## Runs -/

section Runs

variable [Jsonb]

/-- A reopening of the store has been granted along the run. -/
def Reopened (db : PlatformDatabase) (id : StoreId) (actions : List PlatformAction) : Prop :=
  ∃ earlier request read later, actions = earlier ++ .lifecycle request read :: later ∧
    request.action = .reopen ∧ request.storeId = id ∧
    (db.run earlier).accepts (.lifecycle request read) = true

/-- No step of the run puts a release in charge of the store. -/
def Undisturbed (db : PlatformDatabase) (id : StoreId) (actions : List PlatformAction) : Prop :=
  ∀ earlier action later, actions = earlier ++ action :: later → ∀ current,
    (db.run earlier).stores.lookup id = some current →
      ¬Disturbs (db.run earlier) current action

/-- A store that its owner has closed is not active until it is reopened. -/
def ClosedStaysClosed : Prop :=
  ∀ db : PlatformDatabase, db.Reachable → ∀ store ∈ db.stores.rows, store.status = .closed →
    ∀ actions, ¬Reopened db store.id actions → ∀ current,
      (db.run actions).stores.lookup store.id = some current → current.status ≠ .active

/-- A step that neither disturbs a closed store nor reopens it leaves it closed. -/
theorem PlatformDatabase.Reachable.closed {db : PlatformDatabase} (h : db.Reachable)
    {store : Store} (hstore : db.stores.lookup store.id = some store)
    (hclosed : store.status = .closed) {action : PlatformAction}
    (hdisturbs : ¬Disturbs db store action)
    (hreopen : ∀ request read, action = .lifecycle request read → request.action = .reopen →
      request.storeId = store.id → db.accepts action = false) :
    IsClosed (db.step action) store.id := by
  rcases db.step_cases h.consistent action with ⟨_, hsame⟩ | ⟨haccepted, hmoved⟩
  · rw [hsame]
    exact ⟨store, hstore, hclosed⟩
  · refine hmoved.2.closed h.consistent.toScoped h.numbered h.linked hstore hclosed hdisturbs
      fun request read haction hreopening hid => ?_
    rw [hreopen request read haction hreopening hid] at haccepted
    cases haccepted

/-- In a run that does not disturb it, a closed store stays closed until it is reopened. -/
theorem closed_stores_stay_closed (db : PlatformDatabase) (h : db.Reachable) (store : Store)
    (hstore : store ∈ db.stores.rows) (hclosed : store.status = .closed)
    (actions : List PlatformAction) (hundisturbed : Undisturbed db store.id actions)
    (hreopened : ¬Reopened db store.id actions) : IsClosed (db.run actions) store.id := by
  induction actions generalizing db store with
  | nil => exact ⟨store, Table.lookup_of_mem hstore, hclosed⟩
  | cons action actions ih =>
      have hlookup := Table.lookup_of_mem hstore
      have hstep : IsClosed (db.step action) store.id := by
        refine h.closed hlookup hclosed (hundisturbed [] action actions rfl store hlookup) ?_
        intro request read haction hreopening hid
        by_contra haccepted
        rw [Bool.not_eq_false, haction] at haccepted
        exact hreopened ⟨[], request, read, actions, by rw [haction]; rfl, hreopening, hid, haccepted⟩
      obtain ⟨current, hcurrent, hstillclosed⟩ := hstep
      have hid : current.id = store.id := Table.key_of_lookup hcurrent
      rw [← hid]
      refine ih (db.step action) (h.step action) current (Table.mem_of_lookup hcurrent)
        hstillclosed ?_ ?_
      · rw [hid]
        intro earlier next later hsplit
        exact hundisturbed (action :: earlier) next later (by rw [hsplit]; rfl)
      · rintro ⟨earlier, request, read, later, hsplit, hreopening, hplace, haccepted⟩
        exact hreopened ⟨action :: earlier, request, read, later, by rw [hsplit]; rfl, hreopening,
          hplace.trans hid, haccepted⟩

end Runs

/-! ## A shop on a node of its own -/

def shopInvite : Invite := ⟨⟨1⟩, ⟨1⟩, ⟨1⟩, ⟨1⟩, List.replicate 32 0, 100, false⟩

def shopEnrollment : Enrollment :=
  ⟨⟨7⟩, "shop", "Shop", "https://shop.example.com/mcp", "shop-node", shopManifest, shopDigest⟩

def shopActivation : BindingActivation := ⟨⟨1⟩, ⟨1⟩, ⟨2⟩, none, .everyone, ⟨1⟩, "operator", 2⟩

/-- The node of the shop is enrolled and activated, which opens the store. -/
def enrollShop : List PlatformAction := [
  .invite shopInvite,
  .enroll ⟨1⟩ ⟨1⟩ (List.replicate 32 0) shopEnrollment 1,
  .linkOrganization ⟨1⟩ ⟨1⟩ ⟨2⟩,
  .projectOrganization shopActivation,
  .activateBinding ⟨1⟩ shopActivation]

/-- The store of the shop on its node. -/
def remoteShop : Store :=
  { shopStore with
    integrationKind := .external
    federationBindingId := some ⟨1⟩ }

def closeShop : PlatformAction := .lifecycle ⟨.close, ⟨1⟩, ⟨1⟩, 1⟩ remoteShop

/-- The store of the shop after its owner has closed it. -/
def closedShop : Store :=
  { remoteShop with
    status := .closed
    version := 2 }

/-- The market with the shop on its node that is closed. -/
def closedMarket : PlatformDatabase :=
  @PlatformDatabase.run plainJsonb shopMarket (enrollShop ++ [closeShop])

theorem closedMarket_reachable : @PlatformDatabase.Reachable plainJsonb closedMarket :=
  ⟨shopMarket, _, shopMarket_initial, rfl⟩

theorem closedShop_mem : closedShop ∈ closedMarket.stores.rows := by decide +kernel

/-- A run of one step is split at this step. -/
theorem action_of_singleton {first action : PlatformAction}
    {earlier later : List PlatformAction} (h : [first] = earlier ++ action :: later) :
    earlier = [] ∧ action = first := by
  rcases List.singleton_eq_append_iff.mp h with ⟨hearlier, hlater⟩ | ⟨_, hlater⟩
  · exact ⟨hearlier, (List.cons.inj hlater).1⟩
  · cases hlater

/-- A probe that finds the node of a closed store alive opens the store. -/
theorem probe_opens_closed_store : ¬@ClosedStaysClosed plainJsonb := by
  intro h
  have hopen : ((@PlatformDatabase.run plainJsonb closedMarket
      [.recordHealth ⟨1⟩ ⟨1⟩ ⟨1⟩ ⟨true, none⟩]).stores.lookup ⟨1⟩).any
      (·.status = .active) = true := by decide +kernel
  cases hlookup : (@PlatformDatabase.run plainJsonb closedMarket
      [.recordHealth ⟨1⟩ ⟨1⟩ ⟨1⟩ ⟨true, none⟩]).stores.lookup ⟨1⟩ with
  | none => simp [hlookup] at hopen
  | some current =>
      rw [hlookup, Option.any_some, decide_eq_true_eq] at hopen
      refine h closedMarket closedMarket_reachable closedShop closedShop_mem rfl _ ?_ current
        hlookup hopen
      rintro ⟨earlier, request, read, later, hsplit, _⟩
      cases (action_of_singleton hsplit).2

/-- A probe that finds the node dead leaves the closed store alone. -/
theorem closedShop_stays_closed : IsClosed (@PlatformDatabase.run plainJsonb closedMarket
    [.recordHealth ⟨1⟩ ⟨1⟩ ⟨1⟩ ⟨false, none⟩]) ⟨1⟩ := by
  refine @closed_stores_stay_closed plainJsonb closedMarket closedMarket_reachable closedShop
    closedShop_mem rfl _ ?_ ?_
  · intro earlier action later hsplit current _ hdisturbs
    rw [(action_of_singleton hsplit).2] at hdisturbs
    cases hdisturbs.1
  · rintro ⟨earlier, request, read, later, hsplit, _⟩
    cases (action_of_singleton hsplit).2

end MatchPlane.Platform
