import MatchPlane.Platform.Live

/-!
# Builds are fenced

What a request makes of a single registration, and with which guard.  A digest is only
ever attached under the lease of the build, and whatever is attached stays.
-/

namespace MatchPlane.Platform

open MatchPlane.Library

/-- What an accepted request makes of one registration of a database. -/
inductive Rewritten (action : PlatformAction) (db' : PlatformDatabase) (old : Registration) :
    Registration → Prop
  | kept : Rewritten action db' old old
  | claimed (storeId : StoreId) (claim : BuildClaim) (haction : action = .claimBuild storeId claim)
      (hclaimable : old.isClaimable claim.leaseSeconds claim.now = true) :
      Rewritten action db' old (old.lease claim.leaseId claim.now)
  | built (storeId : StoreId) (request : BuilderRequest)
      (haction : action = .completeBuild storeId request) (hid : request.registrationId = old.id)
      (haccepts : request.accepts old = true) : Rewritten action db' old (request.attach old)
  | failed (storeId : StoreId) (failure : BuildFailure) (now : OffsetDateTime)
      (message : String) (haction : action = .failBuild storeId failure now)
      (hid : failure.registrationId = old.id) (hstate : old.state = .building)
      (hlease : old.buildLeaseId = some failure.leaseId) :
      Rewritten action db' old (failure.record message now old)
  | activated (storeId : StoreId) (fresh : FreshJobs) (request : ActivationRequest)
      (read : Registration) (haction : action = .activate storeId fresh request read)
      (hid : request.registrationId = old.id)
      (haccepts : request.accepts old.version old = true) :
      Rewritten action db' old old.activate
  /-- A newer release has been activated. -/
  | disabled (newer : Registration) (hstate : old.state = .active)
      (hnewer : db'.registrations.lookup newer.id = some newer) (hactive : newer.state = .active)
      (hbuilt : newer.buildDigest.isSome) (hline : newer.line = old.line)
      (hversion : old.version < newer.version) : Rewritten action db' old old.disable
  | revoked (hstate : old.state = .active) (hbound : old.federationBindingId.isSome) :
      Rewritten action db' old old.revoke

section Rewritten

variable {db db' : PlatformDatabase} {action : PlatformAction}

/-- A write of one row, seen from any row of the table. -/
theorem rewritten_of_written {old new row : Registration} {registrations' : Table registrations}
    (hwritten : Table.Written db.registrations registrations' old new)
    (hrow : db.registrations.lookup row.id = some row)
    (hsame : db'.registrations = registrations') (hnew : Rewritten action db' old new) :
    ∃ row', db'.registrations.lookup row.id = some row' ∧ Rewritten action db' row row' := by
  rw [hsame]
  by_cases hid : row.id = old.id
  · rw [hid] at hrow ⊢
    cases hwritten.stored.symm.trans hrow
    exact ⟨new, hwritten.lookup_self, hnew⟩
  · exact ⟨row, (hwritten.lookup_of_ne hid).trans hrow, .kept⟩

theorem ActivationRequest.accepts_iff {request : ActivationRequest} {version : Nat}
    {row : Registration} : request.accepts version row = true ↔
      row.state.isActivatable = true ∧ row.version = version ∧
        row.buildDigest = some (JavaScript.toLowerCase request.buildDigest) := by
  simp [ActivationRequest.accepts]

variable [Jsonb]

/-- Every registration is kept, or rewritten under the guard of the request. -/
theorem PlatformMove.rewritten (hmove : PlatformMove db action db') (hnumbered : Numbered db)
    {row : Registration} (hrow : db.registrations.lookup row.id = some row) :
    ∃ row', db'.registrations.lookup row.id = some row' ∧ Rewritten action db' row row' := by
  cases hmove with
  | aside _ _ _ hregistrations => exact ⟨row, hregistrations ▸ hrow, .kept⟩
  | enrolled => exact ⟨row, hrow, .kept⟩
  | linked _ _ _ _ _ _ _ hreconciled => exact ⟨row, hreconciled.records.1 ▸ hrow, .kept⟩
  | probed _ _ _ _ _ _ _ hreconciled => exact ⟨row, hreconciled.records.1 ▸ hrow, .kept⟩
  | promoted _ _ _ _ _ _ _ _ _ _ _ hreconciled =>
      exact ⟨row, hreconciled.records.1 ▸ hrow, .kept⟩
  | federated _ _ _ _ _ _ _ _ _ _ hrows hreprojected _ hreconciled =>
      refine ⟨row, ?_, .kept⟩
      rw [hreconciled.records.1]
      rw [hreprojected.records.1]
      exact Table.lookup_inserted_of_some hrows hrow
  | revoked _ _ _ _ _ _ _ hreconciled => exact ⟨row, hreconciled.records.1 ▸ hrow, .kept⟩
  | disabled _ old registration _ _ _ _ _ hid hstate hwritten hreconciled hdisabled hreprojected =>
      rw [hreconciled.records.1] at hdisabled
      refine rewritten_of_written hdisabled hrow hreprojected.records.1 (.revoked hstate ?_)
      obtain ⟨other, hother, hback⟩ := hnumbered.registered old
        (Table.mem_of_lookup hwritten.stored) registration.id hid
      cases hdisabled.stored.symm.trans hother
      simp [hback]
  | registered _ _ _ _ _ _ hrows =>
      exact ⟨row, Table.lookup_inserted_of_some hrows hrow, .kept⟩
  | claimed storeId claim _ _ hclaimable hwritten =>
      exact rewritten_of_written hwritten hrow rfl (.claimed storeId claim rfl hclaimable)
  | built storeId request _ _ hid haccepts hwritten =>
      exact rewritten_of_written hwritten hrow rfl (.built storeId request rfl hid haccepts)
  | failed storeId failure now message _ _ hid hstate hlease hwritten =>
      exact rewritten_of_written hwritten hrow rfl
        (.failed storeId failure now message rfl hid hstate hlease)
  | renewed => exact ⟨row, hrow, .kept⟩
  | activated storeId fresh request read target registrations' db' registrations'' stores' shows
      jobs' hid haccepts _ hwritten hreprojected hrows =>
      rw [hreprojected.records.1] at hrows
      have hlookup := Table.lookup_updatedAll hrows (by intro row; split <;> rfl)
      have htarget : registrations''.lookup target.id = some target.activate :=
        (hlookup target.id).trans ((congrArg (Option.map _) hwritten.lookup_self).trans
          (by simp [Registration.isOlder]))
      by_cases hsame : row.id = target.id
      · rw [hsame] at hrow ⊢
        cases hwritten.stored.symm.trans hrow
        exact ⟨_, htarget, .activated storeId fresh request read rfl hid haccepts⟩
      · have hkept : registrations'.lookup row.id = some row :=
          (hwritten.lookup_of_ne hsame).trans hrow
        refine ⟨_, (hlookup row.id).trans (congrArg (Option.map _) hkept), ?_⟩
        dsimp only
        by_cases holder : target.activate.isOlder row = true
        · rw [if_pos holder]
          obtain ⟨hline, _, hactive, hversion⟩ := isOlder_iff.mp holder
          exact .disabled _ hactive htarget rfl
            (by simp [Registration.activate, (ActivationRequest.accepts_iff.mp haccepts).2.2])
            hline.symm hversion
        · rw [if_neg holder]
          exact .kept
  | changed => exact ⟨row, hrow, .kept⟩
  | profiled => exact ⟨row, hrow, .kept⟩
  | opened => exact ⟨row, hrow, .kept⟩

omit [Jsonb] in
theorem origin_of_written {old new row' : Registration} {registrations' : Table registrations}
    (hwritten : Table.Written db.registrations registrations' old new) (hid : new.id = old.id)
    (hrow : row' ∈ registrations'.rows) :
    row'.buildDigest = none ∨ ∃ row ∈ db.registrations.rows, row.id = row'.id := by
  rcases hwritten.mem_cases hrow with rfl | ⟨hrow, _⟩
  · exact .inr ⟨old, Table.mem_of_lookup hwritten.stored, hid.symm⟩
  · exact .inr ⟨row', hrow, rfl⟩

/-- A registration that is new has not been built. -/
theorem PlatformMove.origin (hmove : PlatformMove db action db') {row' : Registration}
    (hrow : row' ∈ db'.registrations.rows) :
    row'.buildDigest = none ∨ ∃ row ∈ db.registrations.rows, row.id = row'.id := by
  cases hmove with
  | aside _ _ _ hregistrations => exact .inr ⟨row', hregistrations ▸ hrow, rfl⟩
  | enrolled => exact .inr ⟨row', hrow, rfl⟩
  | linked _ _ _ _ _ _ _ hreconciled => exact .inr ⟨row', hreconciled.records.1 ▸ hrow, rfl⟩
  | probed _ _ _ _ _ _ _ hreconciled => exact .inr ⟨row', hreconciled.records.1 ▸ hrow, rfl⟩
  | promoted _ _ _ _ _ _ _ _ _ _ _ hreconciled =>
      exact .inr ⟨row', hreconciled.records.1 ▸ hrow, rfl⟩
  | federated _ _ _ _ _ _ _ _ _ _ hrows hreprojected _ hreconciled =>
      rw [hreconciled.records.1] at hrow
      change row' ∈ _ at hrow
      rw [hreprojected.records.1, hrows, List.mem_append, List.mem_singleton] at hrow
      rcases hrow with hrow | rfl
      · exact .inr ⟨row', hrow, rfl⟩
      · exact .inl rfl
  | revoked _ _ _ _ _ _ _ hreconciled => exact .inr ⟨row', hreconciled.records.1 ▸ hrow, rfl⟩
  | disabled _ _ _ _ _ _ _ _ _ _ _ hreconciled hdisabled hreprojected =>
      rw [hreconciled.records.1] at hdisabled
      rw [hreprojected.records.1] at hrow
      exact origin_of_written hdisabled rfl hrow
  | registered _ _ _ _ _ _ hrows =>
      change row' ∈ _ at hrow
      rw [hrows, List.mem_append, List.mem_singleton] at hrow
      rcases hrow with hrow | rfl
      · exact .inr ⟨row', hrow, rfl⟩
      · exact .inl rfl
  | claimed _ _ _ _ _ hwritten => exact origin_of_written hwritten rfl hrow
  | built _ _ _ _ _ _ hwritten => exact origin_of_written hwritten rfl hrow
  | failed _ _ _ _ _ _ _ _ _ hwritten => exact origin_of_written hwritten rfl hrow
  | renewed => exact .inr ⟨row', hrow, rfl⟩
  | activated _ _ _ _ _ _ _ _ _ _ _ _ _ _ hwritten hreprojected hrows =>
      change row' ∈ _ at hrow
      rw [hrows, List.mem_map] at hrow
      obtain ⟨old, hold, rfl⟩ := hrow
      rcases origin_of_written hwritten rfl (hreprojected.records.1 ▸ hold) with hnone | hback
      · exact .inl (by split <;> exact hnone)
      · exact .inr (by split <;> exact hback)
  | changed => exact .inr ⟨row', hrow, rfl⟩
  | profiled => exact .inr ⟨row', hrow, rfl⟩
  | opened => exact .inr ⟨row', hrow, rfl⟩

/-- A step keeps every registration, or rewrites it under the guard of the request. -/
theorem PlatformDatabase.Reachable.rewritten (h : db.Reachable) (action : PlatformAction)
    {row : Registration} (hrow : db.registrations.lookup row.id = some row) :
    ∃ row', (db.step action).registrations.lookup row.id = some row' ∧
      Rewritten action (db.step action) row row' := by
  rcases db.step_cases h.consistent action with ⟨_, hsame⟩ | ⟨_, hmoved⟩
  · rw [hsame]
    exact ⟨row, hrow, .kept⟩
  · exact hmoved.2.rewritten h.numbered hrow

end Rewritten

/-! ## Digests -/

/-- A digest that has been attached closes the build. -/
structure Fenced (db : PlatformDatabase) : Prop where
  built : ∀ row ∈ db.registrations.rows, row.buildDigest.isSome →
    row.state ∈ [.ready, .active, .disabled] ∧ row.buildLeaseId = none
  remote : ∀ row ∈ db.registrations.rows, row.sourceKind = .remote → row.buildDigest = none

/-- The states of a registration that can be built. -/
theorem BuilderRequest.state_of_accepts {request : BuilderRequest} {row : Registration}
    (h : request.accepts row = true) :
    row.state = .validated ∨ row.state = .building ∨ row.state = .ready := by
  simpa using (BuilderRequest.accepts_iff.mp h).1

theorem BuilderRequest.attach_state {request : BuilderRequest} {row : Registration}
    (h : request.accepts row = true) : (request.attach row).state = .ready := by
  rcases state_of_accepts h with hstate | hstate | hstate <;> simp [attach, hstate]

section Digests

variable {db db' : PlatformDatabase} {action : PlatformAction} {row row' : Registration}

/-- What has a digest is not built any more. -/
theorem Fenced.not_building (h : Fenced db) (hrow : row ∈ db.registrations.rows)
    (hdigest : row.buildDigest.isSome) : row.state ≠ .validated ∧ row.state ≠ .building := by
  have hstate := (h.built row hrow hdigest).1
  simp only [List.mem_cons, List.not_mem_nil, or_false] at hstate
  rcases hstate with hstate | hstate | hstate <;> simp [hstate]

theorem Fenced.rewritten (h : Fenced db) (hnumbered : Numbered db)
    (hrow : row ∈ db.registrations.rows) (hrewritten : Rewritten action db' row row') :
    (row'.buildDigest.isSome → row'.state ∈ [.ready, .active, .disabled] ∧
      row'.buildLeaseId = none) ∧ (row'.sourceKind = .remote → row'.buildDigest = none) := by
  have hbuilt := h.built row hrow
  have hremote := h.remote row hrow
  cases hrewritten with
  | kept => exact ⟨hbuilt, hremote⟩
  | claimed _ claim _ hclaimable =>
      refine ⟨fun hdigest => ?_, hremote⟩
      obtain ⟨hvalidated, hbuilding⟩ := h.not_building hrow hdigest
      rcases (isClaimable_iff.mp hclaimable).2.2 with hstate | ⟨hstate, _⟩
      · exact absurd hstate hvalidated
      · exact absurd hstate hbuilding
  | built _ request _ _ haccepts =>
      refine ⟨fun _ => ⟨by simp [BuilderRequest.attach_state haccepts], rfl⟩, fun hkind => ?_⟩
      rcases hnumbered.unbuilt row hrow hkind with hstate | hstate <;>
        rcases BuilderRequest.state_of_accepts haccepts with h | h | h <;> simp [hstate] at h
  | failed _ _ _ _ _ _ hstate =>
      exact ⟨fun hdigest => absurd hstate (h.not_building hrow hdigest).2, hremote⟩
  | activated =>
      exact ⟨fun hsome => ⟨by simp [Registration.activate], (hbuilt hsome).2⟩, hremote⟩
  | disabled =>
      exact ⟨fun hsome => ⟨by simp [Registration.disable], (hbuilt hsome).2⟩, hremote⟩
  | revoked =>
      exact ⟨fun hsome => ⟨by simp [Registration.revoke], (hbuilt hsome).2⟩, hremote⟩

theorem Fenced.move [Jsonb] (h : Fenced db) (hnumbered : Numbered db)
    (hmove : PlatformMove db action db') : Fenced db' := by
  have hrow : ∀ row' ∈ db'.registrations.rows, (row'.buildDigest.isSome →
      row'.state ∈ [.ready, .active, .disabled] ∧ row'.buildLeaseId = none) ∧
        (row'.sourceKind = .remote → row'.buildDigest = none) := by
    intro row' hmem
    rcases hmove.origin hmem with hnone | ⟨row, hrow, hid⟩
    · simp [hnone]
    · obtain ⟨other, hother, hrewritten⟩ := hmove.rewritten hnumbered (Table.lookup_of_mem hrow)
      have hself : db'.registrations.lookup row.id = some row' := by
        rw [hid]
        exact Table.lookup_of_mem hmem
      cases hself.symm.trans hother
      exact h.rewritten hnumbered hrow hrewritten
  exact ⟨fun row' hmem => (hrow row' hmem).1, fun row' hmem => (hrow row' hmem).2⟩

theorem PlatformDatabase.Reachable.fenced [Jsonb] (h : db.Reachable) : Fenced db := by
  have hboth : Numbered db ∧ Fenced db := by
    refine h.of_moves (fun db => Numbered db ∧ Fenced db) (fun start hstart => ?_) ?_
    · exact ⟨hstart.numbered, ⟨by simp [hstart.registrations], by simp [hstart.registrations]⟩⟩
    · intro db action db' hconsistent hmove hinv
      exact ⟨hinv.1.move hconsistent hmove, hinv.2.move hinv.1 hmove⟩
  exact hboth.2

/-- What a build has left in a registration. -/
def Attached (row row' : Registration) : Prop :=
  row'.buildDigest = row.buildDigest ∧ row'.artifactLocator = row.artifactLocator ∧
    row'.artifactEntry = row.artifactEntry

theorem Fenced.attached (h : Fenced db) (hrow : row ∈ db.registrations.rows)
    (hdigest : row.buildDigest.isSome) (hrewritten : Rewritten action db' row row') :
    Attached row row' := by
  cases hrewritten with
  | built _ request _ _ haccepts =>
      have hlease := (BuilderRequest.accepts_iff.mp haccepts).2.1
      rw [(h.built row hrow hdigest).2] at hlease
      cases hlease
  | kept => exact ⟨rfl, rfl, rfl⟩
  | claimed => exact ⟨rfl, rfl, rfl⟩
  | failed => exact ⟨rfl, rfl, rfl⟩
  | activated => exact ⟨rfl, rfl, rfl⟩
  | disabled => exact ⟨rfl, rfl, rfl⟩
  | revoked => exact ⟨rfl, rfl, rfl⟩

/-- The request reports under the lease of the registration, or takes over an ended lease. -/
def OwnsBuild (action : PlatformAction) (row : Registration) : Prop :=
  (∃ storeId request, action = .completeBuild storeId request ∧
      request.registrationId = row.id ∧ row.buildLeaseId = some request.leaseId) ∨
    (∃ storeId failure now, action = .failBuild storeId failure now ∧
      failure.registrationId = row.id ∧ row.buildLeaseId = some failure.leaseId) ∨
    ∃ storeId claim, action = .claimBuild storeId claim ∧
      row.leaseEnded claim.leaseSeconds claim.now = true

theorem Fenced.ownsBuild (h : Fenced db) (hrow : row ∈ db.registrations.rows)
    (hstate : row.state = .building) (hrewritten : Rewritten action db' row row') :
    row' = row ∨ OwnsBuild action row := by
  cases hrewritten with
  | kept => exact .inl rfl
  | claimed storeId claim haction hclaimable =>
      rcases (isClaimable_iff.mp hclaimable).2.2 with hvalidated | ⟨_, hended⟩
      · rw [hstate] at hvalidated
        cases hvalidated
      · exact .inr (.inr (.inr ⟨storeId, claim, haction, hended⟩))
  | built storeId request haction hid haccepts =>
      exact .inr (.inl ⟨storeId, request, haction, hid,
        (BuilderRequest.accepts_iff.mp haccepts).2.1⟩)
  | failed storeId failure now _ haction hid _ hlease =>
      exact .inr (.inr (.inl ⟨storeId, failure, now, haction, hid, hlease⟩))
  | activated _ _ _ _ _ _ haccepts =>
      obtain ⟨_, _, hdigest⟩ := ActivationRequest.accepts_iff.mp haccepts
      exact absurd hstate (h.not_building hrow (by simp [hdigest])).2
  | disabled _ hactive =>
      rw [hstate] at hactive
      cases hactive
  | revoked hactive =>
      rw [hstate] at hactive
      cases hactive

/-- Only an activation with the attached digest makes a registration active. -/
theorem Rewritten.activation (hrewritten : Rewritten action db' row row')
    (hstate : row.state ≠ .active) (hactive : row'.state = .active) :
    ∃ storeId fresh request read, action = .activate storeId fresh request read ∧
      request.registrationId = row.id ∧
      row.buildDigest = some (JavaScript.toLowerCase request.buildDigest) ∧
      row'.buildDigest = row.buildDigest := by
  cases hrewritten with
  | activated storeId fresh request read haction hid haccepts =>
      exact ⟨storeId, fresh, request, read, haction, hid,
        (ActivationRequest.accepts_iff.mp haccepts).2.2, rfl⟩
  | built _ _ _ _ haccepts =>
      rw [BuilderRequest.attach_state haccepts] at hactive
      cases hactive
  | failed failure =>
      unfold BuildFailure.record at hactive
      dsimp only at hactive
      split at hactive <;> cases hactive
  | kept => exact absurd hactive hstate
  | claimed => cases hactive
  | disabled => cases hactive
  | revoked => cases hactive

theorem Rewritten.rejected (hrewritten : Rewritten action db' row row')
    (hstate : row.state = .rejected) : row' = row := by
  cases hrewritten with
  | kept => rfl
  | claimed _ _ _ hclaimable =>
      rcases (isClaimable_iff.mp hclaimable).2.2 with h | ⟨h, _⟩ <;> simp [hstate] at h
  | built _ _ _ _ haccepts =>
      rcases BuilderRequest.state_of_accepts haccepts with h | h | h <;> simp [hstate] at h
  | failed _ _ _ _ _ _ h => simp [hstate] at h
  | activated _ _ _ _ _ _ haccepts =>
      have h := (ActivationRequest.accepts_iff.mp haccepts).1
      simp [hstate, RegistrationState.isActivatable] at h
  | disabled _ h => simp [hstate] at h
  | revoked h => simp [hstate] at h

end Digests

section Callbacks

variable [Jsonb] {db : PlatformDatabase} {storeId : StoreId}

theorem ensures_updateRegistration_missed {id : RegistrationId} {guard : Registration → Bool}
    {set : Registration → Registration} {post : Option Registration → PlatformDatabase → Prop}
    (hmissed : (db.registrations.lookup id).filter guard = none) (hpost : post none db) :
    Ensures (updateRegistration storeId id guard set) whatever db post := by
  unfold updateRegistration
  rw [ensures_bind, ensures_get, hmissed]
  exact hpost

theorem PlatformDatabase.step_of_unchanged {action : PlatformAction}
    (h : Ensures (transaction action) whatever db fun _ db' => db' = db) :
    db.step action = db := by
  unfold PlatformDatabase.step
  rcases committed_cases h with ⟨_, hsame⟩ | ⟨_, _, hsame⟩
  · exact hsame
  · exact hsame

/-- A success under another lease, or with another digest, changes nothing. -/
theorem step_completeBuild_fenced {request : BuilderRequest}
    (h : ∀ row, db.registrations.lookup request.registrationId = some row →
      row.buildLeaseId ≠ some request.leaseId ∨
        row.buildDigest.any (· ≠ JavaScript.toLowerCase request.buildDigest) = true) :
    db.step (.completeBuild storeId request) = db := by
  refine PlatformDatabase.step_of_unchanged ?_
  rw [PlatformDatabase.transaction]
  refine ensures_discard ?_
  unfold completeBuild
  rw [ensures_ite]
  refine ⟨fun _ => trivial, fun _ => ?_⟩
  rw [ensures_bind]
  refine ensures_liftAny fun _ _ => ?_
  rw [ensures_bind]
  refine ensures_updateRegistration_missed ?_ ?_
  · rw [Option.filter_eq_none_iff]
    intro row hrow haccepts
    obtain ⟨_, hlease, hdigest, _⟩ := BuilderRequest.accepts_iff.mp haccepts
    rcases h row hrow with hne | hother
    · exact hne hlease
    · cases hattached : row.buildDigest with
      | none => simp [hattached] at hother
      | some digest =>
          simp only [hattached, Option.all_some, decide_eq_true_eq] at hdigest
          simp [hattached, hdigest] at hother
  · dsimp only
    rw [ensures_bind, ensures_get]
    exact ensures_liftAny fun _ _ => rfl

/-- A failure under another lease changes nothing. -/
theorem step_failBuild_fenced {failure : BuildFailure} {now : OffsetDateTime}
    (h : ∀ row, db.registrations.lookup failure.registrationId = some row →
      row.buildLeaseId ≠ some failure.leaseId) :
    db.step (.failBuild storeId failure now) = db := by
  refine PlatformDatabase.step_of_unchanged ?_
  rw [PlatformDatabase.transaction]
  refine ensures_discard ?_
  unfold failBuild
  rw [ensures_bind, ensures_require]
  refine ⟨fun _ => trivial, fun _ _ => ?_⟩
  rw [ensures_bind]
  refine ensures_updateRegistration_missed ?_ trivial
  rw [Option.filter_eq_none_iff]
  intro row hrow hguard
  rw [decide_eq_true_eq] at hguard
  exact h row hrow hguard.2

end Callbacks

/-! ## Releases -/

section Releases

variable {db : PlatformDatabase}

theorem Numbered.activeRelease (h : Numbered db) {row : Registration}
    (hrow : row ∈ db.registrations.rows) (hactive : row.state = .active) :
    db.activeRelease row.line = some row := by
  cases hrelease : db.activeRelease row.line with
  | none =>
      have hnone := List.filter_eq_nil_iff.mp (firstBy_eq_none_iff.mp hrelease) row hrow
      simp [hactive] at hnone
  | some active =>
      have hmem := List.mem_filter.mp (mem_of_firstBy hrelease)
      rw [decide_eq_true_eq] at hmem
      rw [h.single active hmem.1 row hrow hmem.2.1 hmem.2.2 hactive]

/-- A package of the slug is active in this version or a newer one. -/
def Released (line : TenantId × String) (version : Nat) (db : PlatformDatabase) : Prop :=
  ∃ row ∈ db.registrations.rows, row.line = line ∧ row.state = .active ∧
    row.buildDigest.isSome ∧ version ≤ row.version

variable [Jsonb]

/-- An active package makes room for newer ones only. -/
theorem PlatformDatabase.Reachable.released {line : TenantId × String} {version : Nat}
    (h : db.Reachable) (hreleased : Released line version db) (action : PlatformAction) :
    Released line version (db.step action) := by
  obtain ⟨row, hrow, hline, hactive, hdigest, hversion⟩ := hreleased
  obtain ⟨row', hrow', hrewritten⟩ := h.rewritten action (Table.lookup_of_mem hrow)
  have hmem := Table.mem_of_lookup hrow'
  cases hrewritten with
  | kept => exact ⟨row, hmem, hline, hactive, hdigest, hversion⟩
  | claimed _ _ _ hclaimable =>
      rcases (isClaimable_iff.mp hclaimable).2.2 with hstate | ⟨hstate, _⟩ <;>
        simp [hactive] at hstate
  | built _ _ _ _ haccepts =>
      rcases BuilderRequest.state_of_accepts haccepts with hstate | hstate | hstate <;>
        simp [hactive] at hstate
  | failed _ _ _ _ _ _ hstate => simp [hactive] at hstate
  | activated => exact ⟨row.activate, hmem, hline, rfl, hdigest, hversion⟩
  | disabled newer _ hnewer hneweractive hbuilt hsame hnewerversion =>
      exact ⟨newer, Table.mem_of_lookup hnewer, hsame.trans hline, hneweractive, hbuilt,
        Nat.le_trans hversion (Nat.le_of_lt hnewerversion)⟩
  | revoked _ hbound =>
      have hremote := (h.consistent.remote row hrow).mpr hbound
      simp [h.fenced.remote row hrow hremote] at hdigest

theorem PlatformDatabase.Reachable.released_run {line : TenantId × String} {version : Nat}
    (h : db.Reachable) (hreleased : Released line version db) (actions : List PlatformAction) :
    Released line version (db.run actions) := by
  induction actions generalizing db with
  | nil => exact hreleased
  | cons action actions ih => exact ih (h.step action) (h.released hreleased action)

/-- The registration of an accepted activation is active afterwards, with its digest. -/
theorem PlatformDatabase.Reachable.activated (h : db.Reachable) {storeId : StoreId}
    {fresh : FreshJobs} {request : ActivationRequest} {read : Registration}
    (haccepted : db.accepts (.activate storeId fresh request read) = true) :
    ∃ row, (db.step (.activate storeId fresh request read)).registrations.lookup
        request.registrationId = some row ∧ row.state = .active ∧
      row.buildDigest = some (JavaScript.toLowerCase request.buildDigest) := by
  rcases db.step_cases h.consistent (.activate storeId fresh request read) with
    ⟨hrefused, _⟩ | ⟨_, _, hmove⟩
  · rw [haccepted] at hrefused
    cases hrefused
  · generalize db.step (.activate storeId fresh request read) = db' at hmove ⊢
    cases hmove with
    | aside _ _ haction => exact absurd rfl (haction storeId fresh request read)
    | renewed _ _ _ _ target _ hlookup hstate _ hdigest =>
        exact ⟨target, hlookup, hstate, hdigest⟩
    | activated _ _ _ _ target _ _ _ _ _ _ hid haccepts _ hwritten hreprojected hrows =>
        rw [hreprojected.records.1] at hrows
        have hlookup := Table.lookup_updatedAll hrows (by intro row; split <;> rfl)
        refine ⟨target.activate, ?_, rfl, (ActivationRequest.accepts_iff.mp haccepts).2.2⟩
        rw [hid]
        exact (hlookup target.id).trans ((congrArg (Option.map _) hwritten.lookup_self).trans
          (by simp [Registration.isOlder]))

/-- What is rewritten at every step of a run in one way is so at its end. -/
theorem PlatformDatabase.Reachable.rewritten_run (h : db.Reachable) (inv : Registration → Prop)
    (hstep : ∀ db : PlatformDatabase, db.Reachable → ∀ row ∈ db.registrations.rows, inv row →
      ∀ action db' row', Rewritten action db' row row' → inv row')
    {row : Registration} (hrow : db.registrations.lookup row.id = some row) (hinv : inv row)
    (actions : List PlatformAction) :
    ∃ row', (db.run actions).registrations.lookup row.id = some row' ∧ inv row' := by
  induction actions generalizing db row with
  | nil => exact ⟨row, hrow, hinv⟩
  | cons action actions ih =>
      obtain ⟨row', hrow', hrewritten⟩ := h.rewritten action hrow
      have hid : row'.id = row.id := Table.key_of_lookup hrow'
      rw [← hid] at hrow' ⊢
      exact ih (h.step action) hrow'
        (hstep db h row (Table.mem_of_lookup hrow) hinv action _ row' hrewritten)

end Releases

/-- Builds are fenced by their leases, and what they have attached is never replaced. -/
theorem builds_are_fenced [Jsonb] (db : PlatformDatabase) (h : db.Reachable) :
    (∀ row ∈ db.registrations.rows, row.state = .building → ∀ action,
      (db.step action).registrations.lookup row.id = some row ∨ OwnsBuild action row) ∧
    (∀ row ∈ db.registrations.rows, row.buildDigest.isSome → ∀ actions, ∃ row',
      (db.run actions).registrations.lookup row.id = some row' ∧ Attached row row') ∧
    (∀ storeId request, (∀ row,
        db.registrations.lookup request.registrationId = some row →
          row.buildLeaseId ≠ some request.leaseId ∨
            row.buildDigest.any (· ≠ JavaScript.toLowerCase request.buildDigest) = true) →
      db.step (.completeBuild storeId request) = db) ∧
    (∀ storeId failure now, (∀ row,
        db.registrations.lookup failure.registrationId = some row →
          row.buildLeaseId ≠ some failure.leaseId) →
      db.step (.failBuild storeId failure now) = db) ∧
    (∀ row ∈ db.registrations.rows, row.state ≠ .active → ∀ action row',
      (db.step action).registrations.lookup row.id = some row' → row'.state = .active →
      ∃ storeId fresh request read, action = .activate storeId fresh request read ∧
        request.registrationId = row.id ∧
        row.buildDigest = some (JavaScript.toLowerCase request.buildDigest) ∧
        row'.buildDigest = row.buildDigest) ∧
    (∀ row ∈ db.registrations.rows, row.state = .rejected → ∀ actions,
      (db.run actions).registrations.lookup row.id = some row) ∧
    ∀ storeId fresh request read storeId' fresh' request' read' actions before after,
      let mid := db.step (.activate storeId fresh request read)
      let final := (mid.run actions).step (.activate storeId' fresh' request' read')
      db.accepts (.activate storeId fresh request read) = true →
      (mid.run actions).accepts (.activate storeId' fresh' request' read') = true →
      mid.registrations.lookup request.registrationId = some before →
      final.registrations.lookup request'.registrationId = some after →
      before.line = after.line →
      mid.activeRelease before.line = some before ∧
        final.activeRelease after.line = some after ∧ before.version ≤ after.version := by
  refine ⟨fun row hrow hstate action => ?_, fun row hrow hdigest actions => ?_,
    fun storeId request hstale => step_completeBuild_fenced hstale,
    fun storeId failure now hstale => step_failBuild_fenced hstale,
    fun row hrow hstate action row' hlookup hactive => ?_,
    fun row hrow hstate actions => ?_, ?_⟩
  · obtain ⟨row', hrow', hrewritten⟩ := h.rewritten action (Table.lookup_of_mem hrow)
    rcases h.fenced.ownsBuild hrow hstate hrewritten with rfl | howns
    · exact .inl hrow'
    · exact .inr howns
  · obtain ⟨row', hrow', _, hattached⟩ := h.rewritten_run
      (fun row' => row'.buildDigest.isSome ∧ Attached row row')
      (fun db hdb other hother hinv action db' row' hrewritten => by
        obtain ⟨hdigest', hlocator', hentry'⟩ := hinv.2
        obtain ⟨hdigest'', hlocator'', hentry''⟩ := hdb.fenced.attached hother hinv.1 hrewritten
        exact ⟨hdigest''.symm ▸ hinv.1, hdigest''.trans hdigest', hlocator''.trans hlocator',
          hentry''.trans hentry'⟩)
      (Table.lookup_of_mem hrow) ⟨hdigest, rfl, rfl, rfl⟩ actions
    exact ⟨row', hrow', hattached⟩
  · obtain ⟨other, hother, hrewritten⟩ := h.rewritten action (Table.lookup_of_mem hrow)
    cases hlookup.symm.trans hother
    exact hrewritten.activation hstate hactive
  · obtain ⟨row', hrow', rfl⟩ := h.rewritten_run (fun row' => row' = row)
      (fun db _ other _ hinv action db' row' hrewritten =>
        (hrewritten.rejected (hinv ▸ hstate)).trans hinv)
      (Table.lookup_of_mem hrow) rfl actions
    exact hrow'
  · intro storeId fresh request read storeId' fresh' request' read' actions before after mid final
      haccepts haccepts' hbefore hafter hline
    have hmid : mid.Reachable := h.step _
    have hlater : (mid.run actions).Reachable := hmid.run actions
    obtain ⟨row, hrow, hactive, hdigest⟩ := h.activated haccepts
    cases hbefore.symm.trans hrow
    obtain ⟨row', hrow', hactive', _⟩ := hlater.activated haccepts'
    cases hafter.symm.trans hrow'
    have hreleased : Released before.line before.version mid :=
      ⟨before, Table.mem_of_lookup hbefore, rfl, hactive, by simp [hdigest], Nat.le_refl _⟩
    obtain ⟨newer, hnewer, hnewerline, hneweractive, _, hversion⟩ :=
      hlater.released (hmid.released_run hreleased actions)
        (.activate storeId' fresh' request' read')
    have hfinal : final.Reachable := hlater.step _
    rw [hfinal.numbered.single newer hnewer after (Table.mem_of_lookup hafter)
      (hnewerline.trans hline) hneweractive hactive'] at hversion
    exact ⟨hmid.numbered.activeRelease (Table.mem_of_lookup hbefore) hactive,
      hfinal.numbered.activeRelease (Table.mem_of_lookup hafter) hactive', hversion⟩

/-- The first release of the shop once it has been built, in the first attempt. -/
def builtShop : Registration :=
  { @RegistrationRequest.row plainJsonb (shopRequest ⟨1⟩ "a") 1 with
    state := .ready
    buildDigest := some shopDigest
    buildAttempts := 1 }

/-- The market with the shop that has been built. -/
def builtMarket : PlatformDatabase := @PlatformDatabase.run plainJsonb shopMarket (buildShop ⟨1⟩ "a")

theorem shop_is_fenced :
    @PlatformDatabase.step plainJsonb builtMarket
        (.completeBuild ⟨1⟩ ⟨⟨1⟩, ⟨9⟩, shopDigest, none, none, none, none⟩) = builtMarket ∧
      ∃ row, (@PlatformDatabase.run plainJsonb builtMarket
          [@activateShop plainJsonb ⟨1⟩ "a" 1]).registrations.lookup ⟨1⟩ = some row ∧
        Attached builtShop row := by
  have hreachable : @PlatformDatabase.Reachable plainJsonb builtMarket :=
    ⟨shopMarket, _, shopMarket_initial, rfl⟩
  have hbuilt : builtShop ∈ builtMarket.registrations.rows := by decide +kernel
  have hstale : (builtMarket.registrations.lookup ⟨1⟩).all
      (fun row => row.buildLeaseId ≠ some ⟨9⟩) = true := by decide +kernel
  obtain ⟨_, hattached, hfenced, _⟩ := @builds_are_fenced plainJsonb builtMarket hreachable
  refine ⟨hfenced ⟨1⟩ _ fun row hrow => .inl ?_, hattached builtShop hbuilt rfl _⟩
  dsimp only at hrow
  rw [hrow, Option.all_some, decide_eq_true_eq] at hstale
  exact hstale

end MatchPlane.Platform
