import MatchPlane.Marketplace.Retries

/-!
# Consent before contact

An introduction leaves the proposed state only through a request of its demand side,
and consent is written only by its supply side; both are recorded in the audit when
they are.  A contact is released only from there.
-/

namespace MatchPlane

open MatchPlane.Library

def RequestMarketplaceContact.key (command : RequestMarketplaceContact) : ContactKey :=
  ⟨command.tenantId, command.introductionId, command.demandPartyId, .contactRequested,
    command.idempotencyKey⟩

def AcceptMarketplaceContact.key (command : AcceptMarketplaceContact) : ContactKey :=
  ⟨command.tenantId, command.introductionId, command.supplyPartyId, .contactConsent,
    command.idempotencyKey⟩

/-! ## Audit -/

/-- The decision stands under its key, which was free or held the same decision. -/
structure ContactRecorded (before after : Table contactEvents) (event : ContactEvent) : Prop where
  recorded : after.lookup event.key = some event
  others : ∀ key, key ≠ event.key → after.lookup key = before.lookup key
  earlier : ∀ old, before.lookup event.key = some old → old = event

section Audit

variable {db : MarketDatabase}

theorem ensures_insertMarketplaceContactEvent {event : ContactEvent}
    {post : Unit → MarketDatabase → Prop}
    (h : ∀ contacts, ContactRecorded db.contacts contacts event →
      post () { db with contacts := contacts }) :
    Ensures (insertMarketplaceContactEvent event) whatever db post := by
  unfold insertMarketplaceContactEvent
  rw [ensures_bind, ensures_on]
  refine Table.ensures_insertOrIgnore trivial (fun contacts hrows => ?_) fun _ _ => ?_
  · rw [if_neg (by decide)]
    refine h contacts ⟨?_, fun key hkey => ?_, fun old hold => ?_⟩
    · exact (Table.lookup_inserted hrows event.key).trans (if_pos rfl)
    · exact (Table.lookup_inserted hrows key).trans (if_neg hkey)
    · have hnone : db.contacts.lookup event.key = none := Table.lookup_inserted_none hrows
      rw [hnone] at hold
      cases hold
  · rw [if_pos rfl, ensures_bind, ensures_get, ensures_check]
    refine ⟨fun _ => trivial, fun hstored => ?_⟩
    -- The row under the key has the columns that were asked for, so it is the event.
    have hsame : db.contacts.lookup event.key = some event := by
      cases hlookup : db.contacts.lookup event.key with
      | none => simp [MarketDatabase.contactTable, hlookup] at hstored
      | some row =>
          simp only [MarketDatabase.contactTable, hlookup, Option.any_some, Bool.not_eq_false,
            decide_eq_true_eq] at hstored
          obtain ⟨hfingerprint, htarget, hdecision⟩ := hstored
          have hkey : row.key = event.key := Table.key_of_lookup hlookup
          cases row
          cases event
          simp_all
    refine h db.contacts ⟨hsame, fun _ _ => rfl, fun old hold => ?_⟩
    exact Option.some.inj (hold.symm.trans hsame)

theorem ensures_lockIntroduction {tenantId : TenantId} {introductionId : MatchIntroductionId}
    {post : MarketplaceIntroduction → MarketDatabase → Prop}
    (h : ∀ row, db.introductions.lookup introductionId = some row → row.tenantId = tenantId →
      post row db) :
    Ensures (lockIntroduction tenantId introductionId) whatever db post := by
  simp only [lockIntroduction, ensures_bind, ensures_get, ensures_require]
  refine ⟨fun _ => trivial, fun row hrow => ?_⟩
  rw [Option.filter_eq_some_iff, decide_eq_true_eq] at hrow
  exact h row hrow.1 hrow.2

/-- The update of an introduction that is known to satisfy its guard. -/
theorem ensures_updateIntroduction {introductionId : MatchIntroductionId}
    {guard : MarketplaceIntroduction → Bool}
    {set : MarketplaceIntroduction → MarketplaceIntroduction} {row : MarketplaceIntroduction}
    {post : Unit → MarketDatabase → Prop}
    (hset : ∀ other, (set other).id = other.id)
    (hrow : db.introductions.lookup introductionId = some row) (hguard : guard row = true)
    (h : ∀ introductions, Table.Written db.introductions introductions row (set row) →
      post () { db with introductions := introductions }) :
    Ensures (updateIntroduction introductionId guard set) whatever db post := by
  unfold updateIntroduction
  rw [ensures_bind, ensures_on]
  refine Table.ensures_update_cases hset trivial (fun hmissed => ?_) ?_
  · have hfound : (db.introductions.lookup introductionId).filter guard = some row := by
      rw [hrow, Option.filter_some, if_pos hguard]
    exact absurd (hfound.symm.trans hmissed) (by simp)
  · intro written introductions hwritten _ hwrite
    have hsame : written = row := Option.some.inj (hwritten.symm.trans hrow)
    subst hsame
    exact h introductions hwrite

end Audit

/-! ## Requests and consent -/

def MarketplaceIntroduction.request (introduction : MarketplaceIntroduction) :
    MarketplaceIntroduction :=
  { introduction with
    status := .contactRequested
    version := introduction.version + 1 }

def MarketplaceIntroduction.consent (stamp : OffsetDateTime)
    (introduction : MarketplaceIntroduction) : MarketplaceIntroduction :=
  { introduction with
    supplyContactConsentAt := some stamp
    status := .contactReleased
    version := introduction.version + 1 }

def MarketplaceIntroduction.release (stamp : OffsetDateTime)
    (introduction : MarketplaceIntroduction) : MarketplaceIntroduction :=
  { introduction with
    contactReleasedAt := introduction.contactReleasedAt.or (some stamp)
    version := if introduction.contactReleasedAt = none then introduction.version + 1
      else introduction.version }

/-- An introduction was changed, or none was. -/
def Changes (before after : Table marketplaceIntroductions)
    (change : MarketplaceIntroduction → MarketplaceIntroduction → Prop) : Prop :=
  after = before ∨ ∃ row row', Table.Written before after row row' ∧ change row row'

section Contacts

variable {db : MarketDatabase}

theorem ensures_requestMarketplaceContact (command : RequestMarketplaceContact)
    (now : OffsetDateTime) :
    Ensures (requestMarketplaceContact command now) whatever db fun _ db' =>
      ∃ event, event.key = command.key ∧ ContactRecorded db.contacts db'.contacts event ∧
        Changes db.introductions db'.introductions fun row row' =>
          event.decision = .allowed ∧ row.tenantId = command.tenantId ∧
            row.id = command.introductionId ∧ row.demandPartyId = command.demandPartyId ∧
            row' = row.request := by
  unfold requestMarketplaceContact
  rw [ensures_bind]
  refine ensures_liftAny fun _ _ => ?_
  rw [ensures_bind]
  refine ensures_lockIntroduction fun current hcurrent htenant => ?_
  rw [ensures_ite]
  refine ⟨fun _ => trivial, fun hparty => ?_⟩
  rw [not_not] at hparty
  rw [ensures_ite]
  refine ⟨fun _ => ?_, fun _ => ?_⟩
  · rw [ensures_bind]
    refine ensures_insertMarketplaceContactEvent fun contacts hrecorded => ?_
    exact ⟨_, rfl, hrecorded, .inl rfl⟩
  · rw [ensures_ite]
    refine ⟨fun hproposed => ?_, fun _ => ?_⟩
    · rw [ensures_bind]
      refine ensures_updateIntroduction (fun _ => rfl) hcurrent (by simp [htenant, hproposed]) ?_
      intro introductions hwritten
      rw [ensures_bind]
      refine ensures_insertMarketplaceContactEvent fun contacts hrecorded => ?_
      rw [ensures_bind]
      refine ensures_lockIntroduction fun _ _ _ => ?_
      exact ⟨_, rfl, hrecorded, .inr ⟨current, _, hwritten, rfl, htenant,
        Table.key_of_lookup hcurrent, hparty, rfl⟩⟩
    · rw [ensures_bind]
      refine ensures_insertMarketplaceContactEvent fun contacts hrecorded => ?_
      rw [ensures_bind]
      refine ensures_lockIntroduction fun _ _ _ => ?_
      exact ⟨_, rfl, hrecorded, .inl rfl⟩

theorem ensures_acceptMarketplaceContact (command : AcceptMarketplaceContact)
    (now stamp : OffsetDateTime) :
    Ensures (acceptMarketplaceContact command now stamp) whatever db fun _ db' =>
      ∃ event, event.key = command.key ∧ ContactRecorded db.contacts db'.contacts event ∧
        Changes db.introductions db'.introductions fun row row' =>
          event.decision = .allowed ∧ row.tenantId = command.tenantId ∧
            row.id = command.introductionId ∧ row.supplyPartyId = command.supplyPartyId ∧
            row.status ∈ [.contactRequested, .contactReleased] ∧ row' = row.consent stamp := by
  unfold acceptMarketplaceContact
  rw [ensures_bind]
  refine ensures_liftAny fun _ _ => ?_
  rw [ensures_bind]
  refine ensures_lockIntroduction fun current hcurrent htenant => ?_
  rw [ensures_ite]
  refine ⟨fun _ => trivial, fun hparty => ?_⟩
  rw [not_not] at hparty
  rw [ensures_ite]
  refine ⟨fun _ => ?_, fun hopen => ?_⟩
  · rw [ensures_bind]
    refine ensures_insertMarketplaceContactEvent fun contacts hrecorded => ?_
    exact ⟨_, rfl, hrecorded, .inl rfl⟩
  · rw [not_or, not_not] at hopen
    rw [ensures_ite]
    refine ⟨fun hnone => ?_, fun _ => ?_⟩
    · rw [ensures_bind]
      refine ensures_updateIntroduction (fun _ => rfl) hcurrent (by simp [htenant, hnone]) ?_
      intro introductions hwritten
      rw [ensures_bind]
      refine ensures_insertMarketplaceContactEvent fun contacts hrecorded => ?_
      rw [ensures_bind]
      refine ensures_lockIntroduction fun _ _ _ => ?_
      exact ⟨_, rfl, hrecorded, .inr ⟨current, _, hwritten, rfl, htenant,
        Table.key_of_lookup hcurrent, hparty, hopen.2, rfl⟩⟩
    · rw [ensures_bind]
      refine ensures_insertMarketplaceContactEvent fun contacts hrecorded => ?_
      rw [ensures_bind]
      refine ensures_lockIntroduction fun _ _ _ => ?_
      exact ⟨_, rfl, hrecorded, .inl rfl⟩

/-- The decision of a release, as the audit keeps it. -/
def ReleaseMarketplaceContact.event (command : ReleaseMarketplaceContact)
    (targetPartyId : MarketplacePartyId) (decision : ContactDecision) : ContactEvent where
  key := command.key
  targetPartyId := targetPartyId
  decision := decision
  requestFingerprint := command.requestFingerprint

/-- A release is answered with the contact and recorded as allowed, or is refused and
recorded as denied. -/
theorem ensures_releaseMarketplaceContact (command : ReleaseMarketplaceContact)
    (now stamp : OffsetDateTime) :
    Ensures (releaseMarketplaceContact command now stamp) whatever db fun answer db' =>
      ∃ current targetPartyId, db.introductions.lookup command.introductionId = some current ∧
        current.tenantId = command.tenantId ∧
        current.counterpart command.actorPartyId = some targetPartyId ∧
        match answer with
        | .ok envelope => envelope.targetPartyId = targetPartyId ∧ now < current.expiresAt ∧
            current.status ∈ [.contactReleased, .completed] ∧
            current.supplyContactConsentAt ≠ none ∧
            Table.Written db.introductions db'.introductions current (current.release stamp) ∧
            ContactRecorded db.contacts db'.contacts (command.event targetPartyId .allowed)
        | .error error =>
            error = .conflict "supply consent is required before contact release" ∧
            db'.introductions = db.introductions ∧
            ContactRecorded db.contacts db'.contacts (command.event targetPartyId .denied) := by
  unfold releaseMarketplaceContact
  rw [ensures_bind]
  refine ensures_liftAny fun _ _ => ?_
  rw [ensures_bind]
  refine ensures_lockIntroduction fun current hcurrent htenant => ?_
  rw [ensures_bind, ensures_require]
  refine ⟨fun _ => trivial, fun targetPartyId htarget => ?_⟩
  rw [ensures_ite]
  refine ⟨fun _ => ?_, fun hopen => ?_⟩
  · rw [ensures_bind]
    refine ensures_insertMarketplaceContactEvent fun contacts hrecorded => ?_
    exact ⟨current, targetPartyId, hcurrent, htenant, htarget, rfl, rfl, hrecorded⟩
  · simp only [not_or, not_not, Int.not_le] at hopen
    obtain ⟨htime, hstatus, hconsent⟩ := hopen
    rw [ensures_bind]
    refine ensures_updateIntroduction (fun _ => rfl) hcurrent (by simp [htenant]) ?_
    intro introductions hwritten
    rw [ensures_bind]
    refine ensures_insertMarketplaceContactEvent fun contacts hrecorded => ?_
    rw [ensures_bind, ensures_get, ensures_bind, ensures_require]
    refine ⟨fun _ => trivial, fun contact _ => ?_⟩
    rw [ensures_bind]
    refine ensures_lockIntroduction fun _ _ _ => ?_
    exact ⟨current, targetPartyId, hcurrent, htenant, htarget, rfl, htime, hstatus, hconsent,
      hwritten, hrecorded⟩

end Contacts

/-! ## Steps -/

section Steps

variable [Jsonb] {db db' : MarketDatabase} {action : MarketAction}

/-- What one step may do to the introductions. -/
inductive IntroductionsMoved (db : MarketDatabase) (action : MarketAction)
    (db' : MarketDatabase) : Prop
  | still (same : db'.introductions = db.introductions)
  | proposed (row : MarketplaceIntroduction) (status : row.status = .proposed)
      (consent : row.supplyContactConsentAt = none)
      (rows : db'.introductions.rows = db.introductions.rows ++ [row])
  | requested (command : RequestMarketplaceContact) (now : OffsetDateTime)
      (row : MarketplaceIntroduction) (event : ContactEvent)
      (request : action = .requestContact command now) (tenant : row.tenantId = command.tenantId)
      (about : row.id = command.introductionId)
      (party : row.demandPartyId = command.demandPartyId)
      (recorded : db'.contacts.lookup command.key = some event)
      (allowed : event.decision = .allowed)
      (written : Table.Written db.introductions db'.introductions row row.request)
  | consented (command : AcceptMarketplaceContact) (now stamp : OffsetDateTime)
      (row : MarketplaceIntroduction) (event : ContactEvent)
      (accept : action = .acceptContact command now stamp)
      (tenant : row.tenantId = command.tenantId) (about : row.id = command.introductionId)
      (party : row.supplyPartyId = command.supplyPartyId)
      (status : row.status ∈ [.contactRequested, .contactReleased])
      (recorded : db'.contacts.lookup command.key = some event)
      (allowed : event.decision = .allowed)
      (written : Table.Written db.introductions db'.introductions row (row.consent stamp))
  | released (stamp : OffsetDateTime) (row : MarketplaceIntroduction)
      (written : Table.Written db.introductions db'.introductions row (row.release stamp))

omit [Jsonb] in
theorem IntroductionsMoved.of_same (hsame : db' = db) : IntroductionsMoved db action db' :=
  .still (congrArg MarketDatabase.introductions hsame)

theorem MarketDatabase.step_introductionsMoved (db : MarketDatabase) (action : MarketAction) :
    IntroductionsMoved db action (db.step action) := by
  cases action with
  | surround surroundings => exact .still rfl
  | createIntent command now looked =>
      exact .still (congrArg (·.2.1) ((keeps_createMarketplaceIntent command now
        looked).committed db))
  | updateIntent command =>
      exact .still (congrArg (·.2.1) ((keeps_updateMarketplaceIntent command).committed db))
  | updateDiscovery command now =>
      exact .still (congrArg (·.2.1) ((keeps_updateMarketplaceDemandDiscovery command
        now).committed db))
  | createOffer command now looked authorizing =>
      exact .still (congrArg (·.2.1) ((keeps_createMarketplaceOffer command now looked
        authorizing).committed db))
  | updateOffer command =>
      exact .still (congrArg (·.2.1) ((keeps_updateMarketplaceOffer command).committed db))
  | withdrawOffer command =>
      exact .still (congrArg (·.2.1) ((keeps_withdrawMarketplaceOffer command).committed db))
  | activateOffer tenantId offerId expectedVersion stamp =>
      exact .still (congrArg (·.2.1) ((keeps_activateMarketplaceOffer tenantId offerId
        expectedVersion stamp).committed db))
  | rejectOffer tenantId offerId expectedVersion =>
      exact .still (congrArg (·.2.1) ((keeps_rejectMarketplaceOffer tenantId offerId
        expectedVersion).committed db))
  | createIntroduction command now =>
      rcases committed_cases (ensures_createMarketplaceIntroduction command now)
        with ⟨_, hsame⟩ | ⟨_, _, hsame | ⟨row, hstatus, hconsent, hrows, _⟩⟩
      · exact .of_same hsame
      · exact .of_same hsame
      · exact .proposed row hstatus hconsent hrows
  | requestContact command now =>
      rcases committed_cases (ensures_requestMarketplaceContact command now)
        with ⟨_, hsame⟩ | ⟨_, _, event, hkey, hrecorded, hsame | ⟨row, _, hwritten, hchange⟩⟩
      · exact .of_same hsame
      · exact .still hsame
      · obtain ⟨hallowed, htenant, hid, hparty, rfl⟩ := hchange
        have hlookup := hrecorded.recorded
        rw [hkey] at hlookup
        exact .requested command now row event rfl htenant hid hparty hlookup hallowed hwritten
  | acceptContact command now stamp =>
      rcases committed_cases (ensures_acceptMarketplaceContact command now stamp)
        with ⟨_, hsame⟩ | ⟨_, _, event, hkey, hrecorded, hsame | ⟨row, _, hwritten, hchange⟩⟩
      · exact .of_same hsame
      · exact .still hsame
      · obtain ⟨hallowed, htenant, hid, hparty, hstatus, rfl⟩ := hchange
        have hlookup := hrecorded.recorded
        rw [hkey] at hlookup
        exact .consented command now stamp row event rfl htenant hid hparty hstatus hlookup
          hallowed hwritten
  | releaseContact command now stamp =>
      rcases committed_cases (ensures_releaseMarketplaceContact command now stamp)
        with ⟨_, hsame⟩ | ⟨_, answer, current, _, _, _, _, hanswer⟩
      · exact .of_same hsame
      · cases answer with
        | error error => exact .still hanswer.2.1
        | ok envelope => exact .released stamp current hanswer.2.2.2.2.1

/-- What is recorded in the audit stays there. -/
theorem MarketDatabase.step_recorded (db : MarketDatabase) (action : MarketAction)
    {key : ContactKey} {event : ContactEvent} (h : db.contacts.lookup key = some event) :
    (db.step action).contacts.lookup key = some event := by
  have hsame : (db.step action).contacts = db.contacts →
      (db.step action).contacts.lookup key = some event := by
    intro hcontacts
    rw [hcontacts]
    exact h
  have hrecorded : ∀ added, ContactRecorded db.contacts (db.step action).contacts added →
      (db.step action).contacts.lookup key = some event := by
    intro added hadded
    by_cases hkey : key = added.key
    · subst hkey
      rw [hadded.earlier event h]
      exact hadded.recorded
    · exact (hadded.others key hkey).trans h
  cases action with
  | surround surroundings => exact h
  | createIntent command now looked =>
      exact hsame (congrArg (·.2.2.1) ((keeps_createMarketplaceIntent command now
        looked).committed db))
  | updateIntent command =>
      exact hsame (congrArg (·.2.2.1) ((keeps_updateMarketplaceIntent command).committed db))
  | updateDiscovery command now =>
      exact hsame (congrArg (·.2.2.1) ((keeps_updateMarketplaceDemandDiscovery command
        now).committed db))
  | createOffer command now looked authorizing =>
      exact hsame (congrArg (·.2.2.1) ((keeps_createMarketplaceOffer command now looked
        authorizing).committed db))
  | updateOffer command =>
      exact hsame (congrArg (·.2.2.1) ((keeps_updateMarketplaceOffer command).committed db))
  | withdrawOffer command =>
      exact hsame (congrArg (·.2.2.1) ((keeps_withdrawMarketplaceOffer command).committed db))
  | activateOffer tenantId offerId expectedVersion stamp =>
      exact hsame (congrArg (·.2.2.1) ((keeps_activateMarketplaceOffer tenantId offerId
        expectedVersion stamp).committed db))
  | rejectOffer tenantId offerId expectedVersion =>
      exact hsame (congrArg (·.2.2.1) ((keeps_rejectMarketplaceOffer tenantId offerId
        expectedVersion).committed db))
  | createIntroduction command now =>
      exact hsame (congrArg (·.2.1) ((keeps_createMarketplaceIntroduction command
        now).committed db))
  | requestContact command now =>
      rcases committed_cases (ensures_requestMarketplaceContact command now)
        with ⟨_, hdb⟩ | ⟨_, _, added, _, hadded, _⟩
      · exact hsame (congrArg MarketDatabase.contacts hdb)
      · exact hrecorded added hadded
  | acceptContact command now stamp =>
      rcases committed_cases (ensures_acceptMarketplaceContact command now stamp)
        with ⟨_, hdb⟩ | ⟨_, _, added, _, hadded, _⟩
      · exact hsame (congrArg MarketDatabase.contacts hdb)
      · exact hrecorded added hadded
  | releaseContact command now stamp =>
      rcases committed_cases (ensures_releaseMarketplaceContact command now stamp)
        with ⟨_, hdb⟩ | ⟨_, answer, _, _, _, _, _, hanswer⟩
      · exact hsame (congrArg MarketDatabase.contacts hdb)
      · cases answer with
        | error error => exact hrecorded _ hanswer.2.2
        | ok envelope => exact hrecorded _ hanswer.2.2.2.2.2

theorem MarketDatabase.run_recorded (actions : List MarketAction) {key : ContactKey}
    {event : ContactEvent} (h : db.contacts.lookup key = some event) :
    (db.run actions).contacts.lookup key = some event := by
  induction actions generalizing db with
  | nil => exact h
  | cons action rest ih => exact ih (db.step_recorded action h)

/-! ## Runs -/

/-- The demand side has asked for the contact, and the audit has it. -/
def Requested (start : MarketDatabase) (actions : List MarketAction)
    (introduction : MarketplaceIntroduction) : Prop :=
  ∃ earlier command now later event,
    actions = earlier ++ .requestContact command now :: later ∧
    introduction.tenantId = command.tenantId ∧ introduction.id = command.introductionId ∧
    introduction.demandPartyId = command.demandPartyId ∧
    (start.run (earlier ++ [.requestContact command now])).contacts.lookup command.key =
      some event ∧ event.decision = .allowed

/-- The supply side has consented, and the audit has it. -/
def Consented (start : MarketDatabase) (actions : List MarketAction)
    (introduction : MarketplaceIntroduction) : Prop :=
  ∃ earlier command now stamp later event,
    actions = earlier ++ .acceptContact command now stamp :: later ∧
    introduction.tenantId = command.tenantId ∧ introduction.id = command.introductionId ∧
    introduction.supplyPartyId = command.supplyPartyId ∧
    (start.run (earlier ++ [.acceptContact command now stamp])).contacts.lookup command.key =
      some event ∧ event.decision = .allowed

/-- An introduction that is not merely proposed was asked for, and consent was given. -/
structure Backed (start : MarketDatabase) (actions : List MarketAction)
    (introduction : MarketplaceIntroduction) : Prop where
  requested : introduction.status ≠ .proposed → Requested start actions introduction
  consented : introduction.supplyContactConsentAt ≠ none → Consented start actions introduction

variable {start : MarketDatabase} {actions : List MarketAction}

theorem Backed.snoc {introduction : MarketplaceIntroduction}
    (h : Backed start actions introduction) (action : MarketAction) :
    Backed start (actions ++ [action]) introduction := by
  refine ⟨fun hstatus => ?_, fun hconsent => ?_⟩
  · obtain ⟨earlier, command, now, later, event, rfl, hrest⟩ := h.requested hstatus
    exact ⟨earlier, command, now, later ++ [action], event, by simp, hrest⟩
  · obtain ⟨earlier, command, now, stamp, later, event, rfl, hrest⟩ := h.consented hconsent
    exact ⟨earlier, command, now, stamp, later ++ [action], event, by simp, hrest⟩

theorem backed_step
    (h : ∀ introduction ∈ (start.run actions).introductions.rows,
      Backed start actions introduction) (action : MarketAction) :
    ∀ introduction ∈ (start.run (actions ++ [action])).introductions.rows,
      Backed start (actions ++ [action]) introduction := by
  have hrun := MarketDatabase.run_snoc start actions action
  intro introduction hmem
  rw [hrun] at hmem
  cases MarketDatabase.step_introductionsMoved (start.run actions) action with
  | still hsame =>
      rw [hsame] at hmem
      exact (h introduction hmem).snoc action
  | proposed row hstatus hconsent hrows =>
      rw [hrows, List.mem_append, List.mem_singleton] at hmem
      rcases hmem with hmem | rfl
      · exact (h introduction hmem).snoc action
      · exact ⟨fun hne => absurd hstatus hne, fun hne => absurd hconsent hne⟩
  | requested command now row event haction htenant hid hparty hrecorded hallowed hwritten =>
      rcases hwritten.mem_cases hmem with rfl | ⟨hmem, _⟩
      · subst haction
        have hbacked := (h row (Table.mem_of_lookup hwritten.stored)).snoc
          (.requestContact command now)
        refine ⟨fun _ => ?_, hbacked.consented⟩
        rw [← hrun] at hrecorded
        exact ⟨actions, command, now, [], event, rfl, htenant, hid, hparty, hrecorded, hallowed⟩
      · exact (h introduction hmem).snoc action
  | consented command now stamp row event haction htenant hid hparty hstatus hrecorded hallowed
      hwritten =>
      rcases hwritten.mem_cases hmem with rfl | ⟨hmem, _⟩
      · subst haction
        have hbacked := (h row (Table.mem_of_lookup hwritten.stored)).snoc
          (.acceptContact command now stamp)
        refine ⟨fun _ => hbacked.requested ?_, fun _ => ?_⟩
        · rintro hproposed
          rw [hproposed] at hstatus
          simp at hstatus
        · rw [← hrun] at hrecorded
          exact ⟨actions, command, now, stamp, [], event, rfl, htenant, hid, hparty, hrecorded,
            hallowed⟩
      · exact (h introduction hmem).snoc action
  | released stamp row hwritten =>
      rcases hwritten.mem_cases hmem with rfl | ⟨hmem, _⟩
      · have hbacked := (h row (Table.mem_of_lookup hwritten.stored)).snoc action
        exact ⟨hbacked.requested, hbacked.consented⟩
      · exact (h introduction hmem).snoc action

theorem run_backed (surroundings : MarketSurroundings) (actions : List MarketAction) :
    ∀ introduction ∈ ((MarketDatabase.initial surroundings).run actions).introductions.rows,
      Backed (.initial surroundings) actions introduction := by
  induction actions using List.reverseRecOn with
  | nil =>
      intro introduction hmem
      cases hmem
  | append_singleton earlier action ih => exact backed_step ih action

/-- The audit has one decision under a key, and this is it. -/
def DecidedOnce (contacts : Table contactEvents) (key : ContactKey)
    (decision : ContactDecision) : Prop :=
  ∃ event ∈ contacts.rows, event.key = key ∧ event.decision = decision ∧
    ∀ other ∈ contacts.rows, other.key = key → other = event

omit [Jsonb] in
theorem decidedOnce_of_lookup {contacts : Table contactEvents} {key : ContactKey}
    {event : ContactEvent} (h : contacts.lookup key = some event) :
    DecidedOnce contacts key event.decision := by
  obtain ⟨hmem, hkey⟩ := Table.lookup_eq_some_iff.mp h
  refine ⟨event, hmem, hkey, rfl, fun other hother hsame => ?_⟩
  have hlookup : contacts.lookup other.key = some other := Table.lookup_of_mem hother
  rw [hsame, h] at hlookup
  exact (Option.some.inj hlookup).symm

/-- A contact is given to one side of an introduction, of the other side, after the request
and the consent and before the end, and every decision is in the audit for good.  What is
refused without a decision leaves the audit alone. -/
theorem contact_backed_by_consent (surroundings : MarketSurroundings)
    (actions later : List MarketAction) (command : ReleaseMarketplaceContact)
    (now stamp : OffsetDateTime) :
    let start := MarketDatabase.initial surroundings
    let db := start.run actions
    let db' := db.step (.releaseContact command now stamp)
    (∀ envelope, (releaseMarketplaceContact command now stamp).run' db = .ok (.ok envelope) →
      (∃ introduction, db.introductions.lookup command.introductionId = some introduction ∧
        introduction.tenantId = command.tenantId ∧
        introduction.counterpart command.actorPartyId = some envelope.targetPartyId ∧
        now < introduction.expiresAt ∧ Requested start actions introduction ∧
        Consented start actions introduction) ∧
      DecidedOnce (db'.run later).contacts command.key .allowed) ∧
    (∀ error, (releaseMarketplaceContact command now stamp).run' db = .ok (.error error) →
      DecidedOnce (db'.run later).contacts command.key .denied) ∧
    (∀ introduction, db.introductions.lookup command.introductionId = some introduction →
      introduction.counterpart command.actorPartyId = none → db' = db) ∧
    (∀ stored, db.contacts.lookup command.key = some stored →
      DecidedOnce (db'.run later).contacts command.key stored.decision) := by
  intro start db db'
  have hensures : Ensures _ whatever db _ := ensures_releaseMarketplaceContact command now stamp
  have hcommitted : ∀ answer,
      (releaseMarketplaceContact command now stamp).run' db = .ok answer →
      (releaseMarketplaceContact command now stamp).run db = .ok (answer, db') :=
    fun answer hanswer => run_of_result hanswer
  refine ⟨fun envelope hanswer => ?_, fun error hanswer => ?_, fun introduction hlookup hother => ?_,
    fun stored hstored => ?_⟩
  · obtain ⟨introduction, target, hlookup, htenant, htarget, rfl, htime, hstatus, hconsent, _,
      hrecorded⟩ := hensures.of_ok (hcommitted _ hanswer)
    have hbacked := run_backed surroundings actions introduction (Table.mem_of_lookup hlookup)
    have hrequested : introduction.status ≠ .proposed := by
      rintro hproposed
      rw [hproposed] at hstatus
      simp at hstatus
    refine ⟨⟨introduction, hlookup, htenant, htarget, htime, hbacked.requested hrequested,
      hbacked.consented hconsent⟩, ?_⟩
    exact decidedOnce_of_lookup (MarketDatabase.run_recorded later hrecorded.recorded)
  · obtain ⟨_, target, _, _, _, _, _, hrecorded⟩ := hensures.of_ok (hcommitted _ hanswer)
    exact decidedOnce_of_lookup (MarketDatabase.run_recorded later hrecorded.recorded)
  · rcases committed_cases hensures with ⟨_, hsame⟩ | ⟨_, _, current, _, hcurrent, _, htarget, _⟩
    · exact hsame
    · have hsame : current = introduction := Option.some.inj (hcurrent.symm.trans hlookup)
      rw [hsame, hother] at htarget
      cases htarget
  · exact decidedOnce_of_lookup
      (MarketDatabase.run_recorded later (db.step_recorded _ hstored))

end Steps

/-! The lamp is found, asked for and agreed upon. -/

def sampleParty (id : MarketplacePartyId) (contact : Bytes) : MarketplaceParty where
  tenantId := ⟨2⟩
  id := id
  displayName := "someone"
  contactCiphertext := contact
  contactNonce := []
  contactKeyVersion := 1
  storeId := none
  active := true

def lampMarket : MarketSurroundings :=
  { bareMarket with parties := [sampleParty ⟨4⟩ [44], sampleParty ⟨5⟩ [55]] }

def lampIntroduction : CreateMarketplaceIntroduction where
  introductionId := ⟨7⟩
  tenantId := ⟨2⟩
  participantId := ⟨5⟩
  intentId := ⟨1⟩
  offerId := ⟨1⟩
  score := some 1
  reasons := []
  idempotencyKey := "meet"
  expiresAt := 1000000

def lampIntroduced : List MarketAction :=
  [.createIntent lampWish 0 (.initial lampMarket),
    .createOffer lampOffer 0 (.initial lampMarket) lampMarket, .activateOffer ⟨2⟩ ⟨1⟩ 1 0,
    .createIntroduction lampIntroduction 0]

def lampAgreed : List MarketAction :=
  lampIntroduced ++ [.requestContact ⟨⟨2⟩, ⟨7⟩, ⟨5⟩, "ask", none⟩ 1,
    .acceptContact ⟨⟨2⟩, ⟨7⟩, ⟨4⟩, "agree"⟩ 2 2]

/-- Someone else tries to read a contact of a known introduction: the audit stays empty. -/
theorem stranger_unrecorded :
    let _ : Jsonb := plainJsonb
    let db := (MarketDatabase.initial lampMarket).run lampIntroduced
    let command : ReleaseMarketplaceContact := ⟨⟨2⟩, ⟨7⟩, ⟨6⟩, "peek", none⟩
    (db.introductions.lookup ⟨7⟩).isSome ∧
      (releaseMarketplaceContact command 3 3).run' db =
        .error (.forbidden "contact is available only to the matched participants") ∧
      (db.step (.releaseContact command 3 3)).contacts.rows = [] := by
  intro _ db command
  refine ⟨?_, ?_, ?_⟩
  · decide +kernel
  · decide +kernel
  · decide +kernel

theorem lampAgreed_released :
    let _ : Jsonb := plainJsonb
    let start := MarketDatabase.initial lampMarket
    let command : ReleaseMarketplaceContact := ⟨⟨2⟩, ⟨7⟩, ⟨5⟩, "read", none⟩
    ∃ envelope introduction,
      (releaseMarketplaceContact command 3 3).run' (start.run lampAgreed) =
        .ok (.ok envelope) ∧ envelope.ciphertext = [44] ∧
      Requested start lampAgreed introduction ∧ Consented start lampAgreed introduction := by
  intro _ start command
  have hcontact : (((releaseMarketplaceContact command 3 3).run' (start.run
      lampAgreed)).toOption.bind Except.toOption).map MarketplaceContactEnvelope.ciphertext =
      some [44] := by
    decide +kernel
  obtain ⟨envelope, hanswer, hcontact⟩ : ∃ envelope,
      (releaseMarketplaceContact command 3 3).run' (start.run lampAgreed) = .ok (.ok envelope) ∧
        envelope.ciphertext = [44] := by
    generalize (releaseMarketplaceContact command 3 3).run' (start.run lampAgreed) = answer
      at hcontact ⊢
    rcases answer with _ | _ | envelope
    · cases hcontact
    · cases hcontact
    · exact ⟨envelope, rfl, Option.some.inj hcontact⟩
  obtain ⟨⟨introduction, _, _, _, _, hrequested, hconsented⟩, _⟩ :=
    (contact_backed_by_consent lampMarket lampAgreed [] command 3 3).1 envelope hanswer
  exact ⟨envelope, introduction, hanswer, hcontact, hrequested, hconsented⟩

end MatchPlane
