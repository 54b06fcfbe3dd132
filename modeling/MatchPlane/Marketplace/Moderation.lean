import MatchPlane.Marketplace.Frames

/-!
# Moderated offers

An offer is shown only after a moderator has named the version that may be shown.
Every change takes the version that it names and leaves the next one, so no other
change can name the same one, and every edit takes the offer back to a draft.
-/

namespace MatchPlane

open MatchPlane.Library

/-- Two rows agree on everything that is shown of an offer. -/
def MarketplaceOffer.SameContent (offer other : MarketplaceOffer) : Prop :=
  offer = { other with
    status := offer.status
    publishedAt := offer.publishedAt
    version := offer.version }

/-- The offer and the version that an operation says it is about. -/
def MarketAction.names : MarketAction → Option (MarketplaceOfferId × Int)
  | .updateOffer command => some (command.offerId, command.expectedVersion)
  | .withdrawOffer command => some (command.offerId, command.expectedVersion)
  | .activateOffer _ offerId expectedVersion _ => some (offerId, expectedVersion)
  | .rejectOffer _ offerId expectedVersion => some (offerId, expectedVersion)
  | _ => none

/-! ## Operations -/

/-- The offer that is found under the expected version is changed. -/
def OfferChanged (db : MarketDatabase) (offerId : MarketplaceOfferId) (expectedVersion : Int)
    (change : MarketplaceOffer → MarketplaceOffer) (db' : MarketDatabase) : Prop :=
  ∃ row, row.id = offerId ∧ row.version = expectedVersion ∧
    Table.Written db.offers db'.offers row (change row)

def MarketplaceOffer.hide (offer : MarketplaceOffer) : MarketplaceOffer :=
  { offer with
    status := .withdrawn
    version := offer.version + 1 }

def MarketplaceOffer.publish (stamp : OffsetDateTime) (offer : MarketplaceOffer) :
    MarketplaceOffer :=
  { offer with
    status := .active
    publishedAt := offer.publishedAt.or (some stamp)
    version := offer.version + 1 }

/-- An offer with other content, which is a draft again. -/
def UpdateMarketplaceOffer.edit [Jsonb] (command : UpdateMarketplaceOffer)
    (offer : MarketplaceOffer) : MarketplaceOffer :=
  let (attributes, quantity) := compatibilityWrite offer (Jsonb.stored command.attributes)
  { offer with
    displayName := command.displayName
    attributes := attributes
    terms := Jsonb.stored command.terms
    availableQuantity := quantity
    status := .draft
    publishedAt := none
    version := offer.version + 1 }

variable {db : MarketDatabase}

theorem ensures_lockMarketplaceOffer {tenantId : TenantId} {domainId : DomainId}
    {offerId : MarketplaceOfferId} {post : MarketplaceOffer → MarketDatabase → Prop}
    (h : ∀ row, db.offers.lookup offerId = some row → post row db) :
    Ensures (lockMarketplaceOffer tenantId domainId offerId) whatever db post := by
  simp only [lockMarketplaceOffer, ensures_bind, ensures_get, ensures_require]
  refine ⟨fun _ => trivial, fun row hrow => ?_⟩
  rw [Option.filter_eq_some_iff] at hrow
  exact h row hrow.1

theorem ensures_ensureOfferVersion {offer : MarketplaceOffer} {expectedVersion : Int}
    {post : Unit → MarketDatabase → Prop} (h : offer.version = expectedVersion → post () db) :
    Ensures (liftM (ensureOfferVersion offer expectedVersion) : Tx MarketDatabase Unit)
      whatever db post := by
  unfold ensureOfferVersion
  split
  · trivial
  · split
    · rename_i hversion
      exact h hversion
    · trivial

theorem ensures_withdrawMarketplaceOffer (command : WithdrawMarketplaceOffer) :
    Ensures (withdrawMarketplaceOffer command) whatever db fun _ db' =>
      OfferChanged db command.offerId command.expectedVersion MarketplaceOffer.hide db' := by
  unfold withdrawMarketplaceOffer
  rw [ensures_bind]
  refine ensures_lockMarketplaceOffer fun current hcurrent => ?_
  rw [ensures_bind]
  refine ensures_liftAny fun _ _ => ?_
  rw [ensures_bind]
  refine ensures_ensureOfferVersion fun hversion => ?_
  rw [ensures_ite]
  refine ⟨fun _ => trivial, fun _ => ?_⟩
  rw [ensures_bind, ensures_on]
  refine Table.ensures_update_cases (fun _ => rfl) trivial (fun _ => trivial) ?_
  intro row offers hrow _ hwritten
  have hsame : current = row := Option.some.inj (hcurrent.symm.trans hrow)
  subst hsame
  exact ⟨current, Table.key_of_lookup hrow, hversion, hwritten⟩

theorem ensures_rejectMarketplaceOffer (tenantId : TenantId) (offerId : MarketplaceOfferId)
    (expectedVersion : Int) :
    Ensures (rejectMarketplaceOffer tenantId offerId expectedVersion) whatever db
      fun _ db' => OfferChanged db offerId expectedVersion MarketplaceOffer.hide db' := by
  unfold rejectMarketplaceOffer
  rw [ensures_ite]
  refine ⟨fun _ => trivial, fun _ => ?_⟩
  rw [ensures_bind, ensures_on]
  refine Table.ensures_update_cases (fun _ => rfl) trivial (fun _ => trivial) ?_
  intro row offers hrow hguard hwritten
  simp only [decide_eq_true_eq] at hguard
  exact ⟨row, Table.key_of_lookup hrow, hguard.2.1, hwritten⟩

/-- An operation is refused, or changes the offer under the version that it names. -/
theorem changed_or_refused {α : Type} {x : Tx MarketDatabase α} {offerId : MarketplaceOfferId}
    {expectedVersion : Int} {change : MarketplaceOffer → MarketplaceOffer}
    (h : Ensures x whatever db fun _ db' =>
      OfferChanged db offerId expectedVersion change db') :
    (succeeds x db = false ∧ committed x db = db) ∨
      (succeeds x db = true ∧ OfferChanged db offerId expectedVersion change (committed x db)) := by
  rcases committed_cases h with hrefused | ⟨haccepted, _, hchanged⟩
  · exact .inl hrefused
  · exact .inr ⟨haccepted, hchanged⟩

section Moderation

variable [Jsonb]

theorem ensures_updateMarketplaceOffer (command : UpdateMarketplaceOffer) :
    Ensures (updateMarketplaceOffer command) whatever db fun _ db' =>
      OfferChanged db command.offerId command.expectedVersion command.edit db' := by
  unfold updateMarketplaceOffer
  rw [ensures_bind]
  refine ensures_liftAny fun _ _ => ?_
  rw [ensures_bind]
  refine ensures_lockMarketplaceOffer fun current hcurrent => ?_
  rw [ensures_bind]
  refine ensures_liftAny fun _ _ => ?_
  rw [ensures_bind]
  refine ensures_ensureOfferVersion fun hversion => ?_
  rw [ensures_ite]
  refine ⟨fun _ => trivial, fun _ => ?_⟩
  rw [ensures_bind, ensures_on]
  refine Table.ensures_update_cases (fun _ => rfl) trivial (fun _ => trivial) ?_
  intro row offers hrow _ hwritten
  have hsame : current = row := Option.some.inj (hcurrent.symm.trans hrow)
  subst hsame
  exact ⟨current, Table.key_of_lookup hrow, hversion, hwritten⟩

theorem ensures_activateMarketplaceOffer (tenantId : TenantId) (offerId : MarketplaceOfferId)
    (expectedVersion : Int) (stamp : OffsetDateTime) :
    Ensures (activateMarketplaceOffer tenantId offerId expectedVersion stamp) whatever db
      fun _ db' => OfferChanged db offerId expectedVersion (MarketplaceOffer.publish stamp) db' ∧
        ∀ row, db.offers.lookup offerId = some row → row.tenantId = tenantId := by
  unfold activateMarketplaceOffer
  rw [ensures_ite]
  refine ⟨fun _ => trivial, fun _ => ?_⟩
  rw [ensures_bind, ensures_get, ensures_bind, ensures_on]
  refine Table.ensures_update_cases (fun _ => rfl) trivial (fun _ => trivial) ?_
  intro row offers hrow hguard hwritten
  simp only [decide_eq_true_eq] at hguard
  refine ⟨⟨row, Table.key_of_lookup hrow, hguard.2.1, hwritten⟩, fun found hfound => ?_⟩
  have hsame : found = row := Option.some.inj (hfound.symm.trans hrow)
  rw [hsame]
  exact hguard.1

/-- The store of the party that makes the request. -/
def CreateMarketplaceOffer.store (command : CreateMarketplaceOffer)
    (surroundings : MarketSurroundings) : Option Uuid :=
  surroundings.partyStore command.tenantId command.supplyPartyId

/-- A request is answered with the row that it finds, or with the row that it stores. -/
theorem ensures_createMarketplaceOffer (command : CreateMarketplaceOffer) (now : OffsetDateTime)
    (looked : MarketDatabase) (authorizing : MarketSurroundings) :
    Ensures (createMarketplaceOffer command now looked authorizing) whatever db
      fun outcome db' => validateOffer command now = .ok () ∧
        ((selectOffer looked command = some outcome.offer ∧ outcome.offer.Same command ∧
            outcome.duplicate = true ∧ db' = db) ∨
          (selectOffer looked command = none ∧ outcome.duplicate = false ∧
            outcome.offer = command.row (command.store db.surroundings) ∧
            db'.offers.rows = db.offers.rows ++ [outcome.offer] ∧
            db'.surroundings = db.surroundings)) := by
  unfold createMarketplaceOffer
  rw [ensures_bind]
  refine ensures_liftAny fun _ hvalid => ?_
  cases hselect : selectOffer looked command with
  | some offer =>
      simp only [ensures_bind, ensureSameOffer]
      refine ensures_liftAny fun _ hsame => ?_
      split at hsame
      · rename_i hcontent
        exact ⟨hvalid, .inl ⟨rfl, hcontent, rfl, rfl⟩⟩
      · cases hsame
  | none =>
      rw [ensures_ite]
      refine ⟨fun _ => trivial, fun _ => ?_⟩
      unfold insertOffer
      simp only [ensures_bind, ensures_get]
      rw [ensures_ite]
      refine ⟨fun _ => trivial, fun _ => ?_⟩
      rw [ensures_bind, ensures_on]
      refine Table.ensures_insert trivial fun offers hrows => ?_
      exact ⟨hvalid, .inr ⟨trivial, rfl, rfl, hrows, rfl⟩⟩

/-! ## Steps -/

/-- The operation on an offer is not refused. -/
def MarketDatabase.accepts (db : MarketDatabase) : MarketAction → Bool
  | .updateOffer command => succeeds (updateMarketplaceOffer command) db
  | .withdrawOffer command => succeeds (withdrawMarketplaceOffer command) db
  | .activateOffer tenantId offerId expectedVersion stamp =>
      succeeds (activateMarketplaceOffer tenantId offerId expectedVersion stamp) db
  | .rejectOffer tenantId offerId expectedVersion =>
      succeeds (rejectMarketplaceOffer tenantId offerId expectedVersion) db
  | .createOffer command now looked authorizing =>
      succeeds (createMarketplaceOffer command now looked authorizing) db
  | _ => false

/-- What one step may do to the offers. -/
inductive OffersMoved (db : MarketDatabase) (action : MarketAction) (db' : MarketDatabase) : Prop
  | still (same : db'.offers = db.offers)
      (unnamed : action.names = none ∨ db.accepts action = false)
  | created (row : MarketplaceOffer) (draft : row.status = .draft) (version : row.version = 1)
      (unnamed : action.names = none) (rows : db'.offers.rows = db.offers.rows ++ [row])
  | edited (command : UpdateMarketplaceOffer) (row : MarketplaceOffer)
      (update : action = .updateOffer command) (accepted : db.accepts action = true)
      (names : action.names = some (row.id, row.version))
      (written : Table.Written db.offers db'.offers row (command.edit row))
  | hidden (row : MarketplaceOffer) (accepted : db.accepts action = true)
      (names : action.names = some (row.id, row.version))
      (written : Table.Written db.offers db'.offers row row.hide)
  | shown (row : MarketplaceOffer) (stamp : OffsetDateTime) (accepted : db.accepts action = true)
      (activation : action = .activateOffer row.tenantId row.id row.version stamp)
      (written : Table.Written db.offers db'.offers row (row.publish stamp))

theorem OffersMoved.of_refused {action : MarketAction} {db' : MarketDatabase} (hsame : db' = db)
    (hrefused : db.accepts action = false) : OffersMoved db action db' :=
  .still (congrArg MarketDatabase.offers hsame) (.inr hrefused)

theorem OffersMoved.of_keeps {α τ : Type} {x : Tx MarketDatabase α} {action : MarketAction}
    {view : MarketDatabase → Table marketplaceOffers × τ}
    (hview : ∀ db, (view db).1 = db.offers) (hkeeps : Keeps view x)
    (hnames : action.names = none) : OffersMoved db action (committed x db) := by
  have hsame := congrArg Prod.fst (hkeeps.committed db)
  rw [hview, hview] at hsame
  exact .still hsame (.inl hnames)

theorem MarketDatabase.step_offersMoved (db : MarketDatabase) (action : MarketAction) :
    OffersMoved db action (db.step action) := by
  cases action with
  | surround surroundings => exact .still rfl (.inl rfl)
  | createIntent command now looked =>
      exact .of_keeps (fun _ => rfl) (keeps_createMarketplaceIntent command now looked) rfl
  | updateIntent command =>
      exact .of_keeps (fun _ => rfl) (keeps_updateMarketplaceIntent command) rfl
  | updateDiscovery command now =>
      exact .of_keeps (fun _ => rfl) (keeps_updateMarketplaceDemandDiscovery command now) rfl
  | createOffer command now looked authorizing =>
      rcases committed_cases (ensures_createMarketplaceOffer command now looked authorizing)
        with ⟨_, hsame⟩ | ⟨_, _, _, ⟨_, _, _, hsame⟩ | ⟨_, _, hnew, hrows, _⟩⟩
      · exact .still (congrArg MarketDatabase.offers hsame) (.inl rfl)
      · exact .still (congrArg MarketDatabase.offers hsame) (.inl rfl)
      · exact .created _ (by rw [hnew]; rfl) (by rw [hnew]; rfl) rfl hrows
  | updateOffer command =>
      rcases changed_or_refused (ensures_updateMarketplaceOffer command)
        with ⟨hrefused, hsame⟩ | ⟨haccepted, row, hid, hversion, hwritten⟩
      · exact .of_refused hsame hrefused
      · refine .edited command row rfl haccepted ?_ hwritten
        rw [hid, hversion]
        rfl
  | withdrawOffer command =>
      rcases changed_or_refused (ensures_withdrawMarketplaceOffer command)
        with ⟨hrefused, hsame⟩ | ⟨haccepted, row, hid, hversion, hwritten⟩
      · exact .of_refused hsame hrefused
      · refine .hidden row haccepted ?_ hwritten
        rw [hid, hversion]
        rfl
  | activateOffer tenantId offerId expectedVersion stamp =>
      rcases committed_cases (ensures_activateMarketplaceOffer tenantId offerId expectedVersion
        stamp) with ⟨hrefused, hsame⟩ | ⟨haccepted, _, ⟨row, hid, hversion, hwritten⟩, htenant⟩
      · exact .of_refused hsame hrefused
      · subst hid hversion
        have hstored := htenant row hwritten.stored
        subst hstored
        exact .shown row stamp haccepted rfl hwritten
  | rejectOffer tenantId offerId expectedVersion =>
      rcases changed_or_refused (ensures_rejectMarketplaceOffer tenantId offerId expectedVersion)
        with ⟨hrefused, hsame⟩ | ⟨haccepted, row, hid, hversion, hwritten⟩
      · exact .of_refused hsame hrefused
      · refine .hidden row haccepted ?_ hwritten
        rw [hid, hversion]
        rfl
  | createIntroduction command now =>
      exact .of_keeps (fun _ => rfl) (keeps_createMarketplaceIntroduction command now) rfl
  | requestContact command now =>
      have hkeeps := keeps_requestMarketplaceContact command now
      exact .still (congrArg (·.2.1) (hkeeps.committed db)) (.inl rfl)
  | acceptContact command now stamp =>
      have hkeeps := keeps_acceptMarketplaceContact command now stamp
      exact .still (congrArg (·.2.1) (hkeeps.committed db)) (.inl rfl)
  | releaseContact command now stamp =>
      have hkeeps := keeps_releaseMarketplaceContact command now stamp
      exact .still (congrArg (·.2.1) (hkeeps.committed db)) (.inl rfl)

/-! ## Versions -/

variable {db' : MarketDatabase} {action : MarketAction}

/-- What one step may do to one offer. -/
inductive OfferMoved (db : MarketDatabase) (action : MarketAction) (row : MarketplaceOffer) :
    MarketplaceOffer → Prop
  | same : OfferMoved db action row row
  | edited (command : UpdateMarketplaceOffer) (update : action = .updateOffer command)
      (about : command.offerId = row.id) (accepted : db.accepts action = true) :
      OfferMoved db action row (command.edit row)
  | hidden : OfferMoved db action row row.hide
  | shown (stamp : OffsetDateTime) : OfferMoved db action row (row.publish stamp)

/-- A step leaves an offer alone or takes it to the next version. -/
theorem OfferMoved.version {row row' : MarketplaceOffer} (h : OfferMoved db action row row') :
    row' = row ∨ row'.version = row.version + 1 := by
  cases h with
  | same => exact .inl rfl
  | edited command _ _ _ => exact .inr rfl
  | hidden => exact .inr rfl
  | shown stamp => exact .inr rfl

theorem OffersMoved.of_lookup (h : OffersMoved db action db') {offerId : MarketplaceOfferId}
    {row : MarketplaceOffer} (hrow : db.offers.lookup offerId = some row) :
    ∃ row', db'.offers.lookup offerId = some row' ∧ OfferMoved db action row row' := by
  have hwritten : ∀ written written' : MarketplaceOffer,
      Table.Written db.offers db'.offers written written' →
      OfferMoved db action written written' →
      ∃ row', db'.offers.lookup offerId = some row' ∧ OfferMoved db action row row' := by
    intro written written' hwritten hmoved
    by_cases hid : offerId = written.id
    · subst hid
      have hsame : row = written := Option.some.inj (hrow.symm.trans hwritten.stored)
      subst hsame
      exact ⟨written', hwritten.lookup_self, hmoved⟩
    · exact ⟨row, (hwritten.lookup_of_ne hid).trans hrow, .same⟩
  cases h with
  | still hsame _ =>
      rw [hsame]
      exact ⟨row, hrow, .same⟩
  | created added _ _ _ hrows =>
      exact ⟨row, Table.lookup_inserted_of_some hrows hrow, .same⟩
  | edited command written hupdate haccepted hnames hwrite =>
      have habout : command.offerId = written.id := by
        subst hupdate
        exact congrArg Prod.fst (Option.some.inj hnames)
      exact hwritten written _ hwrite (.edited command hupdate habout haccepted)
  | hidden written _ _ hwrite => exact hwritten written _ hwrite .hidden
  | shown written stamp _ _ hwrite => exact hwritten written _ hwrite (.shown stamp)

/-- An accepted operation finds the version that it names and leaves the next one. -/
theorem OffersMoved.of_accepted (h : OffersMoved db action db') {offerId : MarketplaceOfferId}
    {version : Int} (haccepted : db.accepts action = true)
    (hnames : action.names = some (offerId, version)) :
    ∃ row row', db.offers.lookup offerId = some row ∧ row.version = version ∧
      db'.offers.lookup offerId = some row' ∧ row'.version = version + 1 := by
  cases h with
  | still _ hunnamed =>
      rcases hunnamed with hunnamed | hrefused
      · rw [hunnamed] at hnames
        cases hnames
      · rw [hrefused] at haccepted
        cases haccepted
  | created _ _ _ hunnamed _ =>
      rw [hunnamed] at hnames
      cases hnames
  | edited command row _ _ hnamed hwritten =>
      rw [hnamed] at hnames
      cases hnames
      exact ⟨row, _, hwritten.stored, rfl, hwritten.lookup_self, rfl⟩
  | hidden row _ hnamed hwritten =>
      rw [hnamed] at hnames
      cases hnames
      exact ⟨row, _, hwritten.stored, rfl, hwritten.lookup_self, rfl⟩
  | shown row stamp _ hactivation hwritten =>
      subst hactivation
      cases hnames
      exact ⟨row, _, hwritten.stored, rfl, hwritten.lookup_self, rfl⟩

theorem MarketDatabase.run_version (actions : List MarketAction) {offerId : MarketplaceOfferId}
    {row : MarketplaceOffer} (hrow : db.offers.lookup offerId = some row) :
    ∃ row', (db.run actions).offers.lookup offerId = some row' ∧ row.version ≤ row'.version := by
  induction actions generalizing db row with
  | nil => exact ⟨row, hrow, le_refl _⟩
  | cons action rest ih =>
      obtain ⟨next, hnext, hmoved⟩ := (db.step_offersMoved action).of_lookup hrow
      obtain ⟨last, hlast, hle⟩ := ih hnext
      refine ⟨last, hlast, ?_⟩
      rcases hmoved.version with rfl | hversion <;> omega

/-! ## Moderated content -/

/-- A moderator named the version whose content the offer still has. -/
def Moderated (start : MarketDatabase) (actions : List MarketAction) (offer : MarketplaceOffer) :
    Prop :=
  ∃ earlier later version stamp reviewed,
    actions = earlier ++ .activateOffer offer.tenantId offer.id version stamp :: later ∧
    (start.run earlier).accepts
      (.activateOffer offer.tenantId offer.id version stamp) = true ∧
    (start.run earlier).offers.lookup offer.id = some reviewed ∧ reviewed.version = version ∧
    offer.SameContent reviewed

theorem Moderated.snoc {start : MarketDatabase} {actions : List MarketAction}
    {offer : MarketplaceOffer} (h : Moderated start actions offer) (action : MarketAction) :
    Moderated start (actions ++ [action]) offer := by
  obtain ⟨earlier, later, version, stamp, reviewed, rfl, hrest⟩ := h
  exact ⟨earlier, later ++ [action], version, stamp, reviewed, by simp, hrest⟩

theorem moderated_of_active (surroundings : MarketSurroundings) (actions : List MarketAction) :
    ∀ offer ∈ ((MarketDatabase.initial surroundings).run actions).offers.rows,
      offer.status = .active → Moderated (.initial surroundings) actions offer := by
  -- Only the step that shows an offer makes it active, and a step that writes it hides it.
  induction actions using List.reverseRecOn with
  | nil =>
      intro offer hoffer
      cases hoffer
  | append_singleton earlier action ih =>
      intro offer hoffer hactive
      rw [MarketDatabase.run_snoc] at hoffer
      cases MarketDatabase.step_offersMoved _ action with
      | still hsame _ =>
          rw [hsame] at hoffer
          exact (ih offer hoffer hactive).snoc action
      | created row hdraft _ _ hrows =>
          rw [hrows, List.mem_append, List.mem_singleton] at hoffer
          rcases hoffer with hoffer | rfl
          · exact (ih offer hoffer hactive).snoc action
          · rw [hdraft] at hactive
            cases hactive
      | edited command row _ _ _ hwritten =>
          rcases hwritten.mem_cases hoffer with rfl | ⟨hoffer, _⟩
          · cases hactive
          · exact (ih offer hoffer hactive).snoc action
      | hidden row _ _ hwritten =>
          rcases hwritten.mem_cases hoffer with rfl | ⟨hoffer, _⟩
          · cases hactive
          · exact (ih offer hoffer hactive).snoc action
      | shown row stamp haccepted hactivation hwritten =>
          rcases hwritten.mem_cases hoffer with rfl | ⟨hoffer, _⟩
          · subst hactivation
            exact ⟨earlier, [], row.version, stamp, row, rfl, haccepted, hwritten.stored, rfl, rfl⟩
          · exact (ih offer hoffer hactive).snoc action

/-- Active offers show what a moderator has named, every change leaves the next version,
and a version is taken once. -/
theorem moderated_offers (surroundings : MarketSurroundings) (actions : List MarketAction) :
    (∀ offer ∈ ((MarketDatabase.initial surroundings).run actions).offers.rows,
      offer.status = .active → Moderated (.initial surroundings) actions offer) ∧
    (∀ earlier action later offerId row, actions = earlier ++ action :: later →
      ((MarketDatabase.initial surroundings).run earlier).offers.lookup offerId = some row →
      ∃ row', ((MarketDatabase.initial surroundings).run
          (earlier ++ [action])).offers.lookup offerId = some row' ∧
        (row' ≠ row → row.version < row'.version) ∧
        ∀ version, action.names = some (offerId, version) →
          ((MarketDatabase.initial surroundings).run earlier).accepts action = true →
          row.version = version ∧ row'.version = version + 1) ∧
    (∀ earlier first between second later offerId version,
      actions = earlier ++ first :: between ++ second :: later →
      first.names = some (offerId, version) → second.names = some (offerId, version) →
      ((MarketDatabase.initial surroundings).run earlier).accepts first = true →
      ((MarketDatabase.initial surroundings).run (earlier ++ first :: between)).accepts second =
        false) := by
  refine ⟨moderated_of_active surroundings actions, ?_, ?_⟩
  · intro earlier action later offerId row _ hrow
    rw [MarketDatabase.run_snoc]
    obtain ⟨row', hrow', hmoved⟩ := (MarketDatabase.step_offersMoved _ action).of_lookup hrow
    refine ⟨row', hrow', fun hne => ?_, fun version hnames haccepted => ?_⟩
    · rcases hmoved.version with hsame | hversion
      · exact absurd hsame hne
      · omega
    · obtain ⟨found, found', hfound, hnamed, hfound', hnext⟩ :=
        (MarketDatabase.step_offersMoved _ action).of_accepted haccepted hnames
      rw [hrow, Option.some.injEq] at hfound
      rw [hrow', Option.some.injEq] at hfound'
      rw [hfound, hfound']
      exact ⟨hnamed, hnext⟩
  · intro earlier first between second later offerId version _ hfirst hsecond haccepted
    by_contra hboth
    rw [Bool.not_eq_false] at hboth
    obtain ⟨_, changed, _, _, hchanged, hnext⟩ :=
      (MarketDatabase.step_offersMoved _ first).of_accepted haccepted hfirst
    obtain ⟨last, hlast, hle⟩ := MarketDatabase.run_version between hchanged
    obtain ⟨named, _, hnamed, hversion, _⟩ :=
      (MarketDatabase.step_offersMoved _ second).of_accepted hboth hsecond
    rw [MarketDatabase.run_append] at hnamed
    have hsame : last = named := Option.some.inj (hlast.symm.trans hnamed)
    subst hsame
    omega

end Moderation

/-! An offer outside of stores, listed and shown. -/

def bareMarket : MarketSurroundings where
  parties := []
  stores := []
  media := []
  activeDomain := fun _ _ => true
  authorized := fun _ _ _ _ => true
  inScope := fun _ _ _ => true

def lampOffer : CreateMarketplaceOffer where
  offerId := ⟨1⟩
  tenantId := ⟨2⟩
  domainId := ⟨3⟩
  supplyPartyId := ⟨4⟩
  assetId := none
  externalKey := "lamp"
  displayName := "Lamp"
  attributes := .object []
  terms := .object []
  expiresAt := none

theorem lampOffer_moderated :
    let _ : Jsonb := plainJsonb
    let actions := [.createOffer lampOffer 0 (.initial bareMarket) bareMarket,
      .activateOffer ⟨2⟩ ⟨1⟩ 1 5]
    ∃ offer ∈ ((MarketDatabase.initial bareMarket).run actions).offers.rows,
      offer.status = .active ∧ offer.displayName = "Lamp" ∧
      Moderated (.initial bareMarket) actions offer := by
  intro _ actions
  have hactive : ∃ offer ∈ ((MarketDatabase.initial bareMarket).run actions).offers.rows,
      offer.status = .active ∧ offer.displayName = "Lamp" := by
    decide +kernel
  obtain ⟨offer, hoffer, hstatus, hname⟩ := hactive
  exact ⟨offer, hoffer, hstatus, hname,
    (moderated_offers bareMarket actions).1 offer hoffer hstatus⟩

end MatchPlane
