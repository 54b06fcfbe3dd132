import MatchPlane.Marketplace.Moderation

/-!
# Repeated creations

A creation that is repeated finds the row under its key and compares the request
with what the row holds by then.  It is answered as before as long as the request
is still in time and the row still holds what the request says: the values survive
their storage, and nothing has put other content in their place.
-/

namespace MatchPlane

open MatchPlane.Library

/-! ## What steps do to an intent -/

def UpdateMarketplaceIntent.edit [Jsonb] (command : UpdateMarketplaceIntent)
    (intent : MarketplaceIntent) : MarketplaceIntent :=
  { intent with
    narrative := command.narrative
    attributes := Jsonb.stored command.attributes
    terms := Jsonb.stored command.terms
    version := intent.version + 1 }

def UpdateMarketplaceDemandDiscovery.edit (command : UpdateMarketplaceDemandDiscovery)
    (intent : MarketplaceIntent) : MarketplaceIntent :=
  { intent with
    supplyDiscoveryEnabled := command.enabled
    supplyDiscoveryExpiresAt := command.expiresAt.map timestamptz
    version := intent.version + 1 }

section Intents

variable {db : MarketDatabase}

theorem ensures_updateMarketplaceDemandDiscovery (command : UpdateMarketplaceDemandDiscovery)
    (now : OffsetDateTime) :
    Ensures (updateMarketplaceDemandDiscovery command now) whatever db fun _ db' =>
      ∃ row, row.id = command.intentId ∧
        Table.Written db.intents db'.intents row (command.edit row) := by
  unfold updateMarketplaceDemandDiscovery
  rw [ensures_bind]
  refine ensures_liftAny fun _ _ => ?_
  rw [ensures_ite]
  refine ⟨fun _ => trivial, fun _ => ?_⟩
  rw [ensures_bind, ensures_on]
  refine Table.ensures_update_cases (fun _ => rfl) trivial (fun _ => trivial) ?_
  intro row intents hrow _ hwritten
  exact ⟨row, Table.key_of_lookup hrow, hwritten⟩

variable [Jsonb]

theorem ensures_updateMarketplaceIntent (command : UpdateMarketplaceIntent) :
    Ensures (updateMarketplaceIntent command) whatever db fun _ db' =>
      ∃ row, row.id = command.intentId ∧
        Table.Written db.intents db'.intents row (command.edit row) := by
  unfold updateMarketplaceIntent
  iterate 3
    rw [ensures_bind]
    refine ensures_liftAny fun _ _ => ?_
  rw [ensures_ite]
  refine ⟨fun _ => trivial, fun _ => ?_⟩
  rw [ensures_bind, ensures_on]
  refine Table.ensures_update_cases (fun _ => rfl) trivial (fun _ => trivial) ?_
  intro row intents hrow _ hwritten
  exact ⟨row, Table.key_of_lookup hrow, hwritten⟩

/-- A request is answered with the row that it finds, or with the row that it stores. -/
theorem ensures_createMarketplaceIntent (command : CreateMarketplaceIntent)
    (now : OffsetDateTime) (looked : MarketDatabase) :
    Ensures (createMarketplaceIntent command now looked) whatever db fun outcome db' =>
      validateIntent command now = .ok () ∧
      ((selectIntent looked.intents command = some outcome.intent ∧
          outcome.intent.Same command ∧ outcome.duplicate = true ∧ db' = db) ∨
        (selectIntent looked.intents command = none ∧ outcome.duplicate = false ∧
          ∃ side, command.side = some side ∧ outcome.intent = command.row side ∧
            db'.intents.rows = db.intents.rows ++ [command.row side])) := by
  unfold createMarketplaceIntent
  rw [ensures_bind]
  refine ensures_liftAny fun _ hvalid => ?_
  cases hselect : selectIntent looked.intents command with
  | some intent =>
      simp only [ensures_bind, ensureSameIntent]
      refine ensures_liftAny fun _ hsame => ?_
      split at hsame
      · rename_i hcontent
        exact ⟨hvalid, .inl ⟨rfl, hcontent, rfl, rfl⟩⟩
      · cases hsame
  | none =>
      simp only [insertIntent, ensures_bind, ensures_require, ensures_on]
      refine ⟨fun _ => trivial, fun side hside => ?_⟩
      refine Table.ensures_insert trivial fun intents hrows => ?_
      exact ⟨hvalid, .inr ⟨trivial, rfl, side, hside, rfl, hrows⟩⟩

/-- What one step may do to one intent. -/
inductive IntentMoved (db : MarketDatabase) (action : MarketAction) (row : MarketplaceIntent) :
    MarketplaceIntent → Prop
  | kept (status : MarketIntentStatus) (version : Int) :
      IntentMoved db action row { row with
        status := status
        version := version }
  | edited (command : UpdateMarketplaceIntent) (update : action = .updateIntent command)
      (about : command.intentId = row.id)
      (accepted : succeeds (updateMarketplaceIntent command) db = true) :
      IntentMoved db action row (command.edit row)
  | discovered (command : UpdateMarketplaceDemandDiscovery) (now : OffsetDateTime)
      (update : action = .updateDiscovery command now) (about : command.intentId = row.id)
      (accepted : succeeds (updateMarketplaceDemandDiscovery command now) db = true) :
      IntentMoved db action row (command.edit row)

variable {action : MarketAction} {row : MarketplaceIntent} {intentId : MarketplaceIntentId}

theorem IntentMoved.refl : IntentMoved db action row row := .kept row.status row.version

/-- A written intent moves as the write says, and every other one stays. -/
theorem IntentMoved.written {db' : MarketDatabase} {written written' : MarketplaceIntent}
    (hrow : db.intents.lookup intentId = some row)
    (hwritten : Table.Written db.intents db'.intents written written')
    (hmoved : IntentMoved db action written written') :
    ∃ row', db'.intents.lookup intentId = some row' ∧ IntentMoved db action row row' := by
  by_cases hid : intentId = written.id
  · subst hid
    have hsame : row = written := Option.some.inj (hrow.symm.trans hwritten.stored)
    subst hsame
    exact ⟨written', hwritten.lookup_self, hmoved⟩
  · exact ⟨row, (hwritten.lookup_of_ne hid).trans hrow, .refl⟩

theorem IntentMoved.unwritten {db' : MarketDatabase} (hsame : db'.intents = db.intents)
    (hrow : db.intents.lookup intentId = some row) :
    ∃ row', db'.intents.lookup intentId = some row' ∧ IntentMoved db action row row' := by
  rw [hsame]
  exact ⟨row, hrow, .refl⟩

theorem IntentMoved.of_keeps {α τ : Type} {x : Tx MarketDatabase α}
    {view : MarketDatabase → Table marketplaceIntents × τ}
    (hview : ∀ db, (view db).1 = db.intents) (hkeeps : Keeps view x)
    (hrow : db.intents.lookup intentId = some row) :
    ∃ row', (committed x db).intents.lookup intentId = some row' ∧
      IntentMoved db action row row' := by
  have hsame := congrArg Prod.fst (hkeeps.committed db)
  rw [hview, hview] at hsame
  exact unwritten hsame hrow

theorem MarketDatabase.step_intentMoved (action : MarketAction)
    (hrow : db.intents.lookup intentId = some row) :
    ∃ row', (db.step action).intents.lookup intentId = some row' ∧
      IntentMoved db action row row' := by
  cases action with
  | surround surroundings => exact IntentMoved.unwritten rfl hrow
  | createIntent command now looked =>
      rcases committed_cases (ensures_createMarketplaceIntent command now looked)
        with ⟨_, hsame⟩ | ⟨_, _, _, ⟨_, _, _, hsame⟩ | ⟨_, _, _, _, _, hrows⟩⟩
      · exact IntentMoved.unwritten (congrArg MarketDatabase.intents hsame) hrow
      · exact IntentMoved.unwritten (congrArg MarketDatabase.intents hsame) hrow
      · exact ⟨row, Table.lookup_inserted_of_some hrows hrow, .refl⟩
  | updateIntent command =>
      rcases committed_cases (ensures_updateMarketplaceIntent command)
        with ⟨_, hsame⟩ | ⟨haccepted, _, written, hid, hwritten⟩
      · exact IntentMoved.unwritten (congrArg MarketDatabase.intents hsame) hrow
      · exact IntentMoved.written hrow hwritten (.edited command rfl hid.symm haccepted)
  | updateDiscovery command now =>
      rcases committed_cases (ensures_updateMarketplaceDemandDiscovery command now)
        with ⟨_, hsame⟩ | ⟨haccepted, _, written, hid, hwritten⟩
      · exact IntentMoved.unwritten (congrArg MarketDatabase.intents hsame) hrow
      · exact IntentMoved.written hrow hwritten (.discovered command now rfl hid.symm haccepted)
  | createOffer command now looked authorizing =>
      exact IntentMoved.of_keeps (fun _ => rfl)
        (keeps_createMarketplaceOffer command now looked authorizing) hrow
  | updateOffer command =>
      exact IntentMoved.of_keeps (fun _ => rfl) (keeps_updateMarketplaceOffer command) hrow
  | withdrawOffer command =>
      exact IntentMoved.of_keeps (fun _ => rfl) (keeps_withdrawMarketplaceOffer command) hrow
  | activateOffer tenantId offerId expectedVersion stamp =>
      exact IntentMoved.of_keeps (fun _ => rfl)
        (keeps_activateMarketplaceOffer tenantId offerId expectedVersion stamp) hrow
  | rejectOffer tenantId offerId expectedVersion =>
      exact IntentMoved.of_keeps (fun _ => rfl)
        (keeps_rejectMarketplaceOffer tenantId offerId expectedVersion) hrow
  | createIntroduction command now =>
      rcases committed_cases (ensures_createMarketplaceIntroduction command now)
        with ⟨_, hsame⟩ | ⟨_, _, hsame | ⟨_, _, _, _, hsame | ⟨written, hwritten⟩⟩⟩
      · exact IntentMoved.unwritten (congrArg MarketDatabase.intents hsame) hrow
      · exact IntentMoved.unwritten (congrArg MarketDatabase.intents hsame) hrow
      · exact IntentMoved.unwritten hsame hrow
      · exact IntentMoved.written hrow hwritten (.kept .matched (written.version + 1))
  | requestContact command now =>
      exact IntentMoved.of_keeps (fun _ => rfl) (keeps_requestMarketplaceContact command now) hrow
  | acceptContact command now stamp =>
      exact IntentMoved.of_keeps (fun _ => rfl)
        (keeps_acceptMarketplaceContact command now stamp) hrow
  | releaseContact command now stamp =>
      exact IntentMoved.of_keeps (fun _ => rfl)
        (keeps_releaseMarketplaceContact command now stamp) hrow

/-! ## Repeated intents -/

/-- The times of the request are still to come. -/
def CreateMarketplaceIntent.InTime (command : CreateMarketplaceIntent) (now : OffsetDateTime) :
    Prop :=
  (∀ time, command.expiresAt = some time → now < time) ∧
    ∀ time, command.supplyDiscoveryExpiresAt = some time → now < time

/-- Storing the request and reading it back gives the same values. -/
def CreateMarketplaceIntent.Storable (command : CreateMarketplaceIntent) : Prop :=
  Jsonb.stored command.attributes = command.attributes ∧
    Jsonb.stored command.terms = command.terms ∧
    command.supplyDiscoveryExpiresAt.map timestamptz = command.supplyDiscoveryExpiresAt ∧
    command.expiresAt.map timestamptz = command.expiresAt

/-- A step puts other content than that of the request into its intent. -/
def CreateMarketplaceIntent.Disturbed (command : CreateMarketplaceIntent) (db : MarketDatabase) :
    MarketAction → Prop
  | .updateIntent update => update.intentId = command.intentId ∧
      succeeds (updateMarketplaceIntent update) db = true ∧
      ¬(update.narrative = command.narrative ∧
        Jsonb.stored update.attributes = command.attributes ∧
        Jsonb.stored update.terms = command.terms)
  | .updateDiscovery update now => update.intentId = command.intentId ∧
      succeeds (updateMarketplaceDemandDiscovery update now) db = true ∧
      ¬(update.enabled = command.supplyDiscoveryEnabled ∧
        update.expiresAt.map timestamptz = command.supplyDiscoveryExpiresAt)
  | _ => False

/-- No step of a run satisfies a condition on the state before it. -/
def MarketDatabase.Never (bad : MarketDatabase → MarketAction → Prop) (db : MarketDatabase) :
    List MarketAction → Prop
  | [] => True
  | action :: rest => ¬bad db action ∧ (db.step action).Never bad rest

/-- The request is answered with the intent of that id as a duplicate, and nothing changes. -/
def RepeatsIntent (command : CreateMarketplaceIntent) (now : OffsetDateTime)
    (looked db : MarketDatabase) (intentId : MarketplaceIntentId) : Prop :=
  ∃ intent, (createMarketplaceIntent command now looked).run db = .ok (⟨intent, true⟩, db) ∧
    intent.id = intentId

/-- The intent that the key of the request finds. -/
def CreateMarketplaceIntent.Keys (command : CreateMarketplaceIntent) (row : MarketplaceIntent) :
    Prop :=
  row.tenantId = command.tenantId ∧ row.participantId = command.participantId ∧
    row.idempotencyKey = command.idempotencyKey

variable {command : CreateMarketplaceIntent}

theorem IntentMoved.keys {row' : MarketplaceIntent} (h : IntentMoved db action row row')
    (hkeys : command.Keys row) : command.Keys row' := by
  cases h <;> exact hkeys

theorem IntentMoved.same {row' : MarketplaceIntent} (h : IntentMoved db action row row')
    (hquiet : ¬command.Disturbed db action) (hsame : row.Same command) : row'.Same command := by
  obtain ⟨hid, hdomain, hparty, hside, hnarrative, hattributes, hterms, henabled, hdiscovery,
    hexpires⟩ := hsame
  cases h with
  | kept status version =>
      exact ⟨hid, hdomain, hparty, hside, hnarrative, hattributes, hterms, henabled, hdiscovery,
        hexpires⟩
  | edited update hupdate habout haccepted =>
      subst hupdate
      have hcontent : update.narrative = command.narrative ∧
          Jsonb.stored update.attributes = command.attributes ∧
          Jsonb.stored update.terms = command.terms := by
        by_contra hother
        exact hquiet ⟨habout.trans hid, haccepted, hother⟩
      obtain ⟨hnarrative, hattributes, hterms⟩ := hcontent
      exact ⟨hid, hdomain, hparty, hside, hnarrative, hattributes, hterms, henabled, hdiscovery,
        hexpires⟩
  | discovered update now hupdate habout haccepted =>
      subst hupdate
      have hcontent : update.enabled = command.supplyDiscoveryEnabled ∧
          update.expiresAt.map timestamptz = command.supplyDiscoveryExpiresAt := by
        by_contra hother
        exact hquiet ⟨habout.trans hid, haccepted, hother⟩
      obtain ⟨henabled, hdiscovery⟩ := hcontent
      exact ⟨hid, hdomain, hparty, hside, hnarrative, hattributes, hterms, henabled, hdiscovery,
        hexpires⟩

theorem MarketDatabase.run_intent (command : CreateMarketplaceIntent)
    (actions : List MarketAction) (hrow : db.intents.lookup intentId = some row) :
    ∃ row', (db.run actions).intents.lookup intentId = some row' ∧
      (command.Keys row → command.Keys row') ∧
      (db.Never command.Disturbed actions → row.Same command → row'.Same command) := by
  induction actions generalizing db row with
  | nil => exact ⟨row, hrow, id, fun _ => id⟩
  | cons action rest ih =>
      obtain ⟨next, hnext, hmoved⟩ := MarketDatabase.step_intentMoved action hrow
      obtain ⟨last, hlast, hkeys, hsame⟩ := ih hnext
      refine ⟨last, hlast, fun h => hkeys (hmoved.keys h), fun hquiet h => ?_⟩
      exact hsame hquiet.2 (hmoved.same hquiet.1 h)

omit [Jsonb] in
theorem selectIntent_of_lookup {intents : Table marketplaceIntents} (hkeys : command.Keys row)
    (hrow : intents.lookup intentId = some row) : selectIntent intents command = some row := by
  have hmem := Table.mem_of_lookup hrow
  cases hselect : selectIntent intents command with
  | none =>
      have hnone := List.find?_eq_none.mp hselect row hmem
      simp only [decide_eq_true_eq] at hnone
      exact absurd hkeys hnone
  | some found =>
      have hfound := List.find?_some hselect
      have hmatches : row.tenantId = found.tenantId ∧ row.participantId = found.participantId ∧
          row.idempotencyKey = found.idempotencyKey := by
        simp only [decide_eq_true_eq] at hfound
        exact ⟨hkeys.1.trans hfound.1.symm, hkeys.2.1.trans hfound.2.1.symm,
          hkeys.2.2.trans hfound.2.2.symm⟩
      have hsame : row = found := by
        refine Table.eq_of_clash (fun first second => ?_) hmem
          (List.mem_of_find?_eq_some hselect) ?_
        · simp only [marketplaceIntents, eq_comm]
        · simpa [marketplaceIntents] using hmatches
      rw [hsame]

omit [Jsonb] in
theorem validateFuture_eq_ok_iff {value : Option OffsetDateTime} {now : OffsetDateTime}
    {message : String} {answer : Unit} :
    validateFuture value now message = .ok answer ↔ ∀ time, value = some time → now < time := by
  unfold validateFuture
  cases value with
  | none => simp
  | some time => simp

omit [Jsonb] in
/-- Only the times of a request may make it invalid later on. -/
theorem validateIntent_later {now now' : OffsetDateTime}
    (h : validateIntent command now = .ok ()) :
    validateIntent command now' = .ok () ↔ command.InTime now' := by
  simp only [validateIntent, check_eq_ok_iff, bind_eq_ok_iff] at h ⊢
  obtain ⟨hside, _, hnarrative, _, hkey, _, hattributes, _, hterms, _, _, _, _, hrest⟩ := h
  simp [hside, hnarrative, hkey, hattributes, hterms, hrest, validateFuture_eq_ok_iff,
    CreateMarketplaceIntent.InTime]

/-- The request of an answer is valid and its intent is stored, as it says if it may be. -/
theorem created_intent {now : OffsetDateTime} {looked db' : MarketDatabase}
    {between : List MarketAction} {outcome : MarketplaceIntentOutcome}
    (h : (createMarketplaceIntent command now looked).run (looked.run between) =
      .ok (outcome, db')) :
    validateIntent command now = .ok () ∧ outcome.intent.id = command.intentId ∧
      ∃ row, db'.intents.lookup command.intentId = some row ∧ command.Keys row ∧
        (command.Storable → looked.Never command.Disturbed between → row.Same command) := by
  have hensures : Ensures _ whatever (looked.run between) _ :=
    ensures_createMarketplaceIntent command now looked
  obtain ⟨hvalid, ⟨hselect, hsame, _, rfl⟩ | ⟨_, _, side, hside, hintent, hrows⟩⟩ :=
    hensures.of_ok h
  · have hid : outcome.intent.id = command.intentId := hsame.1
    have hlookup := Table.lookup_of_mem (List.mem_of_find?_eq_some hselect)
    have hkeys := List.find?_some hselect
    simp only [decide_eq_true_eq] at hkeys
    obtain ⟨row, hrow, hrowKeys, hrowSame⟩ :=
      MarketDatabase.run_intent command between hlookup
    refine ⟨hvalid, hid, row, ?_, hrowKeys hkeys, fun _ hquiet => hrowSame hquiet hsame⟩
    rw [← hid]
    exact hrow
  · refine ⟨hvalid, by rw [hintent]; rfl, command.row side, ?_, ⟨rfl, rfl, rfl⟩, ?_⟩
    · rw [Table.lookup_inserted hrows]
      exact if_pos rfl
    · rintro ⟨hattributes, hterms, hdiscovery, hexpires⟩ _
      exact ⟨rfl, rfl, rfl, hside.symm, rfl, hattributes, hterms, rfl, hdiscovery, hexpires⟩

/-- A repetition is answered as before exactly when it is in time and finds what it says. -/
theorem repeatsIntent_iff {now' : OffsetDateTime} {now : OffsetDateTime}
    {looked db' : MarketDatabase} (hvalid : validateIntent command now = .ok ())
    (hrow : looked.intents.lookup command.intentId = some row) (hkeys : command.Keys row) :
    RepeatsIntent command now' looked db' command.intentId ↔
      command.InTime now' ∧ row.Same command := by
  have hselect := selectIntent_of_lookup hkeys hrow
  rw [← validateIntent_later hvalid]
  constructor
  · rintro ⟨intent, hrun, hid⟩
    obtain ⟨hlater, ⟨hfound, hsame, _, _⟩ | ⟨hnone, _⟩⟩ :=
      (ensures_createMarketplaceIntent command now' looked).of_ok hrun
    · rw [hselect, Option.some.injEq] at hfound
      rw [hfound]
      exact ⟨hlater, hsame⟩
    · rw [hselect] at hnone
      cases hnone
  · rintro ⟨hlater, hsame⟩
    refine ⟨row, ?_, hsame.1⟩
    simp only [createMarketplaceIntent, hlater, hselect, ensureSameIntent, if_pos hsame]
    rfl

end Intents

/-! ## Repeated offers -/

section Offers

variable [Jsonb] {db : MarketDatabase} {action : MarketAction} {row : MarketplaceOffer}
  {offerId : MarketplaceOfferId} {command : CreateMarketplaceOffer}

theorem MarketDatabase.step_surroundings (db : MarketDatabase) (action : MarketAction) :
    (db.step action).surroundings =
      match action with
      | .surround surroundings => surroundings
      | _ => db.surroundings := by
  cases action with
  | surround surroundings => rfl
  | createIntent command now looked =>
      exact congrArg (·.2.2.2) ((keeps_createMarketplaceIntent command now looked).committed db)
  | updateIntent command =>
      exact congrArg (·.2.2.2) ((keeps_updateMarketplaceIntent command).committed db)
  | updateDiscovery command now =>
      exact congrArg (·.2.2.2) ((keeps_updateMarketplaceDemandDiscovery command now).committed db)
  | createOffer command now looked authorizing =>
      exact congrArg (·.2.2.2)
        ((keeps_createMarketplaceOffer command now looked authorizing).committed db)
  | updateOffer command =>
      exact congrArg (·.2.2.2) ((keeps_updateMarketplaceOffer command).committed db)
  | withdrawOffer command =>
      exact congrArg (·.2.2.2) ((keeps_withdrawMarketplaceOffer command).committed db)
  | activateOffer tenantId offerId expectedVersion stamp =>
      exact congrArg (·.2.2.2)
        ((keeps_activateMarketplaceOffer tenantId offerId expectedVersion stamp).committed db)
  | rejectOffer tenantId offerId expectedVersion =>
      exact congrArg (·.2.2.2)
        ((keeps_rejectMarketplaceOffer tenantId offerId expectedVersion).committed db)
  | createIntroduction command now =>
      exact congrArg (·.2.2) ((keeps_createMarketplaceIntroduction command now).committed db)
  | requestContact command now =>
      exact congrArg (·.2.2) ((keeps_requestMarketplaceContact command now).committed db)
  | acceptContact command now stamp =>
      exact congrArg (·.2.2) ((keeps_acceptMarketplaceContact command now stamp).committed db)
  | releaseContact command now stamp =>
      exact congrArg (·.2.2) ((keeps_releaseMarketplaceContact command now stamp).committed db)

def CreateMarketplaceOffer.InTime (command : CreateMarketplaceOffer) (now : OffsetDateTime) :
    Prop :=
  ∀ time, command.expiresAt = some time → now < time

/-- Storing the request and reading it back gives the same values, its stock included. -/
def CreateMarketplaceOffer.Storable (command : CreateMarketplaceOffer) : Prop :=
  inventoryMirror (Jsonb.stored command.attributes)
      (quantityFromAttributes (Jsonb.stored command.attributes)) = command.attributes ∧
    Jsonb.stored command.terms = command.terms ∧
    command.expiresAt.map timestamptz = command.expiresAt

/-- A step puts other content than that of the request into its offer, or moves the party
to another store. -/
def CreateMarketplaceOffer.Disturbed (command : CreateMarketplaceOffer) (db : MarketDatabase) :
    MarketAction → Prop
  | .surround surroundings => command.store surroundings ≠ command.store db.surroundings
  | .updateOffer update => update.offerId = command.offerId ∧
      succeeds (updateMarketplaceOffer update) db = true ∧
      ¬∀ row, db.offers.lookup command.offerId = some row →
        update.displayName = command.displayName ∧
        (compatibilityWrite row (Jsonb.stored update.attributes)).1 = command.attributes ∧
        Jsonb.stored update.terms = command.terms
  | _ => False

/-- The request is answered with the offer of that id as a duplicate, and nothing changes. -/
def RepeatsOffer (command : CreateMarketplaceOffer) (now : OffsetDateTime)
    (looked : MarketDatabase) (authorizing : MarketSurroundings) (db : MarketDatabase)
    (offerId : MarketplaceOfferId) : Prop :=
  ∃ offer, (createMarketplaceOffer command now looked authorizing).run db =
    .ok (⟨offer, true⟩, db) ∧ offer.id = offerId

def CreateMarketplaceOffer.Keys (command : CreateMarketplaceOffer) (row : MarketplaceOffer) :
    Prop :=
  row.tenantId = command.tenantId ∧ row.domainId = command.domainId ∧
    row.externalKey = command.externalKey

theorem OfferMoved.keys {row' : MarketplaceOffer} (h : OfferMoved db action row row')
    (hkeys : command.Keys row) : command.Keys row' := by
  cases h <;> exact hkeys

theorem OfferMoved.storeId {row' : MarketplaceOffer} (h : OfferMoved db action row row') :
    row'.storeId = row.storeId := by
  cases h <;> rfl

theorem OfferMoved.sameRequest {row' : MarketplaceOffer} (h : OfferMoved db action row row')
    (hrow : db.offers.lookup offerId = some row) (hquiet : ¬command.Disturbed db action)
    (hsame : row.Same command) : row'.Same command := by
  cases h with
  | same => exact hsame
  | edited update hupdate habout haccepted =>
      obtain ⟨hid, hparty, hasset, _, _, _, hexpires⟩ := hsame
      subst hupdate
      have hstored : db.offers.lookup command.offerId = some row := by
        rw [← hid]
        exact Table.lookup_of_mem (Table.mem_of_lookup hrow)
      have hcontent : update.displayName = command.displayName ∧
          (compatibilityWrite row (Jsonb.stored update.attributes)).1 = command.attributes ∧
          Jsonb.stored update.terms = command.terms := by
        by_contra hother
        exact hquiet ⟨habout.trans hid, haccepted, fun hall => hother (hall row hstored)⟩
      obtain ⟨hname, hattributes, hterms⟩ := hcontent
      exact ⟨hid, hparty, hasset, hname, hattributes, hterms, hexpires⟩
  | hidden => exact hsame
  | shown stamp => exact hsame

theorem CreateMarketplaceOffer.store_step (hquiet : ¬command.Disturbed db action) :
    command.store (db.step action).surroundings = command.store db.surroundings := by
  rw [MarketDatabase.step_surroundings]
  split
  · simpa [Disturbed] using hquiet
  · rfl

theorem MarketDatabase.run_offer (command : CreateMarketplaceOffer)
    (actions : List MarketAction) (hrow : db.offers.lookup offerId = some row) :
    ∃ row', (db.run actions).offers.lookup offerId = some row' ∧ row'.storeId = row.storeId ∧
      (command.Keys row → command.Keys row') ∧
      (db.Never command.Disturbed actions →
        command.store (db.run actions).surroundings = command.store db.surroundings ∧
        (row.Same command → row'.Same command)) := by
  induction actions generalizing db row with
  | nil => exact ⟨row, hrow, rfl, id, fun _ => ⟨rfl, id⟩⟩
  | cons action rest ih =>
      obtain ⟨next, hnext, hmoved⟩ := (db.step_offersMoved action).of_lookup hrow
      obtain ⟨last, hlast, hstore, hkeys, hquietly⟩ := ih hnext
      refine ⟨last, hlast, hstore.trans hmoved.storeId, fun h => hkeys (hmoved.keys h), ?_⟩
      rintro ⟨hquiet, hrest⟩
      obtain ⟨hstays, hsame⟩ := hquietly hrest
      exact ⟨hstays.trans (CreateMarketplaceOffer.store_step hquiet),
        fun h => hsame (hmoved.sameRequest hrow hquiet h)⟩

omit [Jsonb] in
theorem selectOffer_of_lookup {looked : MarketDatabase} (hkeys : command.Keys row)
    (hrow : looked.offers.lookup offerId = some row)
    (hstore : row.storeId = command.store looked.surroundings) :
    selectOffer looked command = some row := by
  have hmem := Table.mem_of_lookup hrow
  cases hselect : selectOffer looked command with
  | none =>
      have hnone := List.find?_eq_none.mp hselect row hmem
      simp only [decide_eq_true_eq] at hnone
      exact absurd ⟨hkeys.1, hkeys.2.1, hkeys.2.2, hstore⟩ hnone
  | some found =>
      have hfound := List.find?_some hselect
      simp only [decide_eq_true_eq] at hfound
      obtain ⟨htenant, hdomain, hkey, hplace⟩ := hfound
      have hsame : row = found := by
        refine Table.eq_of_clash (fun first second => ?_) hmem
          (List.mem_of_find?_eq_some hselect) ?_
        · -- The store of one row decides between the two indexes for both.
          simp only [marketplaceOffers, eq_comm, decide_eq_decide]
          constructor
          · rintro ⟨htenant, hkey, hstore, hindex⟩
            exact ⟨htenant, hkey, hstore, by rwa [← hstore]⟩
          · rintro ⟨htenant, hkey, hstore, hindex⟩
            exact ⟨htenant, hkey, hstore, by rwa [hstore]⟩
        · have hclash : row.tenantId = found.tenantId ∧ row.externalKey = found.externalKey ∧
              row.storeId = found.storeId ∧ (row.storeId.isSome ∨ row.domainId = found.domainId) :=
            ⟨hkeys.1.trans htenant.symm, hkeys.2.2.trans hkey.symm, hstore.trans hplace.symm,
              .inr (hkeys.2.1.trans hdomain.symm)⟩
          simpa [marketplaceOffers] using hclash
      rw [hsame]

omit [Jsonb] in
theorem validateOffer_later {now now' : OffsetDateTime}
    (h : validateOffer command now = .ok ()) :
    validateOffer command now' = .ok () ↔ command.InTime now' := by
  simp only [validateOffer, bind_eq_ok_iff] at h ⊢
  obtain ⟨_, hkey, _, hname, _, hattributes, _, hterms, _⟩ := h
  simp [hkey, hname, hattributes, hterms, validateFuture_eq_ok_iff, CreateMarketplaceOffer.InTime]

/-- The request of an answer is valid and its offer is stored, as it says if it may be. -/
theorem created_offer {now : OffsetDateTime} {looked db' : MarketDatabase}
    {authorizing : MarketSurroundings} {between : List MarketAction}
    {outcome : MarketplaceOfferOutcome}
    (h : (createMarketplaceOffer command now looked authorizing).run (looked.run between) =
      .ok (outcome, db')) :
    validateOffer command now = .ok () ∧ outcome.offer.id = command.offerId ∧
      ∃ row, db'.offers.lookup command.offerId = some row ∧ command.Keys row ∧
        (command.Storable → looked.Never command.Disturbed between →
          row.storeId = command.store db'.surroundings ∧ row.Same command) := by
  have hensures : Ensures _ whatever (looked.run between) _ :=
    ensures_createMarketplaceOffer command now looked authorizing
  obtain ⟨hvalid, ⟨hselect, hsame, _, rfl⟩ | ⟨_, _, hoffer, hrows, hsurroundings⟩⟩ :=
    hensures.of_ok h
  · have hid : outcome.offer.id = command.offerId := hsame.1
    have hlookup := Table.lookup_of_mem (List.mem_of_find?_eq_some hselect)
    have hkeys := List.find?_some hselect
    simp only [decide_eq_true_eq] at hkeys
    obtain ⟨htenant, hdomain, hkey, hplace⟩ := hkeys
    obtain ⟨row, hrow, hstore, hrowKeys, hquietly⟩ :=
      MarketDatabase.run_offer command between hlookup
    refine ⟨hvalid, hid, row, ?_, hrowKeys ⟨htenant, hdomain, hkey⟩, fun _ hquiet => ?_⟩
    · rw [← hid]
      exact hrow
    · obtain ⟨hstays, hrowSame⟩ := hquietly hquiet
      exact ⟨(hstore.trans hplace).trans hstays.symm, hrowSame hsame⟩
  · rw [hoffer] at hrows
    refine ⟨hvalid, by rw [hoffer]; rfl,
      command.row (command.store (looked.run between).surroundings), ?_, ⟨rfl, rfl, rfl⟩, ?_⟩
    · rw [Table.lookup_inserted hrows]
      exact if_pos rfl
    · rintro ⟨hattributes, hterms, hexpires⟩ _
      refine ⟨?_, rfl, rfl, rfl, rfl, hattributes, hterms, hexpires⟩
      rw [hsurroundings]
      rfl

/-- A repetition is answered as before exactly when it is in time, comes from the same
store and finds what it says. -/
theorem repeatsOffer_iff {now now' : OffsetDateTime} {looked db' : MarketDatabase}
    {authorizing : MarketSurroundings} (hvalid : validateOffer command now = .ok ())
    (hrow : looked.offers.lookup command.offerId = some row) (hkeys : command.Keys row) :
    RepeatsOffer command now' looked authorizing db' command.offerId ↔
      command.InTime now' ∧ row.storeId = command.store looked.surroundings ∧
        row.Same command := by
  rw [← validateOffer_later hvalid]
  constructor
  · rintro ⟨offer, hrun, hid⟩
    obtain ⟨hlater, ⟨hfound, hsame, _, _⟩ | ⟨_, hnew, _⟩⟩ :=
      (ensures_createMarketplaceOffer command now' looked authorizing).of_ok hrun
    · -- The offer that is found has the id of the request, so it is the stored one.
      have hstored := Table.lookup_of_mem (List.mem_of_find?_eq_some hfound)
      have hoffer : offer = row := by
        have hlookup : looked.offers.lookup offer.id = some offer := hstored
        rw [hid, hrow] at hlookup
        exact (Option.some.inj hlookup).symm
      have hplace := List.find?_some hfound
      simp only [decide_eq_true_eq] at hplace
      rw [hoffer] at hplace hsame
      exact ⟨hlater, hplace.2.2.2, hsame⟩
    · cases hnew
  · rintro ⟨hlater, hstore, hsame⟩
    refine ⟨row, ?_, hsame.1⟩
    simp only [createMarketplaceOffer, hlater, selectOffer_of_lookup hkeys hrow hstore,
      ensureSameOffer, if_pos hsame]
    rfl

end Offers

/-! ## Retries

The first request has looked at `looked` and is carried out after `between`; the
repetition looks after `later` and is carried out after `meanwhile`. -/

/-- A repetition is answered with the stored row exactly when it is in time and the row
reads as the request does; that is so after every run that leaves the content alone. -/
theorem repeated_creations [Jsonb] :
    (∀ (command : CreateMarketplaceIntent) (now : OffsetDateTime) (looked : MarketDatabase)
      (between : List MarketAction) (outcome : MarketplaceIntentOutcome) (db' : MarketDatabase),
      (createMarketplaceIntent command now looked).run (looked.run between) =
        .ok (outcome, db') →
      ∀ (now' : OffsetDateTime) (later meanwhile : List MarketAction),
        (RepeatsIntent command now' (db'.run later) (db'.run (later ++ meanwhile))
            outcome.intent.id ↔
          command.InTime now' ∧
            ∃ row, (db'.run later).intents.lookup command.intentId = some row ∧
              row.Same command) ∧
        (command.InTime now' → command.Storable → looked.Never command.Disturbed between →
          db'.Never command.Disturbed later →
          RepeatsIntent command now' (db'.run later) (db'.run (later ++ meanwhile))
            outcome.intent.id)) ∧
    (∀ (command : CreateMarketplaceOffer) (now : OffsetDateTime) (looked : MarketDatabase)
      (authorizing : MarketSurroundings) (between : List MarketAction)
      (outcome : MarketplaceOfferOutcome) (db' : MarketDatabase),
      (createMarketplaceOffer command now looked authorizing).run (looked.run between) =
        .ok (outcome, db') →
      ∀ (now' : OffsetDateTime) (authorizing' : MarketSurroundings)
        (later meanwhile : List MarketAction),
        (RepeatsOffer command now' (db'.run later) authorizing' (db'.run (later ++ meanwhile))
            outcome.offer.id ↔
          command.InTime now' ∧
            ∃ row, (db'.run later).offers.lookup command.offerId = some row ∧
              row.storeId = command.store (db'.run later).surroundings ∧ row.Same command) ∧
        (command.InTime now' → command.Storable → looked.Never command.Disturbed between →
          db'.Never command.Disturbed later →
          RepeatsOffer command now' (db'.run later) authorizing' (db'.run (later ++ meanwhile))
            outcome.offer.id)) := by
  refine ⟨?_, ?_⟩
  · intro command now looked between outcome db' hfirst now' later meanwhile
    obtain ⟨hvalid, hid, created, hcreated, hkeys, hstored⟩ := created_intent hfirst
    obtain ⟨row, hrow, hrowKeys, hrowSame⟩ :=
      MarketDatabase.run_intent command later hcreated
    have hiff : RepeatsIntent command now' _ (db'.run (later ++ meanwhile)) _ ↔ _ :=
      repeatsIntent_iff hvalid hrow (hrowKeys hkeys)
    rw [hid, hiff, hrow]
    refine ⟨by simp, fun htime hstorable hbetween hlater => ⟨htime, ?_⟩⟩
    exact hrowSame hlater (hstored hstorable hbetween)
  · intro command now looked authorizing between outcome db' hfirst now' authorizing' later
      meanwhile
    obtain ⟨hvalid, hid, created, hcreated, hkeys, hstored⟩ := created_offer hfirst
    obtain ⟨row, hrow, hstore, hrowKeys, hquietly⟩ :=
      MarketDatabase.run_offer command later hcreated
    have hiff : RepeatsOffer command now' _ authorizing' (db'.run (later ++ meanwhile)) _ ↔ _ :=
      repeatsOffer_iff hvalid hrow (hrowKeys hkeys)
    rw [hid, hiff, hrow]
    refine ⟨by simp, fun htime hstorable hbetween hlater => ⟨htime, ?_⟩⟩
    obtain ⟨hplace, hsame⟩ := hstored hstorable hbetween
    obtain ⟨hstays, hrowSame⟩ := hquietly hlater
    exact ⟨(hstore.trans hplace).trans hstays.symm, hrowSame hsame⟩

/-! A wish for a lamp, and a change of mind. -/

def lampWish : CreateMarketplaceIntent where
  intentId := ⟨1⟩
  tenantId := ⟨2⟩
  domainId := ⟨3⟩
  participantId := ⟨5⟩
  side := some .demand
  narrative := "a lamp"
  attributes := .object []
  terms := .object []
  supplyDiscoveryEnabled := false
  supplyDiscoveryExpiresAt := none
  idempotencyKey := "wish"
  expiresAt := none

def brighterLamp : UpdateMarketplaceIntent where
  tenantId := ⟨2⟩
  domainId := ⟨3⟩
  intentId := ⟨1⟩
  participantId := ⟨5⟩
  narrative := "a bright lamp"
  attributes := .object []
  terms := .object []
  expectedVersion := 1

/-- The same request, once the wish has been edited, is a conflict. -/
theorem lampWish_conflicts :
    let _ : Jsonb := plainJsonb
    let start := MarketDatabase.initial bareMarket
    let edited := start.run [.createIntent lampWish 0 start, .updateIntent brighterLamp]
    (createMarketplaceIntent lampWish 0 start).run' start =
        .ok ⟨lampWish.row .demand, false⟩ ∧
      (createMarketplaceIntent lampWish 1 edited).run' edited = .error .idempotencyConflict ∧
      ¬RepeatsIntent lampWish 1 edited edited ⟨1⟩ := by
  intro _ start edited
  have hconflict : (createMarketplaceIntent lampWish 1 edited).run' edited =
      .error .idempotencyConflict := by
    decide +kernel
  refine ⟨by decide +kernel, hconflict, ?_⟩
  rintro ⟨intent, hrun, _⟩
  rw [result_of_run hrun] at hconflict
  cases hconflict

/-- The same request, once an offer has been listed. -/
theorem lampWish_repeated :
    let _ : Jsonb := plainJsonb
    let start := MarketDatabase.initial bareMarket
    let listed := start.run [.createIntent lampWish 0 start,
      .createOffer lampOffer 0 start bareMarket]
    listed.offers.rows.length = 1 ∧ RepeatsIntent lampWish 1 listed listed ⟨1⟩ := by
  intro _ start listed
  refine ⟨by decide +kernel, ?_⟩
  have hfirst : (createMarketplaceIntent lampWish 0 start).run (start.run []) =
      .ok (⟨lampWish.row .demand, false⟩, start.step (.createIntent lampWish 0 start)) := by
    exact run_of_result (by decide +kernel)
  have hrepeated := (repeated_creations.1 lampWish 0 start [] _ _ hfirst 1
    [.createOffer lampOffer 0 start bareMarket] []).2
  exact hrepeated ⟨(fun _ h => nomatch h), (fun _ h => nomatch h)⟩ ⟨rfl, rfl, rfl, rfl⟩ trivial
    ⟨id, trivial⟩

end MatchPlane
