import MatchPlane.Offline.Completion

/-!
# Revocation

A live listing always has an active authorization, and a listing that a revocation has
withdrawn is never live again.  So nothing that needs a live listing happens to it any
more, whoever asks and whatever is granted later.
-/

namespace MatchPlane

open MatchPlane.Library

/-! ## Live listings -/

def LiveAuthorized (db : OfflineDatabase) : Prop :=
  ∀ listing ∈ db.listings.rows, listing.status.isLive = true →
    db.authorized listing.authorizationKey = true

section Live

variable {db : OfflineDatabase}

theorem authorized_of_stored {row : MarketplaceAssetAuthorization}
    {authorizations : Table assetAuthorizations}
    (hstored : Table.Stored db.authorizations authorizations row) {key : AuthorizationKey} :
    ({ db with authorizations := authorizations } : OfflineDatabase).authorized key =
      if key = row.key then row.active else db.authorized key := by
  unfold OfflineDatabase.authorized
  rw [hstored key]
  by_cases hkey : key = row.key
  · rw [if_pos hkey, if_pos (show key = assetAuthorizations.key row from hkey)]
    rfl
  · rw [if_neg hkey, if_neg (show key ≠ assetAuthorizations.key row from hkey)]

theorem LiveAuthorized.moved {action : OfflineAction} {origin db' : OfflineDatabase}
    (h : LiveAuthorized db) (hmove : OfflineMove action origin db db') : LiveAuthorized db' := by
  cases hmove with
  | granted row authorizations hactive hstored =>
      intro listing hmem hlive
      rw [authorized_of_stored hstored]
      split
      · exact hactive
      · exact h listing hmem hlive
  | revoked row authorizations listings command _ _ _ hstored hlistings =>
      intro listing hmem hlive
      change listing ∈ listings.rows at hmem
      rw [hlistings, List.mem_map] at hmem
      obtain ⟨old, hold, rfl⟩ := hmem
      unfold VehicleListing.afterRevocation at hlive ⊢
      split at hlive
      · cases hlive
      · rename_i hother
        rw [if_neg hother]
        refine (authorized_of_stored hstored).trans ?_
        rw [if_neg fun hkey => hother ⟨hkey, hlive⟩]
        exact h old hold hlive
  | listed listing listings _ hauthorized hrows =>
      intro row hmem hlive
      change row ∈ listings.rows at hmem
      rw [hrows, List.mem_append, List.mem_singleton] at hmem
      rcases hmem with hmem | rfl
      · exact h row hmem hlive
      · exact hauthorized
  | completed deal stamp listing written deals listings _ _ _ _ _ _ _ _ _ hlistings =>
      intro row hmem hlive
      rcases hlistings.mem_cases hmem with rfl | ⟨hother, _⟩
      · cases hlive
      · exact h row hother hlive
  | _ => exact h

/-! ## Withdrawn listings -/

/-- The listing has been withdrawn. -/
def Withdrawn (listingId : VehicleListingId) (db : OfflineDatabase) : Prop :=
  ∃ listing, db.listings.lookup listingId = some listing ∧ listing.status = .withdrawn

variable {listingId : VehicleListingId}

theorem Withdrawn.not_eligible (h : Withdrawn listingId db) {deal : OfflineDeal}
    (heligible : deal.Eligible db) : deal.listingId ≠ listingId := by
  obtain ⟨withdrawn, hwithdrawn, hstatus⟩ := h
  obtain ⟨listing, hlisting, _, _, hlive, _⟩ := heligible
  intro hsame
  rw [hsame, hwithdrawn] at hlisting
  cases hlisting
  rw [hstatus] at hlive
  cases hlive

theorem Withdrawn.moved {action : OfflineAction} {origin db' : OfflineDatabase}
    (h : Withdrawn listingId db) (hmove : OfflineMove action origin db db') :
    Withdrawn listingId db' := by
  have hnot := @Withdrawn.not_eligible db listingId h
  obtain ⟨withdrawn, hlookup, hstatus⟩ := h
  cases hmove with
  | revoked row authorizations listings command _ _ _ _ hlistings =>
      refine ⟨withdrawn, ?_, hstatus⟩
      have hkey : ∀ other : VehicleListing, (other.afterRevocation row.key).id = other.id := by
        intro other
        unfold VehicleListing.afterRevocation
        split <;> rfl
      change listings.lookup listingId = some withdrawn
      rw [Table.lookup_updatedAll hlistings hkey, hlookup, Option.map_some]
      unfold VehicleListing.afterRevocation
      rw [if_neg (by simp [hstatus, ListingStatus.isLive])]
  | listed listing listings _ _ hrows =>
      exact ⟨withdrawn, Table.lookup_inserted_of_some hrows hlookup, hstatus⟩
  | completed deal stamp listing written deals listings _ heligible _ _ _ _ _ _ hlisting
      hlistings =>
      refine ⟨withdrawn, ?_, hstatus⟩
      refine (hlistings.lookup_of_ne fun hsame => ?_).trans hlookup
      exact hnot heligible (hlisting.symm.trans hsame.symm)
  | _ => exact ⟨withdrawn, hlookup, hstatus⟩

/-- Deals of a withdrawn listing are old ones, and nothing is released or completed there. -/
def Ended (listingId : VehicleListingId) (origin db : OfflineDatabase) : Prop :=
  ∀ deal ∈ db.deals.rows, deal.listingId = listingId → ∃ old ∈ origin.deals.rows,
    old.id = deal.id ∧ old.contactReleasedAt = deal.contactReleasedAt ∧
      (deal.status = .completed → old.status = .completed)

theorem Ended.moved {action : OfflineAction} {start origin db' : OfflineDatabase}
    (h : Ended listingId start db) (hwithdrawn : Withdrawn listingId db)
    (hmove : OfflineMove action origin db db') : Ended listingId start db' := by
  -- A deal that is written keeps the listing, and is neither released nor completed by that.
  have hwrites : ∀ {deals : Table offlineDeals} {row row' : OfflineDeal},
      Table.Written db.deals deals row row' → row'.id = row.id →
      (row'.listingId = listingId → row.listingId = listingId ∧
        row'.contactReleasedAt = row.contactReleasedAt ∧
        (row'.status = .completed → row.status = .completed)) →
      ∀ deal ∈ deals.rows, deal.listingId = listingId → ∃ old ∈ start.deals.rows,
        old.id = deal.id ∧ old.contactReleasedAt = deal.contactReleasedAt ∧
          (deal.status = .completed → old.status = .completed) := by
    intro deals row row' hwritten hid hsame deal hdeal hlisting
    rcases hwritten.mem_cases hdeal with rfl | ⟨hother, _⟩
    · obtain ⟨hrow, hreleased, hcompleted⟩ := hsame hlisting
      obtain ⟨old, hold, hold', hkept, hstatus⟩ :=
        h row (Table.mem_of_lookup hwritten.stored) hrow
      exact ⟨old, hold, hold'.trans hid.symm, hkept.trans hreleased.symm,
        fun hdone => hstatus (hcompleted hdone)⟩
    · exact h deal hother hlisting
  cases hmove with
  | introduced command pair matchReasons commissionAmount deals hlisting _ hactive hrows =>
      intro deal hdeal hsame
      change deal ∈ deals.rows at hdeal
      rw [hrows, List.mem_append, List.mem_singleton] at hdeal
      rcases hdeal with hdeal | rfl
      · exact h deal hdeal hsame
      · obtain ⟨withdrawn, hlookup, hstatus⟩ := hwithdrawn
        change command.listingId = listingId at hsame
        rw [hsame, hlookup] at hlisting
        cases hlisting
        rw [hactive] at hstatus
        cases hstatus
  | consented row deals now stamp _ _ _ hwritten =>
      exact hwrites hwritten rfl fun hsame => ⟨hsame, rfl, id⟩
  | released row paymentId stamp deals heligible _ hwritten =>
      exact hwrites hwritten rfl fun hsame => absurd hsame (hwithdrawn.not_eligible heligible)
  | viewed row status deals hfrom hto hwritten =>
      refine hwrites hwritten rfl fun hsame => ⟨hsame, rfl, fun hdone => ?_⟩
      simp_all
  | priced row command clock commissionAmount deals _ _ _ _ _ _ heligible _ _ _ hwritten =>
      exact hwrites hwritten rfl fun hsame => absurd hsame (hwithdrawn.not_eligible heligible)
  | completed row stamp listing written deals listings _ heligible _ _ _ _ hwritten hdeals =>
      intro deal hdeal hsame
      rcases mem_completed hwritten rfl hdeals hdeal with rfl | ⟨old, hold, _, rfl⟩
      · exact absurd hsame (hwithdrawn.not_eligible heligible)
      · rcases afterCompletion_cases row old with hkept | ⟨hexpired, _⟩
        · rw [hkept] at hsame ⊢
          exact h old hold hsame
        · rw [hexpired] at hsame ⊢
          obtain ⟨first, hfirst, hid, hreleased, _⟩ := h old hold hsame
          exact ⟨first, hfirst, hid, hreleased, fun hdone => by cases hdone⟩
  | _ => exact h

/-! ## Requests about a withdrawn listing -/

theorem Withdrawn.eligibleListing (h : Withdrawn listingId db) (tenantId : TenantId)
    (clock : OffsetDateTime) : db.eligibleListing tenantId listingId clock = none := by
  obtain ⟨withdrawn, hlookup, hstatus⟩ := h
  simp [OfflineDatabase.eligibleListing, hlookup, hstatus, ListingStatus.isLive]

/-- An exposure of a withdrawn listing is not billed. -/
theorem insertExposure_withdrawn (h : Withdrawn listingId db) {command : RecordExposure}
    (hlisting : command.listingId = listingId) (clock : BillingClock) :
    Ensures (insertExposure command clock) whatever db fun _ _ => False := by
  unfold insertExposure insertExposureWithBilling
  rw [ensures_bind]
  refine ensures_liftAny fun _ _ => ?_
  rw [ensures_bind, ensures_get, hlisting, if_pos (by simp [h.eligibleListing])]
  trivial

theorem billRecommendations_withdrawn (h : Withdrawn listingId db)
    {command : RecommendVehicleListings} {recommendations : List RecommendedListing}
    (hlisting : ∃ recommendation ∈ recommendations, recommendation.listing.id = listingId)
    (now : VehicleListingId → OffsetDateTime) (clock : VehicleListingId → BillingClock) :
    Ensures (billRecommendations command recommendations now clock) whatever db
      fun _ _ => False := by
  unfold billRecommendations
  -- The listing stays withdrawn, and it comes up before the loop ends.
  refine Ensures.mono (Ensures.forM (fun rest state => Withdrawn listingId state ∧
      ∃ recommendation ∈ rest, recommendation.listing.id = listingId) ?_ ⟨h, hlisting⟩)
    (fun _ h => h) fun _ _ hend => ?_
  · rintro recommendation rest state _ ⟨hwithdrawn, other, hother, hid⟩
    rw [ensures_bind]
    rcases List.mem_cons.mp hother with rfl | hother
    · exact (insertExposure_withdrawn hwithdrawn hid _).mono (fun _ h => h) fun _ _ h => h.elim
    · refine (keeps_insertExposureWithBilling _ (some _) state).mono (fun _ h => h) ?_
      intro _ billed hkept
      have hlistings : billed.listings = state.listings := congrArg (·.2.2.2.1) hkept
      obtain ⟨withdrawn, hlookup, hstatus⟩ := hwithdrawn
      rw [← hlistings] at hlookup
      exact ⟨⟨withdrawn, hlookup, hstatus⟩, other, hother, hid⟩
  · obtain ⟨_, _, hmem, _⟩ := hend
    cases hmem

/-- An introduction to a withdrawn listing is an old one, or refused. -/
theorem createOfflineDeal_withdrawn (h : Withdrawn listingId db) {command : CreateOfflineDeal}
    (hlisting : command.listingId = listingId) (now : OffsetDateTime) (clock : BillingClock) :
    Ensures (createOfflineDeal command now clock) whatever db fun _ db' => db' = db := by
  unfold createOfflineDeal
  rw [ensures_ite]
  refine ⟨fun _ => trivial, fun _ => ?_⟩
  rw [ensures_bind]
  refine ensures_ensurePartyRole ?_
  rw [ensures_bind, ensures_get]
  split
  · rw [ensures_ite]
    exact ⟨fun _ => trivial, fun _ => rfl⟩
  · rw [ensures_bind, ensures_require]
    refine ⟨fun _ => trivial, fun pair hpair => ?_⟩
    obtain ⟨hlookup, _, hactive⟩ := listing_of_compatiblePair hpair
    obtain ⟨withdrawn, hwithdrawn, hstatus⟩ := h
    rw [hlisting, hwithdrawn] at hlookup
    cases hlookup
    rw [hactive] at hstatus
    cases hstatus

/-- No contact is released for a deal of a withdrawn listing. -/
theorem releaseOfflineContact_withdrawn (h : Withdrawn listingId db) {command : ReleaseContact}
    {deal : OfflineDeal} (hdeal : db.deals.lookup command.offlineDealId = some deal)
    (hlisting : deal.listingId = listingId) (clock : DealClock) (billing : BillingClock) :
    Ensures (releaseOfflineContact command clock billing) whatever db fun _ _ => False := by
  unfold releaseOfflineContact
  rw [ensures_bind]
  refine ensures_offlineDealIn fun row hrow => ?_
  rw [hdeal] at hrow
  cases hrow
  rw [ensures_ite]
  refine ⟨fun _ => trivial, fun _ => ?_⟩
  rw [ensures_bind, ensures_require]
  refine ⟨fun _ => trivial, fun _ _ => ?_⟩
  rw [ensures_bind]
  exact ensures_ensureListingAuthorized fun heligible =>
    absurd hlisting (h.not_eligible heligible)

theorem recordExposure_unbilled (request : ExposureRequest) (now clock : OffsetDateTime)
    (db : OfflineDatabase) :
    (committed (recordExposure request now clock) db).campaigns = db.campaigns ∧
      (committed (recordExposure request now clock) db).promotionEvents = db.promotionEvents := by
  have hkeeps : Keeps (fun db : OfflineDatabase => (db.campaigns, db.promotionEvents))
      (recordExposure request now clock) := by
    refine (keeps_require _ _).bind fun _ => (keeps_ensurePartyRole _ _ _).bind fun _ => ?_
    refine (keeps_lift _).bind fun _ => keeps_get.bind fun _ => (keeps_throw _).ite ?_
    refine (keeps_lift _).bind fun _ => keeps_get.bind fun _ => (keeps_throw _).ite ?_
    refine (keeps_on (by intro _ _; rfl)).bind fun inserted => ?_
    cases inserted <;> exact keeps_pure _
  have hsame := hkeeps.committed db
  exact ⟨congrArg (·.1) hsame, congrArg (·.2) hsame⟩

/-- A revocation withdraws the live listings of its grant. -/
theorem withdrawn_of_revocation {command : SetMarketplaceAssetAuthorization} (hrevoked : command.enabled = false)
    (hsucceeds : Library.succeeds (setMarketplaceAssetAuthorization command) db = true)
    {listing : VehicleListing} (hlisting : db.listings.lookup listing.id = some listing)
    (hlive : listing.status.isLive = true) (hkey : listing.authorizationKey = command.key) :
    Withdrawn listing.id (committed (setMarketplaceAssetAuthorization command) db) := by
  have hrows : Ensures (setMarketplaceAssetAuthorization command) whatever db fun _ db' =>
      db'.listings.rows = db.listings.rows.map (VehicleListing.afterRevocation command.key) := by
    have hend : ∀ (authorization : MarketplaceAssetAuthorization) (reached : OfflineDatabase),
        reached.listings = db.listings → Ensures (do
          OfflineDatabase.listingTable.on
            (Table.updateAll .sqlx (VehicleListing.afterRevocation command.key))
          pure authorization : Tx OfflineDatabase MarketplaceAssetAuthorization) whatever reached
          fun _ db' => db'.listings.rows =
            db.listings.rows.map (VehicleListing.afterRevocation command.key) := by
      intro authorization reached hsame
      rw [ensures_bind, ensures_on, ← hsame]
      exact Table.ensures_updateAll_rows trivial fun listings hrows => hrows
    unfold setMarketplaceAssetAuthorization
    simp only [hrevoked, if_true]
    rw [ensures_bind]
    refine ensures_liftAny fun _ _ => ?_
    rw [ensures_bind]
    refine ensures_ensurePartyRole ?_
    rw [ensures_bind, ensures_get, ensures_ite]
    refine ⟨fun _ => trivial, fun _ => ?_⟩
    rw [ensures_bind, ensures_on]
    refine (ensures_true _ _).mono (fun _ h => h) fun updated authorizations _ => ?_
    rw [ensures_ite]
    refine ⟨fun _ => ?_, fun _ => hend _ _ rfl⟩
    rw [ensures_bind, ensures_on]
    exact (ensures_true _ _).mono (fun _ h => h) fun _ _ _ => hend _ _ rfl
  obtain ⟨_, hafter⟩ := post_of_succeeds hrows hsucceeds
  refine ⟨listing.afterRevocation command.key, ?_, ?_⟩
  · have hid : ∀ row : VehicleListing, (row.afterRevocation command.key).id = row.id := by
      intro row
      unfold VehicleListing.afterRevocation
      split <;> rfl
    rw [Table.lookup_updatedAll hafter hid, hlisting]
    rfl
  · simp [VehicleListing.afterRevocation, hkey, hlive]

end Live

/-! ## Runs -/

/-- The action is about the listing, or about something that was offered because of it. -/
def OfflineAction.Concerns (listingId : VehicleListingId) (system : OfflineSystem) :
    OfflineAction → Prop
  | .createDeal command _ _ => command.listingId = listingId
  | .acceptContact ⟨_, offlineDealId, _⟩ _ _ | .releaseContact ⟨_, offlineDealId, _, _⟩ _ _
  | .confirm ⟨_, offlineDealId, _, _⟩ _ | .finalize ⟨_, offlineDealId, _⟩ _
  | .createViewing ⟨_, _, offlineDealId, _, _, _, _, _, _⟩ _ _ =>
      ∃ deal, system.db.deals.lookup offlineDealId = some deal ∧ deal.listingId = listingId
  | .transitionViewing command _ => ∃ viewing deal,
      system.db.viewings.lookup command.viewingId = some viewing ∧
        system.db.deals.lookup viewing.offlineDealId = some deal ∧ deal.listingId = listingId
  | .bill reader _ _ => ∃ recommended, system.readers reader = some recommended ∧
      ∃ recommendation ∈ recommended.recommendations, recommendation.listing.id = listingId
  | .recordExposure request _ _ => request.listingId = listingId
  | _ => False

section Runs

variable [Jsonb] [UuidParser]

/-- What is asked about a withdrawn listing is not charged to a campaign. -/
theorem OfflineSystem.charges_nothing {system : OfflineSystem} {listingId : VehicleListingId}
    (h : Withdrawn listingId system.db) {action : OfflineAction}
    (hconcerns : action.Concerns listingId system) :
    (system.write action).campaigns = system.db.campaigns ∧
      (system.write action).promotionEvents = system.db.promotionEvents := by
  have hkept : ∀ {α : Type} {x : Tx OfflineDatabase α}, Keeps OfflineDatabase.promotions x →
      (committed x system.db).campaigns = system.db.campaigns ∧
        (committed x system.db).promotionEvents = system.db.promotionEvents := by
    intro α x hkeeps
    have hsame := hkeeps.committed system.db
    exact ⟨congrArg (·.2.1) hsame, congrArg (·.2.2) hsame⟩
  cases action with
  | createDeal command now clock =>
      have hsame : committed (createOfflineDeal command now clock) system.db = system.db :=
        (createOfflineDeal_withdrawn h hconcerns now clock).committed rfl
      simp only [write, hsame, and_self]
  | acceptContact command now stamp => exact hkept (keeps_acceptContactExchange _ _ _)
  | releaseContact command clock billing =>
      obtain ⟨deal, hdeal, hlisting⟩ := hconcerns
      have hsame := committed_of_fails
        (releaseOfflineContact_withdrawn h hdeal hlisting clock billing)
      simp only [write, hsame, and_self]
  | confirm command clock => exact hkept (keeps_confirmOfflineDeal _ _)
  | finalize command clock => exact hkept (keeps_finalizeOfflineDeal _ _)
  | createViewing command start now => exact hkept (keeps_createViewingAppointment _ _ _)
  | transitionViewing command now => exact hkept (keeps_transitionViewingAppointment _ _)
  | bill reader now clock =>
      obtain ⟨recommended, hreader, hlisting⟩ := hconcerns
      have hfails : Ensures (billRecommendations recommended.command _ now clock) whatever _ _ :=
        billRecommendations_withdrawn h hlisting now clock
      have hsame := committed_of_fails hfails
      simp only [write, hreader, hsame, and_self]
  | recordExposure request now clock => exact recordExposure_unbilled request now clock system.db
  | _ => exact hconcerns.elim

variable [Ranking]

/-- What an operation may still do about a listing: nothing that needs it to be live. -/
structure TakenBack (listingId : VehicleListingId) (system : OfflineSystem)
    (action : OfflineAction) : Prop where
  withdrawn : Withdrawn listingId system.db
  deals : Ended listingId system.db (system.step action).db
  contacts : ∀ command clock billing deal,
    system.db.deals.lookup command.offlineDealId = some deal → deal.listingId = listingId →
      Library.succeeds (releaseOfflineContact command clock billing) system.db = false
  charges : action.Concerns listingId system →
    (system.step action).db.campaigns = system.db.campaigns ∧
      (system.step action).db.promotionEvents = system.db.promotionEvents

theorem Withdrawn.takenBack {system : OfflineSystem} {listingId : VehicleListingId}
    (h : Withdrawn listingId system.db) (action : OfflineAction) :
    TakenBack listingId system action := by
  refine ⟨h, ?_, fun command clock billing deal hdeal hlisting => ?_,
    fun hconcerns => OfflineSystem.charges_nothing h hconcerns⟩
  · have hmoves := system.write_moves action
    change Ended listingId system.db (system.write action)
    generalize system.write action = reached at hmoves ⊢
    have hreached : Withdrawn listingId reached ∧ Ended listingId system.db reached := by
      induction hmoves with
      | refl => exact ⟨h, fun deal hdeal _ => ⟨deal, hdeal, rfl, rfl, id⟩⟩
      | tail _ hlast hbefore =>
          exact ⟨hbefore.1.moved hlast, hbefore.2.moved hbefore.1 hlast⟩
    exact hreached.2
  · rcases committed_cases (releaseOfflineContact_withdrawn h hdeal hlisting clock billing) with
      ⟨hfails, _⟩ | ⟨_, _, hfalse⟩
    · exact hfails
    · exact hfalse.elim

/-- In every reachable state live listings are authorized, and once a revocation has
withdrawn a listing, no later operation treats it as a live one. -/
theorem revocation_takes_effect (surroundings : OfflineSurroundings)
    (actions later : List OfflineAction) (action : OfflineAction)
    {command : SetMarketplaceAssetAuthorization} {listing : VehicleListing}
    (hrevoked : command.enabled = false)
    (hsucceeds : Library.succeeds (setMarketplaceAssetAuthorization command)
      ((OfflineSystem.initial surroundings).run actions).db = true)
    (hlisting : listing ∈ ((OfflineSystem.initial surroundings).run actions).db.listings.rows)
    (hlive : listing.status.isLive = true) (hkey : listing.authorizationKey = command.key) :
    (∀ reached, LiveAuthorized ((OfflineSystem.initial surroundings).run reached).db) ∧
      TakenBack listing.id ((OfflineSystem.initial surroundings).run
        (actions ++ [.setAuthorization command] ++ later)) action := by
  have hnone : LiveAuthorized (.initial surroundings) := fun _ hmem => (List.not_mem_nil hmem).elim
  refine ⟨fun reached => OfflineSystem.run_invariant (fun _ _ _ _ => LiveAuthorized.moved)
    hnone reached, ?_⟩
  have hwithdrawn := withdrawn_of_revocation hrevoked hsucceeds (Table.lookup_of_mem hlisting)
    hlive hkey
  refine Withdrawn.takenBack ?_ action
  rw [OfflineSystem.run_append]
  refine OfflineSystem.run_invariant (fun _ _ _ _ => Withdrawn.moved) ?_ later
  rw [OfflineSystem.run_snoc]
  exact hwithdrawn

end Runs

/-- The grant of the car is taken back. -/
def carRevocation : SetMarketplaceAssetAuthorization :=
  ⟨⟨1⟩, ⟨2⟩, ⟨3⟩, ⟨4⟩, false, "operator", "papers expired"⟩

def carListing : VehicleListing where
  id := ⟨6⟩
  tenantId := ⟨1⟩
  domainId := ⟨2⟩
  assetId := ⟨3⟩
  sellerPartyId := ⟨4⟩
  askingAmount := 10000
  currency := "EUR"
  currencyScale := 2
  commissionBps := 100
  commissionCollection := .preauthorized
  status := .active
  publishedAt := some 1
  expiresAt := none

theorem car_listed : carListing ∈ (@OfflineSystem.run plainJsonb noUuids unranked
    (.initial carSurroundings) carDeal).db.listings.rows := by
  decide +kernel

theorem car_revoked : Library.succeeds (setMarketplaceAssetAuthorization carRevocation)
    (@OfflineSystem.run plainJsonb noUuids unranked (.initial carSurroundings) carDeal).db =
      true := by
  decide +kernel

/-- Granting it again does not bring the contact back. -/
theorem car_takenBack :
    let regrant := OfflineAction.setAuthorization
      ⟨⟨1⟩, ⟨2⟩, ⟨3⟩, ⟨4⟩, true, "operator", "papers renewed"⟩
    @TakenBack plainJsonb noUuids unranked ⟨6⟩
      (@OfflineSystem.run plainJsonb noUuids unranked (.initial carSurroundings)
        (carDeal ++ [.setAuthorization carRevocation] ++ [regrant]))
      (.releaseContact ⟨⟨1⟩, ⟨8⟩, ⟨5⟩, none⟩ ⟨3, 3, 3, 3⟩ ⟨3, fun _ => 3⟩) :=
  (@revocation_takes_effect plainJsonb noUuids unranked carSurroundings carDeal _ _ carRevocation
    carListing rfl car_revoked car_listed rfl rfl).2

end MatchPlane
