import MatchPlane.Marketplace.System

/-!
# What the operations leave alone

Intents, offers and introductions are each written by their own operations, except
that a new introduction marks its intent as matched.  A view of what an operation
does not write is kept by it.
-/

namespace MatchPlane

open MatchPlane.Library

namespace MarketDatabase

def outsideIntents (db : MarketDatabase) :=
  (db.offers, db.introductions, db.contacts, db.surroundings)

def outsideOffers (db : MarketDatabase) :=
  (db.intents, db.introductions, db.contacts, db.surroundings)

def outsideIntroductions (db : MarketDatabase) := (db.offers, db.contacts, db.surroundings)

def catalog (db : MarketDatabase) := (db.intents, db.offers, db.surroundings)

end MarketDatabase

/-! ## Intents -/

section Intents

variable [Jsonb]

theorem keeps_insertIntent (command : CreateMarketplaceIntent) :
    Keeps MarketDatabase.outsideIntents (insertIntent command) := by
  refine (keeps_require _ _).bind fun _ => ?_
  exact (keeps_on (by intro _ _; rfl)).bind fun _ => keeps_pure _

theorem keeps_createMarketplaceIntent (command : CreateMarketplaceIntent) (now : OffsetDateTime)
    (looked : MarketDatabase) :
    Keeps MarketDatabase.outsideIntents (createMarketplaceIntent command now looked) := by
  unfold createMarketplaceIntent
  refine (keeps_lift _).bind fun _ => ?_
  split
  · exact (keeps_lift _).bind fun _ => keeps_pure _
  · exact (keeps_insertIntent command).bind fun _ => keeps_pure _

theorem keeps_updateMarketplaceIntent (command : UpdateMarketplaceIntent) :
    Keeps MarketDatabase.outsideIntents (updateMarketplaceIntent command) := by
  refine (keeps_lift _).bind fun _ => (keeps_lift _).bind fun _ => ?_
  refine (keeps_lift _).bind fun _ => (keeps_throw _).ite ?_
  exact (keeps_on (by intro _ _; rfl)).bind fun _ => keeps_require _ _

end Intents

theorem keeps_updateMarketplaceDemandDiscovery (command : UpdateMarketplaceDemandDiscovery)
    (now : OffsetDateTime) :
    Keeps MarketDatabase.outsideIntents (updateMarketplaceDemandDiscovery command now) := by
  refine (keeps_lift _).bind fun _ => (keeps_throw _).ite ?_
  exact (keeps_on (by intro _ _; rfl)).bind fun _ => keeps_require _ _

/-! ## Offers -/

theorem keeps_lockMarketplaceOffer {τ : Type} {view : MarketDatabase → τ} (tenantId : TenantId)
    (domainId : DomainId) (offerId : MarketplaceOfferId) :
    Keeps view (lockMarketplaceOffer tenantId domainId offerId) :=
  keeps_get.bind fun _ => keeps_require _ _

section Offers

variable [Jsonb]

theorem keeps_insertOffer (command : CreateMarketplaceOffer) :
    Keeps MarketDatabase.outsideOffers (insertOffer command) := by
  refine keeps_get.bind fun _ => (keeps_throw _).ite ?_
  exact (keeps_on (by intro _ _; rfl)).bind fun _ => keeps_pure _

theorem keeps_createMarketplaceOffer (command : CreateMarketplaceOffer) (now : OffsetDateTime)
    (looked : MarketDatabase) (authorizing : MarketSurroundings) :
    Keeps MarketDatabase.outsideOffers (createMarketplaceOffer command now looked authorizing) := by
  unfold createMarketplaceOffer
  refine (keeps_lift _).bind fun _ => ?_
  split
  · exact (keeps_lift _).bind fun _ => keeps_pure _
  · refine (keeps_throw _).ite ?_
    exact (keeps_insertOffer command).bind fun _ => keeps_pure _

theorem keeps_updateMarketplaceOffer (command : UpdateMarketplaceOffer) :
    Keeps MarketDatabase.outsideOffers (updateMarketplaceOffer command) := by
  refine (keeps_lift _).bind fun _ => (keeps_lockMarketplaceOffer _ _ _).bind fun _ => ?_
  refine (keeps_lift _).bind fun _ => (keeps_lift _).bind fun _ => (keeps_throw _).ite ?_
  exact (keeps_on (by intro _ _; rfl)).bind fun _ => keeps_require _ _

theorem keeps_activateMarketplaceOffer (tenantId : TenantId) (offerId : MarketplaceOfferId)
    (expectedVersion : Int) (stamp : OffsetDateTime) :
    Keeps MarketDatabase.outsideOffers
      (activateMarketplaceOffer tenantId offerId expectedVersion stamp) := by
  refine (keeps_throw _).ite (keeps_get.bind fun _ => ?_)
  exact (keeps_on (by intro _ _; rfl)).bind fun _ => keeps_require _ _

end Offers

theorem keeps_withdrawMarketplaceOffer (command : WithdrawMarketplaceOffer) :
    Keeps MarketDatabase.outsideOffers (withdrawMarketplaceOffer command) := by
  refine (keeps_lockMarketplaceOffer _ _ _).bind fun _ => ?_
  refine (keeps_lift _).bind fun _ => (keeps_lift _).bind fun _ => (keeps_throw _).ite ?_
  exact (keeps_on (by intro _ _; rfl)).bind fun _ => keeps_require _ _

theorem keeps_rejectMarketplaceOffer (tenantId : TenantId) (offerId : MarketplaceOfferId)
    (expectedVersion : Int) :
    Keeps MarketDatabase.outsideOffers
      (rejectMarketplaceOffer tenantId offerId expectedVersion) := by
  refine (keeps_throw _).ite ?_
  exact (keeps_on (by intro _ _; rfl)).bind fun _ => keeps_require _ _

/-! ## Introductions -/

theorem keeps_createMarketplaceIntroduction (command : CreateMarketplaceIntroduction)
    (now : OffsetDateTime) :
    Keeps MarketDatabase.outsideIntroductions (createMarketplaceIntroduction command now) := by
  unfold createMarketplaceIntroduction
  refine (keeps_lift _).bind fun _ => keeps_get.bind fun _ => ?_
  split
  · exact (keeps_throw _).ite (keeps_pure _)
  · refine (keeps_require _ _).bind fun _ => (keeps_throw _).ite ((keeps_throw _).ite ?_)
    refine (keeps_throw _).ite ((keeps_throw _).ite ((keeps_throw _).ite ?_))
    split
    · exact (keeps_throw _).ite (keeps_pure _)
    · refine (keeps_on (by intro _ _; rfl)).bind fun _ => ?_
      exact (keeps_on (by intro _ _; rfl)).bind fun _ => keeps_pure _

def MarketplaceIntent.match (intent : MarketplaceIntent) : MarketplaceIntent :=
  { intent with
    status := .matched
    version := intent.version + 1 }

/-- A new introduction is proposed without consent, and its intent is matched if it was open. -/
theorem ensures_createMarketplaceIntroduction {db : MarketDatabase}
    (command : CreateMarketplaceIntroduction) (now : OffsetDateTime) :
    Ensures (createMarketplaceIntroduction command now) whatever db fun _ db' =>
      db' = db ∨ ∃ row : MarketplaceIntroduction, row.status = .proposed ∧
        row.supplyContactConsentAt = none ∧
        db'.introductions.rows = db.introductions.rows ++ [row] ∧
        (db'.intents = db.intents ∨
          ∃ intent : MarketplaceIntent, Table.Written db.intents db'.intents intent
            intent.match) := by
  unfold createMarketplaceIntroduction
  rw [ensures_bind]
  refine ensures_liftAny fun _ _ => ?_
  rw [ensures_bind, ensures_get]
  split
  · rw [ensures_ite]
    exact ⟨fun _ => trivial, fun _ => .inl rfl⟩
  · rw [ensures_bind, ensures_require]
    refine ⟨fun _ => trivial, fun pair _ => ?_⟩
    iterate 5
      rw [ensures_ite]
      refine ⟨fun _ => trivial, fun _ => ?_⟩
    split
    · rw [ensures_ite]
      exact ⟨fun _ => trivial, fun _ => .inl rfl⟩
    · rw [ensures_bind, ensures_on]
      refine Table.ensures_insert trivial fun introductions hrows => ?_
      rw [ensures_bind, ensures_on]
      refine Table.ensures_update_cases (fun _ => rfl) trivial (fun _ => ?_) ?_
      · exact .inr ⟨_, rfl, rfl, hrows, .inl rfl⟩
      · intro intent intents _ _ hwritten
        exact .inr ⟨_, rfl, rfl, hrows, .inr ⟨intent, hwritten⟩⟩

theorem keeps_lockIntroduction {τ : Type} {view : MarketDatabase → τ} (tenantId : TenantId)
    (introductionId : MatchIntroductionId) :
    Keeps view (lockIntroduction tenantId introductionId) :=
  keeps_get.bind fun _ => keeps_require _ _

theorem keeps_insertMarketplaceContactEvent (event : ContactEvent) :
    Keeps MarketDatabase.catalog (insertMarketplaceContactEvent event) := by
  refine (keeps_on (by intro _ _; rfl)).bind fun _ => Keeps.ite ?_ (keeps_pure _)
  exact keeps_get.bind fun _ => (keeps_throw _).ite (keeps_pure _)

theorem keeps_updateIntroduction (introductionId : MatchIntroductionId)
    (guard : MarketplaceIntroduction → Bool)
    (set : MarketplaceIntroduction → MarketplaceIntroduction) :
    Keeps MarketDatabase.catalog
      (updateIntroduction introductionId guard set) :=
  (keeps_on (by intro _ _; rfl)).bind fun _ => keeps_pure _

theorem keeps_requestMarketplaceContact (command : RequestMarketplaceContact)
    (now : OffsetDateTime) :
    Keeps MarketDatabase.catalog (requestMarketplaceContact command now) := by
  refine (keeps_lift _).bind fun _ => (keeps_lockIntroduction _ _).bind fun _ => ?_
  refine (keeps_throw _).ite (Keeps.ite ?_ (Keeps.ite ?_ ?_))
  · exact (keeps_insertMarketplaceContactEvent _).bind fun _ => keeps_pure _
  · refine (keeps_updateIntroduction _ _ _).bind fun _ => ?_
    refine (keeps_insertMarketplaceContactEvent _).bind fun _ => ?_
    exact (keeps_lockIntroduction _ _).bind fun _ => keeps_pure _
  · refine (keeps_insertMarketplaceContactEvent _).bind fun _ => ?_
    exact (keeps_lockIntroduction _ _).bind fun _ => keeps_pure _

theorem keeps_acceptMarketplaceContact (command : AcceptMarketplaceContact)
    (now stamp : OffsetDateTime) :
    Keeps MarketDatabase.catalog (acceptMarketplaceContact command now stamp) := by
  refine (keeps_lift _).bind fun _ => (keeps_lockIntroduction _ _).bind fun _ => ?_
  refine (keeps_throw _).ite (Keeps.ite ?_ (Keeps.ite ?_ ?_))
  · exact (keeps_insertMarketplaceContactEvent _).bind fun _ => keeps_pure _
  · refine (keeps_updateIntroduction _ _ _).bind fun _ => ?_
    refine (keeps_insertMarketplaceContactEvent _).bind fun _ => ?_
    exact (keeps_lockIntroduction _ _).bind fun _ => keeps_pure _
  · refine (keeps_insertMarketplaceContactEvent _).bind fun _ => ?_
    exact (keeps_lockIntroduction _ _).bind fun _ => keeps_pure _

theorem keeps_releaseMarketplaceContact (command : ReleaseMarketplaceContact)
    (now stamp : OffsetDateTime) :
    Keeps MarketDatabase.catalog (releaseMarketplaceContact command now stamp) := by
  refine (keeps_lift _).bind fun _ => (keeps_lockIntroduction _ _).bind fun _ => ?_
  refine (keeps_require _ _).bind fun _ => Keeps.ite ?_ ?_
  · exact (keeps_insertMarketplaceContactEvent _).bind fun _ => keeps_pure _
  · refine (keeps_updateIntroduction _ _ _).bind fun _ => ?_
    refine (keeps_insertMarketplaceContactEvent _).bind fun _ => keeps_get.bind fun _ => ?_
    refine (keeps_require _ _).bind fun _ => ?_
    exact (keeps_lockIntroduction _ _).bind fun _ => keeps_pure _

end MatchPlane
