import MatchPlane.Offline.System

/-!
# What the operations leave alone

Exposures, campaigns and their events are written by the operations of promotions, and
everything else by the others; an introduction and the first release of a contact are
the two that do both.
-/

namespace MatchPlane

open MatchPlane.Library

namespace OfflineDatabase

def promotions (db : OfflineDatabase) := (db.exposures, db.campaigns, db.promotionEvents)

def outsidePromotions (db : OfflineDatabase) :=
  (db.surroundings, db.assets, db.authorizations, db.listings, db.submissions, db.requests,
    db.deals, db.viewings, db.dealEvents, db.audit)

end OfflineDatabase

section Reads

variable {τ : Type} {view : OfflineDatabase → τ}

theorem keeps_ensurePartyRole (tenantId : TenantId) (partyId : MarketplacePartyId)
    (requiredRole : PartyRole) : Keeps view (ensurePartyRole tenantId partyId requiredRole) :=
  keeps_get.bind fun _ => (keeps_require _ _).bind fun _ => (keeps_throw _).ite (keeps_pure _)

theorem keeps_ensurePartyActive (tenantId : TenantId) (partyId : MarketplacePartyId) :
    Keeps view (ensurePartyActive tenantId partyId) :=
  keeps_get.bind fun _ => (keeps_throw _).ite (keeps_pure _)

theorem keeps_listingPolicy (tenantId : TenantId) (domainId : DomainId) (currency : String)
    (currencyScale : Int) : Keeps view (listingPolicy tenantId domainId currency currencyScale) :=
  keeps_get.bind fun _ => (keeps_require _ _).bind fun _ => (keeps_throw _).ite (keeps_pure _)

theorem keeps_offlineDealIn (offlineDealId : OfflineDealId) :
    Keeps view (offlineDealIn offlineDealId) :=
  keeps_get.bind fun _ => keeps_require _ _

theorem keeps_ensureListingAuthorized (deal : OfflineDeal) (clock : OffsetDateTime) :
    Keeps view (ensureListingAuthorized deal clock) :=
  keeps_get.bind fun _ => (keeps_throw _).ite (keeps_pure _)

theorem keeps_validateDealParticipant (deal : OfflineDeal) (tenantId : TenantId)
    (actorPartyId : MarketplacePartyId) :
    Keeps view (validateDealParticipant deal tenantId actorPartyId) :=
  (keeps_throw _).ite ((keeps_throw _).ite (keeps_ensurePartyActive _ _))

end Reads

/-! ## Promotions -/

theorem keeps_recordSellerPromotionEventIn (command : RecordSellerPromotionEvent)
    (eventType : PromotionEventType) (now : OffsetDateTime) :
    Keeps OfflineDatabase.outsidePromotions
      (recordSellerPromotionEventIn command eventType now) := by
  have hcampaign : Keeps OfflineDatabase.outsidePromotions (sellerPromotionIn command.campaignId) :=
    keeps_get.bind fun _ => keeps_require _ _
  refine hcampaign.bind fun _ => (keeps_throw _).ite (keeps_get.bind fun _ => ?_)
  split
  · exact keeps_pure _
  · refine (keeps_pure _).ite ((keeps_pure _).ite (Keeps.ite ?_ ?_))
    · exact (keeps_on (by intro _ _; rfl)).bind fun _ => keeps_pure _
    · refine Keeps.bind ?_ fun _ => keeps_pure _
      refine (keeps_throw _).ite ((keeps_require _ _).bind fun _ => ?_)
      refine (keeps_on (by intro _ _; rfl)).bind fun _ => ?_
      refine (keeps_on (by intro _ _; rfl)).bind fun _ => ?_
      exact hcampaign.bind fun _ => keeps_pure _

theorem keeps_insertExposureWithBilling (command : RecordExposure) (bill : Option BillingClock) :
    Keeps OfflineDatabase.outsidePromotions (insertExposureWithBilling command bill) := by
  have hbilled : ∀ clock : BillingClock, Keeps OfflineDatabase.outsidePromotions
      (billPromotionsForExposure command clock.campaign) := by
    intro clock
    refine keeps_get.bind fun _ => keeps_forM fun campaignId => ?_
    refine (keeps_recordSellerPromotionEventIn _ _ _).bind fun answer => ?_
    split
    · exact keeps_pure _
    · exact keeps_pure _
    · exact keeps_throw _
  refine (keeps_lift _).bind fun _ => keeps_get.bind fun _ => (keeps_throw _).ite ?_
  refine (keeps_on (by intro _ _; rfl)).bind fun inserted => ?_
  split
  · exact (hbilled _).bind fun _ => keeps_pure _
  · exact keeps_pure _

theorem keeps_recordExposure (request : ExposureRequest) (now clock : OffsetDateTime) :
    Keeps OfflineDatabase.outsidePromotions (recordExposure request now clock) := by
  refine (keeps_require _ _).bind fun _ => (keeps_ensurePartyRole _ _ _).bind fun _ => ?_
  refine (keeps_lift _).bind fun _ => keeps_get.bind fun _ => (keeps_throw _).ite ?_
  exact keeps_insertExposureWithBilling _ none

/-! ## Deals -/

theorem keeps_noteDealEvent (event : OfflineDealEvent) :
    Keeps OfflineDatabase.promotions (noteDealEvent event) :=
  keeps_on (by intro _ _; rfl)

theorem keeps_updateDeal (offlineDealId : OfflineDealId) (guard : OfflineDeal → Bool)
    (set : OfflineDeal → OfflineDeal) :
    Keeps OfflineDatabase.promotions (updateDeal offlineDealId guard set) :=
  (keeps_on (by intro _ _; rfl)).bind fun _ => keeps_pure _

theorem keeps_acceptContactExchange (command : AcceptContactExchange)
    (now stamp : OffsetDateTime) :
    Keeps OfflineDatabase.promotions (acceptContactExchange command now stamp) := by
  refine (keeps_offlineDealIn _).bind fun _ => (keeps_throw _).ite ((keeps_throw _).ite ?_)
  refine (keeps_ensurePartyRole _ _ _).bind fun _ => (keeps_throw _).ite (Keeps.ite ?_ ?_)
  · refine (keeps_updateDeal _ _ _).bind fun _ => (keeps_noteDealEvent _).bind fun _ => ?_
    exact keeps_offlineDealIn _
  · exact keeps_offlineDealIn _

theorem keeps_completeOfflineDealIn (deal : OfflineDeal) (actorPartyId : MarketplacePartyId)
    (paymentId : Option PaymentId) (now stamp : OffsetDateTime) :
    Keeps OfflineDatabase.promotions
      (completeOfflineDealIn deal actorPartyId paymentId now stamp) := by
  refine (keeps_throw _).ite ((keeps_updateDeal _ _ _).bind fun _ => ?_)
  refine (keeps_on (by intro _ _; rfl)).bind fun _ => ?_
  refine (keeps_on (by intro _ _; rfl)).bind fun _ => ?_
  exact (keeps_on (by intro _ _; rfl)).bind fun _ => keeps_noteDealEvent _

theorem keeps_confirmOfflineDeal (command : ConfirmOfflineDeal) (clock : DealClock) :
    Keeps OfflineDatabase.promotions (confirmOfflineDeal command clock) := by
  have hend : Keeps OfflineDatabase.promotions (do
      let deal ← offlineDealIn command.offlineDealId
      pure ⟨deal, nextDealAction (← get) deal⟩ : Tx OfflineDatabase OfflineDealProgress) :=
    (keeps_offlineDealIn _).bind fun _ => keeps_get.bind fun _ => keeps_pure _
  have hconfirmed : ∀ commissionAmount : Int, Keeps OfflineDatabase.promotions (do
      let confirmed ← offlineDealIn command.offlineDealId
      let paymentId := capturedCommissionPayment (← get) confirmed
      if confirmed.sellerConfirmedAt.isSome ∧ confirmed.buyerConfirmedAt.isSome ∧
          (commissionAmount = 0 ∨ paymentId.isSome) then
        completeOfflineDealIn confirmed command.actorPartyId paymentId clock.completion clock.stamp
      let deal ← offlineDealIn command.offlineDealId
      pure ⟨deal, nextDealAction (← get) deal⟩ : Tx OfflineDatabase OfflineDealProgress) := by
    intro commissionAmount
    refine (keeps_offlineDealIn _).bind fun _ => keeps_get.bind fun _ => Keeps.ite ?_ hend
    exact (keeps_completeOfflineDealIn _ _ _ _ _).bind fun _ => hend
  refine (keeps_throw _).ite ((keeps_offlineDealIn _).bind fun _ => ?_)
  refine (keeps_validateDealParticipant _ _ _).bind fun _ => (keeps_pure _).ite ?_
  refine (keeps_throw _).ite ((keeps_ensureListingAuthorized _ _).bind fun _ => ?_)
  refine (keeps_throw _).ite ((keeps_throw _).ite ((keeps_lift _).bind fun _ => Keeps.ite ?_ ?_))
  · refine Keeps.bind ?_ fun _ => hconfirmed _
    exact (keeps_updateDeal _ _ _).bind fun _ => keeps_noteDealEvent _
  · exact hconfirmed _

theorem keeps_finalizeOfflineDeal (command : FinalizeOfflineDeal) (clock : DealClock) :
    Keeps OfflineDatabase.promotions (finalizeOfflineDeal command clock) := by
  refine (keeps_offlineDealIn _).bind fun _ => (keeps_validateDealParticipant _ _ _).bind fun _ => ?_
  refine (keeps_pure _).ite ((keeps_throw _).ite ?_)
  refine (keeps_ensureListingAuthorized _ _).bind fun _ => (keeps_throw _).ite ?_
  refine keeps_get.bind fun _ => (keeps_pure _).ite ?_
  refine (keeps_completeOfflineDealIn _ _ _ _ _).bind fun _ => ?_
  exact (keeps_offlineDealIn _).bind fun _ => keeps_pure _

theorem keeps_createViewingAppointment (command : CreateViewingAppointment)
    (start now : OffsetDateTime) :
    Keeps OfflineDatabase.promotions (createViewingAppointment command start now) := by
  refine (keeps_throw _).ite ((keeps_throw _).ite ((keeps_offlineDealIn _).bind fun _ => ?_))
  refine (keeps_validateDealParticipant _ _ _).bind fun _ => (keeps_throw _).ite ?_
  refine (keeps_throw _).ite ((keeps_throw _).ite (keeps_get.bind fun _ => ?_))
  refine (keeps_throw _).ite ((keeps_on (by intro _ _; rfl)).bind fun _ => ?_)
  exact (keeps_updateDeal _ _ _).bind fun _ => (keeps_noteDealEvent _).bind fun _ => keeps_pure _

theorem keeps_transitionViewingAppointment (command : TransitionViewingAppointment)
    (now : OffsetDateTime) :
    Keeps OfflineDatabase.promotions (transitionViewingAppointment command now) := by
  refine keeps_get.bind fun _ => (keeps_require _ _).bind fun _ => (keeps_throw _).ite ?_
  refine (keeps_offlineDealIn _).bind fun _ => (keeps_validateDealParticipant _ _ _).bind fun _ => ?_
  refine (keeps_throw _).ite ((keeps_require _ _).bind fun _ => ?_)
  refine (keeps_on (by intro _ _; rfl)).bind fun _ => Keeps.ite ?_ ?_
  · refine (keeps_updateDeal _ _ _).bind fun _ => (keeps_noteDealEvent _).bind fun _ => ?_
    exact keeps_require _ _
  · exact (keeps_noteDealEvent _).bind fun _ => keeps_require _ _

/-! ## Listings and requests -/

theorem keeps_setMarketplaceAssetAuthorization (command : SetMarketplaceAssetAuthorization) :
    Keeps OfflineDatabase.promotions (setMarketplaceAssetAuthorization command) := by
  have hend : ∀ authorization : MarketplaceAssetAuthorization,
      Keeps OfflineDatabase.promotions (if command.enabled = false then do
          OfflineDatabase.listingTable.on
            (Table.updateAll .sqlx (VehicleListing.afterRevocation command.key))
          pure authorization
        else pure authorization : Tx OfflineDatabase MarketplaceAssetAuthorization) := by
    intro authorization
    exact Keeps.ite ((keeps_on (by intro _ _; rfl)).bind fun _ => keeps_pure _) (keeps_pure _)
  refine (keeps_lift _).bind fun _ => (keeps_ensurePartyRole _ _ _).bind fun _ => ?_
  refine keeps_get.bind fun _ => (keeps_throw _).ite ?_
  refine (keeps_on (by intro _ _; rfl)).bind fun _ => Keeps.ite ?_ (hend _)
  exact (keeps_on (by intro _ _; rfl)).bind fun _ => hend _

theorem keeps_approveMarketplaceListingSubmission (command : ApproveMarketplaceListingSubmission)
    (assetId : AssetId) (listingId : VehicleListingId) (stamp : OffsetDateTime) :
    Keeps OfflineDatabase.promotions
      (approveMarketplaceListingSubmission command assetId listingId stamp) := by
  refine (keeps_lift _).bind fun _ => keeps_get.bind fun _ => (keeps_require _ _).bind fun _ => ?_
  refine (keeps_throw _).ite ((keeps_on (by intro _ _; rfl)).bind fun _ => ?_)
  refine (keeps_on (by intro _ _; rfl)).bind fun _ => (keeps_listingPolicy _ _ _ _).bind fun _ => ?_
  refine (keeps_on (by intro _ _; rfl)).bind fun _ => ?_
  exact (keeps_on (by intro _ _; rfl)).bind fun _ => keeps_pure _

theorem keeps_createVehicleListing (command : CreateVehicleListing) (stamp : OffsetDateTime) :
    Keeps OfflineDatabase.promotions (createVehicleListing command stamp) := by
  refine (keeps_throw _).ite ((keeps_ensurePartyRole _ _ _).bind fun _ => ?_)
  refine keeps_get.bind fun _ => (keeps_throw _).ite ((keeps_listingPolicy _ _ _ _).bind fun _ => ?_)
  exact (keeps_on (by intro _ _; rfl)).bind fun _ => keeps_pure _

theorem keeps_createBuyerVehicleRequest [Jsonb] (command : CreateBuyerVehicleRequest) :
    Keeps OfflineDatabase.promotions (createBuyerVehicleRequest command) := by
  refine (keeps_throw _).ite ((keeps_throw _).ite ((keeps_ensurePartyRole _ _ _).bind fun _ => ?_))
  exact (keeps_on (by intro _ _; rfl)).bind fun _ => keeps_pure _

end MatchPlane
