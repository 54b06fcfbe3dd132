import MatchPlane.Offline.Billing
import MatchPlane.Offline.Keys
import MatchPlane.Offline.Revocation

/-!
# Release of contacts

The contact of a deal goes to its two sides only, after the seller has agreed and while
the commission is secured.  The audit records every refusal that is an answer; a failure
takes its row back, so the calls that leave no row are those that fail.
-/

namespace MatchPlane

open MatchPlane.Library

/-! ## The exposure of a release -/

section Exposure

variable {db : OfflineDatabase}

theorem promotionCharge_contactExchange (pricingModel : PricingModel) (units unitPrice : Int) :
    promotionCharge pricingModel .contactExchange units unitPrice = (0, 0) := by
  cases pricingModel <;> rfl

/-- A campaign that is charged nothing can be written. -/
theorem check_charged_nothing {campaign : SellerPromotionCampaign} {spent units : Int}
    {status : CampaignStatus} (h : sellerPromotionCampaigns.check campaign = true)
    (hspent : spent = campaign.spentAmount) (hunits : units = campaign.billableUnits) :
    sellerPromotionCampaigns.check
      { campaign with
        spentAmount := spent
        billableUnits := units
        status := status } = true := by
  subst hspent hunits
  exact h

/-- A contact exchange of a campaign is recorded, or refused by an answer. -/
theorem ensures_contactExchange {command : RecordSellerPromotionEvent}
    {campaign : SellerPromotionCampaign} (now : OffsetDateTime)
    (hcampaign : db.campaigns.lookup command.campaignId = some campaign)
    (htenant : campaign.tenantId = command.tenantId)
    (hkey : hasLength 240 command.deduplicationKey = true) :
    Ensures (recordSellerPromotionEventIn command .contactExchange now) never db
      fun answer db' => (∀ error, answer = .error error → ∃ message, error = .conflict message) ∧
        db'.outsidePromotions = db.outsidePromotions ∧
        ∀ campaignId row, db.campaigns.lookup campaignId = some row →
          ∃ row', db'.campaigns.lookup campaignId = some row' ∧ row'.tenantId = row.tenantId := by
  have hcheck : sellerPromotionCampaigns.check campaign = true := Table.check_of_lookup hcampaign
  obtain ⟨_, _, hbudget, hspent, _, hunits, hwithin⟩ := bounds_of_check hcheck
  -- A row that is written keeps its tenant, and the others stay.
  have hkept : ∀ {campaigns : Table sellerPromotionCampaigns} {row' : SellerPromotionCampaign},
      (∀ key, campaigns.lookup key =
        if key = command.campaignId then some row' else db.campaigns.lookup key) →
      row'.tenantId = campaign.tenantId → ∀ campaignId row,
        db.campaigns.lookup campaignId = some row → ∃ row'',
          campaigns.lookup campaignId = some row'' ∧ row''.tenantId = row.tenantId := by
    intro campaigns row' hlookup hsame campaignId row hrow
    rw [hlookup]
    by_cases hid : campaignId = command.campaignId
    · rw [hid, hcampaign] at hrow
      cases hrow
      exact ⟨row', if_pos hid, hsame⟩
    · exact ⟨row, (if_neg hid).trans hrow, rfl⟩
  unfold recordSellerPromotionEventIn
  simp only [sellerPromotionIn, ensures_bind, ensures_get, hcampaign, ensures_require_some]
  rw [if_neg (by simp [htenant]), ensures_bind, ensures_get]
  split
  · exact ⟨(fun _ herror => by cases herror), rfl, fun _ row hrow => ⟨row, hrow, rfl⟩⟩
  · rename_i hfree
    iterate 2
      rw [ensures_ite]
      refine ⟨fun _ => ⟨fun error herror => ?_, rfl, fun _ row hrow => ⟨row, hrow, rfl⟩⟩,
        fun _ => ?_⟩
      · cases herror
        exact ⟨_, rfl⟩
    rw [ensures_ite]
    refine ⟨fun _ => ?_, fun _ => ?_⟩
    · rw [ensures_bind, ensures_on]
      refine Table.ensures_update_valid hcampaign (by simp [htenant]) (fun _ => rfl)
        (fun _ _ => ⟨rfl, rfl⟩) hcheck fun campaigns hlookup _ => ?_
      refine ⟨fun error herror => ?_, rfl, hkept hlookup rfl⟩
      cases herror
      exact ⟨_, rfl⟩
    · rw [ensures_bind]
      unfold chargeCampaign
      simp only [promotionCharge_contactExchange]
      have hremaining : saturated (campaign.budgetAmount - campaign.spentAmount) =
          campaign.budgetAmount - campaign.spentAmount := saturated_eq (by omega) (by omega)
      have hcharge : max (min 0 (saturated (campaign.budgetAmount - campaign.spentAmount))) 0 =
          (0 : Int) := by omega
      have hfits : InI128 (campaign.spentAmount + 0) := by
        unfold InI128 i128Min i128Max
        omega
      simp only [hcharge]
      rw [if_neg (by omega), I128.ofInt?_eq_some hfits, ensures_bind, ensures_require_some,
        ensures_bind, ensures_on]
      refine Table.ensures_update_valid hcampaign (by simp [htenant]) (fun _ => rfl)
        (fun _ _ => ⟨rfl, rfl⟩)
        (check_charged_nothing hcheck (add_zero _) (add_zero _)) fun campaigns hlookup _ => ?_
      rw [ensures_bind, ensures_on]
      refine Table.ensures_insert_valid ?_ hfree (fun _ _ => rfl) fun promotionEvents _ => ?_
      · simp only [sellerPromotionCampaigns, decide_eq_true_eq] at hcheck
        simp [sellerPromotionEvents, isNumeric, i64Max, hcheck, hkey,
          RecordSellerPromotionEvent.key]
      · simp only [sellerPromotionIn, ensures_bind, ensures_get]
        have hself := hlookup command.campaignId
        rw [if_pos rfl] at hself
        change Ensures (require _ (campaigns.lookup command.campaignId)) _ _ _
        rw [hself, ensures_require_some]
        exact ⟨(fun _ herror => by cases herror), rfl, hkept hlookup rfl⟩

theorem exposureKey_stored {key : String} (h : hasLength 200 key = true) :
    hasLength 240 s!"exposure:{key}" = true := by
  have hstart : "exposure:".length = 9 := by decide
  change hasLength 240 ("exposure:" ++ key) = true
  simp only [hasLength, decide_eq_true_eq, String.length_append, hstart] at h ⊢
  omega

/-- The campaigns of the listing take note of a contact exchange, and charge nothing. -/
theorem ensures_billContactExchange {command : RecordExposure}
    (htype : command.eventType = .matchedContact)
    (hkey : hasLength 200 command.deduplicationKey = true)
    (clock : PromotionCampaignId → OffsetDateTime) :
    Ensures (billPromotionsForExposure command clock) never db fun _ db' =>
      db'.outsidePromotions = db.outsidePromotions := by
  unfold billPromotionsForExposure
  rw [ensures_bind, ensures_get]
  refine Ensures.mono (Ensures.forM (fun rest state =>
      state.outsidePromotions = db.outsidePromotions ∧
        ∀ campaignId ∈ rest, ∃ campaign, state.campaigns.lookup campaignId = some campaign ∧
          campaign.tenantId = command.tenantId) ?_ ⟨rfl, fun campaignId hmem => ?_⟩)
    (fun _ h => h) fun _ _ hend => hend.1
  · rintro campaignId rest state _ ⟨hsame, hcampaigns⟩
    obtain ⟨campaign, hcampaign, htenant⟩ := hcampaigns campaignId List.mem_cons_self
    have hpromotion : command.eventType.promotion = .contactExchange := by
      rw [htype]
      rfl
    have hcontact := @ensures_contactExchange state (command.promotionEvent campaignId) campaign
      (clock campaignId) hcampaign htenant (exposureKey_stored hkey)
    unfold billCampaign
    rw [hpromotion, ensures_bind]
    refine hcontact.mono (fun _ h => h) ?_
    rintro answer state' ⟨hconflict, hsame', hkept⟩
    have hrest : state'.outsidePromotions = db.outsidePromotions ∧
        ∀ other ∈ rest, ∃ campaign, state'.campaigns.lookup other = some campaign ∧
          campaign.tenantId = command.tenantId := by
      refine ⟨hsame'.trans hsame, fun other hother => ?_⟩
      obtain ⟨row, hrow, hrow'⟩ := hcampaigns other (List.mem_cons_of_mem _ hother)
      obtain ⟨row', hlookup, htenant'⟩ := hkept other row hrow
      exact ⟨row', hlookup, htenant'.trans hrow'⟩
    cases answer with
    | ok outcome => exact hrest
    | error error =>
        obtain ⟨message, rfl⟩ := hconflict error rfl
        exact hrest
  · simp only [promotedBy, List.mem_map, List.mem_filter, decide_eq_true_eq] at hmem
    obtain ⟨campaign, ⟨hmem, htenant, _⟩, rfl⟩ := hmem
    exact ⟨campaign, Table.lookup_of_mem hmem, htenant⟩

/-- The exposure of a release does not fail while the listing is live. -/
theorem ensures_contactExposure {command : ReleaseContact} {deal : OfflineDeal}
    (now : OffsetDateTime) {billing : BillingClock}
    (hlive : (db.eligibleListing command.tenantId deal.listingId billing.listing).isSome) :
    Ensures (insertExposure (deal.contactExposure command now) billing) never db fun _ db' =>
      db'.outsidePromotions = db.outsidePromotions := by
  obtain ⟨htrimmed, hlength⟩ := contactKey_stored deal.id
  have hvalid : validateExposure (deal.contactExposure command now) = .ok () := by
    have hsource : maxTrimmed 100 "offline_match" = true := by decide +kernel
    simp [validateExposure, OfflineDeal.contactExposure, hsource, htrimmed]
  have hcheck : sellerExposureEvents.check (deal.contactExposure command now).row = true := by
    have hsource : hasLength 100 "offline_match" = true := by decide +kernel
    simp [sellerExposureEvents, RecordExposure.row, OfflineDeal.contactExposure, hsource, hlength]
  unfold insertExposure insertExposureWithBilling
  rw [ensures_bind, hvalid, ensures_lift, ensures_bind, ensures_get]
  rw [ensures_ite]
  refine ⟨fun hdead => ?_, fun _ => ?_⟩
  · change (db.eligibleListing command.tenantId deal.listingId billing.listing).isNone = true at hdead
    simp [Option.isNone_iff_eq_none.mp hdead] at hlive
  rw [ensures_bind, ensures_on]
  cases hknown : db.exposures.lookup (deal.contactExposure command now).row.key with
  | some other => exact Table.ensures_insertOrIgnore_known hknown hcheck rfl
  | none =>
      refine Table.ensures_insertOrIgnore_new hcheck hknown (fun _ _ => rfl) fun exposures _ => ?_
      have htype : (deal.contactExposure command now).eventType = .matchedContact := rfl
      rw [ensures_bind]
      exact ensures_billContactExchange htype hlength billing.campaign

end Exposure

/-! ## One call -/

def ReleaseContact.entry (command : ReleaseContact) (targetPartyId : MarketplacePartyId)
    (decision : ContactDecision) : ContactAccess where
  tenantId := command.tenantId
  offlineDealId := command.offlineDealId
  actorPartyId := command.actorPartyId
  targetPartyId := targetPartyId
  decision := decision
  requestFingerprint := command.requestFingerprint

/-- What a call of one side of the deal needs to leave its row in the audit. -/
structure Auditable (db : OfflineDatabase) (command : ReleaseContact) (clock : DealClock)
    (billing : BillingClock) (deal : OfflineDeal) (targetPartyId : MarketplacePartyId) :
    Prop where
  listing : ∃ listing, db.eligibleListing deal.tenantId deal.listingId clock.listing =
    some listing ∧ listing.sellerPartyId = deal.sellerPartyId
  actor : (db.surroundings.activeParty command.tenantId command.actorPartyId).isSome
  fingerprint : command.requestFingerprint.all (·.length = 32) = true
  released : (∃ paymentId, releaseDecision db deal clock.now = .ok paymentId) →
    (db.surroundings.activeParty command.tenantId targetPartyId).isSome ∧
      (deal.contactReleasedAt = none →
        (db.eligibleListing command.tenantId deal.listingId billing.listing).isSome)

/-- The envelope holds the contact of the other side, and the release was decided on. -/
structure Delivered (db : OfflineDatabase) (command : ReleaseContact) (clock : DealClock)
    (deal : OfflineDeal) (targetPartyId : MarketplacePartyId) (envelope : ContactEnvelope) :
    Prop where
  target : envelope.targetPartyId = targetPartyId
  contact : ∃ party, db.surroundings.activeParty command.tenantId targetPartyId = some party ∧
    envelope.ciphertext = party.contactCiphertext ∧ envelope.nonce = party.contactNonce
  decided : ∃ paymentId, releaseDecision db deal clock.now = .ok paymentId

section Call

variable {db : OfflineDatabase} {command : ReleaseContact} {clock : DealClock}
  {billing : BillingClock} {deal : OfflineDeal} {targetPartyId : MarketplacePartyId}

theorem counterpart_ne (hdeal : deal.sellerPartyId ≠ deal.buyerPartyId)
    (h : deal.counterpart command.actorPartyId = some targetPartyId) :
    command.actorPartyId ≠ targetPartyId := by
  unfold OfflineDeal.counterpart at h
  split at h
  · rename_i hbuyer
    cases h
    rw [hbuyer]
    exact hdeal.symm
  · split at h
    · rename_i hseller
      cases h
      rw [hseller]
      exact hdeal
    · cases h

/-- The listing passes the check of a deal. -/
theorem ensures_listingChecked {listingClock : OffsetDateTime} {post : PUnit → OfflineDatabase → Prop}
    (h : (∃ listing, db.eligibleListing deal.tenantId deal.listingId listingClock = some listing ∧
      listing.sellerPartyId = deal.sellerPartyId) → post ⟨⟩ db) :
    Ensures (ensureListingAuthorized deal listingClock) whatever db post := by
  simp only [ensureListingAuthorized, ensures_bind, ensures_get, ensures_check]
  refine ⟨fun _ => trivial, fun hsome => h ?_⟩
  rw [Bool.not_eq_true, Option.isNone_eq_false_iff, Option.isSome_iff_exists] at hsome
  obtain ⟨listing, hlisting⟩ := hsome
  rw [Option.filter_eq_some_iff, decide_eq_true_eq] at hlisting
  exact ⟨listing, hlisting⟩

theorem ensures_insertContactAudit {decision : ContactDecision}
    {post : PUnit → OfflineDatabase → Prop}
    (h : command.requestFingerprint.all (·.length = 32) = true →
      post ⟨⟩ { db with audit := db.audit ++ [command.entry targetPartyId decision] }) :
    Ensures (insertContactAudit command targetPartyId decision) whatever db post := by
  unfold insertContactAudit
  rw [ensures_ite]
  refine ⟨fun _ => trivial, fun hvalid => ?_⟩
  change Ensures (OfflineDatabase.auditLog.on _) _ _ _
  rw [ensures_on, ensures_push]
  refine h ?_
  cases hfingerprint : command.requestFingerprint with
  | none => rfl
  | some fingerprint => simp_all

theorem eligibleListing_congr {db' : OfflineDatabase} (hlistings : db'.listings = db.listings)
    (hauthorizations : db'.authorizations = db.authorizations) :
    db'.eligibleListing = db.eligibleListing := by
  funext tenantId listingId clock
  unfold OfflineDatabase.eligibleListing OfflineDatabase.authorized
  rw [hlistings, hauthorizations]

theorem ensures_insertExposure_live {command : RecordExposure} {billing : BillingClock} :
    Ensures (insertExposure command billing) whatever db fun _ db' =>
      db'.outsidePromotions = db.outsidePromotions ∧
        (db.eligibleListing command.tenantId command.listingId billing.listing).isSome := by
  have hlive : Ensures (insertExposure command billing) whatever db fun _ _ =>
      (db.eligibleListing command.tenantId command.listingId billing.listing).isSome := by
    unfold insertExposure insertExposureWithBilling
    rw [ensures_bind]
    refine ensures_liftAny fun _ _ => ?_
    rw [ensures_bind, ensures_get, ensures_ite]
    refine ⟨fun _ => trivial, fun hlive => ?_⟩
    rw [Option.any_some, Bool.not_eq_true, Option.isNone_eq_false_iff] at hlive
    exact (ensures_true _ _).mono (fun _ h => h) fun _ _ _ => hlive
  have hkept := keeps_insertExposureWithBilling command (some billing) db
  exact (hkept.and hlive).mono (fun _ _ => trivial) fun _ _ h => h

/-- The marks of a release leave everything that is read after them as it was. -/
theorem ensures_markReleased_checked {commissionPaymentId : Option PaymentId}
    {now stamp : OffsetDateTime} (hdeal : db.deals.lookup command.offlineDealId = some deal) :
    Ensures (markReleased command deal commissionPaymentId now stamp billing) whatever db
      fun _ db' => db'.surroundings = db.surroundings ∧ (deal.contactReleasedAt = none →
        (db.eligibleListing command.tenantId deal.listingId billing.listing).isSome) := by
  have hrest : ∀ reached : OfflineDatabase, reached.surroundings = db.surroundings →
      reached.listings = db.listings → reached.authorizations = db.authorizations →
      Ensures (if deal.contactReleasedAt = none then do
          noteDealEvent {
            tenantId := command.tenantId
            offlineDealId := command.offlineDealId
            actorPartyId := command.actorPartyId
            eventType := .contactReleased
            fromStatus := some .proposed
            toStatus := some .contactReleased }
          let _ ← insertExposure (deal.contactExposure command now) billing
        else pure ⟨⟩ : Tx OfflineDatabase PUnit) whatever reached fun _ db' =>
          db'.surroundings = db.surroundings ∧ (deal.contactReleasedAt = none →
            (db.eligibleListing command.tenantId deal.listingId billing.listing).isSome) := by
    intro reached hsurroundings hlistings hauthorizations
    rw [ensures_ite]
    refine ⟨fun _ => ?_, fun hagain => ⟨hsurroundings, fun hfirst => absurd hfirst hagain⟩⟩
    rw [ensures_bind]
    refine ensures_noteDealEvent ?_
    rw [ensures_bind]
    refine ensures_insertExposure_live.mono (fun _ h => h) ?_
    rintro _ billed ⟨hkept, hlive⟩
    refine ⟨(congrArg (·.1) hkept).trans hsurroundings, fun _ => ?_⟩
    rw [← eligibleListing_congr hlistings hauthorizations]
    exact hlive
  unfold markReleased
  rw [ensures_ite]
  refine ⟨fun _ => ?_, fun _ => hrest db rfl rfl rfl⟩
  rw [ensures_bind]
  refine ensures_updateDeal_of_lookup (fun _ => rfl) hdeal rfl fun deals _ => ?_
  exact hrest _ rfl rfl rfl

/-- A call that comes to an answer had all that it needs, and an envelope was decided on. -/
theorem ensures_releaseOfflineContact_checked
    (hdeal : db.deals.lookup command.offlineDealId = some deal)
    (htarget : deal.counterpart command.actorPartyId = some targetPartyId) :
    Ensures (releaseOfflineContact command clock billing) whatever db fun answer _ =>
      Auditable db command clock billing deal targetPartyId ∧
        ∀ envelope, answer = .ok envelope →
          Delivered db command clock deal targetPartyId envelope := by
  unfold releaseOfflineContact
  rw [ensures_bind]
  refine ensures_offlineDealIn fun row hrow => ?_
  have hsame : row = deal := Option.some.inj (hrow.symm.trans hdeal)
  subst hsame
  rw [ensures_ite]
  refine ⟨fun _ => trivial, fun _ => ?_⟩
  rw [htarget, ensures_bind, ensures_require_some, ensures_bind]
  refine ensures_listingChecked fun hlisting => ?_
  rw [ensures_bind]
  refine ensures_ensurePartyActive fun hactor => ?_
  rw [ensures_bind, ensures_get]
  split
  · rename_i message hdecision
    rw [ensures_bind]
    refine ensures_insertContactAudit fun hfingerprint => ?_
    refine ⟨⟨hlisting, hactor, hfingerprint, fun hallowed => ?_⟩, fun _ h => nomatch h⟩
    obtain ⟨paymentId, hallowed⟩ := hallowed
    rw [hdecision] at hallowed
    cases hallowed
  · rename_i paymentId hdecision
    rw [ensures_bind]
    refine (ensures_markReleased_checked hdeal).mono (fun _ h => h) ?_
    rintro _ marked ⟨hsurroundings, hlive⟩
    rw [ensures_bind]
    refine ensures_insertContactAudit fun hfingerprint => ?_
    rw [ensures_bind, ensures_get, ensures_bind, ensures_require]
    refine ⟨fun _ => trivial, fun party hparty => ?_⟩
    change marked.surroundings.activeParty command.tenantId targetPartyId = some party at hparty
    rw [hsurroundings] at hparty
    rw [ensures_bind]
    refine ensures_offlineDealIn fun released _ => ?_
    refine ⟨⟨hlisting, hactor, hfingerprint, fun _ => ⟨by simp [hparty], hlive⟩⟩, ?_⟩
    intro envelope henvelope
    cases henvelope
    exact ⟨rfl, ⟨party, hparty, rfl, rfl⟩, paymentId, hdecision⟩

/-- What is read after the marks of a release. -/
def AsBefore (offlineDealId : OfflineDealId) (db db' : OfflineDatabase) : Prop :=
  db'.surroundings = db.surroundings ∧ db'.audit = db.audit ∧
    (db'.deals.lookup offlineDealId).isSome

theorem check_release {paymentId : Option PaymentId} {stamp : OffsetDateTime}
    (h : offlineDeals.check deal = true) :
    offlineDeals.check (deal.release paymentId stamp) = true := by
  simp only [offlineDeals, decide_eq_true_eq] at h ⊢
  obtain ⟨hfinal, hcurrency, hscale, hpoints, hcommission, hparties, _, hcompleted⟩ := h
  refine ⟨hfinal, hcurrency, hscale, hpoints, hcommission, hparties, ?_, ?_⟩
  · by_cases hproposed : deal.status = .proposed <;> simp [OfflineDeal.release, hproposed]
  · by_cases hproposed : deal.status = .proposed
    · simp [OfflineDeal.release, hproposed]
    · simpa only [OfflineDeal.release, hproposed, if_false] using hcompleted

theorem ensures_markReleased_total {commissionPaymentId : Option PaymentId}
    {now stamp : OffsetDateTime} (hdeal : db.deals.lookup command.offlineDealId = some deal)
    (hlive : deal.contactReleasedAt = none →
      (db.eligibleListing command.tenantId deal.listingId billing.listing).isSome) :
    Ensures (markReleased command deal commissionPaymentId now stamp billing) never db
      fun _ db' => AsBefore command.offlineDealId db db' := by
  have hrest : ∀ reached : OfflineDatabase, reached.listings = db.listings →
      reached.authorizations = db.authorizations → AsBefore command.offlineDealId db reached →
      Ensures (if deal.contactReleasedAt = none then do
          noteDealEvent {
            tenantId := command.tenantId
            offlineDealId := command.offlineDealId
            actorPartyId := command.actorPartyId
            eventType := .contactReleased
            fromStatus := some .proposed
            toStatus := some .contactReleased }
          let _ ← insertExposure (deal.contactExposure command now) billing
        else pure ⟨⟩ : Tx OfflineDatabase PUnit) never reached fun _ db' =>
          AsBefore command.offlineDealId db db' := by
    rintro reached hlistings hauthorizations ⟨hsurroundings, haudit, hfound⟩
    rw [ensures_ite]
    refine ⟨fun hfirst => ?_, fun _ => ⟨hsurroundings, haudit, hfound⟩⟩
    rw [ensures_bind]
    unfold noteDealEvent
    rw [ensures_on, ensures_push, ensures_bind]
    refine (ensures_contactExposure now ?_).mono (fun _ h => h) fun _ billed hkept => ?_
    · have hsame : ∀ events, (OfflineDatabase.dealLog.put events reached).eligibleListing =
          db.eligibleListing := fun _ => eligibleListing_congr hlistings hauthorizations
      rw [hsame]
      exact hlive hfirst
    · have hdeals := congrArg (·.2.2.2.2.2.2.1) hkept
      refine ⟨(congrArg (·.1) hkept).trans hsurroundings,
        (congrArg (·.2.2.2.2.2.2.2.2.2) hkept).trans haudit, ?_⟩
      change billed.deals = reached.deals at hdeals
      rw [hdeals]
      exact hfound
  unfold markReleased
  rw [ensures_ite]
  refine ⟨fun _ => ?_, fun _ => hrest db rfl rfl ⟨rfl, rfl, by simp [hdeal]⟩⟩
  rw [ensures_bind]
  unfold updateDeal
  rw [ensures_bind, ensures_on]
  refine Table.ensures_update_valid hdeal rfl (fun _ => rfl) (fun _ _ => ⟨rfl, rfl⟩)
    (check_release (Table.check_of_lookup hdeal)) fun deals hlookup _ => ?_
  refine hrest _ rfl rfl ⟨rfl, rfl, ?_⟩
  change (deals.lookup command.offlineDealId).isSome
  rw [hlookup, if_pos rfl]
  rfl

theorem ensures_insertContactAudit_total {decision : ContactDecision}
    {post : PUnit → OfflineDatabase → Prop}
    (hfingerprint : command.requestFingerprint.all (·.length = 32) = true)
    (hother : command.actorPartyId ≠ targetPartyId)
    (h : post ⟨⟩ { db with audit := db.audit ++ [command.entry targetPartyId decision] }) :
    Ensures (insertContactAudit command targetPartyId decision) never db post := by
  have hvalid : ¬(command.requestFingerprint.any (fun fingerprint => fingerprint.length ≠ 32) ∨
      command.actorPartyId = targetPartyId) := by
    rintro (hmalformed | hsame)
    · cases hpresent : command.requestFingerprint <;> simp_all
    · exact hother hsame
  unfold insertContactAudit
  rw [if_neg hvalid]
  change Ensures (OfflineDatabase.auditLog.on _) _ _ _
  rw [ensures_on, ensures_push]
  exact h

/-- A call that has all that it needs leaves its row. -/
theorem Auditable.audited (h : Auditable db command clock billing deal targetPartyId)
    (hdeal : db.deals.lookup command.offlineDealId = some deal)
    (htenant : deal.tenantId = command.tenantId)
    (htarget : deal.counterpart command.actorPartyId = some targetPartyId) :
    Ensures (releaseOfflineContact command clock billing) never db fun answer db' =>
      ∃ decision, db'.audit = db.audit ++ [command.entry targetPartyId decision] ∧
        (decision = .allowed ↔ ∃ envelope, answer = .ok envelope) := by
  have hcheck : offlineDeals.check deal = true := Table.check_of_lookup hdeal
  have hparties : deal.sellerPartyId ≠ deal.buyerPartyId := by
    simp only [offlineDeals, decide_eq_true_eq] at hcheck
    exact hcheck.2.2.2.2.2.1
  have hother := counterpart_ne hparties htarget
  obtain ⟨listing, hlisting, hseller⟩ := h.listing
  unfold releaseOfflineContact
  simp only [offlineDealIn, ensures_bind, ensures_get, hdeal, ensures_require_some]
  rw [if_neg (by simp [htenant]), htarget, ensures_bind, ensures_require_some, ensures_bind]
  simp only [ensureListingAuthorized, ensures_bind, ensures_get, hlisting, Option.filter_some,
    hseller, decide_true, if_true, ensures_check, Option.isNone_some, Bool.false_eq_true,
    false_implies, not_false_iff, true_implies, true_and, ensurePartyActive]
  refine ⟨fun hinactive => ?_, fun _ => ?_⟩
  · have hactive := h.actor
    simp [Option.isNone_iff_eq_none.mp hinactive] at hactive
  split
  · rw [ensures_bind]
    refine ensures_insertContactAudit_total h.fingerprint hother ?_
    refine ⟨.denied, rfl, ?_⟩
    simp
  · rename_i paymentId hdecision
    obtain ⟨hactive, hlive⟩ := h.released ⟨paymentId, hdecision⟩
    obtain ⟨party, hparty⟩ := Option.isSome_iff_exists.mp hactive
    rw [ensures_bind]
    refine (ensures_markReleased_total hdeal hlive).mono (fun _ h => h) ?_
    rintro _ marked ⟨hsurroundings, haudit, hfound⟩
    obtain ⟨released, hreleased⟩ := Option.isSome_iff_exists.mp hfound
    rw [ensures_bind]
    refine ensures_insertContactAudit_total h.fingerprint hother ?_
    simp only [ensures_bind, ensures_get, hsurroundings, hparty, hreleased, ensures_require_some,
      ensures_pure, haudit]
    refine ⟨.allowed, rfl, ?_⟩
    simp

end Call

/-! ## Runs -/

/-- The call leaves one row, which says whether it returned the contact. -/
def Audited (db : OfflineDatabase) (command : ReleaseContact) (clock : DealClock)
    (billing : BillingClock) (targetPartyId : MarketplacePartyId) : Prop :=
  ∃ decision, (committed (releaseOfflineContact command clock billing) db).audit =
      db.audit ++ [command.entry targetPartyId decision] ∧
    (decision = .allowed ↔ ∃ envelope,
      (releaseOfflineContact command clock billing).run' db = .ok (.ok envelope))

theorem grown_ne {α : Type} (items : List α) (item : α) : items ≠ items ++ [item] := by
  simp

section Runs

variable [Jsonb] [UuidParser] [Ranking]

/-- The seller has agreed to the exchange earlier in the run. -/
def ConsentGiven (system : OfflineSystem) (actions : List OfflineAction) (deal : OfflineDeal) :
    Prop :=
  ∃ first now stamp, first ++
      [.acceptContact ⟨deal.tenantId, deal.id, deal.sellerPartyId⟩ now stamp] <+: actions ∧
    Library.succeeds (acceptContactExchange ⟨deal.tenantId, deal.id, deal.sellerPartyId⟩ now stamp)
      (system.run first).db = true

/-- What stands behind a contact that has been returned. -/
structure Entitled (system : OfflineSystem) (actions : List OfflineAction)
    (command : ReleaseContact) (clock : DealClock) (deal : OfflineDeal)
    (targetPartyId : MarketplacePartyId) (envelope : ContactEnvelope) : Prop where
  delivered : Delivered (system.run actions).db command clock deal targetPartyId envelope
  consent : ConsentGiven system actions deal
  unexpired : clock.now < deal.expiresAt
  secured : deal.commissionCollection = .preauthorized → 0 < deal.commissionAmount.getD 0 →
    ∃ payment ∈ (system.run actions).db.surroundings.payments.rows, payment.paysFor deal ∧
      (payment.secured (deal.commissionAmount.getD 0) ∨
        payment.settled (deal.commissionAmount.getD 0))

/-- A call returns a contact only to one side of the deal that is entitled to the other's, and
every call of one side is in the audit. -/
structure ReleaseSound (system : OfflineSystem) (actions : List OfflineAction)
    (command : ReleaseContact) (clock : DealClock) (billing : BillingClock) : Prop where
  entitled : ∀ envelope, (releaseOfflineContact command clock billing).run'
      (system.run actions).db = .ok (.ok envelope) → ∃ deal targetPartyId,
    (system.run actions).db.deals.lookup command.offlineDealId = some deal ∧
      deal.tenantId = command.tenantId ∧
      deal.counterpart command.actorPartyId = some targetPartyId ∧
      Entitled system actions command clock deal targetPartyId envelope
  audited : ∀ deal targetPartyId,
    (system.run actions).db.deals.lookup command.offlineDealId = some deal →
      deal.tenantId = command.tenantId →
      deal.counterpart command.actorPartyId = some targetPartyId →
      Audited (system.run actions).db command clock billing targetPartyId

variable {system : OfflineSystem} {actions : List OfflineAction}

theorem ConsentGiven.grow {deal : OfflineDeal} (h : ConsentGiven system actions deal)
    (action : OfflineAction) : ConsentGiven system (actions ++ [action]) deal := by
  obtain ⟨first, now, stamp, hbefore, hsucceeds⟩ := h
  exact ⟨first, now, stamp, hbefore.trans (List.prefix_append _ _), hsucceeds⟩

/-- Consent that is recorded has been given. -/
def ConsentRecorded (system : OfflineSystem) (actions : List OfflineAction)
    (db : OfflineDatabase) : Prop :=
  ∀ deal ∈ db.deals.rows, deal.sellerContactConsentAt ≠ none → ConsentGiven system actions deal

theorem ConsentRecorded.moved {action : OfflineAction} {db db' : OfflineDatabase}
    (h : ConsentRecorded system (actions ++ [action]) db)
    (hmove : OfflineMove action (system.run actions).db db db') :
    ConsentRecorded system (actions ++ [action]) db' := by
  -- A write that does not touch the consent, nor what the deal is.
  have hwrites : ∀ {deals : Table offlineDeals} {row row' : OfflineDeal},
      Table.Written db.deals deals row row' →
      (row'.sellerContactConsentAt ≠ none → ConsentGiven system (actions ++ [action]) row') →
      ∀ deal ∈ deals.rows, deal.sellerContactConsentAt ≠ none →
        ConsentGiven system (actions ++ [action]) deal := by
    intro deals row row' hwritten hnew deal hdeal
    rcases hwritten.mem_cases hdeal with rfl | ⟨hother, _⟩
    · exact hnew
    · exact h deal hother
  cases hmove with
  | introduced command pair matchReasons commissionAmount deals _ _ _ hrows =>
      intro deal hdeal hconsent
      change deal ∈ deals.rows at hdeal
      rw [hrows, List.mem_append, List.mem_singleton] at hdeal
      rcases hdeal with hdeal | rfl
      · exact h deal hdeal hconsent
      · exact absurd rfl hconsent
  | consented row deals now stamp haction haccepted _ hwritten =>
      refine hwrites hwritten fun _ => ⟨actions, now, stamp, ?_, haccepted⟩
      rw [haction]
      exact List.prefix_rfl
  | released row paymentId stamp deals _ _ hwritten =>
      exact hwrites hwritten (h row (Table.mem_of_lookup hwritten.stored))
  | viewed row status deals _ _ hwritten =>
      exact hwrites hwritten (h row (Table.mem_of_lookup hwritten.stored))
  | priced row command clock commissionAmount deals _ _ _ _ _ _ _ _ _ _ hwritten =>
      exact hwrites hwritten (h row (Table.mem_of_lookup hwritten.stored))
  | completed row stamp listing written deals listings _ _ _ _ _ _ hwritten hdeals =>
      intro deal hdeal hconsent
      rcases mem_completed hwritten rfl hdeals hdeal with rfl | ⟨old, hold, _, rfl⟩
      · exact h row (Table.mem_of_lookup hwritten.stored) hconsent
      · rcases afterCompletion_cases row old with hkept | ⟨hexpired, _⟩
        · rw [hkept] at hconsent ⊢
          exact h old hold hconsent
        · rw [hexpired] at hconsent ⊢
          exact h old hold hconsent
  | _ => exact h

theorem consentRecorded_run (surroundings : OfflineSurroundings) (actions : List OfflineAction) :
    ConsentRecorded (.initial surroundings) actions
      ((OfflineSystem.initial surroundings).run actions).db := by
  refine OfflineSystem.run_history
    (P := fun actions db => ConsentRecorded (.initial surroundings) actions db) ?_ ?_ ?_ actions
  · exact fun _ action _ h deal hdeal hconsent => (h deal hdeal hconsent).grow action
  · exact fun _ _ _ _ => ConsentRecorded.moved
  · exact fun deal hdeal => (List.not_mem_nil hdeal).elim

omit [Jsonb] [UuidParser] [Ranking] in
/-- The guards of a release that was decided on. -/
theorem of_releaseDecision {db : OfflineDatabase} {deal : OfflineDeal} {now : OffsetDateTime}
    {paymentId : Option PaymentId} (h : releaseDecision db deal now = .ok paymentId) :
    now < deal.expiresAt ∧ (deal.commissionCollection = .preauthorized →
      0 < deal.commissionAmount.getD 0 → ∃ payment ∈ db.surroundings.payments.rows,
        payment.paysFor deal ∧ (payment.secured (deal.commissionAmount.getD 0) ∨
          payment.settled (deal.commissionAmount.getD 0))) := by
  unfold releaseDecision at h
  simp only at h
  split at h
  · cases h
  · rename_i hopen
    rw [not_or, not_le] at hopen
    refine ⟨hopen.2, fun hcollection hpositive => ?_⟩
    split at h
    · cases h
    · rw [if_pos ⟨hcollection, hpositive⟩] at h
      split at h
      · rename_i chosen hchosen
        rw [releasePayment, Option.map_eq_some_iff] at hchosen
        obtain ⟨payment, hfirst, _⟩ := hchosen
        have hmem := mem_of_firstBy hfirst
        rw [List.mem_filter, decide_eq_true_eq] at hmem
        exact ⟨payment, hmem.1, hmem.2.1, hmem.2.2⟩
      · cases h

omit [Jsonb] [UuidParser] [Ranking] in
/-- A call that comes to an answer is one of a side of the deal. -/
theorem ensures_releaseOfflineContact_sides {db : OfflineDatabase} (command : ReleaseContact)
    (clock : DealClock) (billing : BillingClock) :
    Ensures (releaseOfflineContact command clock billing) whatever db fun _ _ =>
      ∃ deal targetPartyId, db.deals.lookup command.offlineDealId = some deal ∧
        deal.tenantId = command.tenantId ∧
        deal.counterpart command.actorPartyId = some targetPartyId := by
  unfold releaseOfflineContact
  rw [ensures_bind]
  refine ensures_offlineDealIn fun deal hdeal => ?_
  rw [ensures_ite]
  refine ⟨fun _ => trivial, fun htenant => ?_⟩
  rw [ensures_bind, ensures_require]
  refine ⟨fun _ => trivial, fun targetPartyId htarget => ?_⟩
  refine (ensures_true _ _).mono (fun _ h => h) fun _ _ _ => ?_
  exact ⟨deal, targetPartyId, hdeal, not_not.mp htenant, htarget⟩

/-- A release meets its contract exactly where the calls of the sides have what the audit
needs. -/
theorem release_sound_iff (surroundings : OfflineSurroundings) (actions : List OfflineAction)
    (command : ReleaseContact) (clock : DealClock) (billing : BillingClock) :
    let db := ((OfflineSystem.initial surroundings).run actions).db
    ReleaseSound (.initial surroundings) actions command clock billing ↔
      ∀ deal targetPartyId, db.deals.lookup command.offlineDealId = some deal →
        deal.tenantId = command.tenantId →
        deal.counterpart command.actorPartyId = some targetPartyId →
        Auditable db command clock billing deal targetPartyId := by
  intro db
  constructor
  · intro hsound deal targetPartyId hdeal htenant htarget
    obtain ⟨decision, haudit, _⟩ := hsound.audited deal targetPartyId hdeal htenant htarget
    have hchecked : Ensures (releaseOfflineContact command clock billing) whatever db _ :=
      ensures_releaseOfflineContact_checked hdeal htarget
    rcases committed_cases hchecked with ⟨_, hsame⟩ | ⟨_, _, hauditable, _⟩
    · rw [hsame] at haudit
      exact absurd haudit (grown_ne _ _)
    · exact hauditable
  · intro hauditable
    refine ⟨fun envelope hresult => ?_, fun deal targetPartyId hdeal htenant htarget => ?_⟩
    · have hrun := run_of_result hresult
      obtain ⟨deal, targetPartyId, hdeal, htenant, htarget⟩ :=
        (ensures_releaseOfflineContact_sides command clock billing).of_ok hrun
      obtain ⟨_, hdelivered⟩ := (ensures_releaseOfflineContact_checked hdeal htarget).of_ok hrun
      have hdelivery := hdelivered envelope rfl
      obtain ⟨paymentId, hdecision⟩ := hdelivery.decided
      obtain ⟨hunexpired, hsecured⟩ := of_releaseDecision hdecision
      have hconsent := consentRecorded_run surroundings actions deal (Table.mem_of_lookup hdeal)
        (consent_of_releaseDecision hdecision)
      exact ⟨deal, targetPartyId, hdeal, htenant, htarget, hdelivery, hconsent, hunexpired, hsecured⟩
    · have haudited := (hauditable deal targetPartyId hdeal htenant htarget).audited hdeal htenant
        htarget
      obtain ⟨answer, db', hrun, decision, haudit, hdecision⟩ := haudited.exists_run
      refine ⟨decision, ?_, ?_⟩
      · rw [committed_of_run hrun]
        exact haudit
      · rw [hdecision, result_of_run hrun]
        exact ⟨fun ⟨envelope, h⟩ => ⟨envelope, congrArg Except.ok h⟩,
          fun ⟨envelope, h⟩ => ⟨envelope, Except.ok.inj h⟩⟩

end Runs

/-- The buyer asks for the contact once the grant of the car has been taken back. -/
theorem revoked_unaudited :
    ¬@ReleaseSound plainJsonb noUuids unranked (.initial carSurroundings)
      (carDeal ++ [.setAuthorization carRevocation])
      ⟨⟨1⟩, ⟨8⟩, ⟨5⟩, none⟩ ⟨3, 3, 3, 3⟩ ⟨3, fun _ => 3⟩ := by
  let actions := carDeal ++ [.setAuthorization carRevocation]
  intro hsound
  have hdeal : ((@OfflineSystem.run plainJsonb noUuids unranked (.initial carSurroundings)
      actions).db.deals.lookup ⟨8⟩).any (fun deal => deal.tenantId = ⟨1⟩ ∧
        deal.counterpart ⟨5⟩ = some ⟨4⟩) = true := by decide +kernel
  have hunaudited : (committed (releaseOfflineContact ⟨⟨1⟩, ⟨8⟩, ⟨5⟩, none⟩ ⟨3, 3, 3, 3⟩
      ⟨3, fun _ => 3⟩) (@OfflineSystem.run plainJsonb noUuids unranked (.initial carSurroundings)
        actions).db).audit = (@OfflineSystem.run plainJsonb noUuids unranked
          (.initial carSurroundings) actions).db.audit := by decide +kernel
  rw [Option.any_eq_true] at hdeal
  obtain ⟨deal, hlookup, hsides⟩ := hdeal
  rw [decide_eq_true_eq] at hsides
  obtain ⟨_, haudit, _⟩ := @ReleaseSound.audited plainJsonb noUuids unranked _ _ _ _ _ hsound deal
    ⟨4⟩ hlookup hsides.1 hsides.2
  rw [hunaudited] at haudit
  exact grown_ne _ _ haudit

end MatchPlane
