import MatchPlane.Offline.Moves

/-!
# Billing of promotions

The amount that a campaign has spent is the sum of its events, within its budget, and
what its pricing model asks for the units counted so far.  Events are only appended,
each under a key of its own, and an exhausted campaign gets no more of them.
-/

namespace MatchPlane

open MatchPlane.Library

namespace SellerPromotionCampaign

variable (campaign : SellerPromotionCampaign)

/-- What the units counted so far cost, without a budget. -/
def due : Int :=
  match campaign.pricingModel with
  | .cpm => campaign.billableUnits / 1000 * campaign.unitPrice
  | .cpc | .cpl | .fixed => campaign.billableUnits * campaign.unitPrice

/-- The amount spent, in terms of the units; a fixed price is asked for once. -/
structure Exact : Prop where
  spent : campaign.spentAmount = min campaign.budgetAmount campaign.due
  once : campaign.pricingModel = .fixed → campaign.billableUnits ≤ 1

end SellerPromotionCampaign

/-! ## One charge -/

theorem saturated_eq {value : Int} (hlow : 0 ≤ value) (hhigh : value < 10 ^ 38) :
    saturated value = value := by
  unfold saturated i128Min i128Max
  omega

section Charge

variable {campaign : SellerPromotionCampaign} {eventType : PromotionEventType}

theorem bounds_of_check (h : sellerPromotionCampaigns.check campaign = true) :
    0 ≤ campaign.unitPrice ∧ campaign.unitPrice < 10 ^ 38 ∧ campaign.budgetAmount < 10 ^ 38 ∧
      0 ≤ campaign.spentAmount ∧ 0 ≤ campaign.billableUnits ∧
      campaign.billableUnits ≤ i64Max ∧ campaign.spentAmount ≤ campaign.budgetAmount := by
  simp only [sellerPromotionCampaigns, decide_eq_true_eq, isNumeric_iff] at h
  tauto

theorem unitsOf_cases : campaign.unitsOf eventType = 0 ∨ campaign.unitsOf eventType = 1 := by
  unfold SellerPromotionCampaign.unitsOf promotionCharge
  split
  all_goals first | exact .inl rfl | exact .inr rfl | skip
  split
  · exact .inr rfl
  · exact .inl rfl

/-- The calculated charge of the thousandth impression is the price, and of others nothing. -/
theorem impression_charge {priorUnits unitPrice : Int} (hunits : 0 ≤ priorUnits)
    (hmax : priorUnits + 1 ≤ i64Max) (hprice : 0 ≤ unitPrice) (hfits : unitPrice < 10 ^ 38) :
    promotionCharge .cpm .impression priorUnits unitPrice =
      (1, ((priorUnits + 1) / 1000 - priorUnits / 1000) * unitPrice) := by
  have hnew : min (priorUnits + 1) (i64Max : Int) = priorUnits + 1 := by omega
  have hblocks : (priorUnits + 1) / 1000 - priorUnits / 1000 = 0 ∨
      (priorUnits + 1) / 1000 - priorUnits / 1000 = 1 := by omega
  simp only [promotionCharge, hnew, Int.tdiv_eq_ediv_of_nonneg hunits,
    Int.tdiv_eq_ediv_of_nonneg (show 0 ≤ priorUnits + 1 by omega)]
  rcases hblocks with h | h
  · rw [h, zero_mul, saturated_eq le_rfl (by norm_num)]
  · rw [h, one_mul, saturated_eq hprice hfits]

/-- The calculated charge is what the new units cost. -/
theorem due_charge (hbefore : sellerPromotionCampaigns.check campaign = true)
    (hafter : sellerPromotionCampaigns.check (campaign.charge eventType) = true) :
    (campaign.charge eventType).due = campaign.due +
      (promotionCharge campaign.pricingModel eventType campaign.billableUnits
        campaign.unitPrice).2 ∧
    0 ≤ (promotionCharge campaign.pricingModel eventType campaign.billableUnits
      campaign.unitPrice).2 := by
  obtain ⟨hprice, hfits, _, _, hunits, _, _⟩ := bounds_of_check hbefore
  obtain ⟨_, _, _, _, _, hmax, _⟩ := bounds_of_check hafter
  simp only [SellerPromotionCampaign.charge, SellerPromotionCampaign.unitsOf] at hmax
  cases hmodel : campaign.pricingModel <;> cases eventType
  case cpm.impression =>
    have hroom : campaign.billableUnits + 1 ≤ i64Max := by
      rw [hmodel] at hmax
      exact hmax
    rw [impression_charge hunits hroom hprice hfits]
    constructor
    · simp only [SellerPromotionCampaign.due, SellerPromotionCampaign.charge,
        SellerPromotionCampaign.unitsOf, hmodel, impression_charge hunits hroom hprice hfits]
      ring
    · exact Int.mul_nonneg (by omega) hprice
  case fixed.qualifiedLead =>
    by_cases hfirst : campaign.billableUnits = 0
    · simp [SellerPromotionCampaign.due, SellerPromotionCampaign.charge,
        SellerPromotionCampaign.unitsOf, promotionCharge, hmodel, hfirst, hprice]
    · simp [SellerPromotionCampaign.due, SellerPromotionCampaign.charge,
        SellerPromotionCampaign.unitsOf, promotionCharge, hmodel, hfirst]
  case cpc.click | cpl.qualifiedLead =>
    simp only [SellerPromotionCampaign.due, SellerPromotionCampaign.charge,
      SellerPromotionCampaign.unitsOf, promotionCharge, hmodel]
    exact ⟨by ring, hprice⟩
  all_goals
    simp [SellerPromotionCampaign.due, SellerPromotionCampaign.charge,
      SellerPromotionCampaign.unitsOf, promotionCharge, hmodel]

theorem SellerPromotionCampaign.Exact.charge (h : campaign.Exact)
    (hbefore : sellerPromotionCampaigns.check campaign = true)
    (hafter : sellerPromotionCampaigns.check (campaign.charge eventType) = true) :
    (campaign.charge eventType).Exact := by
  obtain ⟨_, _, hbudget, hspent, _, _, hwithin⟩ := bounds_of_check hbefore
  obtain ⟨hdue, hcalculated⟩ := due_charge hbefore hafter
  constructor
  · rw [hdue]
    have hremaining : saturated (campaign.budgetAmount - campaign.spentAmount) =
        campaign.budgetAmount - campaign.spentAmount := saturated_eq (by omega) (by omega)
    simp only [SellerPromotionCampaign.charge, SellerPromotionCampaign.chargeOf, hremaining]
    have hsofar := h.spent
    omega
  · intro hfixed
    have honce := h.once hfixed
    change campaign.pricingModel = .fixed at hfixed
    change campaign.billableUnits + campaign.unitsOf eventType ≤ 1
    obtain ⟨_, _, _, _, hunits, _, _⟩ := bounds_of_check hbefore
    unfold SellerPromotionCampaign.unitsOf
    rw [hfixed]
    by_cases hfirst : campaign.billableUnits = 0
    · cases eventType <;> simp [promotionCharge, hfirst]
    · cases eventType <;> simp [promotionCharge, hfirst, honce]

/-- Only an event that counts is charged. -/
theorem chargeOf_eq_zero (h : campaign.unitsOf eventType = 0) :
    campaign.chargeOf eventType = 0 := by
  unfold SellerPromotionCampaign.chargeOf
  unfold SellerPromotionCampaign.unitsOf at h
  have hcalculated : (promotionCharge campaign.pricingModel eventType campaign.billableUnits
      campaign.unitPrice).2 = 0 := by
    revert h
    cases campaign.pricingModel <;> cases eventType <;> simp [promotionCharge]
    split <;> simp
  rw [hcalculated]
  omega

end Charge

/-! ## Sums of events -/

def OfflineDatabase.eventsOf (db : OfflineDatabase) (campaignId : PromotionCampaignId) :
    List SellerPromotionEvent :=
  db.promotionEvents.rows.filter fun event => event.key.campaignId = campaignId

/-- Campaigns and their events agree. -/
structure Billed (db : OfflineDatabase) : Prop where
  campaign : ∀ event ∈ db.promotionEvents.rows,
    (db.campaigns.lookup event.key.campaignId).isSome
  spent : ∀ campaign ∈ db.campaigns.rows, campaign.spentAmount =
    ((db.eventsOf campaign.id).map SellerPromotionEvent.chargedAmount).sum
  units : ∀ campaign ∈ db.campaigns.rows, campaign.billableUnits =
    ((db.eventsOf campaign.id).map SellerPromotionEvent.billableUnits).sum
  exact : ∀ campaign ∈ db.campaigns.rows, campaign.Exact
  counted : ∀ event ∈ db.promotionEvents.rows, 0 ≤ event.billableUnits ∧
    (event.chargedAmount ≠ 0 → event.billableUnits = 1)

section Billed

variable {db : OfflineDatabase}

theorem billed_initial (surroundings : OfflineSurroundings) :
    Billed (.initial surroundings) := by
  constructor <;> intro _ h <;> cases h

/-- What is not written here does not matter. -/
theorem Billed.congr {db' : OfflineDatabase} (h : Billed db)
    (hcampaigns : db'.campaigns = db.campaigns)
    (hevents : db'.promotionEvents = db.promotionEvents) : Billed db' := by
  cases db'
  subst hcampaigns hevents
  exact ⟨h.campaign, h.spent, h.units, h.exact, h.counted⟩

theorem Billed.opened (h : Billed db) {campaign : SellerPromotionCampaign}
    {campaigns : Table sellerPromotionCampaigns} (hspent : campaign.spentAmount = 0)
    (hunits : campaign.billableUnits = 0)
    (hrows : campaigns.rows = db.campaigns.rows ++ [campaign]) :
    Billed { db with campaigns := campaigns } := by
  have hfresh : db.campaigns.lookup campaign.id = none := Table.lookup_inserted_none hrows
  -- No event belongs to a campaign that did not exist.
  have hnone : db.eventsOf campaign.id = [] := by
    rw [OfflineDatabase.eventsOf, List.filter_eq_nil_iff]
    intro event hevent
    have hknown := h.campaign event hevent
    simp only [decide_eq_true_eq]
    intro hid
    rw [hid, hfresh] at hknown
    cases hknown
  have hrow : ∀ {P : SellerPromotionCampaign → Prop}, (∀ row ∈ db.campaigns.rows, P row) →
      P campaign → ∀ row ∈ campaigns.rows, P row := by
    intro P hold hnew row hmem
    rw [hrows, List.mem_append, List.mem_singleton] at hmem
    rcases hmem with hmem | rfl
    · exact hold row hmem
    · exact hnew
  refine ⟨fun event hevent => ?_, hrow h.spent ?_, hrow h.units ?_, hrow h.exact ?_, h.counted⟩
  · obtain ⟨row, hlookup⟩ := Option.isSome_iff_exists.mp (h.campaign event hevent)
    exact Option.isSome_iff_exists.mpr ⟨row, Table.lookup_inserted_of_some hrows hlookup⟩
  · change _ = ((db.eventsOf campaign.id).map _).sum
    rw [hnone, hspent]
    rfl
  · change _ = ((db.eventsOf campaign.id).map _).sum
    rw [hnone, hunits]
    rfl
  · have hcheck := campaigns.valid.checked campaign (by simp [hrows])
    obtain ⟨_, _, _, _, _, _, hwithin⟩ := bounds_of_check hcheck
    refine ⟨?_, fun _ => by omega⟩
    rw [hspent] at hwithin ⊢
    cases hmodel : campaign.pricingModel <;>
      simp [SellerPromotionCampaign.due, hmodel, hunits, hwithin]

theorem Billed.lapsed (h : Billed db) {campaign : SellerPromotionCampaign}
    {campaigns : Table sellerPromotionCampaigns}
    (hwritten : Table.Written db.campaigns campaigns campaign
      { campaign with status := .expired }) :
    Billed { db with campaigns := campaigns } := by
  have hmem := Table.mem_of_lookup hwritten.stored
  have hrow : ∀ {P : SellerPromotionCampaign → Prop}, (∀ row ∈ db.campaigns.rows, P row) →
      P { campaign with status := .expired } → ∀ row ∈ campaigns.rows, P row := by
    intro P hold hnew row hrow
    rcases hwritten.mem_cases hrow with rfl | ⟨hother, _⟩
    · exact hnew
    · exact hold row hother
  refine ⟨fun event hevent => ?_, hrow h.spent (h.spent campaign hmem),
    hrow h.units (h.units campaign hmem), hrow h.exact ?_, h.counted⟩
  · have hknown := h.campaign event hevent
    change (campaigns.lookup _).isSome
    rw [hwritten.lookup]
    split
    · rfl
    · exact hknown
  · obtain ⟨hspent, honce⟩ := h.exact campaign hmem
    exact ⟨hspent, honce⟩

theorem eventsOf_append {db' : OfflineDatabase} {event : SellerPromotionEvent}
    (hrows : db'.promotionEvents.rows = db.promotionEvents.rows ++ [event])
    (campaignId : PromotionCampaignId) :
    db'.eventsOf campaignId = db.eventsOf campaignId ++
      if event.key.campaignId = campaignId then [event] else [] := by
  rw [OfflineDatabase.eventsOf, hrows, List.filter_append]
  congr 1
  by_cases hid : event.key.campaignId = campaignId <;> simp [hid]

theorem Billed.charged (h : Billed db) {campaign : SellerPromotionCampaign}
    {command : RecordSellerPromotionEvent} {eventType : PromotionEventType}
    {campaigns : Table sellerPromotionCampaigns} {promotionEvents : Table sellerPromotionEvents}
    (hid : command.campaignId = campaign.id)
    (hwritten : Table.Written db.campaigns campaigns campaign (campaign.charge eventType))
    (hrows : promotionEvents.rows =
      db.promotionEvents.rows ++ [command.row eventType campaign]) :
    Billed { db with
      campaigns := campaigns
      promotionEvents := promotionEvents } := by
  let db' : OfflineDatabase := { db with
    campaigns := campaigns
    promotionEvents := promotionEvents }
  have hmem := Table.mem_of_lookup hwritten.stored
  have hkey : (command.row eventType campaign).key.campaignId = campaign.id := hid
  have hnew : campaigns.lookup campaign.id = some (campaign.charge eventType) :=
    hwritten.lookup_self
  have hown : db'.eventsOf campaign.id =
      db.eventsOf campaign.id ++ [command.row eventType campaign] := by
    rw [eventsOf_append hrows, if_pos hkey]
  -- A campaign is the one that is charged, or it keeps its events.
  have hrow : ∀ {P : SellerPromotionCampaign → List SellerPromotionEvent → Prop},
      (∀ row ∈ db.campaigns.rows, P row (db.eventsOf row.id)) →
      P (campaign.charge eventType) (db'.eventsOf campaign.id) →
      ∀ row ∈ campaigns.rows, P row (db'.eventsOf row.id) := by
    intro P hold hcharged row hrow
    rcases hwritten.mem_cases hrow with rfl | ⟨hother, hne⟩
    · exact hcharged
    · have hkept : db'.eventsOf row.id = db.eventsOf row.id := by
        rw [eventsOf_append hrows, if_neg (fun hsame => hne (hsame.symm.trans hkey)),
          List.append_nil]
      rw [hkept]
      exact hold row hother
  refine ⟨fun event hevent => ?_, ?_, ?_, ?_, fun event hevent => ?_⟩
  · change event ∈ promotionEvents.rows at hevent
    change (campaigns.lookup _).isSome
    rw [hwritten.lookup]
    split
    · rfl
    · rename_i hne
      rw [hrows, List.mem_append, List.mem_singleton] at hevent
      rcases hevent with hevent | rfl
      · exact h.campaign event hevent
      · exact absurd hid hne
  · refine hrow (P := fun row events => row.spentAmount = (events.map _).sum) h.spent ?_
    rw [hown]
    simpa [SellerPromotionCampaign.charge, RecordSellerPromotionEvent.row] using
      h.spent campaign hmem
  · refine hrow (P := fun row events => row.billableUnits = (events.map _).sum) h.units ?_
    rw [hown]
    simpa [SellerPromotionCampaign.charge, RecordSellerPromotionEvent.row] using
      h.units campaign hmem
  · refine hrow (P := fun row _ => row.Exact) h.exact ?_
    exact (h.exact campaign hmem).charge (Table.check_of_lookup hwritten.stored)
      (Table.check_of_lookup hnew)
  · change event ∈ promotionEvents.rows at hevent
    rw [hrows, List.mem_append, List.mem_singleton] at hevent
    rcases hevent with hevent | rfl
    · exact h.counted event hevent
    · rcases @unitsOf_cases campaign eventType with hunits | hunits
      · simp [RecordSellerPromotionEvent.row, hunits, chargeOf_eq_zero hunits]
      · simp [RecordSellerPromotionEvent.row, hunits]

theorem Billed.moved {action : OfflineAction} {origin db' : OfflineDatabase} (h : Billed db)
    (hmove : OfflineMove action origin db db') : Billed db' := by
  cases hmove with
  | opened campaign campaigns hspent hunits hrows => exact h.opened hspent hunits hrows
  | lapsed campaign campaigns hstatus hwritten => exact h.lapsed hwritten
  | charged campaign command eventType campaigns promotionEvents _ hid _ hwritten hrows =>
      exact h.charged hid hwritten hrows
  | _ => exact h.congr rfl rfl

/-! ## Histories -/

/-- Events are only appended. -/
theorem OfflineMove.events_grow {action : OfflineAction} {origin db' : OfflineDatabase}
    (hmove : OfflineMove action origin db db') :
    db.promotionEvents.rows <+: db'.promotionEvents.rows := by
  cases hmove with
  | charged campaign command eventType campaigns promotionEvents _ _ _ _ hrows =>
      exact ⟨_, hrows.symm⟩
  | _ => exact List.prefix_rfl

/-- The campaign is exhausted, and these are its events. -/
def Exhausted (campaign : SellerPromotionCampaign) (events : List SellerPromotionEvent)
    (db : OfflineDatabase) : Prop :=
  campaign.status = .exhausted ∧ db.campaigns.lookup campaign.id = some campaign ∧
    db.eventsOf campaign.id = events

theorem Exhausted.moved {action : OfflineAction} {origin db' : OfflineDatabase}
    {campaign : SellerPromotionCampaign} {events : List SellerPromotionEvent}
    (h : Exhausted campaign events db) (hmove : OfflineMove action origin db db') :
    Exhausted campaign events db' := by
  obtain ⟨hexhausted, hlookup, hevents⟩ := h
  -- A campaign that is written was active.
  have hother : ∀ row : SellerPromotionCampaign, db.campaigns.lookup row.id = some row →
      row.status = .active → campaign.id ≠ row.id := by
    intro row hrow hactive hid
    rw [hid, hrow] at hlookup
    cases hlookup
    rw [hactive] at hexhausted
    cases hexhausted
  cases hmove with
  | opened row campaigns _ _ hrows =>
      exact ⟨hexhausted, Table.lookup_inserted_of_some hrows hlookup, hevents⟩
  | lapsed row campaigns hactive hwritten =>
      have hne := hother row hwritten.stored hactive
      exact ⟨hexhausted, (hwritten.lookup_of_ne hne).trans hlookup, hevents⟩
  | charged row command eventType campaigns promotionEvents hactive hid _ hwritten hrows =>
      have hne := hother row hwritten.stored hactive
      have hkey : (command.row eventType row).key.campaignId = row.id := hid
      refine ⟨hexhausted, (hwritten.lookup_of_ne hne).trans hlookup, ?_⟩
      rw [eventsOf_append hrows, if_neg (fun hsame => hne (hsame.symm.trans hkey)),
        List.append_nil]
      exact hevents
  | _ => exact ⟨hexhausted, hlookup, hevents⟩

/-- Events that count at most once in all are charged at most once. -/
theorem charges_le_units (events : List SellerPromotionEvent)
    (h : ∀ event ∈ events, 0 ≤ event.billableUnits ∧
      (event.chargedAmount ≠ 0 → event.billableUnits = 1)) :
    (events.countP fun event => event.chargedAmount ≠ 0 : Int) ≤
      (events.map SellerPromotionEvent.billableUnits).sum := by
  induction events with
  | nil => simp
  | cons event rest ih =>
      have hrest := ih fun other hother => h other (List.mem_cons_of_mem _ hother)
      obtain ⟨hunits, hcounted⟩ := h event List.mem_cons_self
      rw [List.countP_cons, List.map_cons, List.sum_cons]
      by_cases hcharged : event.chargedAmount = 0
      · rw [if_neg (by simpa using hcharged)]
        push_cast
        omega
      · have hone := hcounted hcharged
        rw [if_pos (by simpa using hcharged)]
        push_cast
        omega

end Billed

/-- The account of a campaign, as far as its events go. -/
structure Account (campaign : SellerPromotionCampaign) (events : List SellerPromotionEvent) :
    Prop where
  spent : campaign.spentAmount = (events.map SellerPromotionEvent.chargedAmount).sum
  within : campaign.spentAmount ≤ campaign.budgetAmount
  units : campaign.billableUnits = (events.map SellerPromotionEvent.billableUnits).sum
  cpm : campaign.pricingModel = .cpm → campaign.spentAmount =
    min campaign.budgetAmount (campaign.billableUnits / 1000 * campaign.unitPrice)
  perUnit : campaign.pricingModel = .cpc ∨ campaign.pricingModel = .cpl → campaign.spentAmount =
    min campaign.budgetAmount (campaign.billableUnits * campaign.unitPrice)
  fixed : campaign.pricingModel = .fixed → campaign.spentAmount ≤ campaign.unitPrice ∧
    events.countP (fun event => event.chargedAmount ≠ 0) ≤ 1

theorem Billed.account {db : OfflineDatabase} (h : Billed db) {campaign : SellerPromotionCampaign}
    (hmem : campaign ∈ db.campaigns.rows) : Account campaign (db.eventsOf campaign.id) := by
  obtain ⟨hprice, _, _, _, hunits, _, hwithin⟩ :=
    bounds_of_check (db.campaigns.valid.checked campaign hmem)
  obtain ⟨hspent, honce⟩ := h.exact campaign hmem
  unfold SellerPromotionCampaign.due at hspent
  refine ⟨h.spent campaign hmem, hwithin, h.units campaign hmem, fun hcpm => ?_, fun hper => ?_,
    fun hfixed => ⟨?_, ?_⟩⟩
  · rw [hcpm] at hspent
    exact hspent
  · rcases hper with hmodel | hmodel <;> rw [hmodel] at hspent <;> exact hspent
  · simp only [hfixed] at hspent
    have hdue : campaign.billableUnits * campaign.unitPrice ≤ 1 * campaign.unitPrice :=
      Int.mul_le_mul_of_nonneg_right (honce hfixed) hprice
    omega
  · have hcharges := charges_le_units (db.eventsOf campaign.id) fun event hevent =>
      h.counted event (List.mem_of_mem_filter hevent)
    rw [← h.units campaign hmem] at hcharges
    have hlimit := honce hfixed
    omega

variable [Jsonb] [UuidParser] [Ranking]

/-- In every reachable state the account of every campaign is exact; events are kept, each
under its own key, and an exhausted campaign is charged no more. -/
theorem promotions_billed_exactly (surroundings : OfflineSurroundings)
    (actions later : List OfflineAction) :
    let db := ((OfflineSystem.initial surroundings).run actions).db
    let db' := ((OfflineSystem.initial surroundings).run (actions ++ later)).db
    (∀ campaign ∈ db.campaigns.rows, Account campaign (db.eventsOf campaign.id)) ∧
      (db.promotionEvents.rows.map SellerPromotionEvent.key).Nodup ∧
      db.promotionEvents.rows <+: db'.promotionEvents.rows ∧
      ∀ campaign ∈ db.campaigns.rows, campaign.status = .exhausted →
        campaign ∈ db'.campaigns.rows ∧
          db'.eventsOf campaign.id = db.eventsOf campaign.id := by
  intro db db'
  have hbilled : Billed db := OfflineSystem.run_invariant (fun _ _ _ _ => Billed.moved)
    (billed_initial surroundings) actions
  have hlater : db' = (((OfflineSystem.initial surroundings).run actions).run later).db := by
    rw [← OfflineSystem.run_append]
  refine ⟨fun campaign hmem => hbilled.account hmem, ?_, ?_, fun campaign hmem hexhausted => ?_⟩
  · rw [List.nodup_iff_pairwise_ne, List.pairwise_map]
    exact db.promotionEvents.valid.keys
  · rw [hlater]
    refine OfflineSystem.run_invariant (fun _ _ _ _ hsofar hmove => ?_)
      (P := fun db' => db.promotionEvents.rows <+: db'.promotionEvents.rows) List.prefix_rfl later
    exact hsofar.trans hmove.events_grow
  · have hstart : Exhausted campaign (db.eventsOf campaign.id) db :=
      ⟨hexhausted, Table.lookup_of_mem hmem, rfl⟩
    obtain ⟨_, hlookup, hevents⟩ : Exhausted campaign (db.eventsOf campaign.id) db' := by
      rw [hlater]
      exact OfflineSystem.run_invariant (fun _ _ _ _ => Exhausted.moved) hstart later
    exact ⟨Table.mem_of_lookup hlookup, hevents⟩

end MatchPlane
