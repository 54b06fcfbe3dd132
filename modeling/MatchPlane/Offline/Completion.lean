import MatchPlane.Offline.Moves

/-!
# Completion of deals

A deal is completed once both sides have confirmed the same price and the commission
for it has been captured.  Completion sells the listing, and a sold listing is never
live again, so no other deal of it gets anywhere.
-/

namespace MatchPlane

open MatchPlane.Library

/-- A deal that has come to an end without being completed. -/
def OfflineDealStatus.isOver : OfflineDealStatus → Bool
  | .declined | .expired | .disputed => true
  | _ => false

/-! ## What holds of the deals -/

/-- The price has been named, and the commission is the one for it. -/
structure OfflineDeal.Agreed (deal : OfflineDeal) : Prop where
  released : deal.contactReleasedAt ≠ none
  priced : ∃ amount commissionAmount, deal.finalAmount = some amount ∧
    deal.commissionAmount = some commissionAmount ∧
    dealCommission amount deal.commissionBps = .ok commissionAmount

structure DealsSound (db : OfflineDatabase) : Prop where
  listed : ∀ deal ∈ db.deals.rows, ∃ listing,
    db.listings.lookup deal.listingId = some listing ∧ listing.tenantId = deal.tenantId
  agreed : ∀ deal ∈ db.deals.rows,
    deal.sellerConfirmedAt.isSome ∨ deal.buyerConfirmedAt.isSome → deal.Agreed
  consented : ∀ deal ∈ db.deals.rows, deal.contactReleasedAt ≠ none →
    deal.sellerContactConsentAt ≠ none
  confirmed : ∀ deal ∈ db.deals.rows, deal.status = .completed →
    deal.sellerConfirmedAt.isSome ∧ deal.buyerConfirmedAt.isSome
  sold : ∀ deal ∈ db.deals.rows, deal.status = .completed → ∃ listing,
    db.listings.lookup deal.listingId = some listing ∧ listing.status = .sold
  single : ∀ deal ∈ db.deals.rows, deal.status = .completed → ∀ other ∈ db.deals.rows,
    other.listingId = deal.listingId → other.id ≠ deal.id → other.status.isOver = true

section Sound

variable {db : OfflineDatabase}

theorem dealsSound_initial (surroundings : OfflineSurroundings) :
    DealsSound (.initial surroundings) := by
  constructor <;> intro _ h <;> cases h

/-- What is not written here does not matter. -/
theorem DealsSound.congr {db' : OfflineDatabase} (h : DealsSound db)
    (hdeals : db'.deals = db.deals) (hlistings : db'.listings = db.listings) : DealsSound db' := by
  cases db'
  subst hdeals hlistings
  exact ⟨h.listed, h.agreed, h.consented, h.confirmed, h.sold, h.single⟩

/-- No deal of a listing that is not sold has been completed. -/
theorem DealsSound.not_completed (h : DealsSound db) {deal : OfflineDeal}
    {listing : VehicleListing} (hmem : deal ∈ db.deals.rows)
    (hlisting : db.listings.lookup deal.listingId = some listing)
    (hstatus : listing.status ≠ .sold) : deal.status ≠ .completed := by
  intro hcompleted
  obtain ⟨other, hother, hsold⟩ := h.sold deal hmem hcompleted
  rw [hlisting] at hother
  cases hother
  exact hstatus hsold

theorem OfflineDeal.Eligible.not_sold {deal : OfflineDeal} (h : deal.Eligible db) :
    ∃ listing, db.listings.lookup deal.listingId = some listing ∧
      listing.tenantId = deal.tenantId ∧ listing.status ≠ .sold := by
  obtain ⟨listing, hlisting, htenant, _, hlive, _⟩ := h
  refine ⟨listing, hlisting, htenant, fun hsold => ?_⟩
  rw [hsold] at hlive
  cases hlive

/-- The listings may change, if they stay what they are and sold ones stay sold. -/
theorem DealsSound.relisted (h : DealsSound db) {listings : Table vehicleListings}
    (hkept : ∀ listingId listing, db.listings.lookup listingId = some listing →
      ∃ listing', listings.lookup listingId = some listing' ∧
        listing'.tenantId = listing.tenantId ∧
        (listing.status = .sold → listing'.status = .sold)) :
    DealsSound { db with listings := listings } := by
  refine ⟨fun deal hmem => ?_, h.agreed, h.consented, h.confirmed, fun deal hmem hstatus => ?_,
    h.single⟩
  · obtain ⟨listing, hlookup, htenant⟩ := h.listed deal hmem
    obtain ⟨listing', hlookup', htenant', _⟩ := hkept _ listing hlookup
    exact ⟨listing', hlookup', htenant'.trans htenant⟩
  · obtain ⟨listing, hlookup, hsold⟩ := h.sold deal hmem hstatus
    obtain ⟨listing', hlookup', _, hstays⟩ := hkept _ listing hlookup
    exact ⟨listing', hlookup', hstays hsold⟩

theorem DealsSound.listed_more (h : DealsSound db) {listing : VehicleListing}
    {listings : Table vehicleListings} (hrows : listings.rows = db.listings.rows ++ [listing]) :
    DealsSound { db with listings := listings } :=
  h.relisted fun _ _ hlookup => ⟨_, Table.lookup_inserted_of_some hrows hlookup, rfl, id⟩

theorem afterRevocation_status {key : AuthorizationKey} {listing : VehicleListing}
    (h : listing.status = .sold) : (listing.afterRevocation key).status = .sold := by
  unfold VehicleListing.afterRevocation
  rw [if_neg (by simp [h, ListingStatus.isLive])]
  exact h

theorem DealsSound.revoked (h : DealsSound db) {key : AuthorizationKey}
    {listings : Table vehicleListings}
    (hrows : listings.rows = db.listings.rows.map (VehicleListing.afterRevocation key)) :
    DealsSound { db with listings := listings } := by
  refine h.relisted fun listingId listing hlookup => ?_
  have hkey : ∀ row : VehicleListing, (row.afterRevocation key).id = row.id := by
    intro row
    unfold VehicleListing.afterRevocation
    split <;> rfl
  refine ⟨listing.afterRevocation key, ?_, ?_, afterRevocation_status⟩
  · rw [Table.lookup_updatedAll hrows hkey, hlookup]
    rfl
  · unfold VehicleListing.afterRevocation
    split <;> rfl

/-- A deal that is not completed may be written, as long as it stays behind the others. -/
theorem DealsSound.rewritten (h : DealsSound db) {deal deal' : OfflineDeal}
    {deals : Table offlineDeals} (hwritten : Table.Written db.deals deals deal deal')
    (hid : deal'.id = deal.id) (hlisting : deal'.listingId = deal.listingId)
    (htenant : deal'.tenantId = deal.tenantId)
    (hagreed : deal'.sellerConfirmedAt.isSome ∨ deal'.buyerConfirmedAt.isSome → deal'.Agreed)
    (hconsent : deal'.contactReleasedAt ≠ none → deal'.sellerContactConsentAt ≠ none)
    (hopen : deal'.status ≠ .completed)
    (hover : ∀ other ∈ db.deals.rows, other.status = .completed →
      other.listingId = deal.listingId → other.id ≠ deal.id → deal'.status.isOver = true) :
    DealsSound { db with deals := deals } := by
  have hmem := Table.mem_of_lookup hwritten.stored
  have hrow : ∀ {P : OfflineDeal → Prop}, (∀ row ∈ db.deals.rows, P row) → P deal' →
      ∀ row ∈ deals.rows, P row := by
    intro P hold hnew row hrow
    rcases hwritten.mem_cases hrow with rfl | ⟨hother, _⟩
    · exact hnew
    · exact hold row hother
  refine ⟨hrow h.listed ?_, hrow h.agreed hagreed, hrow h.consented hconsent,
    hrow h.confirmed fun hstatus => absurd hstatus hopen,
    hrow h.sold fun hstatus => absurd hstatus hopen, fun row hcompleted hstatus other hother => ?_⟩
  · rw [hlisting, htenant]
    exact h.listed deal hmem
  · rcases hwritten.mem_cases hcompleted with rfl | ⟨hcompleted, hne⟩
    · exact absurd hstatus hopen
    · intro hsame hdistinct
      rcases hwritten.mem_cases hother with rfl | ⟨hother, _⟩
      · exact hover row hcompleted hstatus (hsame.symm.trans hlisting) hne
      · exact h.single row hcompleted hstatus other hother hsame hdistinct

theorem DealsSound.introduced (h : DealsSound db) {deal : OfflineDeal} {listing : VehicleListing}
    {deals : Table offlineDeals} (hrows : deals.rows = db.deals.rows ++ [deal])
    (hlisting : db.listings.lookup deal.listingId = some listing)
    (htenant : listing.tenantId = deal.tenantId) (hactive : listing.status = .active)
    (hstatus : deal.status = .proposed) (hseller : deal.sellerConfirmedAt = none)
    (hbuyer : deal.buyerConfirmedAt = none) (hreleased : deal.contactReleasedAt = none) :
    DealsSound { db with deals := deals } := by
  have hrow : ∀ {P : OfflineDeal → Prop}, (∀ row ∈ db.deals.rows, P row) → P deal →
      ∀ row ∈ deals.rows, P row := by
    intro P hold hnew row hrow
    rw [hrows, List.mem_append, List.mem_singleton] at hrow
    rcases hrow with hrow | rfl
    · exact hold row hrow
    · exact hnew
  refine ⟨hrow h.listed ⟨listing, hlisting, htenant⟩, hrow h.agreed (by simp [hseller, hbuyer]),
    hrow h.consented (by simp [hreleased]), hrow h.confirmed (by simp [hstatus]),
    hrow h.sold (by simp [hstatus]), hrow (fun row hmem hcompleted => hrow ?_ ?_) (by simp [hstatus])⟩
  · exact h.single row hmem hcompleted
  · intro hsame
    rw [hsame] at hlisting
    exact absurd hcompleted (h.not_completed hmem hlisting (by simp [hactive]))

/-! ## Completion -/

theorem afterCompletion_id (completed deal : OfflineDeal) :
    (completed.afterCompletion deal).id = deal.id := by
  unfold OfflineDeal.afterCompletion
  split <;> rfl

/-- A row after a completion is the deal itself, or another one that may have expired. -/
theorem mem_completed {written deals : Table offlineDeals} {deal deal' row : OfflineDeal}
    (hwritten : Table.Written db.deals written deal deal') (hid : deal'.id = deal.id)
    (hdeals : deals.rows = written.rows.map deal.afterCompletion) (hrow : row ∈ deals.rows) :
    row = deal' ∨ ∃ old ∈ db.deals.rows, old.id ≠ deal.id ∧ row = deal.afterCompletion old := by
  rw [hdeals, List.mem_map] at hrow
  obtain ⟨old, hold, rfl⟩ := hrow
  rcases hwritten.mem_cases hold with rfl | ⟨hother, hne⟩
  · refine .inl ?_
    unfold OfflineDeal.afterCompletion
    rw [if_neg (fun hopen => hopen.2.2.1 hid)]
  · exact .inr ⟨old, hother, hne, rfl⟩

/-- A deal that has expired keeps everything else. -/
theorem afterCompletion_cases (deal old : OfflineDeal) :
    deal.afterCompletion old = old ∨
      (deal.afterCompletion old = { old with status := .expired } ∧ old.status ≠ .completed) := by
  unfold OfflineDeal.afterCompletion
  split
  · rename_i hopen
    refine .inr ⟨rfl, fun hcompleted => ?_⟩
    simp [hcompleted] at hopen
  · exact .inl rfl

/-- Another deal of the listing is over once the deal has been completed. -/
theorem over_afterCompletion (h : DealsSound db) {deal old : OfflineDeal}
    {listing : VehicleListing} (hold : old ∈ db.deals.rows)
    (hlisting : db.listings.lookup deal.listingId = some listing)
    (htenant : listing.tenantId = deal.tenantId)
    (hlisted : (deal.afterCompletion old).listingId = deal.listingId) (hne : old.id ≠ deal.id)
    (hopen : old.status ≠ .completed) : (deal.afterCompletion old).status.isOver = true := by
  have hsame : old.listingId = deal.listingId := by
    rcases afterCompletion_cases deal old with hkept | ⟨hexpired, _⟩
    · rwa [hkept] at hlisted
    · rwa [hexpired] at hlisted
  obtain ⟨other, hother, hother'⟩ := h.listed old hold
  rw [hsame, hlisting] at hother
  cases hother
  unfold OfflineDeal.afterCompletion
  split
  · rfl
  · rename_i hkept
    have hended : old.status ∈ [.completed, .declined, .expired, .disputed] := by
      by_contra hnot
      exact hkept ⟨hother'.symm.trans htenant, hsame, hne, hnot⟩
    simp only [List.mem_cons, List.not_mem_nil, or_false] at hended
    rcases hended with hended | hended | hended | hended
    · exact absurd hended hopen
    all_goals rw [hended]; rfl

theorem DealsSound.completed (h : DealsSound db) {deal : OfflineDeal} {stamp : OffsetDateTime}
    {paymentId : Option PaymentId} {listing : VehicleListing} {written deals : Table offlineDeals}
    {listings : Table vehicleListings} (heligible : deal.Eligible db)
    (hseller : deal.sellerConfirmedAt.isSome) (hbuyer : deal.buyerConfirmedAt.isSome)
    (hwritten : Table.Written db.deals written deal (deal.complete paymentId stamp))
    (hdeals : deals.rows = written.rows.map deal.afterCompletion)
    (hlisting : listing.id = deal.listingId)
    (hlistings : Table.Written db.listings listings listing listing.sell) :
    DealsSound { db with
      deals := deals
      listings := listings } := by
  have hmem := Table.mem_of_lookup hwritten.stored
  obtain ⟨live, hlive, htenant, hunsold⟩ := heligible.not_sold
  have hsame : live = listing := by
    rw [← hlisting] at hlive
    exact Option.some.inj (hlive.symm.trans hlistings.stored)
  subst hsame
  have hselling : DealsSound { db with listings := listings } := by
    refine h.relisted fun listingId row hlookup => ?_
    rw [hlistings.lookup]
    split
    · rename_i hkey
      rw [hkey, hlistings.stored] at hlookup
      cases hlookup
      exact ⟨_, rfl, rfl, fun _ => rfl⟩
    · exact ⟨row, hlookup, rfl, id⟩
  have hagreed := h.agreed deal hmem (.inl hseller)
  -- What is kept by an expiry holds of all the rows.
  have hrow : ∀ {P : OfflineDeal → Prop}, (∀ row ∈ db.deals.rows, P row) →
      (∀ row, P row → row.status ≠ .completed → P { row with status := .expired }) →
      P (deal.complete paymentId stamp) → ∀ row ∈ deals.rows, P row := by
    intro P hold hexpired hnew row hrow
    rcases mem_completed hwritten rfl hdeals hrow with rfl | ⟨old, hmem, _, rfl⟩
    · exact hnew
    · rcases afterCompletion_cases deal old with hsame | ⟨hafter, hopen⟩
      · rw [hsame]
        exact hold old hmem
      · rw [hafter]
        exact hexpired old (hold old hmem) hopen
  refine ⟨hrow hselling.listed (fun _ hlisted _ => hlisted) (hselling.listed deal hmem),
    hrow h.agreed (fun row hagreed _ hconfirmed => ?_) fun _ => ⟨hagreed.1, hagreed.2⟩,
    hrow h.consented (fun _ hconsented _ => hconsented) (h.consented deal hmem),
    hrow h.confirmed (fun _ _ _ hstatus => by cases hstatus) fun _ => ⟨hseller, hbuyer⟩,
    hrow hselling.sold (fun _ _ _ hstatus => by cases hstatus) fun _ => ?_,
    fun row hrow' hstatus other hother hlisted hdistinct => ?_⟩
  · obtain ⟨hreleased, hpriced⟩ := hagreed hconfirmed
    exact ⟨hreleased, hpriced⟩
  · refine ⟨live.sell, ?_, rfl⟩
    change listings.lookup deal.listingId = _
    rw [← hlisting]
    exact hlistings.lookup_self
  · -- No deal of the listing had been completed before.
    have hfirst : ∀ old ∈ db.deals.rows, old.listingId = deal.listingId →
        old.status ≠ .completed := by
      intro old hold hsame
      rw [← hsame] at hlive
      exact h.not_completed hold hlive hunsold
    have hopened : ∀ old ∈ db.deals.rows,
        (deal.afterCompletion old).listingId = deal.listingId → old.status ≠ .completed := by
      intro old hold hlisted
      rcases afterCompletion_cases deal old with hkept | ⟨_, hopen⟩
      · rw [hkept] at hlisted
        exact hfirst old hold hlisted
      · exact hopen
    rcases mem_completed hwritten rfl hdeals hrow' with rfl | ⟨old, hold, _, rfl⟩
    · rcases mem_completed hwritten rfl hdeals hother with rfl | ⟨old, hold, hne, rfl⟩
      · exact absurd rfl hdistinct
      · exact over_afterCompletion h hold hlive htenant hlisted hne (hopened old hold hlisted)
    · rcases afterCompletion_cases deal old with hsame | ⟨hafter, _⟩
      · rw [hsame] at hstatus hlisted hdistinct
        rcases mem_completed hwritten rfl hdeals hother with rfl | ⟨later, hlater, _, rfl⟩
        · exact absurd hstatus (hfirst old hold hlisted.symm)
        · have hover := h.single old hold hstatus later hlater
          rcases afterCompletion_cases deal later with hkept | ⟨hexpired, _⟩
          · rw [hkept] at hlisted hdistinct ⊢
            exact hover hlisted hdistinct
          · rw [hexpired]
            rfl
      · rw [hafter] at hstatus
        cases hstatus

/-- A deal that has not been released has no consent to wait for, and a completed one has it. -/
theorem DealsSound.open_of_consent (h : DealsSound db) {deal : OfflineDeal}
    (hmem : deal ∈ db.deals.rows) (hconsent : deal.sellerContactConsentAt = none) :
    deal.contactReleasedAt = none ∧ deal.status ≠ .completed := by
  have hreleased : deal.contactReleasedAt = none := by
    by_contra hreleased
    exact h.consented deal hmem hreleased hconsent
  refine ⟨hreleased, fun hcompleted => ?_⟩
  exact (h.agreed deal hmem (.inl (h.confirmed deal hmem hcompleted).1)).released hreleased

theorem DealsSound.moved {action : OfflineAction} {origin db' : OfflineDatabase}
    (h : DealsSound db) (hmove : OfflineMove action origin db db') : DealsSound db' := by
  -- A deal whose listing is live has no completed rival.
  have hrival : ∀ deal : OfflineDeal, deal.Eligible db → ∀ other ∈ db.deals.rows,
      other.status = .completed → other.listingId ≠ deal.listingId := by
    intro deal heligible other hother hcompleted hsame
    obtain ⟨listing, hlisting, _, hunsold⟩ := heligible.not_sold
    rw [← hsame] at hlisting
    exact h.not_completed hother hlisting hunsold hcompleted
  cases hmove with
  | revoked row authorizations listings command _ _ _ _ hlistings =>
      exact (h.revoked hlistings).congr rfl rfl
  | listed listing listings _ _ hrows => exact h.listed_more hrows
  | introduced command pair matchReasons commissionAmount deals hlisting htenant hstatus hrows =>
      exact h.introduced hrows hlisting htenant hstatus rfl rfl rfl rfl
  | consented deal deals now stamp _ _ hconsent hwritten =>
      have hmem := Table.mem_of_lookup hwritten.stored
      obtain ⟨hreleased, hopen⟩ := h.open_of_consent hmem hconsent
      refine h.rewritten hwritten rfl rfl rfl (fun hconfirmed => ?_) (fun _ => by simp [OfflineDeal.consent])
        hopen fun other hother hcompleted hlisting hne => ?_
      · obtain ⟨hreleased, hpriced⟩ := h.agreed deal hmem hconfirmed
        exact ⟨hreleased, hpriced⟩
      · exact h.single other hother hcompleted deal hmem hlisting.symm hne.symm
  | released deal paymentId stamp deals heligible hconsent hwritten =>
      have hmem := Table.mem_of_lookup hwritten.stored
      obtain ⟨listing, hlisting, _, hunsold⟩ := heligible.not_sold
      have hopen := h.not_completed hmem hlisting hunsold
      refine h.rewritten hwritten rfl rfl rfl (fun hconfirmed => ?_) (fun _ => hconsent) ?_
        fun other hother hcompleted hsame _ => absurd hsame (hrival deal heligible other hother hcompleted)
      · obtain ⟨hreleased, hpriced⟩ := h.agreed deal hmem hconfirmed
        refine ⟨?_, hpriced⟩
        simp [OfflineDeal.release]
      · unfold OfflineDeal.release
        split <;> simp_all
  | viewed deal status deals hfrom hto hwritten =>
      have hmem := Table.mem_of_lookup hwritten.stored
      refine h.rewritten hwritten rfl rfl rfl (fun hconfirmed => ?_) (h.consented deal hmem) ?_
        fun other hother hcompleted hsame hne => ?_
      · obtain ⟨hreleased, hpriced⟩ := h.agreed deal hmem hconfirmed
        exact ⟨hreleased, hpriced⟩
      · intro hcompleted
        simp_all
      · have hover := h.single other hother hcompleted deal hmem hsame.symm hne.symm
        simp only [List.mem_cons, List.not_mem_nil, or_false] at hfrom
        rcases hfrom with hfrom | hfrom <;> rw [hfrom] at hover <;> cases hover
  | priced deal command clock commissionAmount deals _ _ _ _ _ _ heligible hreleased _ hcommission
      hwritten =>
      have hmem := Table.mem_of_lookup hwritten.stored
      refine h.rewritten hwritten rfl rfl rfl (fun _ => ⟨hreleased, ?_⟩) (h.consented deal hmem)
        (by simp [OfflineDeal.price]) fun other hother hcompleted hsame _ =>
          absurd hsame (hrival deal heligible other hother hcompleted)
      exact ⟨command.finalAmount, commissionAmount, rfl, rfl, hcommission⟩
  | completed deal stamp listing written deals listings _ heligible hseller hbuyer _ _ hwritten hdeals
      hlisting hlistings =>
      exact h.completed heligible hseller hbuyer hwritten hdeals hlisting hlistings
  | _ => exact h.congr rfl rfl

/-! ## Completed deals -/

/-- A deal that has been completed is never written again. -/
theorem DealsSound.completed_kept {action : OfflineAction} {origin db' : OfflineDatabase}
    (h : DealsSound db) (hmove : OfflineMove action origin db db') {deal : OfflineDeal}
    (hdeal : db.deals.lookup deal.id = some deal) (hstatus : deal.status = .completed) :
    db'.deals.lookup deal.id = some deal := by
  -- A row that is written is another one.
  have hwrites : ∀ {deals : Table offlineDeals} {row row' : OfflineDeal},
      Table.Written db.deals deals row row' → row.status ≠ .completed →
      deals.lookup deal.id = some deal := by
    intro deals row row' hwritten hopen
    rw [hwritten.lookup_of_ne, hdeal]
    intro hid
    have hsame := hwritten.stored
    rw [← hid, hdeal] at hsame
    cases hsame
    exact hopen hstatus
  cases hmove with
  | introduced command pair matchReasons commissionAmount deals _ _ _ hrows =>
      exact Table.lookup_inserted_of_some hrows hdeal
  | consented row deals now stamp _ _ hconsent hwritten =>
      have hmem := Table.mem_of_lookup hwritten.stored
      exact hwrites hwritten (h.open_of_consent hmem hconsent).2
  | released row paymentId stamp deals heligible _ hwritten =>
      obtain ⟨listing, hlisting, _, hunsold⟩ := heligible.not_sold
      exact hwrites hwritten (h.not_completed (Table.mem_of_lookup hwritten.stored) hlisting hunsold)
  | viewed row status deals hfrom _ hwritten =>
      refine hwrites hwritten fun hcompleted => ?_
      simp [hcompleted] at hfrom
  | priced row command clock commissionAmount deals _ _ _ _ _ hopen _ _ _ _ hwritten =>
      exact hwrites hwritten hopen
  | completed row stamp listing written deals listings hopen _ _ _ _ _ hwritten hdeals =>
      change deals.lookup deal.id = some deal
      rw [Table.lookup_updatedAll hdeals (afterCompletion_id row), hwrites hwritten hopen,
        Option.map_some]
      rcases afterCompletion_cases row deal with hkept | ⟨_, hopen⟩
      · rw [hkept]
      · exact absurd hstatus hopen
  | _ => exact hdeal

/-- The commission of the deal had been captured by one of these payments, and was not
refunded. -/
def OfflineDeal.PaidBy (deal : OfflineDeal) (surroundings : OfflineSurroundings) : Prop :=
  ∀ commissionAmount, deal.commissionAmount = some commissionAmount → 0 < commissionAmount →
    ∃ payment ∈ surroundings.payments.rows, deal.commissionPaymentId = some payment.id ∧
      payment.paysFor deal ∧ payment.settled commissionAmount

theorem payment_of_captured {deal : OfflineDeal} {paymentId : PaymentId}
    (h : capturedCommissionPayment db deal = some paymentId) :
    ∃ payment ∈ db.surroundings.payments.rows, payment.id = paymentId ∧ payment.paysFor deal ∧
      payment.settled (deal.commissionAmount.getD 0) := by
  unfold capturedCommissionPayment at h
  simp only at h
  split at h
  · cases h
  · rw [Option.map_eq_some_iff] at h
    obtain ⟨payment, hfirst, hid⟩ := h
    have hmem := mem_of_firstBy hfirst
    rw [List.mem_filter, decide_eq_true_eq] at hmem
    exact ⟨payment, hmem.1, hid, hmem.2.1, hmem.2.2⟩

/-- Either check of the commission is about the commission that was agreed on. -/
theorem OfflineDeal.Agreed.paid {deal : OfflineDeal} {stamp : OffsetDateTime}
    (h : deal.Agreed) (hpaid : deal.Paid db ∨ ∃ amount, deal.PaidFor db amount) :
    (deal.complete (capturedCommissionPayment db deal) stamp).PaidBy db.surroundings := by
  intro commissionAmount hcommission hpositive
  change deal.commissionAmount = some commissionAmount at hcommission
  have hcaptured : (capturedCommissionPayment db deal).isSome := by
    rcases hpaid with hpaid | ⟨amount, hsame, commission, hcalculated, hpaid⟩
    · exact hpaid (by rwa [hcommission])
    · obtain ⟨named, agreed, hfinal, hagreed, hagreement⟩ := h.priced
      rw [hfinal, Option.all_some, decide_eq_true_eq] at hsame
      rw [← hsame, hagreement, Except.ok.injEq] at hcalculated
      rw [hcommission, Option.some.injEq] at hagreed
      rcases hpaid with hzero | hpaid
      · omega
      · exact hpaid
  obtain ⟨paymentId, hpayment⟩ := Option.isSome_iff_exists.mp hcaptured
  obtain ⟨payment, hmem, hid, hpays, hsettled⟩ := payment_of_captured hpayment
  rw [hcommission] at hsettled
  refine ⟨payment, hmem, ?_, hpays, hsettled⟩
  change capturedCommissionPayment db deal = some payment.id
  rw [hpayment, hid]

/-- A completed deal was completed before the move, or has been paid for. -/
theorem DealsSound.completed_cases {action : OfflineAction} {origin db' : OfflineDatabase}
    (h : DealsSound db) (hmove : OfflineMove action origin db db') {deal : OfflineDeal}
    (hdeal : deal ∈ db'.deals.rows) (hstatus : deal.status = .completed) :
    deal ∈ db.deals.rows ∨ deal.PaidBy origin.surroundings := by
  -- A row that is written is not completed by that.
  have hwrites : ∀ {deals : Table offlineDeals} {row row' : OfflineDeal},
      Table.Written db.deals deals row row' → row'.status ≠ .completed → deal ∈ deals.rows →
      deal ∈ db.deals.rows := by
    intro deals row row' hwritten hopen hdeal
    rcases hwritten.mem_cases hdeal with rfl | ⟨hother, _⟩
    · exact absurd hstatus hopen
    · exact hother
  cases hmove with
  | introduced command pair matchReasons commissionAmount deals _ _ _ hrows =>
      change deal ∈ deals.rows at hdeal
      rw [hrows, List.mem_append, List.mem_singleton] at hdeal
      rcases hdeal with hdeal | rfl
      · exact .inl hdeal
      · cases hstatus
  | consented row deals now stamp _ _ hconsent hwritten =>
      have hmem := Table.mem_of_lookup hwritten.stored
      exact .inl (hwrites hwritten (h.open_of_consent hmem hconsent).2 hdeal)
  | released row paymentId stamp deals heligible _ hwritten =>
      obtain ⟨listing, hlisting, _, hunsold⟩ := heligible.not_sold
      have hopen := h.not_completed (Table.mem_of_lookup hwritten.stored) hlisting hunsold
      refine .inl (hwrites hwritten ?_ hdeal)
      unfold OfflineDeal.release
      split <;> simp_all
  | viewed row status deals _ hto hwritten =>
      refine .inl (hwrites hwritten (fun hcompleted => ?_) hdeal)
      simp_all
  | priced row command clock commissionAmount deals _ _ _ _ _ _ _ _ _ _ hwritten =>
      exact .inl (hwrites hwritten (by simp [OfflineDeal.price]) hdeal)
  | completed row stamp listing written deals listings _ _ hseller _ hpayments hpaid hwritten
      hdeals =>
      rcases mem_completed hwritten rfl hdeals hdeal with rfl | ⟨old, hold, _, rfl⟩
      · have hagreed := h.agreed row (Table.mem_of_lookup hwritten.stored) (.inl hseller)
        rw [← hpayments]
        exact .inr (hagreed.paid hpaid)
      · rcases afterCompletion_cases row old with hsame | ⟨hexpired, _⟩
        · rw [hsame]
          exact .inl hold
        · rw [hexpired] at hstatus
          cases hstatus
  | _ => exact .inl hdeal

end Sound

/-! ## Confirmations -/

section Runs

variable [Jsonb] [UuidParser] [Ranking]

/-- The party has confirmed the deal at that price. -/
def ConfirmedAt (system : OfflineSystem) (actions : List OfflineAction) (deal : OfflineDeal)
    (partyId : MarketplacePartyId) (amount : Int) : Prop :=
  ∃ first clock,
    first ++ [.confirm ⟨deal.tenantId, deal.id, partyId, amount⟩ clock] <+: actions ∧
      Library.succeeds (confirmOfflineDeal ⟨deal.tenantId, deal.id, partyId, amount⟩ clock)
        (system.run first).db = true

/-- Whoever is recorded as having confirmed has named the final amount. -/
structure OfflineDeal.Named (system : OfflineSystem) (actions : List OfflineAction)
    (deal : OfflineDeal) : Prop where
  seller : deal.sellerConfirmedAt.isSome → ∃ amount, deal.finalAmount = some amount ∧
    ConfirmedAt system actions deal deal.sellerPartyId amount
  buyer : deal.buyerConfirmedAt.isSome → ∃ amount, deal.finalAmount = some amount ∧
    ConfirmedAt system actions deal deal.buyerPartyId amount

variable {system : OfflineSystem} {actions : List OfflineAction}

theorem ConfirmedAt.grow {deal : OfflineDeal} {partyId : MarketplacePartyId} {amount : Int}
    (h : ConfirmedAt system actions deal partyId amount) (action : OfflineAction) :
    ConfirmedAt system (actions ++ [action]) deal partyId amount := by
  obtain ⟨first, clock, hbefore, hsucceeds⟩ := h
  exact ⟨first, clock, hbefore.trans (List.prefix_append _ _), hsucceeds⟩

theorem OfflineDeal.Named.grow {deal : OfflineDeal} (h : deal.Named system actions)
    (action : OfflineAction) : deal.Named system (actions ++ [action]) := by
  refine ⟨fun hseller => ?_, fun hbuyer => ?_⟩
  · obtain ⟨amount, hamount, hconfirmed⟩ := h.seller hseller
    exact ⟨amount, hamount, hconfirmed.grow action⟩
  · obtain ⟨amount, hamount, hconfirmed⟩ := h.buyer hbuyer
    exact ⟨amount, hamount, hconfirmed.grow action⟩

theorem OfflineDeal.Named.price {deal : OfflineDeal} {command : ConfirmOfflineDeal}
    {clock : DealClock} {commissionAmount : Int} {stamp : OffsetDateTime}
    (h : deal.Named system (actions ++ [.confirm command clock]))
    (haccepted : Library.succeeds (confirmOfflineDeal command clock)
      (system.run actions).db = true)
    (hid : command.offlineDealId = deal.id) (htenant : command.tenantId = deal.tenantId)
    (hsame : deal.finalAmount.all (· = command.finalAmount) = true) :
    (deal.price command commissionAmount stamp).Named system
      (actions ++ [.confirm command clock]) := by
  -- The command itself is the evidence for its actor.
  have hnamed : ConfirmedAt system (actions ++ [.confirm command clock])
      (deal.price command commissionAmount stamp) command.actorPartyId command.finalAmount := by
    have hcommand : (⟨deal.tenantId, deal.id, command.actorPartyId, command.finalAmount⟩ :
        ConfirmOfflineDeal) = command := by
      rw [← hid, ← htenant]
    refine ⟨actions, clock, ?_, ?_⟩
    · change actions ++ [.confirm ⟨deal.tenantId, deal.id, _, _⟩ clock] <+: _
      rw [hcommand]
    · change Library.succeeds (confirmOfflineDeal ⟨deal.tenantId, deal.id, _, _⟩ clock) _ = true
      rw [hcommand]
      exact haccepted
  have hbefore : ∀ amount, deal.finalAmount = some amount → amount = command.finalAmount := by
    intro amount hamount
    rwa [hamount, Option.all_some, decide_eq_true_eq] at hsame
  refine ⟨fun hseller => ⟨command.finalAmount, rfl, ?_⟩,
    fun hbuyer => ⟨command.finalAmount, rfl, ?_⟩⟩
  · by_cases hactor : deal.sellerPartyId = command.actorPartyId
    · rw [← hactor] at hnamed
      exact hnamed
    · have hold : deal.sellerConfirmedAt.isSome := by
        simpa [OfflineDeal.price, hactor] using hseller
      obtain ⟨amount, hamount, hconfirmed⟩ := h.seller hold
      rw [hbefore amount hamount] at hconfirmed
      exact hconfirmed
  · by_cases hactor : deal.buyerPartyId = command.actorPartyId
    · rw [← hactor] at hnamed
      exact hnamed
    · have hold : deal.buyerConfirmedAt.isSome := by
        simpa [OfflineDeal.price, hactor] using hbuyer
      obtain ⟨amount, hamount, hconfirmed⟩ := h.buyer hold
      rw [hbefore amount hamount] at hconfirmed
      exact hconfirmed

theorem named_moved {action : OfflineAction} {db db' : OfflineDatabase}
    (h : ∀ deal ∈ db.deals.rows, deal.Named system (actions ++ [action]))
    (hmove : OfflineMove action (system.run actions).db db db') :
    ∀ deal ∈ db'.deals.rows, deal.Named system (actions ++ [action]) := by
  have hwrites : ∀ {deals : Table offlineDeals} {row row' : OfflineDeal},
      Table.Written db.deals deals row row' → row'.Named system (actions ++ [action]) →
      ∀ deal ∈ deals.rows, deal.Named system (actions ++ [action]) := by
    intro deals row row' hwritten hnew deal hdeal
    rcases hwritten.mem_cases hdeal with rfl | ⟨hother, _⟩
    · exact hnew
    · exact h deal hother
  cases hmove with
  | introduced command pair matchReasons commissionAmount deals _ _ _ hrows =>
      intro deal hdeal
      change deal ∈ deals.rows at hdeal
      rw [hrows, List.mem_append, List.mem_singleton] at hdeal
      rcases hdeal with hdeal | rfl
      · exact h deal hdeal
      · refine ⟨fun hseller => ?_, fun hbuyer => ?_⟩
        · cases hseller
        · cases hbuyer
  | consented row deals now stamp _ _ _ hwritten =>
      have hnamed := h row (Table.mem_of_lookup hwritten.stored)
      exact hwrites hwritten ⟨hnamed.seller, hnamed.buyer⟩
  | released row paymentId stamp deals _ _ hwritten =>
      have hnamed := h row (Table.mem_of_lookup hwritten.stored)
      exact hwrites hwritten ⟨hnamed.seller, hnamed.buyer⟩
  | viewed row status deals _ _ hwritten =>
      have hnamed := h row (Table.mem_of_lookup hwritten.stored)
      exact hwrites hwritten ⟨hnamed.seller, hnamed.buyer⟩
  | priced row command clock commissionAmount deals haction haccepted hid htenant _ _ _ _ hsame _
      hwritten =>
      have hnamed := h row (Table.mem_of_lookup hwritten.stored)
      subst haction
      exact hwrites hwritten (hnamed.price haccepted hid htenant hsame)
  | completed row stamp listing written deals listings _ _ _ _ _ _ hwritten hdeals =>
      have hnamed := h row (Table.mem_of_lookup hwritten.stored)
      intro deal hdeal
      rcases mem_completed hwritten rfl hdeals hdeal with rfl | ⟨old, hold, _, rfl⟩
      · exact ⟨hnamed.seller, hnamed.buyer⟩
      · rcases afterCompletion_cases row old with hkept | ⟨hexpired, _⟩
        · rw [hkept]
          exact h old hold
        · rw [hexpired]
          exact ⟨(h old hold).seller, (h old hold).buyer⟩
  | _ => exact h

/-! ## Runs -/

theorem dealsSound_run (surroundings : OfflineSurroundings) (actions : List OfflineAction) :
    DealsSound ((OfflineSystem.initial surroundings).run actions).db :=
  OfflineSystem.run_invariant (fun _ _ _ _ => DealsSound.moved) (dealsSound_initial surroundings)
    actions

theorem completed_kept_run (hsound : DealsSound system.db) {deal : OfflineDeal}
    (hdeal : system.db.deals.lookup deal.id = some deal) (hstatus : deal.status = .completed)
    (later : List OfflineAction) :
    (system.run later).db.deals.lookup deal.id = some deal := by
  have hkept : DealsSound (system.run later).db ∧
      (system.run later).db.deals.lookup deal.id = some deal := by
    refine OfflineSystem.run_invariant (fun _ _ db db' hsofar hmove => ?_)
      (P := fun db => DealsSound db ∧ db.deals.lookup deal.id = some deal) ⟨hsound, hdeal⟩ later
    exact ⟨hsofar.1.moved hmove, hsofar.1.completed_kept hmove hsofar.2 hstatus⟩
  exact hkept.2

/-- A step that completes a deal finds its commission paid. -/
theorem completed_of_step (hsound : DealsSound system.db) {action : OfflineAction}
    {deal : OfflineDeal} (hdeal : deal ∈ (system.step action).db.deals.rows)
    (hstatus : deal.status = .completed) :
    deal ∈ system.db.deals.rows ∨ deal.PaidBy system.db.surroundings := by
  have hmoves := system.write_moves action
  change deal ∈ (system.write action).deals.rows at hdeal
  generalize system.write action = reached at hmoves hdeal
  have hreached : DealsSound reached ∧ ∀ row ∈ reached.deals.rows, row.status = .completed →
      row ∈ system.db.deals.rows ∨ row.PaidBy system.db.surroundings := by
    clear hdeal
    induction hmoves with
    | refl => exact ⟨hsound, fun row hrow _ => .inl hrow⟩
    | tail _ hlast hbefore =>
        refine ⟨hbefore.1.moved hlast, fun row hrow hcompleted => ?_⟩
        rcases hbefore.1.completed_cases hlast hrow hcompleted with hold | hpaid
        · exact hbefore.2 row hold hcompleted
        · exact .inr hpaid
  exact hreached.2 deal hdeal hstatus

/-- The step of the run that completed the deal, and the payments that it found. -/
def CompletedWith (system : OfflineSystem) (actions : List OfflineAction)
    (deal : OfflineDeal) : Prop :=
  ∃ first action, first ++ [action] <+: actions ∧
    (∀ old, (system.run first).db.deals.lookup deal.id = some old → old.status ≠ .completed) ∧
    (system.run (first ++ [action])).db.deals.lookup deal.id = some deal ∧
    deal.PaidBy (system.run first).db.surroundings

theorem completedWith_run (surroundings : OfflineSurroundings) (actions : List OfflineAction)
    {deal : OfflineDeal}
    (hdeal : deal ∈ ((OfflineSystem.initial surroundings).run actions).db.deals.rows)
    (hstatus : deal.status = .completed) :
    CompletedWith (.initial surroundings) actions deal := by
  induction actions using List.reverseRecOn with
  | nil => cases hdeal
  | append_singleton actions action ih =>
      have hsound := dealsSound_run surroundings actions
      by_cases hold : deal ∈ ((OfflineSystem.initial surroundings).run actions).db.deals.rows
      · obtain ⟨first, completing, hbefore, hevidence⟩ := ih hold
        exact ⟨first, completing, hbefore.trans (List.prefix_append _ _), hevidence⟩
      · have hlookup := Table.lookup_of_mem hdeal
        refine ⟨actions, action, List.prefix_rfl, fun old hlookup' hcompleted => hold ?_, hlookup, ?_⟩
        · have hid : old.id = deal.id := Table.key_of_lookup hlookup'
          rw [← hid] at hlookup'
          have hkept := completed_kept_run hsound hlookup' hcompleted [action]
          rw [← OfflineSystem.run_append, hid] at hkept
          have hsame : deal = old := Option.some.inj (hlookup.symm.trans hkept)
          rw [hsame]
          exact Table.mem_of_lookup hlookup'
        · rw [OfflineSystem.run_snoc] at hdeal
          rcases completed_of_step hsound hdeal hstatus with hmem | hpaid
          · exact absurd hmem hold
          · exact hpaid

/-- A completed deal has been agreed on by both sides and paid for, its listing is sold, its
rivals are over, and nothing changes it any more. -/
theorem deals_complete_agreed_and_paid (surroundings : OfflineSurroundings)
    (actions later : List OfflineAction) {deal : OfflineDeal}
    (hdeal : deal ∈ ((OfflineSystem.initial surroundings).run actions).db.deals.rows)
    (hstatus : deal.status = .completed) :
    let system := OfflineSystem.initial surroundings
    let db := (system.run actions).db
    deal.sellerConfirmedAt.isSome ∧ deal.buyerConfirmedAt.isSome ∧
      (∃ amount commissionAmount, deal.finalAmount = some amount ∧
        ConfirmedAt system actions deal deal.sellerPartyId amount ∧
        ConfirmedAt system actions deal deal.buyerPartyId amount ∧
        deal.commissionAmount = some commissionAmount ∧
        calculateCommission amount deal.commissionBps.toNat = .ok commissionAmount) ∧
      CompletedWith system actions deal ∧
      (∃ listing, db.listings.lookup deal.listingId = some listing ∧ listing.status = .sold) ∧
      (∀ other ∈ db.deals.rows, other.listingId = deal.listingId → other.id ≠ deal.id →
        other.status.isOver = true) ∧
      (system.run (actions ++ later)).db.deals.lookup deal.id = some deal := by
  intro system db
  have hsound : DealsSound db := dealsSound_run surroundings actions
  obtain ⟨hseller, hbuyer⟩ := hsound.confirmed deal hdeal hstatus
  have hnamed : ∀ row ∈ db.deals.rows, row.Named system actions := by
    refine OfflineSystem.run_history
      (P := fun actions db => ∀ row ∈ db.deals.rows, row.Named system actions) ?_ ?_ ?_ actions
    · exact fun _ action _ h row hrow => (h row hrow).grow action
    · exact fun _ _ _ _ => named_moved
    · exact fun row hrow => (List.not_mem_nil hrow).elim
  refine ⟨hseller, hbuyer, ?_, completedWith_run surroundings actions hdeal hstatus,
    hsound.sold deal hdeal hstatus, hsound.single deal hdeal hstatus, ?_⟩
  · obtain ⟨amount, hamount, hsold⟩ := (hnamed deal hdeal).seller hseller
    obtain ⟨bought, hbought, hconfirmed⟩ := (hnamed deal hdeal).buyer hbuyer
    obtain ⟨priced, commissionAmount, hpriced, hcommission, hcalculated⟩ :=
      (hsound.agreed deal hdeal (.inl hseller)).priced
    rw [hamount, Option.some.injEq] at hbought hpriced
    subst hbought hpriced
    refine ⟨amount, commissionAmount, hamount, hsold, hconfirmed, hcommission, ?_⟩
    unfold dealCommission at hcalculated
    split at hcalculated
    · rename_i commission hcommission
      cases hcalculated
      exact hcommission
    · cases hcalculated
  · rw [OfflineSystem.run_append]
    exact completed_kept_run hsound (Table.lookup_of_mem hdeal) hstatus later

end Runs

/-! ## A sale -/

def carSeller : OfflineParty := ⟨⟨4⟩, ⟨1⟩, "Seller", .seller, [1], [2], 1, true⟩

def carBuyer : OfflineParty := ⟨⟨5⟩, ⟨1⟩, "Buyer", .buyer, [3], [4], 1, true⟩

def carAsset : VehicleAsset := ⟨⟨3⟩, ⟨1⟩, ⟨2⟩, "car", "Car", .object [], true⟩

/-- The seller has paid the commission. -/
def carCommission : PaymentIntentRow where
  id := ⟨9⟩
  tenantId := ⟨1⟩
  gatewayId := ⟨1⟩
  offlineDealId := some ⟨8⟩
  payerPartyId := some ⟨4⟩
  merchantOrderId := "order-9"
  idempotencyKey := "commission"
  requestHash := List.replicate 32 0
  transactionChannel := "offline_direct"
  purpose := "platform_commission"
  gatewayKind := .epay
  gatewayMode := .test
  gatewayConfigVersion := 1
  gatewayCredentialSecretRef := none
  gatewayCredentialDigest := none
  paymentMethod := "alipay"
  amount := 100
  capturedAmount := 100
  refundedAmount := 0
  commissionAmount := 100
  commissionRefundedAmount := 0
  currency := "EUR"
  currencyScale := 2
  status := .captured
  providerReference := none
  redirectUrl := none
  providerStatus := "captured"
  createdAt := 1

def carSurroundings : OfflineSurroundings where
  parties := [carSeller, carBuyer]
  policies := [⟨⟨1⟩, ⟨2⟩, "EUR", 2, 100, .preauthorized⟩]
  payments := ⟨[carCommission], by decide +kernel⟩

/-- A listing and a deal about it, up to the consent of the seller. -/
def carDeal : List OfflineAction := [
  .surround carSurroundings ⟨[carAsset], by decide +kernel⟩ .empty,
  .setAuthorization ⟨⟨1⟩, ⟨2⟩, ⟨3⟩, ⟨4⟩, true, "operator", "papers checked"⟩,
  .createListing ⟨⟨6⟩, ⟨1⟩, ⟨2⟩, ⟨3⟩, ⟨4⟩, 10000, "EUR", 2, none⟩ 1,
  .createRequest ⟨⟨7⟩, ⟨1⟩, ⟨2⟩, ⟨5⟩, .object [], none, none, "EUR", 2⟩,
  .createDeal ⟨⟨8⟩, ⟨1⟩, ⟨6⟩, ⟨7⟩, ⟨5⟩, 1000⟩ 1 ⟨1, fun _ => 1⟩,
  .acceptContact ⟨⟨1⟩, ⟨8⟩, ⟨4⟩⟩ 2 2]

/-- The contact is released, and both sides confirm the asking price. -/
def carSale : List OfflineAction := carDeal ++ [
  .releaseContact ⟨⟨1⟩, ⟨8⟩, ⟨5⟩, none⟩ ⟨3, 3, 3, 3⟩ ⟨3, fun _ => 3⟩,
  .confirm ⟨⟨1⟩, ⟨8⟩, ⟨5⟩, 10000⟩ ⟨4, 4, 4, 4⟩,
  .confirm ⟨⟨1⟩, ⟨8⟩, ⟨4⟩, 10000⟩ ⟨5, 5, 5, 5⟩]

def soldCar : OfflineDeal where
  id := ⟨8⟩
  tenantId := ⟨1⟩
  listingId := ⟨6⟩
  buyerRequestId := ⟨7⟩
  sellerPartyId := ⟨4⟩
  buyerPartyId := ⟨5⟩
  matchReasons := ["within_budget"]
  status := .completed
  contactReleasedAt := some 3
  sellerContactConsentAt := some 2
  finalAmount := some 10000
  currency := "EUR"
  currencyScale := 2
  commissionBps := 100
  commissionAmount := some 100
  commissionCollection := .preauthorized
  commissionPaymentId := some ⟨9⟩
  sellerConfirmedAt := some 5
  buyerConfirmedAt := some 4
  completedAt := some 5
  expiresAt := 1000

/-- No text is an identifier. -/
@[reducible] def noUuids : UuidParser := ⟨fun _ => none⟩

@[reducible] def unranked : Ranking := ⟨fun _ recommendations => recommendations⟩

theorem carSale_sold : soldCar ∈ (@OfflineSystem.run plainJsonb noUuids unranked
    (.initial carSurroundings) carSale).db.deals.rows := by
  decide +kernel

theorem carSale_completed :
    @CompletedWith plainJsonb noUuids unranked (.initial carSurroundings) carSale soldCar ∧
      soldCar.PaidBy carSurroundings := by
  have hcompleted := (@deals_complete_agreed_and_paid plainJsonb noUuids unranked carSurroundings
    carSale [] soldCar carSale_sold rfl).2.2.2.1
  refine ⟨hcompleted, fun commissionAmount hcommission _ => ?_⟩
  cases hcommission
  exact ⟨carCommission, List.mem_singleton_self _, rfl, by decide, by decide⟩

end MatchPlane
