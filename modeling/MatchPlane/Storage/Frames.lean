import MatchPlane.Storage.Matching

/-!
# What a commit leaves alone

Settlement moves funds between accounts and reservations, records trades and
brings the order rows up to date.  A view of the holdings that looks at none of
these is kept by it.
-/

namespace MatchPlane

open MatchPlane.Library

variable {τ : Type} {view : Holdings → τ}

/-- The view does not look at the tables that the movement of funds writes. -/
structure IgnoresFunds (view : Holdings → τ) : Prop where
  accounts : ∀ t holdings, view { holdings with accounts := t } = view holdings
  reservations : ∀ t holdings, view { holdings with reservations := t } = view holdings
  trades : ∀ t holdings, view { holdings with trades := t } = view holdings
  ledgerEntries : ∀ t holdings, view { holdings with ledgerEntries := t } = view holdings

/-- The view does not tell order rows apart that settlement may replace. -/
def IgnoresProgress (view : Holdings → τ) : Prop :=
  ∀ holdings orderId guard remaining status sequence,
    Ensures (Holdings.orderTable.on (Table.update StorageError.sqlx orderId guard
      fun row => { row with
        remainingQuantity := remaining, status := status, acceptedSequence := sequence }))
      (fun _ => True) holdings fun _ holdings' => view holdings' = view holdings

section Funds

variable (h : IgnoresFunds view)

include h

theorem IgnoresFunds.holdReservation (decoded : DecodedCommand)
    (placement : PlacementContext) (fencingToken : Nat) :
    Keeps view (holdReservation decoded placement fencingToken) := by
  unfold MatchPlane.holdReservation
  split
  · refine (keeps_on h.reservations).bind fun _ => ?_
    exact (keeps_require _ _).bind fun _ => keeps_pure _
  · exact keeps_throw _

theorem IgnoresFunds.consumeReservation (orderId : OrderId) (accountId : AccountId)
    (consumed released : Int) :
    Keeps view (consumeReservation orderId accountId consumed released) := by
  refine (keeps_on h.accounts).bind fun _ => ?_
  refine (keeps_on h.reservations).bind fun _ => ?_
  exact (keeps_throw _).ite (keeps_pure _)

theorem IgnoresFunds.creditAccount (accountId : AccountId) (amount : Int) :
    Keeps view (creditAccount accountId amount) := by
  refine (keeps_on h.accounts).bind fun _ => ?_
  exact (keeps_require _ _).bind fun _ => keeps_pure _

theorem IgnoresFunds.creditCommission (terms : TradeTerms) :
    Keeps view (creditCommission terms) := by
  unfold MatchPlane.creditCommission
  split
  · exact keeps_pure _
  · refine Keeps.ite ?_ (keeps_pure _)
    exact (keeps_throw _).ite (h.creditAccount _ _)

theorem IgnoresFunds.moveFunds (trade : Trade) (terms : TradeTerms) :
    Keeps view (moveFunds trade terms) := by
  refine (h.consumeReservation _ _ _ _).bind fun _ => ?_
  refine (h.creditAccount _ _).bind fun _ => ?_
  refine (h.consumeReservation _ _ _ _).bind fun _ => ?_
  refine Keeps.ite ((h.creditAccount _ _).bind fun _ => ?_) ?_
  · exact h.creditCommission terms
  · exact h.creditCommission terms

theorem IgnoresFunds.releaseReservation (orderId : OrderId) (status : ReservationStatus) :
    Keeps view (releaseReservation orderId status) := by
  refine keeps_get.bind fun _ => (keeps_require _ _).bind fun _ => ?_
  refine ((keeps_pure _).ite (keeps_throw _)).bind fun _ => ?_
  refine (keeps_on h.accounts).bind fun _ => ?_
  exact (keeps_on h.reservations).bind fun _ => keeps_pure _

end Funds

/-! ## Reads -/

theorem keeps_ensureAccountScope (tenantId : TenantId)
    (reservationAccountId settlementAccountId : AccountId) (side : OrderSide)
    (market : MarketRow) : Keeps view (ensureAccountScope tenantId reservationAccountId
      settlementAccountId side market) := by
  refine (keeps_throw _).ite (Keeps.bind ?_ fun _ => Keeps.bind ?_ fun _ => ?_)
  · refine keeps_get.bind fun _ => (keeps_require _ _).bind fun _ => ?_
    exact (keeps_throw _).ite (keeps_pure _)
  · refine keeps_get.bind fun _ => (keeps_require _ _).bind fun _ => ?_
    exact (keeps_throw _).ite (keeps_pure _)
  · exact (keeps_throw _).ite (keeps_pure _)

theorem keeps_settlementAccounts (orderId : OrderId) :
    Keeps view (settlementAccounts orderId) := by
  refine keeps_get.bind fun _ => (keeps_require _ _).bind fun _ => ?_
  exact ((keeps_pure _).ite (keeps_throw _)).bind fun _ => keeps_pure _

theorem keeps_tradeTerms (markets : Table markets) (trade : Trade) :
    Keeps view (tradeTerms markets trade) := by
  refine (keeps_lift _).bind fun _ => (keeps_settlementAccounts _).bind fun _ => ?_
  refine (keeps_settlementAccounts _).bind fun _ => (keeps_throw _).ite ?_
  refine (keeps_require _ _).bind fun _ => (keeps_require _ _).bind fun _ => ?_
  refine (keeps_require _ _).bind fun _ => (keeps_throw _).ite ?_
  refine (keeps_lift _).bind fun _ => (keeps_require _ _).bind fun _ => ?_
  exact (keeps_throw _).ite (keeps_pure _)

theorem keeps_persistOrderProjection (h : IgnoresProgress view) (book : OrderBook)
    (orderId : OrderId) : Keeps view (persistOrderProjection book orderId) := by
  refine (keeps_require _ _).bind fun order => ?_
  refine ((keeps_throw _).ite (keeps_pure _)).bind fun sequence => ?_
  refine Keeps.bind (fun holdings => h holdings _ _ _ _ _) fun _ => ?_
  exact (keeps_require _ _).bind fun _ => keeps_pure _

section Settle

variable [UuidV5]

theorem IgnoresFunds.recordTrade (h : IgnoresFunds view) (eventId : EventId)
    (trade : Trade) (terms : TradeTerms) : Keeps view (recordTrade eventId trade terms) := by
  refine (keeps_on h.trades).bind fun _ => ?_
  exact keeps_forM fun _ => keeps_on h.ledgerEntries

theorem IgnoresFunds.settleEvent (h : IgnoresFunds view) (markets : Table markets)
    (event : EngineEvent) : Keeps view (settleEvent markets event) := by
  unfold MatchPlane.settleEvent
  split
  · refine (keeps_tradeTerms _ _).bind fun terms => ?_
    exact (h.moveFunds _ terms).bind fun _ => h.recordTrade _ _ terms
  · exact keeps_pure _

theorem keeps_settleCommand (hfunds : IgnoresFunds view) (hprogress : IgnoresProgress view)
    (markets : Table markets) (decoded : DecodedCommand) (book : OrderBook)
    (events : List EngineEvent) (fencingToken : Nat) :
    Keeps view (settleCommand markets decoded book events fencingToken) := by
  have hprojections : Keeps view (persistOrderProjections book events) :=
    keeps_forM fun _ => keeps_persistOrderProjection hprogress book _
  have hsettled : Keeps view (forM events (settleEvent markets)) :=
    keeps_forM fun event => hfunds.settleEvent markets event
  unfold settleCommand
  cases decoded.placement with
  | none =>
      cases closingOrder events with
      | none => exact hsettled.bind fun _ => hprojections
      | some closing =>
          exact hsettled.bind fun _ =>
            (hfunds.releaseReservation _ _).bind fun _ => hprojections
  | some placement =>
      refine (hfunds.holdReservation _ _ _).bind fun _ => ?_
      cases closingOrder events with
      | none => exact hsettled.bind fun _ => hprojections
      | some closing =>
          exact hsettled.bind fun _ =>
            (hfunds.releaseReservation _ _).bind fun _ => hprojections

end Settle

end MatchPlane
