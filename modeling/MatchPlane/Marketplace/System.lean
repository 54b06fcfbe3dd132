import MatchPlane.Library.Statements
import MatchPlane.Marketplace.Introductions

/-!
# The generic marketplace

The marketplace as a state machine: every step is one transaction, and a run is a
serial order of any interleaving.  Requests come from anyone, with any arguments,
at any time.  The creation of an intent or an offer carries what its earlier
look-up has seen; nothing is assumed about it.
-/

namespace MatchPlane

open MatchPlane.Library

inductive MarketAction where
  | surround (surroundings : MarketSurroundings)
  | createIntent (command : CreateMarketplaceIntent) (now : OffsetDateTime)
      (looked : MarketDatabase)
  | updateIntent (command : UpdateMarketplaceIntent)
  | updateDiscovery (command : UpdateMarketplaceDemandDiscovery) (now : OffsetDateTime)
  | createOffer (command : CreateMarketplaceOffer) (now : OffsetDateTime)
      (looked : MarketDatabase) (authorizing : MarketSurroundings)
  | updateOffer (command : UpdateMarketplaceOffer)
  | withdrawOffer (command : WithdrawMarketplaceOffer)
  | activateOffer (tenantId : TenantId) (offerId : MarketplaceOfferId) (expectedVersion : Int)
      (stamp : OffsetDateTime)
  | rejectOffer (tenantId : TenantId) (offerId : MarketplaceOfferId) (expectedVersion : Int)
  | createIntroduction (command : CreateMarketplaceIntroduction) (now : OffsetDateTime)
  | requestContact (command : RequestMarketplaceContact) (now : OffsetDateTime)
  | acceptContact (command : AcceptMarketplaceContact) (now stamp : OffsetDateTime)
  | releaseContact (command : ReleaseMarketplaceContact) (now stamp : OffsetDateTime)

namespace MarketDatabase

/-- Nothing has been stored yet. -/
def initial (surroundings : MarketSurroundings) : MarketDatabase where
  surroundings := surroundings
  intents := .empty
  offers := .empty
  introductions := .empty
  contacts := .empty

variable [Jsonb]

def step (db : MarketDatabase) : MarketAction → MarketDatabase
  | .surround surroundings => { db with surroundings := surroundings }
  | .createIntent command now looked => committed (createMarketplaceIntent command now looked) db
  | .updateIntent command => committed (updateMarketplaceIntent command) db
  | .updateDiscovery command now => committed (updateMarketplaceDemandDiscovery command now) db
  | .createOffer command now looked authorizing =>
      committed (createMarketplaceOffer command now looked authorizing) db
  | .updateOffer command => committed (updateMarketplaceOffer command) db
  | .withdrawOffer command => committed (withdrawMarketplaceOffer command) db
  | .activateOffer tenantId offerId expectedVersion stamp =>
      committed (activateMarketplaceOffer tenantId offerId expectedVersion stamp) db
  | .rejectOffer tenantId offerId expectedVersion =>
      committed (rejectMarketplaceOffer tenantId offerId expectedVersion) db
  | .createIntroduction command now => committed (createMarketplaceIntroduction command now) db
  | .requestContact command now => committed (requestMarketplaceContact command now) db
  | .acceptContact command now stamp => committed (acceptMarketplaceContact command now stamp) db
  | .releaseContact command now stamp =>
      committed (releaseMarketplaceContact command now stamp) db

def run (db : MarketDatabase) (actions : List MarketAction) : MarketDatabase :=
  actions.foldl step db

theorem run_append (db : MarketDatabase) (first second : List MarketAction) :
    db.run (first ++ second) = (db.run first).run second :=
  List.foldl_append

theorem run_snoc (db : MarketDatabase) (actions : List MarketAction) (action : MarketAction) :
    db.run (actions ++ [action]) = (db.run actions).step action := by
  rw [run_append]
  rfl

end MarketDatabase

end MatchPlane
