import MatchPlane.Offline.Deals

/-!
# The offline marketplace

The offline marketplace as a state machine: every step is one transaction, and a run
is a serial order of any interleaving.  A recommendation takes two steps, since it is
read before the transaction that bills it.  Requests come from anyone, with any
arguments, at any time; the payment service, the parties, the policies, the assets and
the submissions of sellers change as they like.
-/

namespace MatchPlane

open MatchPlane.Library

inductive OfflineAction where
  | surround (surroundings : OfflineSurroundings) (assets : Table vehicleAssets)
      (submissions : Table listingSubmissions)
  | setAuthorization (command : SetMarketplaceAssetAuthorization)
  | approveSubmission (command : ApproveMarketplaceListingSubmission) (assetId : AssetId)
      (listingId : VehicleListingId) (stamp : OffsetDateTime)
  | createListing (command : CreateVehicleListing) (stamp : OffsetDateTime)
  | createRequest (command : CreateBuyerVehicleRequest)
  | rank (reader : Nat) (command : RecommendVehicleListings) (clock : OffsetDateTime)
  | bill (reader : Nat) (now : VehicleListingId → OffsetDateTime)
      (clock : VehicleListingId → BillingClock)
  | createDeal (command : CreateOfflineDeal) (now : OffsetDateTime) (clock : BillingClock)
  | acceptContact (command : AcceptContactExchange) (now stamp : OffsetDateTime)
  | releaseContact (command : ReleaseContact) (clock : DealClock) (billing : BillingClock)
  | createViewing (command : CreateViewingAppointment) (start now : OffsetDateTime)
  | transitionViewing (command : TransitionViewingAppointment) (now : OffsetDateTime)
  | confirm (command : ConfirmOfflineDeal) (clock : DealClock)
  | finalize (command : FinalizeOfflineDeal) (clock : DealClock)
  | createPromotion (command : CreateSellerPromotion)
  | recordPromotion (command : RecordSellerPromotionEvent) (now : OffsetDateTime)
  | recordExposure (request : ExposureRequest) (now clock : OffsetDateTime)

namespace OfflineDatabase

/-- Nothing has been stored yet. -/
def initial (surroundings : OfflineSurroundings) : OfflineDatabase where
  surroundings := surroundings
  assets := .empty
  authorizations := .empty
  listings := .empty
  submissions := .empty
  requests := .empty
  deals := .empty
  viewings := .empty
  dealEvents := []
  audit := []
  exposures := .empty
  campaigns := .empty
  promotionEvents := .empty

end OfflineDatabase

/-- What a reader of recommendations has been told, and has not been billed for yet. -/
structure Recommended where
  command : RecommendVehicleListings
  recommendations : List RecommendedListing
  deriving DecidableEq

structure OfflineSystem where
  db : OfflineDatabase
  readers : Nat → Option Recommended

namespace OfflineSystem

def initial (surroundings : OfflineSurroundings) : OfflineSystem :=
  ⟨.initial surroundings, fun _ => none⟩

section Database

variable [Jsonb] [UuidParser]

/-- What a step does to the database. -/
def write (system : OfflineSystem) : OfflineAction → OfflineDatabase
  | .surround surroundings assets submissions =>
      { system.db with
        surroundings := surroundings
        assets := assets
        submissions := submissions }
  | .setAuthorization command => committed (setMarketplaceAssetAuthorization command) system.db
  | .approveSubmission command assetId listingId stamp =>
      committed (approveMarketplaceListingSubmission command assetId listingId stamp) system.db
  | .createListing command stamp => committed (createVehicleListing command stamp) system.db
  | .createRequest command => committed (createBuyerVehicleRequest command) system.db
  | .rank _ _ _ => system.db
  | .bill reader now clock =>
      match system.readers reader with
      | some recommended => committed (billRecommendations recommended.command
          recommended.recommendations now clock) system.db
      | none => system.db
  | .createDeal command now clock => committed (createOfflineDeal command now clock) system.db
  | .acceptContact command now stamp =>
      committed (acceptContactExchange command now stamp) system.db
  | .releaseContact command clock billing =>
      committed (releaseOfflineContact command clock billing) system.db
  | .createViewing command start now =>
      committed (createViewingAppointment command start now) system.db
  | .transitionViewing command now =>
      committed (transitionViewingAppointment command now) system.db
  | .confirm command clock => committed (confirmOfflineDeal command clock) system.db
  | .finalize command clock => committed (finalizeOfflineDeal command clock) system.db
  | .createPromotion command => committed (createSellerPromotion command) system.db
  | .recordPromotion command now => committed (recordSellerPromotionEvent command now) system.db
  | .recordExposure request now clock => committed (recordExposure request now clock) system.db

end Database

/-- What a step does to the readers of recommendations. -/
def tell [Ranking] (system : OfflineSystem) : OfflineAction → Nat → Option Recommended
  | .rank reader command clock =>
      match rankVehicleListings command system.db clock with
      | .ok recommendations =>
          Function.update system.readers reader (some ⟨command, recommendations⟩)
      | .error _ => system.readers
  | .bill reader _ _ => Function.update system.readers reader none
  | _ => system.readers

variable [Jsonb] [UuidParser] [Ranking]

def step (system : OfflineSystem) (action : OfflineAction) : OfflineSystem :=
  ⟨system.write action, system.tell action⟩

def run (system : OfflineSystem) (actions : List OfflineAction) : OfflineSystem :=
  actions.foldl step system

theorem run_append (system : OfflineSystem) (first second : List OfflineAction) :
    system.run (first ++ second) = (system.run first).run second :=
  List.foldl_append

theorem run_snoc (system : OfflineSystem) (actions : List OfflineAction)
    (action : OfflineAction) :
    system.run (actions ++ [action]) = (system.run actions).step action := by
  rw [run_append]
  rfl

end OfflineSystem

end MatchPlane
