import MatchPlane.Library.Checked

/-!
# Identifiers

Every identifier of the domain crate is a newtype over a UUID, produced by one
macro.  `Id` is that macro: its index plays the role of the newtype's name, so
an order identifier cannot be passed for an event identifier.

Version-5 UUIDs and digests come from third-party crates.  Their functions are the
only fields of `UuidV5` and `Sha256`, and everything derived from them stays a
parameter.
-/

namespace MatchPlane

/-- A UUID read as the big-endian number that its derived order compares. -/
abbrev Uuid := Nat

inductive IdKind where
  | tenant
  | domain
  | market
  | order
  | account
  | reservation
  | trade
  | ledgerEntry
  | event
  | federationNode
  | shard
  | payment
  | paymentGateway
  | refund
  | marketplaceParty
  | offlineDeal
  | correlation
  | asset
  | vehicleListing
  | buyerRequest
  | viewing
  | promotionCampaign
  | marketplaceIntent
  | marketplaceOffer
  | matchIntroduction
  deriving DecidableEq, Repr

structure Id (kind : IdKind) where
  uuid : Uuid
  deriving Repr

theorem Id.uuid_injective {kind : IdKind} :
    Function.Injective fun id : Id kind => id.uuid := by
  rintro ⟨first⟩ ⟨second⟩ h
  exact congrArg Id.mk h

instance {kind : IdKind} : LinearOrder (Id kind) :=
  LinearOrder.lift' Id.uuid Id.uuid_injective

instance {kind : IdKind} : Std.TransOrd (Id kind) := inferInstance

abbrev TenantId := Id .tenant
abbrev DomainId := Id .domain
abbrev MarketId := Id .market
abbrev OrderId := Id .order
abbrev AccountId := Id .account
abbrev ReservationId := Id .reservation
abbrev TradeId := Id .trade
abbrev LedgerEntryId := Id .ledgerEntry
abbrev EventId := Id .event
abbrev FederationNodeId := Id .federationNode
abbrev ShardId := Id .shard
abbrev PaymentId := Id .payment
abbrev PaymentGatewayId := Id .paymentGateway
abbrev RefundId := Id .refund
abbrev MarketplacePartyId := Id .marketplaceParty
abbrev OfflineDealId := Id .offlineDeal
abbrev CorrelationId := Id .correlation
abbrev AssetId := Id .asset
abbrev VehicleListingId := Id .vehicleListing
abbrev BuyerRequestId := Id .buyerRequest
abbrev ViewingId := Id .viewing
abbrev PromotionCampaignId := Id .promotionCampaign
abbrev MarketplaceIntentId := Id .marketplaceIntent
abbrev MarketplaceOfferId := Id .marketplaceOffer
abbrev MatchIntroductionId := Id .matchIntroduction

/-! ## Display -/

def hexDigits (value : Uuid) : List Char :=
  (List.range 32).map fun index =>
    Nat.digitChar (value / 16 ^ (31 - index) % 16)

/-- The hyphenated lower-case form that `Display` prints. -/
def hyphenated (value : Uuid) : String :=
  let digits := hexDigits value
  let field := fun start width => String.ofList ((digits.drop start).take width)
  "-".intercalate [field 0 8, field 8 4, field 12 4, field 16 4, field 20 12]

instance {kind : IdKind} : ToString (Id kind) := ⟨fun id => hyphenated id.uuid⟩

/-! ## Digests -/

abbrev Bytes := List UInt8

/-- The SHA-256 digest. -/
class Sha256 where
  digest : Bytes → Bytes

/-! ## Derived identifiers -/

/-- The name-based UUID constructor of the third-party crate. -/
class UuidV5 where
  newV5 : Uuid → String → Uuid

section Derive

variable [UuidV5]

def EventId.derive (id : EventId) (label : String) (ordinal : Nat) : EventId :=
  ⟨UuidV5.newV5 id.uuid s!"{label}:{ordinal}"⟩

def TradeId.derive (commandId : EventId) (ordinal : Nat) : TradeId :=
  ⟨UuidV5.newV5 commandId.uuid s!"trade:{ordinal}"⟩

def ReservationId.derive (commandId : EventId) : ReservationId :=
  ⟨UuidV5.newV5 commandId.uuid "matchplane-reservation"⟩

def LedgerEntryId.derive (tradeId : TradeId) (label : String) : LedgerEntryId :=
  ⟨UuidV5.newV5 tradeId.uuid label⟩

end Derive

/--
The event identifiers that matching derives for these commands do not collide.  A
version-5 UUID is a digest of its namespace and name, and the engine relies on
distinct pairs giving distinct digests.
-/
def EventIdsDistinct [UuidV5] (commandIds : Set EventId) : Prop :=
  ∀ first ∈ commandIds, ∀ second ∈ commandIds,
    ∀ ordinal ≤ Library.u32Max, ∀ ordinal' ≤ Library.u32Max,
      EventId.derive first "matching-event" ordinal =
          EventId.derive second "matching-event" ordinal' →
        first = second ∧ ordinal = ordinal'

theorem EventIdsDistinct.mono [UuidV5] {commandIds commandIds' : Set EventId}
    (h : EventIdsDistinct commandIds') (hsubset : commandIds ⊆ commandIds') :
    EventIdsDistinct commandIds :=
  fun first hfirst second hsecond =>
    h first (hsubset hfirst) second (hsubset hsecond)

/-! ## A constructor without collisions -/

namespace UuidV5

/-- A collision-free stand-in for the digest: the name is read as a numeral. -/
@[reducible] def positional : UuidV5 where
  newV5 := fun space name =>
    Nat.pair space (Nat.ofDigits 1114113 (name.toList.map fun c => c.toNat + 1))

theorem digits_ofDigits_name (name : String) :
    Nat.digits 1114113 (Nat.ofDigits 1114113 (name.toList.map fun c => c.toNat + 1)) =
      name.toList.map fun c => c.toNat + 1 := by
  refine Nat.digits_ofDigits _ (by decide) _ ?_ ?_
  · intro digit hdigit
    obtain ⟨c, _, rfl⟩ := List.mem_map.mp hdigit
    have hvalid := c.valid
    simp only [UInt32.isValidChar, Nat.isValidChar] at hvalid
    have : c.toNat = c.val.toNat := rfl
    omega
  · intro hne
    simp

theorem positional_newV5_inj {space space' : Uuid} {name name' : String}
    (h : positional.newV5 space name = positional.newV5 space' name') :
    space = space' ∧ name = name' := by
  obtain ⟨hspace, hname⟩ := Nat.pair_eq_pair.mp h
  refine ⟨hspace, String.toList_injective ?_⟩
  have hdigits := congrArg (Nat.digits 1114113) hname
  rw [digits_ofDigits_name, digits_ofDigits_name] at hdigits
  refine List.map_injective_iff.mpr ?_ hdigits
  intro c c' hc
  exact Char.toNat_inj.mp (Nat.succ_injective hc)

theorem positional_distinct (commandIds : Set EventId) :
    @EventIdsDistinct positional commandIds := by
  intro first _ second _ ordinal _ ordinal' _ h
  obtain ⟨hid, hname⟩ := positional_newV5_inj (congrArg Id.uuid h)
  refine ⟨Id.uuid_injective hid, ?_⟩
  have hordinal : (toString ordinal).toList = (toString ordinal').toList := by
    have hchars := congrArg String.toList hname
    simpa only [String.toList_append, List.append_cancel_left_eq] using hchars
  exact Nat.repr_inj.mp (String.toList_injective hordinal)

end UuidV5

end MatchPlane
