import MatchPlane.Engine.Priority
import MatchPlane.Projection.Levels

/-!
# Published levels

The matcher prints the levels of its book into the delta it publishes.  Every level
of a reachable book has a positive quantity, and the levels leave the best price in
strict order, so all validators accept what is printed as long as the numbers have no
more digits than they allow.
-/

namespace MatchPlane

open MatchPlane.Library

/-! ## Printed numbers -/

theorem toString_natCast (number : Nat) :
    toString (number : Int) = String.ofList (Nat.toDigits 10 number) :=
  Nat.repr_eq_ofList_toDigits

theorem magnitude_toString {number : Int} (h : 0 ≤ number) :
    magnitude (toString number) = number := by
  obtain ⟨number, rfl⟩ := Int.eq_ofNat_of_zero_le h
  rw [toString_natCast, magnitude, String.toList_ofList, Nat.ofDigitChars_ten_toDigits]

theorem isExact_toString {number : Int} (hpositive : 0 < number) (hbounded : number < 10 ^ 38) :
    IsExact (toString number) := by
  obtain ⟨number, rfl⟩ := Int.eq_ofNat_of_zero_le hpositive.le
  have hnumber : number < 10 ^ 38 := by exact_mod_cast hbounded
  rw [toString_natCast]
  constructor
  · rw [String.toList_ofList]
    exact isNumeral_toDigits (by omega)
  · rw [String.length_ofList]
    exact (Nat.length_toDigits_le_iff (by omega) (by omega)).mpr hnumber

/-- The messages of a side, as `persist_book_delta` builds them. -/
def printedLevels (levels : List (Price × Quantity)) : List V1.PriceLevel :=
  levels.map fun level => ⟨toString level.1.value, toString level.2.value⟩

/-- All three validators accept the messages of a side. -/
def AcceptedByAll (levels : List V1.PriceLevel) (descending : Bool) : Prop :=
  validatedLevels levels descending = .ok (levels.map CachedLevel.ofMessage) ∧
    validBookSide (levels.map CachedLevel.ofMessage) descending = true ∧
    validSide (levels.map CachedLevel.ofMessage) descending = true

instance (levels : List V1.PriceLevel) (descending : Bool) :
    Decidable (AcceptedByAll levels descending) :=
  inferInstanceAs (Decidable (_ ∧ _ ∧ _))

theorem acceptedByAll_iff {levels : List V1.PriceLevel} {descending : Bool} :
    AcceptedByAll levels descending ↔
      Accepted descending (levels.map CachedLevel.ofMessage) := by
  simp [AcceptedByAll, validatedLevels_eq_ok_iff, validBookSide_iff, validSide_iff]

/-- The numbers of a side, before they are printed. -/
def levelNumbers (levels : List (Price × Quantity)) : List (Int × Int) :=
  levels.map fun level => (level.1.value, level.2.value)

/-- Positive numbers of 38 digits at prices in order are accepted when printed. -/
theorem accepted_printedLevels {levels : List (Price × Quantity)} {descending : Bool}
    (hexact : ∀ level ∈ levelNumbers levels, level.1 < 10 ^ 38 ∧ 0 < level.2 ∧ level.2 < 10 ^ 38)
    (hordered : (levelNumbers levels).Pairwise fun first second =>
      Follows descending first.1 second.1) :
    Accepted descending ((printedLevels levels).map CachedLevel.ofMessage) := by
  have hmagnitude : ∀ price : Price, magnitude (toString price.value) = price.value :=
    fun price => magnitude_toString price.positive.le
  constructor
  · intro level hlevel
    simp only [printedLevels, List.map_map, List.mem_map, Function.comp_def,
      CachedLevel.ofMessage] at hlevel
    obtain ⟨entry, hentry, rfl⟩ := hlevel
    obtain ⟨hprice, hpositive, hquantity⟩ := hexact _ (List.mem_map_of_mem hentry)
    exact ⟨isExact_toString entry.1.positive hprice, isExact_toString hpositive hquantity⟩
  · rw [levelNumbers, List.pairwise_map] at hordered
    rw [printedLevels, List.map_map, List.pairwise_map]
    apply hordered.imp
    intro first second hfollows
    simpa only [Function.comp_def, CachedLevel.ofMessage, hmagnitude] using hfollows
  · rintro previous ⟨⟩

namespace OrderBook

/-! ## The quantities of levels -/

/-- What the orders of a queue want together. -/
def levelSum (book : OrderBook) (queue : List OrderId) : Int :=
  ((book.queueViews queue).map fun order => order.remainingQuantity.value).sum

/-- Every level has a price and a quantity of at most 38 digits. -/
def WithinDigits (book : OrderBook) : Prop :=
  ∀ side, ∀ level ∈ book.levels side, level.1.value < 10 ^ 38 ∧ book.levelSum level.2 < 10 ^ 38

instance (book : OrderBook) : Decidable book.WithinDigits :=
  decidable_of_iff ((∀ level ∈ book.levels .buy, level.1.value < 10 ^ 38 ∧
      book.levelSum level.2 < 10 ^ 38) ∧ ∀ level ∈ book.levels .sell,
        level.1.value < 10 ^ 38 ∧ book.levelSum level.2 < 10 ^ 38)
    ⟨fun h side => by cases side with
      | buy => exact h.1
      | sell => exact h.2, fun h => ⟨h .buy, h .sell⟩⟩

section Levels

variable {book : OrderBook} {side : OrderSide} {price : Price} {queue : List OrderId}

theorem levelSum_cons {orderId : OrderId} {order : OrderView}
    (h : book.order orderId = some order) :
    book.levelSum (orderId :: queue) = order.remainingQuantity.value + book.levelSum queue := by
  simp [levelSum, queueViews, h]

theorem levelSum_nonnegative (book : OrderBook) (queue : List OrderId) :
    0 ≤ book.levelSum queue := by
  apply List.sum_nonneg
  intro value hvalue
  obtain ⟨order, _, rfl⟩ := List.mem_map.mp hvalue
  exact order.remainingQuantity.nonnegative

/-- A level of a well-formed book has an order, so its quantity is positive. -/
theorem Wf.levelSum_positive (hwf : book.Wf) (hlevel : book.level side price = some queue) :
    0 < book.levelSum queue := by
  cases queue with
  | nil => exact absurd rfl (hwf.queue_nonempty hlevel)
  | cons orderId queue =>
      obtain ⟨order, hlookup, hopen, _⟩ := hwf.owner hlevel List.mem_cons_self
      have hpositive := hwf.open_positive hlookup hopen
      have hrest := levelSum_nonnegative book queue
      rw [levelSum_cons hlookup]
      omega

/-- A queue of open orders is added up, starting from what came before it. -/
theorem aggregate_queue {start : Quantity}
    (hopen : ∀ orderId ∈ queue, ∃ order, book.order orderId = some order ∧
      order.status.isOpen = true)
    (hsum : start.value + book.levelSum queue ≤ i128Max) :
    ∃ quantity : Quantity, quantity.value = start.value + book.levelSum queue ∧
      queue.foldlM (fun quantity orderId => do
        let order ← book.openOrder orderId
        EngineError.ofNumeric (quantity.checkedAdd order.remainingQuantity)) start =
          .ok quantity := by
  induction queue generalizing start with
  | nil => exact ⟨start, by simp [levelSum, queueViews], rfl⟩
  | cons orderId queue ih =>
      obtain ⟨order, hlookup, hstatus⟩ := hopen orderId List.mem_cons_self
      have hrest := levelSum_nonnegative book queue
      rw [levelSum_cons hlookup] at hsum ⊢
      have hfits : start.value + order.remainingQuantity.value ≤ i128Max := by omega
      have hadd : start.checkedAdd order.remainingQuantity =
          .ok ⟨start.value + order.remainingQuantity.value, Int.add_nonneg start.nonnegative
            order.remainingQuantity.nonnegative, hfits⟩ := dif_pos hfits
      have hfound : book.openOrder orderId = .ok order := by
        simp [openOrder, hlookup, hstatus]
      have hadded : start.value + order.remainingQuantity.value + book.levelSum queue ≤ i128Max := by
        omega
      have hqueue := @ih ⟨start.value + order.remainingQuantity.value, Int.add_nonneg
        start.nonnegative order.remainingQuantity.nonnegative, hfits⟩
      obtain ⟨quantity, hvalue, hfold⟩ := hqueue (fun other hother =>
        hopen other (List.mem_cons_of_mem _ hother)) hadded
      refine ⟨quantity, by rw [hvalue, add_assoc], ?_⟩
      rw [List.foldlM_cons, hfound]
      change (EngineError.ofNumeric (start.checkedAdd _) >>= _) = _
      rw [hadd]
      exact hfold

theorem Wf.aggregateLevel_eq (hwf : book.Wf) (hlevel : book.level side price = some queue)
    (hsum : book.levelSum queue ≤ i128Max) :
    ∃ quantity : Quantity, quantity.value = book.levelSum queue ∧
      book.aggregateLevel price queue = .ok ⟨price, quantity, queue⟩ := by
  have hopen : ∀ orderId ∈ queue, ∃ order, book.order orderId = some order ∧
      order.status.isOpen = true := by
    intro orderId hmem
    obtain ⟨order, hlookup, hstatus, _⟩ := hwf.owner hlevel hmem
    exact ⟨order, hlookup, hstatus⟩
  obtain ⟨quantity, hvalue, hfold⟩ := @aggregate_queue book queue Quantity.zero hopen
    (by rwa [Quantity.zero_value, zero_add])
  refine ⟨quantity, by rwa [Quantity.zero_value, zero_add] at hvalue, ?_⟩
  unfold aggregateLevel
  rw [hfold]
  rfl

/-- The levels of a side can be viewed when each of them can be added up. -/
theorem mapM_aggregateLevel {levels : List (Price × List OrderId)}
    (h : ∀ level ∈ levels, ∃ quantity : Quantity, quantity.value = book.levelSum level.2 ∧
      book.aggregateLevel level.1 level.2 = .ok ⟨level.1, quantity, level.2⟩) :
    ∃ views : List PriceLevel, levels.mapM (fun level => book.aggregateLevel level.1 level.2) =
        .ok views ∧
      levelNumbers (views.map fun view => (view.price, view.quantity)) =
        levels.map fun level => (level.1.value, book.levelSum level.2) := by
  induction levels with
  | nil => exact ⟨[], rfl, rfl⟩
  | cons level levels ih =>
      obtain ⟨quantity, hvalue, haggregate⟩ := h level List.mem_cons_self
      obtain ⟨views, hviews, hsame⟩ := ih fun other hother =>
        h other (List.mem_cons_of_mem _ hother)
      refine ⟨⟨level.1, quantity, level.2⟩ :: views, ?_, ?_⟩
      · rw [List.mapM_cons, haggregate, hviews]
        rfl
      · rw [List.map_cons, List.map_cons, ← hvalue, ← hsame]
        rfl

end Levels

/-- The view of a side. -/
def sideLevels (book : OrderBook) : OrderSide → Except EngineError (List PriceLevel)
  | .buy => book.bidLevels
  | .sell => book.askLevels

theorem sideLevels_eq (book : OrderBook) (side : OrderSide) : book.sideLevels side =
    (book.levels side).mapM fun level => book.aggregateLevel level.1 level.2 := by
  cases side with
  | buy =>
      rw [sideLevels, bidLevels, levels, List.mapM_map]
      rfl
  | sell => rfl

/-- What is printed of a side. -/
def printedSide (views : List PriceLevel) : List V1.PriceLevel :=
  printedLevels (views.map fun level => (level.price, level.quantity))

theorem Wf.printedSide_accepted {book : OrderBook} (hwf : book.Wf) (hdigits : book.WithinDigits)
    (side : OrderSide) : ∃ views, book.sideLevels side = .ok views ∧
      AcceptedByAll (printedSide views) (side = .buy) := by
  obtain ⟨views, hviews, hsame⟩ := @mapM_aggregateLevel book (book.levels side) (by
    rintro ⟨price, queue⟩ hmem
    have hbound := (hdigits side _ hmem).2
    exact hwf.aggregateLevel_eq (mem_levels.mp hmem) (hbound.le.trans (by decide)))
  refine ⟨views, by rw [sideLevels_eq, hviews], acceptedByAll_iff.mpr ?_⟩
  apply accepted_printedLevels
  · rw [hsame]
    intro level hlevel
    obtain ⟨⟨price, queue⟩, hmem, rfl⟩ := List.mem_map.mp hlevel
    have hbound := hdigits side _ hmem
    exact ⟨hbound.1, hwf.levelSum_positive (mem_levels.mp hmem), hbound.2⟩
  · rw [hsame, List.pairwise_map]
    apply (levels_pairwise book side).imp
    intro first second hbetter
    cases side with
    | buy => simpa [Follows, better, Price.lt_def] using hbetter
    | sell => simpa [Follows, better, Price.lt_def] using hbetter

/-! ## Every real book -/

/--
The three validators accept the same levels, and the projector keeps what it accepts.
They accept both sides of the delta of every book that commands lead to, as long as its
prices and the sums of its levels have at most 38 digits.
-/
theorem printed_book_accepted [UuidV5] [Sha256] [SnapshotCodec] :
    (∀ (levels : List V1.PriceLevel) (descending : Bool),
      let cached := levels.map CachedLevel.ofMessage
      (validBookSide cached descending = true ↔ validSide cached descending = true) ∧
      ((∃ validated, validatedLevels levels descending = .ok validated) ↔
        validSide cached descending = true) ∧
      ∀ validated, validatedLevels levels descending = .ok validated → validated = cached) ∧
    ∀ (marketId : MarketId) (commands : List EngineCommand),
      let book := (processAll commands (new marketId)).1
      book.WithinDigits → (∃ bids, book.bidLevels = .ok bids ∧
        AcceptedByAll (printedSide bids) true) ∧ (∃ asks, book.askLevels = .ok asks ∧
        AcceptedByAll (printedSide asks) false) ∧
      ∀ (decoded : DecodedCommand) (delta : OrderBookDelta),
        orderBookDelta decoded book = .ok delta →
          AcceptedByAll (printedLevels delta.bids) true ∧
            AcceptedByAll (printedLevels delta.asks) false := by
  refine ⟨fun levels descending => ?_, fun marketId commands => ?_⟩
  · intro cached
    have hvalidated : ∀ validated, validatedLevels levels descending = .ok validated ↔
        Accepted descending cached ∧ validated = cached := fun _ => validatedLevels_eq_ok_iff
    refine ⟨by rw [validBookSide_iff, validSide_iff], ?_, fun validated h =>
      ((hvalidated validated).mp h).2⟩
    rw [validSide_iff]
    constructor
    · rintro ⟨validated, h⟩
      exact ((hvalidated validated).mp h).1
    · intro haccepted
      exact ⟨cached, (hvalidated cached).mpr ⟨haccepted, rfl⟩⟩
  · intro book hdigits
    have hwf : book.Wf := (processAll_wf_sequenced marketId commands).1
    obtain ⟨bids, hbids, hbidsAccepted⟩ := hwf.printedSide_accepted hdigits .buy
    obtain ⟨asks, hasks, hasksAccepted⟩ := hwf.printedSide_accepted hdigits .sell
    refine ⟨⟨bids, hbids, hbidsAccepted⟩, ⟨asks, hasks, hasksAccepted⟩, ?_⟩
    intro decoded delta hdelta
    unfold orderBookDelta at hdelta
    change book.bidLevels = .ok bids at hbids
    change book.askLevels = .ok asks at hasks
    obtain ⟨_, _, hdelta⟩ := bind_eq_ok_iff.mp hdelta
    rw [hbids, hasks] at hdelta
    cases hdelta
    exact ⟨hbidsAccepted, hasksAccepted⟩

theorem twoAsks_accepted : let book := (@processAll UuidV5.positional twoAsks (new ⟨1⟩)).1
    book.WithinDigits ∧ ∃ asks, book.askLevels = .ok asks ∧ AcceptedByAll (printedSide asks) false ∧
      printedSide asks = [⟨"11", "3"⟩, ⟨"12", "3"⟩] := by
  intro book
  have hdigits : book.WithinDigits := by decide +kernel
  obtain ⟨_, ⟨asks, hasks, haccepted⟩, _⟩ := (@printed_book_accepted UuidV5.positional ⟨id⟩
    ⟨fun _ => .ok [], fun _ => .error ""⟩).2 ⟨1⟩ twoAsks hdigits
  have hprinted : (book.askLevels.toOption.map printedSide) =
      some [⟨"11", "3"⟩, ⟨"12", "3"⟩] := by decide +kernel
  refine ⟨hdigits, asks, hasks, haccepted, ?_⟩
  rw [hasks] at hprinted
  exact Option.some.inj hprinted

/-- An ask at the lowest price of 39 digits. -/
def askOfManyDigits : List EngineCommand :=
  [placement 1 .sell (.literal 100000000000000000000000000000000000000 (.refl true))
    (.literal 3 (.refl true))]

/-- A price of 39 digits is printed as it is, and no validator accepts it. -/
theorem askOfManyDigits_rejected :
    let book := (@processAll UuidV5.positional askOfManyDigits (new ⟨1⟩)).1
    (∀ side, ∀ level ∈ book.levels side, book.levelSum level.2 < 10 ^ 38) ∧
      ∃ asks, book.askLevels = .ok asks ∧
        validBookSide ((printedSide asks).map CachedLevel.ofMessage) false = false ∧
        validSide ((printedSide asks).map CachedLevel.ofMessage) false = false ∧
        ¬∃ validated, validatedLevels (printedSide asks) false = .ok validated := by
  intro book
  have hsums : (∀ level ∈ book.levels .buy, book.levelSum level.2 < 10 ^ 38) ∧
      ∀ level ∈ book.levels .sell, book.levelSum level.2 < 10 ^ 38 := by decide +kernel
  refine ⟨fun side => ?_, [⟨⟨10 ^ 38, by decide, by decide⟩, ⟨3, by decide, by decide⟩, [⟨1⟩]⟩],
    by decide +kernel, by decide +kernel, by decide +kernel, ?_⟩
  · cases side with
    | buy => exact hsums.1
    | sell => exact hsums.2
  · rintro ⟨validated, h⟩
    have herror : validatedLevels [⟨"100000000000000000000000000000000000000", "3"⟩] false =
        .error ⟨.protocolViolation,
          "order-book price is not a canonical positive exact integer"⟩ := by decide +kernel
    have hprinted : printedSide [⟨⟨10 ^ 38, by decide, by decide⟩, ⟨3, by decide, by decide⟩,
        [⟨1⟩]⟩] = [⟨"100000000000000000000000000000000000000", "3"⟩] := by decide +kernel
    rw [hprinted, herror] at h
    cases h

end OrderBook

end MatchPlane
