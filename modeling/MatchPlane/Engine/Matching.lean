import MatchPlane.Engine.Invariant
import MatchPlane.Library.Greedy
import MatchPlane.Library.Sorting

/-!
# The matching loops

`decidePlaceLimitOrder` walks nested maps in two differently written loops.
Both are the one loop `matchMakers` over the views of the makers in the order
in which the levels yield them, and that loop is greedy allocation of the
taker's quantity.
-/

namespace MatchPlane

open MatchPlane.Library

namespace OrderBook

/-! ## Greedy fills over quantities -/

/-- The makers hit by a taker of quantity `remaining`, and for how much each. -/
def fills : Quantity → List OrderView → List (OrderView × Quantity)
  | _, [] => []
  | remaining, maker :: makers =>
      if remaining.isZero then []
      else (maker, min remaining maker.remainingQuantity) ::
        fills (remaining.sub (min remaining maker.remainingQuantity)
          (min_le_left _ _)) makers

/-- What is left of a taker after its fills. -/
def unfilled : Quantity → List OrderView → Quantity
  | remaining, [] => remaining
  | remaining, maker :: makers =>
      if remaining.isZero then remaining
      else unfilled (remaining.sub (min remaining maker.remainingQuantity)
        (min_le_left _ _)) makers

theorem fills_of_isZero {remaining : Quantity} (h : remaining.isZero = true)
    (makers : List OrderView) : fills remaining makers = [] := by
  cases makers <;> simp [fills, h]

theorem unfilled_of_isZero {remaining : Quantity} (h : remaining.isZero = true)
    (makers : List OrderView) : unfilled remaining makers = remaining := by
  cases makers <;> simp [unfilled, h]

theorem fills_eq_greedy (remaining : Quantity) (makers : List OrderView) :
    (fills remaining makers).map (fun fill => (fill.1, fill.2.value)) =
      Greedy.fills (fun maker : OrderView => maker.remainingQuantity.value)
        remaining.value makers := by
  induction makers generalizing remaining with
  | nil => rfl
  | cons maker makers ih =>
      simp only [fills, Greedy.fills]
      cases hzero : remaining.isZero with
      | true => simp [(Quantity.isZero_iff _).mp hzero]
      | false =>
          have hne : remaining.value ≠ 0 := ((Quantity.isZero_eq_false_iff _).mp hzero).ne'
          simp [hne, ih, Quantity.min_value]

/-- The makers hit are an initial segment of the makers offered. -/
theorem fills_makers_initial (remaining : Quantity) (makers : List OrderView) :
    (fills remaining makers).map Prod.fst <+: makers := by
  have hstart := Greedy.fills_prefix
    (fun maker : OrderView => maker.remainingQuantity.value) remaining.value makers
  rwa [← fills_eq_greedy, List.map_map] at hstart

theorem mem_of_mem_fills {remaining : Quantity} {makers : List OrderView}
    {entry : OrderView × Quantity} (h : entry ∈ fills remaining makers) :
    entry.1 ∈ makers :=
  (fills_makers_initial remaining makers).subset (List.mem_map_of_mem h)

theorem unfilled_value (remaining : Quantity) (makers : List OrderView) :
    (unfilled remaining makers).value = remaining.value -
      ((fills remaining makers).map fun fill => fill.2.value).sum := by
  induction makers generalizing remaining with
  | nil => simp [fills, unfilled]
  | cons maker makers ih =>
      simp only [fills, unfilled]
      cases hzero : remaining.isZero with
      | true => simp
      | false =>
          simp only [Bool.false_eq_true, if_false, ih, Quantity.sub_value, List.map_cons,
            List.sum_cons]
          omega

theorem total_fills (remaining : Quantity) (makers : List OrderView) :
    Greedy.total (Greedy.fills (fun maker : OrderView => maker.remainingQuantity.value)
        remaining.value makers) =
      ((fills remaining makers).map fun fill => fill.2.value).sum := by
  rw [← fills_eq_greedy, Greedy.total, List.map_map]
  rfl

section Positive

variable {remaining : Quantity} {makers : List OrderView}
  (hpositive : ∀ maker ∈ makers, 0 < maker.remainingQuantity.value)

include hpositive

/-- A taker that is not exhausted has taken all of every maker. -/
theorem mem_fills_of_unmet
    (hunmet : ((fills remaining makers).map fun fill => fill.2.value).sum <
      remaining.value) {maker : OrderView} (hmaker : maker ∈ makers) :
    (maker, maker.remainingQuantity) ∈ fills remaining makers := by
  rw [← total_fills] at hunmet
  have hgreedy := Greedy.fills_of_unmet remaining.nonnegative hpositive hunmet
  rw [← fills_eq_greedy] at hgreedy
  have hmem : (maker, maker.remainingQuantity.value) ∈
      (fills remaining makers).map fun fill => (fill.1, fill.2.value) := by
    rw [hgreedy]
    exact List.mem_map_of_mem hmaker
  obtain ⟨⟨other, quantity⟩, hentry, heq⟩ := List.mem_map.mp hmem
  obtain ⟨rfl, hvalue⟩ := Prod.mk.inj heq
  rwa [← Quantity.value_injective hvalue]

/-- A maker is passed over only by a taker that is exhausted. -/
theorem sum_fills_of_not_mem {maker : OrderView} (hmaker : maker ∈ makers)
    (hskipped : maker ∉ (fills remaining makers).map Prod.fst) :
    ((fills remaining makers).map fun fill => fill.2.value).sum = remaining.value := by
  have hle := Greedy.total_fills_le remaining.nonnegative hpositive
  rw [total_fills] at hle
  by_contra hne
  have hmem := mem_fills_of_unmet hpositive (lt_of_le_of_ne hle hne) hmaker
  exact hskipped (List.mem_map_of_mem hmem)

/-- Every maker but the last one hit is filled completely. -/
theorem fills_full_but_last {before : List (OrderView × Quantity)}
    {last : OrderView × Quantity} (h : fills remaining makers = before ++ [last]) :
    ∀ entry ∈ before, entry.2 = entry.1.remainingQuantity := by
  have hgreedy := fills_eq_greedy remaining makers
  rw [h, List.map_append] at hgreedy
  intro entry hentry
  exact Quantity.value_injective (Greedy.fills_full_of_append remaining.nonnegative
    hpositive hgreedy.symm _ (List.mem_map_of_mem hentry))

end Positive

/-! ## One loop for both sides -/

section Loop

variable [UuidV5] (command : EngineCommand) (intent : OrderIntent)

/-- The trade events of a list of fills, numbered after `ordinal`. -/
def tradeEvents : Nat → List (OrderView × Quantity) → List EngineEvent
  | _, [] => []
  | ordinal, (maker, quantity) :: rest =>
      tradeEvent command (ordinal + 1) intent maker maker.intent.price quantity ::
        tradeEvents (ordinal + 1) rest

def matchMakers : List OrderView → Matching → Except EngineError (Matching × Bool)
  | [], matching => .ok (matching, false)
  | maker :: makers, matching =>
      if u32Max < matching.tradeOrdinal + 1 then
        .error (.eventInvariant "trade ordinal overflow")
      else
        let quantity := min matching.takerRemaining maker.remainingQuantity
        let takerRemaining := matching.takerRemaining.sub quantity (min_le_left _ _)
        let matching := ⟨matching.events ++ [tradeEvent command (matching.tradeOrdinal + 1)
          intent maker maker.intent.price quantity], takerRemaining,
          matching.tradeOrdinal + 1⟩
        if takerRemaining.isZero then .ok (matching, true)
        else matchMakers makers matching

theorem matchMakers_append (first second : List OrderView) (matching : Matching) :
    matchMakers command intent (first ++ second) matching =
      matchMakers command intent first matching >>= fun result =>
        if result.2 then .ok result else matchMakers command intent second result.1 := by
  induction first generalizing matching with
  | nil => rfl
  | cons maker makers ih =>
      simp only [List.cons_append, matchMakers]
      split
      · rfl
      · split
        · rfl
        · exact ih _

/-- Closed form of the loop: greedy fills, or an exhausted ordinal. -/
theorem matchMakers_eq (makers : List OrderView) (matching : Matching)
    (hpositive : 0 < matching.takerRemaining.value)
    (hordinal : matching.tradeOrdinal ≤ u32Max) :
    matchMakers command intent makers matching =
      if u32Max < matching.tradeOrdinal +
          (fills matching.takerRemaining makers).length then
        .error (.eventInvariant "trade ordinal overflow")
      else .ok (⟨matching.events ++ tradeEvents command intent matching.tradeOrdinal
          (fills matching.takerRemaining makers),
        unfilled matching.takerRemaining makers,
        matching.tradeOrdinal + (fills matching.takerRemaining makers).length⟩,
        (unfilled matching.takerRemaining makers).isZero) := by
  induction makers generalizing matching with
  | nil =>
      have hzero := (Quantity.isZero_eq_false_iff _).mpr hpositive
      simp [matchMakers, fills, unfilled, tradeEvents, hzero, hordinal]
  | cons maker makers ih =>
      have hzero := (Quantity.isZero_eq_false_iff _).mpr hpositive
      simp only [matchMakers, fills, unfilled, hzero, Bool.false_eq_true, if_false,
        tradeEvents, List.length_cons]
      by_cases hoverflow : u32Max < matching.tradeOrdinal + 1
      · rw [if_pos hoverflow, if_pos (by omega)]
      · rw [if_neg hoverflow]
        cases hleft : (matching.takerRemaining.sub
            (min matching.takerRemaining maker.remainingQuantity)
            (min_le_left _ _)).isZero with
        | true =>
            rw [fills_of_isZero hleft, unfilled_of_isZero hleft, if_pos rfl, if_neg]
            · simp [tradeEvents, hleft]
            · simpa using hoverflow
        | false =>
            rw [if_neg Bool.false_ne_true, ih]
            · simp only [List.append_assoc, List.singleton_append, Nat.add_assoc,
                Nat.add_comm 1]
            · exact (Quantity.isZero_eq_false_iff _).mp hleft
            · exact Nat.le_of_not_lt hoverflow

end Loop

/-! ## The makers that the levels yield -/

/-- The levels of a side, best price first. -/
def levels (book : OrderBook) : OrderSide → List (Price × List OrderId)
  | .buy => book.bids.toList.map fun level => (OrderDual.ofDual level.1, level.2)
  | .sell => book.asks.toList

/-- Strictly better price for a taker that hits this side. -/
def better : OrderSide → Price → Price → Prop
  | .buy, first, second => second < first
  | .sell, first, second => first < second

theorem mem_levels {book : OrderBook} {side : OrderSide} {price : Price}
    {queue : List OrderId} :
    (price, queue) ∈ book.levels side ↔ book.level side price = some queue := by
  cases side with
  | buy =>
      simp only [levels, List.mem_map, Prod.mk.injEq, Prod.exists, level]
      constructor
      · rintro ⟨key, found, hmem, rfl, rfl⟩
        exact OrderedMap.mem_toList.mp hmem
      · intro h
        exact ⟨OrderDual.toDual price, queue, OrderedMap.mem_toList.mpr h, rfl, rfl⟩
  | sell => exact OrderedMap.mem_toList

theorem levels_pairwise (book : OrderBook) (side : OrderSide) :
    (book.levels side).Pairwise fun first second => better side first.1 second.1 := by
  cases side with
  | buy =>
      rw [levels, List.pairwise_map]
      exact (OrderedMap.toList_pairwise book.bids).imp fun h => h
  | sell => exact OrderedMap.toList_pairwise book.asks

/-- The views of the orders in a queue. -/
def queueViews (book : OrderBook) (queue : List OrderId) : List OrderView :=
  queue.filterMap book.order

/-- The makers a taker can hit, in the order in which the levels yield them. -/
def makersFor (book : OrderBook) (intent : OrderIntent) : List OrderView :=
  ((book.levels intent.side.opposite).filter fun level =>
    intent.crosses level.1).flatMap fun level => book.queueViews level.2

section Flatten

variable [UuidV5] {book : OrderBook} {command : EngineCommand} {intent : OrderIntent}

theorem matchQueue_eq {price : Price} {queue : List OrderId}
    (hqueue : ∀ orderId ∈ queue, ∃ order, book.order orderId = some order ∧
      order.status.isOpen = true ∧ order.intent.price = price) (matching : Matching) :
    matchQueue book command intent price queue matching =
      matchMakers command intent (book.queueViews queue) matching := by
  induction queue generalizing matching with
  | nil => rfl
  | cons orderId queue ih =>
      obtain ⟨order, hlookup, hopen, rfl⟩ := hqueue orderId List.mem_cons_self
      have hopenOrder := openOrder_eq_ok_iff.mpr ⟨hlookup, hopen⟩
      have htail := fun matching => ih (fun other hother =>
        hqueue other (List.mem_cons_of_mem _ hother)) matching
      simp only [matchQueue, queueViews, List.filterMap_cons, hlookup, matchMakers,
        hopenOrder, bind, Except.bind, Quantity.checkedSub_of_le (min_le_left _ _),
        EngineError.ofNumeric_ok, htail]
      rfl

theorem matchAsks_eq {levels : List (Price × List OrderId)}
    (hlevels : ∀ level ∈ levels, ∀ orderId ∈ level.2, ∃ order,
      book.order orderId = some order ∧ order.status.isOpen = true ∧
        order.intent.price = level.1) (matching : Matching) :
    matchAsks book command intent levels matching =
      Prod.fst <$> matchMakers command intent
        (levels.flatMap fun level => book.queueViews level.2) matching := by
  induction levels generalizing matching with
  | nil => rfl
  | cons level levels ih =>
      have htail := fun matching => ih (fun other hother =>
        hlevels other (List.mem_cons_of_mem _ hother)) matching
      rw [List.flatMap_cons, matchMakers_append]
      simp only [matchAsks, matchQueue_eq (hlevels level List.mem_cons_self)]
      cases matchMakers command intent (book.queueViews level.2) matching with
      | error error => rfl
      | ok result =>
          obtain ⟨after, exhausted⟩ := result
          cases exhausted with
          | true => rfl
          | false => exact htail after

theorem matchBids_eq {levels : List (Priceᵒᵈ × List OrderId)}
    (hlevels : ∀ level ∈ levels, ∀ orderId ∈ level.2, ∃ order,
      book.order orderId = some order ∧ order.status.isOpen = true ∧
        order.intent.price = OrderDual.ofDual level.1) (matching : Matching) :
    matchBids book command intent levels matching =
      Prod.fst <$> matchMakers command intent
        ((levels.takeWhile fun level =>
          intent.price ≤ OrderDual.ofDual level.1).flatMap fun level =>
            book.queueViews level.2) matching := by
  induction levels generalizing matching with
  | nil => rfl
  | cons level levels ih =>
      have htail := fun matching => ih (fun other hother =>
        hlevels other (List.mem_cons_of_mem _ hother)) matching
      by_cases hbelow : OrderDual.ofDual level.1 < intent.price
      · simp [matchBids, hbelow, matchMakers]
      · have habove : intent.price ≤ OrderDual.ofDual level.1 := not_lt.mp hbelow
        rw [List.takeWhile_cons_of_pos (by simpa using habove), List.flatMap_cons,
          matchMakers_append]
        simp only [matchBids, if_neg hbelow,
          matchQueue_eq (hlevels level List.mem_cons_self)]
        cases matchMakers command intent (book.queueViews level.2) matching with
        | error error => rfl
        | ok result =>
            obtain ⟨after, exhausted⟩ := result
            cases exhausted with
            | true => rfl
            | false => exact htail after

/-- Both sides run the one loop over `makersFor`. -/
theorem matchSide_eq (hwf : book.Wf) (matching : Matching) :
    matchSide book command intent matching =
      Prod.fst <$> matchMakers command intent (book.makersFor intent) matching := by
  have howner : ∀ side, ∀ level ∈ book.levels side, ∀ orderId ∈ level.2, ∃ order,
      book.order orderId = some order ∧ order.status.isOpen = true ∧
        order.intent.price = level.1 := by
    rintro side ⟨price, queue⟩ hlevel orderId hmem
    obtain ⟨order, hlookup, hopen, _, hprice⟩ := hwf.owner (mem_levels.mp hlevel) hmem
    exact ⟨order, hlookup, hopen, hprice⟩
  unfold matchSide makersFor
  cases hside : intent.side with
  | buy =>
      have hcross : ∀ price, intent.crosses price = decide (price ≤ intent.price) := by
        intro price
        simp [OrderIntent.crosses, hside]
      simp only [OrderSide.opposite, hcross, levels]
      exact matchAsks_eq (fun level hlevel =>
        howner .sell level (List.mem_filter.mp hlevel).1) matching
  | sell =>
      have hcross : ∀ price, intent.crosses price = decide (intent.price ≤ price) := by
        intro price
        simp [OrderIntent.crosses, hside]
      simp only [OrderSide.opposite, hcross, levels, List.filter_map, List.flatMap_map]
      rw [matchBids_eq, Sorting.takeWhile_eq_filter]
      · rfl
      · refine (OrderedMap.toList_pairwise book.bids).imp fun {first second} h => ?_
        simp only [decide_eq_true_eq]
        intro hsecond
        exact hsecond.trans (le_of_lt h)
      · intro level hlevel
        exact howner .buy _ (List.mem_map_of_mem hlevel)

end Flatten

end OrderBook

end MatchPlane
