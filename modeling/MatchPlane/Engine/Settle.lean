import MatchPlane.Engine.Sequenced

/-!
# Decided events always apply

`process` decides against the book as it was and then applies event by event to
a book that changes under it.  Each trade that matching decided still passes
every check of `applyTrade` after the trades before it, so a decision is applied
completely unless one of its event identifiers was used before.
-/

namespace MatchPlane

open MatchPlane.Library

namespace OrderBook

/-- A taker in the book, and distinct open makers that it can hit. -/
structure Crossing (book : OrderBook) (taker : OrderView) (makers : List OrderView) :
    Prop where
  taker_lookup : book.order taker.intent.orderId = some taker
  taker_open : taker.status.isOpen = true
  ids_nodup : (makers.map fun maker => maker.intent.orderId).Nodup
  lookup : ∀ maker ∈ makers, book.order maker.intent.orderId = some maker
  status : ∀ maker ∈ makers, maker.status.isOpen = true
  opposite : ∀ maker ∈ makers, maker.intent.side = taker.intent.side.opposite
  crosses : ∀ maker ∈ makers, taker.intent.crosses maker.intent.price = true
  priority : ∀ maker ∈ makers, maker.acceptedSequence < taker.acceptedSequence

theorem Crossing.id_ne {book : OrderBook} {taker : OrderView} {makers : List OrderView}
    (h : Crossing book taker makers) {maker : OrderView} (hmaker : maker ∈ makers) :
    maker.intent.orderId ≠ taker.intent.orderId := by
  intro hid
  have hlookup := h.lookup maker hmaker
  rw [hid, h.taker_lookup] at hlookup
  cases hlookup
  exact lt_irrefl _ (h.priority _ hmaker)

/-- What the trades of a taker leave in the order map. -/
structure Settled (book book' : OrderBook) (taker : OrderView)
    (makers : List OrderView) : Prop where
  taker_view : ∃ view, book'.order taker.intent.orderId = some view ∧
    view.intent = taker.intent ∧ view.acceptedSequence = taker.acceptedSequence ∧
    view.remainingQuantity = unfilled taker.remainingQuantity makers ∧
    view.status.isOpen = !(unfilled taker.remainingQuantity makers).isZero
  maker_view : ∀ maker quantity, (maker, quantity) ∈ fills taker.remainingQuantity makers →
    ∃ h, book'.order maker.intent.orderId = some (maker.filled quantity h)
  other : ∀ orderId, orderId ≠ taker.intent.orderId →
    (∀ entry ∈ fills taker.remainingQuantity makers,
      entry.1.intent.orderId ≠ orderId) →
        book'.order orderId = book.order orderId

theorem Settled.of_isZero {book : OrderBook} {taker : OrderView}
    (hlookup : book.order taker.intent.orderId = some taker)
    (hstatus : taker.status.isOpen = !taker.remainingQuantity.isZero)
    {makers : List OrderView} (hfills : fills taker.remainingQuantity makers = [])
    (hunfilled : unfilled taker.remainingQuantity makers = taker.remainingQuantity) :
    Settled book book taker makers where
  taker_view := ⟨taker, hlookup, rfl, rfl, hunfilled.symm, by rw [hunfilled, hstatus]⟩
  maker_view := by
    intro maker quantity h
    rw [hfills] at h
    cases h
  other := fun _ _ _ => rfl

/-- What is left to match after one trade. -/
theorem Crossing.tail {book : OrderBook} {taker maker : OrderView}
    {makers : List OrderView} (h : Crossing book taker (maker :: makers))
    {quantity : Quantity} (hmaker : quantity ≤ maker.remainingQuantity)
    (htaker : quantity ≤ taker.remainingQuantity)
    (hopen : (taker.filled quantity htaker).status.isOpen = true)
    (e : EngineEvent) :
    Crossing (((book.update (maker.filled quantity hmaker)).update
      (taker.filled quantity htaker)).record e) (taker.filled quantity htaker) makers := by
  obtain ⟨hfirst, hnodup⟩ := List.nodup_cons.mp h.ids_nodup
  constructor
  case taker_lookup => rw [record_order, update_order, if_pos rfl]
  case taker_open => exact hopen
  case ids_nodup => exact hnodup
  case lookup =>
    intro other hother
    have hmem := List.mem_cons_of_mem maker hother
    have hne : other.intent.orderId ≠ maker.intent.orderId := by
      intro heq
      exact hfirst (List.mem_map.mpr ⟨other, hother, heq⟩)
    rw [record_order, update_order, OrderView.filled_intent, if_neg (h.id_ne hmem),
      update_order, OrderView.filled_intent, if_neg hne]
    exact h.lookup other hmem
  case status => exact fun other hother => h.status other (List.mem_cons_of_mem _ hother)
  case opposite =>
    exact fun other hother => h.opposite other (List.mem_cons_of_mem _ hother)
  case crosses =>
    exact fun other hother => h.crosses other (List.mem_cons_of_mem _ hother)
  case priority =>
    exact fun other hother => h.priority other (List.mem_cons_of_mem _ hother)

/-- One trade followed by settled trades is settled. -/
theorem Settled.cons {book book' : OrderBook} {taker maker : OrderView}
    {makers : List OrderView} (h : Crossing book taker (maker :: makers))
    (hpositive : taker.remainingQuantity.isZero = false)
    {e : EngineEvent} {quantity : Quantity}
    (hquantity : quantity = min taker.remainingQuantity maker.remainingQuantity)
    (hmaker : quantity ≤ maker.remainingQuantity)
    (htaker : quantity ≤ taker.remainingQuantity)
    (hrest : Settled (((book.update (maker.filled quantity hmaker)).update
      (taker.filled quantity htaker)).record e) book' (taker.filled quantity htaker)
        makers) :
    Settled book book' taker (maker :: makers) := by
  subst hquantity
  have hfills : fills taker.remainingQuantity (maker :: makers) =
      (maker, min taker.remainingQuantity maker.remainingQuantity) ::
        fills (taker.filled _ htaker).remainingQuantity makers := by
    simp only [fills, hpositive, Bool.false_eq_true, if_false, OrderView.filled]
  have hunfilled : unfilled taker.remainingQuantity (maker :: makers) =
      unfilled (taker.filled _ htaker).remainingQuantity makers := by
    simp only [unfilled, hpositive, Bool.false_eq_true, if_false, OrderView.filled]
  obtain ⟨hfirst, _⟩ := List.nodup_cons.mp h.ids_nodup
  have hstart : ∀ entry ∈ fills (taker.filled _ htaker).remainingQuantity makers,
      entry.1 ∈ makers := fun entry hentry => mem_of_mem_fills hentry
  constructor
  case taker_view =>
    rw [hunfilled]
    exact hrest.taker_view
  case maker_view =>
    intro other amount hmem
    rw [hfills] at hmem
    obtain heq | hmem := List.mem_cons.mp hmem
    · -- No later trade touches the maker of the first one.
      cases heq
      refine ⟨hmaker, ?_⟩
      have hne := h.id_ne List.mem_cons_self
      rw [hrest.other, record_order, update_order, OrderView.filled_intent, if_neg hne,
        update_order, OrderView.filled_intent, if_pos rfl]
      · exact hne
      · intro entry hentry heq
        exact hfirst (List.mem_map.mpr ⟨entry.1, hstart entry hentry, heq⟩)
    · exact hrest.maker_view other amount hmem
  case other =>
    intro orderId hne hothers
    rw [hfills] at hothers
    have hmakerNe := hothers _ List.mem_cons_self
    rw [hrest.other orderId hne fun entry hentry =>
        hothers entry (List.mem_cons_of_mem _ hentry),
      record_order, update_order, OrderView.filled_intent, if_neg hne, update_order,
      OrderView.filled_intent, if_neg (Ne.symm hmakerNe)]

/-- The taker as it enters the book, with the makers that it crosses there. -/
theorem crossing_of_valid {book : OrderBook} (hwf : book.Wf) (hsequenced : book.Sequenced)
    {command : EngineCommand} (hadmissible : Admissible book command)
    {intent : OrderIntent} (hnew : book.order intent.orderId = none) (e : EngineEvent) :
    Crossing ((book.addOrder ⟨intent, intent.quantity, .open, command.shardSequence⟩).record e)
      ⟨intent, intent.quantity, .open, command.shardSequence⟩
      (book.makersFor intent) := by
  constructor
  case taker_lookup => rw [record_order, addOrder_order, if_pos rfl]
  case taker_open => rfl
  case ids_nodup => exact makersFor_ids_nodup hwf intent
  case lookup =>
    intro maker hmaker
    obtain ⟨hlookup, _⟩ := (mem_makersFor hwf).mp hmaker
    rw [record_order, addOrder_order, if_neg, hlookup]
    intro heq
    rw [heq, hnew] at hlookup
    cases hlookup
  case status => exact fun maker hmaker => ((mem_makersFor hwf).mp hmaker).2.1
  case opposite => exact fun maker hmaker => ((mem_makersFor hwf).mp hmaker).2.2.1
  case crosses => exact fun maker hmaker => ((mem_makersFor hwf).mp hmaker).2.2.2
  case priority =>
    intro maker hmaker
    have hbounded := hsequenced.bounded ((mem_makersFor hwf).mp hmaker).1
    have hnext := hadmissible.next
    change _ < command.shardSequence
    omega

section Trades

variable [UuidV5]

/-- The identifiers from an ordinal on are unused. -/
def Fresh (command : EngineCommand) (ordinal : Nat) (book : OrderBook) : Prop :=
  ∀ later, ordinal ≤ later → later ≤ u32Max →
    EventId.derive command.commandId "matching-event" later ∉ book.appliedEvents

theorem Fresh.record {command : EngineCommand} {ordinal : Nat} {book middle : OrderBook}
    (h : Fresh command ordinal book)
    (hdistinct : EventIdsDistinct {command.commandId})
    (hordinal : ordinal ≤ u32Max) (hmiddle : middle.appliedEvents = book.appliedEvents)
    (payload : MatchingEvent) :
    Fresh command (ordinal + 1) (middle.record (event command ordinal payload)) := by
  intro later hlater hbound hmem
  change _ ∈ insert _ middle.appliedEvents at hmem
  rw [hmiddle] at hmem
  obtain heq | hmem := Finset.mem_insert.mp hmem
  · obtain ⟨_, hsame⟩ := hdistinct _ rfl _ rfl later hbound ordinal hordinal heq
    omega
  · exact h later (by omega) hbound hmem

/-- The next trade of a taker passes all checks. -/
theorem Crossing.applied {book : OrderBook} (hwf : book.Wf) {taker maker : OrderView}
    {makers : List OrderView} (h : Crossing book taker (maker :: makers))
    (command : EngineCommand) (ordinal : Nat) {quantity : Quantity}
    (hpositive : 0 < quantity.value) (hmaker : quantity ≤ maker.remainingQuantity)
    (htaker : quantity ≤ taker.remainingQuantity) :
    Applied book
      (tradeEvent command ordinal taker.intent maker maker.intent.price quantity).payload
      ((book.update (maker.filled quantity hmaker)).update
        (taker.filled quantity htaker)) := by
  have hmem : maker ∈ maker :: makers := List.mem_cons_self
  have hside := h.opposite maker hmem
  obtain ⟨htenant, hdomain⟩ := hwf.scope (h.lookup maker hmem) h.taker_lookup
  have hmarket := hwf.market h.taker_lookup
  exact .traded {
    market := hmarket
    distinct := h.id_ne hmem
    positive := hpositive
    maker_lookup := h.lookup maker hmem
    maker_open := h.status maker hmem
    taker_lookup := h.taker_lookup
    taker_open := h.taker_open
    maker_scope := ⟨htenant, hdomain, (hwf.market (h.lookup maker hmem)).trans hmarket.symm⟩
    taker_scope := ⟨rfl, rfl, rfl⟩
    opposite := OrderSide.ne_iff_eq_opposite.mpr hside
    priority := h.priority maker hmem
    buy_sell := by
      rw [hside]
      cases taker.intent.side <;> rfl
    price := rfl
    crosses := h.crosses maker hmem
    maker_quantity := hmaker
    taker_quantity := htaker }

/-- All trades of a taker apply one after the other. -/
theorem trades_settle {book : OrderBook} (hwf : book.Wf) {command : EngineCommand}
    (hdistinct : EventIdsDistinct {command.commandId}) {taker : OrderView}
    {makers : List OrderView} (h : Crossing book taker makers) {ordinal : Nat}
    (hordinal : ordinal + (fills taker.remainingQuantity makers).length ≤ u32Max)
    (hfresh : Fresh command (ordinal + 1) book) :
    ∃ book', AppliedAll book (tradeEvents command taker.intent ordinal
        (fills taker.remainingQuantity makers)) book' ∧
      Settled book book' taker makers := by
  induction makers generalizing book taker ordinal with
  | nil =>
      have hpositive := hwf.open_positive h.taker_lookup h.taker_open
      refine ⟨book, .nil book, .of_isZero h.taker_lookup ?_ rfl rfl⟩
      rw [h.taker_open, (Quantity.isZero_eq_false_iff _).mpr hpositive]
      rfl
  | cons maker makers ih =>
      have hmem : maker ∈ maker :: makers := List.mem_cons_self
      have htakerPositive := hwf.open_positive h.taker_lookup h.taker_open
      have hzero := (Quantity.isZero_eq_false_iff _).mpr htakerPositive
      have hmakerPositive := hwf.open_positive (h.lookup maker hmem) (h.status maker hmem)
      have hmaker : min taker.remainingQuantity maker.remainingQuantity ≤
          maker.remainingQuantity := min_le_right _ _
      have htaker : min taker.remainingQuantity maker.remainingQuantity ≤
          taker.remainingQuantity := min_le_left _ _
      have hpositive :
          0 < (min taker.remainingQuantity maker.remainingQuantity).value := by
        rw [Quantity.min_value]
        exact lt_min htakerPositive hmakerPositive
      have hfills : fills taker.remainingQuantity (maker :: makers) =
          (maker, min taker.remainingQuantity maker.remainingQuantity) ::
            fills (taker.filled _ htaker).remainingQuantity makers := by
        simp only [fills, hzero, Bool.false_eq_true, if_false, OrderView.filled]
      rw [hfills, List.length_cons] at hordinal
      have happlied := h.applied hwf command (ordinal + 1) hpositive hmaker htaker
      have hnew := hfresh (ordinal + 1) (le_refl _) (by omega)
      have hnextFresh := hfresh.record hdistinct (by omega) (happlied.appliedEvents_eq)
        (tradeEvent command (ordinal + 1) taker.intent maker maker.intent.price
          (min taker.remainingQuantity maker.remainingQuantity)).payload
      have hnextWf := (happlied.wf hwf).record
        (tradeEvent command (ordinal + 1) taker.intent maker maker.intent.price
          (min taker.remainingQuantity maker.remainingQuantity))
      rw [hfills]
      cases hopen : (taker.filled _ htaker).status.isOpen with
      | true =>
          obtain ⟨book', hall, hsettled⟩ := ih hnextWf
            (h.tail hmaker htaker hopen _) (by omega) hnextFresh
          exact ⟨book', .cons hnew happlied hall,
            .cons h hzero rfl hmaker htaker hsettled⟩
      | false =>
          have hdone : (taker.filled _ htaker).remainingQuantity.isZero = true := by
            rw [taker.filled_isOpen] at hopen
            simpa using hopen
          have hnil := fills_of_isZero hdone makers
          rw [hnil]
          refine ⟨_, .cons hnew happlied (.nil _),
            .cons h hzero rfl hmaker htaker (.of_isZero ?_ ?_ hnil
              (unfilled_of_isZero hdone makers))⟩
          · rw [record_order, update_order, if_pos rfl]
          · rw [hopen, hdone]
            rfl

/-! ## Whole decisions -/

/-- An accepted placement applies completely and settles against its makers. -/
theorem placement_settles {book : OrderBook} (hwf : book.Wf)
    (hsequenced : book.Sequenced) {command : EngineCommand}
    (hdistinct : EventIdsDistinct {command.commandId}) (hfresh : Fresh command 0 book)
    (hadmissible : Admissible book command) {intent : OrderIntent}
    (hvalid : book.validateIntent command intent = .ok ())
    (hordinal : (book.fillsFor intent).length ≤ u32Max) :
    ∃ book', AppliedAll book (book.placementEvents command intent) book' ∧
      Settled ((book.addOrder ⟨intent, intent.quantity, .open, command.shardSequence⟩).record
          (event command 0 (.orderAccepted intent command.shardSequence))) book'
        ⟨intent, intent.quantity, .open, command.shardSequence⟩
        (book.makersFor intent) := by
  obtain ⟨hscope, hnew, hpositive, _⟩ := validateIntent_eq_ok_iff.mp hvalid
  have happlied : Applied book (.orderAccepted intent command.shardSequence) _ :=
    .accepted hscope hnew hpositive
  have hcrossing := crossing_of_valid hwf hsequenced hadmissible hnew
    (event command 0 (.orderAccepted intent command.shardSequence))
  have hnextFresh := hfresh.record hdistinct (Nat.zero_le _) happlied.appliedEvents_eq
    (.orderAccepted intent command.shardSequence)
  obtain ⟨book', hall, hsettled⟩ := trades_settle ((happlied.wf hwf).record _) hdistinct
    hcrossing (by simpa [fillsFor] using hordinal) hnextFresh
  exact ⟨book', .cons (hfresh 0 (le_refl _) (Nat.zero_le _)) happlied hall, hsettled⟩

theorem Decided.appliedAll {book : OrderBook} (hwf : book.Wf)
    (hsequenced : book.Sequenced) {command : EngineCommand}
    (hdistinct : EventIdsDistinct {command.commandId}) (hfresh : Fresh command 0 book)
    (hadmissible : Admissible book command) {events : List EngineEvent}
    (h : Decided book command events) : ∃ book', AppliedAll book events book' := by
  have hnew := hfresh 0 (le_refl _) (Nat.zero_le _)
  cases h with
  | placed _ hvalid hordinal =>
      obtain ⟨book', hall, _⟩ :=
        placement_settles hwf hsequenced hdistinct hfresh hadmissible hvalid hordinal
      exact ⟨book', hall⟩
  | cancelled _ hlookup hopen =>
      exact ⟨_, .cons hnew (.cancelled hlookup hopen) (.nil _)⟩
  | expired _ hlookup hopen _ =>
      exact ⟨_, .cons hnew (.expired hlookup hopen) (.nil _)⟩

end Trades

end OrderBook

end MatchPlane
