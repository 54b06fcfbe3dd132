import MatchPlane.Engine.Runs
import MatchPlane.Engine.Settle

/-!
# Live books

A book that only ever processed commands, with event identifiers that do not
collide, satisfies `Live`.  On such a book `process` is atomic: it refuses and
changes nothing, or it applies everything it decided.
-/

namespace MatchPlane

open MatchPlane.Library

namespace OrderBook

/-- Every resting bid is strictly below every resting ask. -/
def Uncrossed (book : OrderBook) : Prop :=
  ∀ (bidId askId : OrderId) (bid ask : OrderView),
    book.order bidId = some bid → book.order askId = some ask →
      bid.status.isOpen = true → ask.status.isOpen = true →
        bid.intent.side = .buy → ask.intent.side = .sell →
          bid.intent.price < ask.intent.price

theorem new_uncrossed (marketId : MarketId) : (new marketId).Uncrossed := by
  intro bidId askId bid ask h
  simp [new, OrderBook.order] at h

/-- Orders that stay open keep their sides and prices, so nothing new crosses. -/
theorem Uncrossed.of_subset {book book' : OrderBook} (h : book.Uncrossed)
    (hsub : ∀ {orderId found}, book'.order orderId = some found →
      found.status.isOpen = true → ∃ old, book.order orderId = some old ∧
        old.status.isOpen = true ∧ old.intent = found.intent) :
    book'.Uncrossed := by
  intro bidId askId bid ask hbid hask hbidOpen haskOpen hbidSide haskSide
  obtain ⟨oldBid, holdBid, holdBidOpen, hbidEq⟩ := hsub hbid hbidOpen
  obtain ⟨oldAsk, holdAsk, holdAskOpen, haskEq⟩ := hsub hask haskOpen
  rw [← hbidEq] at hbidSide ⊢
  rw [← haskEq] at haskSide ⊢
  exact h _ _ _ _ holdBid holdAsk holdBidOpen holdAskOpen hbidSide haskSide

theorem Uncrossed.closed {book : OrderBook} (h : book.Uncrossed) (order : OrderView)
    {status : OrderStatus} (hstatus : status.isOpen = false) :
    (book.update (order.closed status)).Uncrossed := by
  refine h.of_subset ?_
  intro otherId found hfound hopen
  obtain ⟨_, rfl⟩ | ⟨_, hold⟩ := lookup_cases (book.update_order _) hfound
  · change status.isOpen = true at hopen
    rw [hstatus] at hopen
    cases hopen
  · exact ⟨found, hold, hopen, rfl⟩

theorem Uncrossed.record {book : OrderBook} (h : book.Uncrossed) (event : EngineEvent) :
    (book.record event).Uncrossed :=
  fun bidId askId => h bidId askId

/-! ## After a placement -/

section Placement

variable {book book' : OrderBook} {intent : OrderIntent} {sequence : Nat}
  {e : EngineEvent} (hwf : book.Wf)
  (hsettled : Settled ((book.addOrder ⟨intent, intent.quantity, .open, sequence⟩).record e)
    book' ⟨intent, intent.quantity, .open, sequence⟩ (book.makersFor intent))

include hwf hsettled

/-- An order other than the taker that is open after a placement was open before. -/
theorem Settled.open_before {orderId : OrderId} (hne : orderId ≠ intent.orderId)
    {found : OrderView} (hfound : book'.order orderId = some found)
    (hopen : found.status.isOpen = true) :
    ∃ old, book.order orderId = some old ∧ old.status.isOpen = true ∧
      old.intent = found.intent := by
  by_cases hhit : ∃ entry ∈ fills intent.quantity (book.makersFor intent),
      entry.1.intent.orderId = orderId
  · obtain ⟨⟨maker, quantity⟩, hentry, rfl⟩ := hhit
    obtain ⟨hle, hview⟩ := hsettled.maker_view maker quantity hentry
    rw [hfound] at hview
    cases hview
    obtain ⟨hlookup, hmakerOpen, _⟩ := (mem_makersFor hwf).mp (mem_of_mem_fills hentry)
    exact ⟨maker, hlookup, hmakerOpen, rfl⟩
  · push Not at hhit
    have hsame := hsettled.other orderId hne hhit
    rw [record_order, addOrder_order, if_neg hne] at hsame
    rw [hfound] at hsame
    exact ⟨found, hsame.symm, hopen, rfl⟩

/-- A taker that stays open has drained every maker that it crosses. -/
theorem Settled.drained {taker : OrderView} (htaker : book'.order intent.orderId = some taker)
    (htakerOpen : taker.status.isOpen = true) {maker : OrderView}
    (hmaker : maker ∈ book.makersFor intent) :
    ∃ view, book'.order maker.intent.orderId = some view ∧
      view.status.isOpen = false := by
  obtain ⟨view, hview, _, _, _, hopen⟩ := hsettled.taker_view
  rw [htaker] at hview
  cases hview
  rw [htakerOpen] at hopen
  have hpositive : 0 < (unfilled intent.quantity (book.makersFor intent)).value :=
    (Quantity.isZero_eq_false_iff _).mp (by simpa using hopen.symm)
  rw [unfilled_value] at hpositive
  have hmem : (maker, maker.remainingQuantity) ∈
      fills intent.quantity (book.makersFor intent) :=
    mem_fills_of_unmet (fun other hother =>
      have hopen := (mem_makersFor hwf).mp hother
      hwf.open_positive hopen.1 hopen.2.1) (by omega) hmaker
  obtain ⟨hle, hview⟩ := hsettled.maker_view maker _ hmem
  refine ⟨_, hview, ?_⟩
  rw [maker.filled_isOpen, Bool.not_eq_false', Quantity.isZero_iff,
    maker.filled_remaining_value, Int.sub_self]

theorem Settled.uncrossed (h : book.Uncrossed) : book'.Uncrossed := by
  -- An open order of the other side does not meet the limit of a taker that stays open.
  have hlimit : ∀ {otherId taker other}, book'.order intent.orderId = some taker →
      taker.status.isOpen = true → book'.order otherId = some other →
      other.status.isOpen = true → other.intent.side = intent.side.opposite →
        intent.crosses other.intent.price = false := by
    intro otherId taker other htaker htakerOpen hother hotherOpen hside
    have hne : otherId ≠ intent.orderId := by
      rintro rfl
      obtain ⟨view, hview, hintent, _⟩ := hsettled.taker_view
      rw [hother] at hview
      cases hview
      rw [hintent] at hside
      exact OrderSide.ne_iff_eq_opposite.mpr hside rfl
    obtain ⟨old, hold, holdOpen, hintent⟩ :=
      hsettled.open_before hwf hne hother hotherOpen
    by_contra hcrosses
    rw [Bool.not_eq_false] at hcrosses
    rw [← hintent] at hside hcrosses
    have hid := hwf.order_id hold
    subst hid
    have hmaker := (mem_makersFor hwf).mpr ⟨hold, holdOpen, hside, hcrosses⟩
    obtain ⟨view, hview, hclosed⟩ := hsettled.drained hwf htaker htakerOpen hmaker
    rw [hother] at hview
    cases hview
    rw [hotherOpen] at hclosed
    cases hclosed
  have htakerIntent : ∀ {taker}, book'.order intent.orderId = some taker →
      taker.intent = intent := by
    intro taker htaker
    obtain ⟨view, hview, hintent, _⟩ := hsettled.taker_view
    rw [htaker] at hview
    cases hview
    exact hintent
  intro bidId askId bid ask hbid hask hbidOpen haskOpen hbidSide haskSide
  by_cases hbidTaker : bidId = intent.orderId
  · subst hbidTaker
    have hintent := htakerIntent hbid
    rw [hintent] at hbidSide ⊢
    have hcrosses := hlimit hbid hbidOpen hask haskOpen (by rw [haskSide, hbidSide]; rfl)
    simpa [OrderIntent.crosses, hbidSide] using hcrosses
  · by_cases haskTaker : askId = intent.orderId
    · subst haskTaker
      have hintent := htakerIntent hask
      rw [hintent] at haskSide ⊢
      have hcrosses := hlimit hask haskOpen hbid hbidOpen (by rw [haskSide, hbidSide]; rfl)
      simpa [OrderIntent.crosses, haskSide] using hcrosses
    · obtain ⟨oldBid, holdBid, holdBidOpen, hbidEq⟩ :=
        hsettled.open_before hwf hbidTaker hbid hbidOpen
      obtain ⟨oldAsk, holdAsk, holdAskOpen, haskEq⟩ :=
        hsettled.open_before hwf haskTaker hask haskOpen
      rw [← hbidEq] at hbidSide ⊢
      rw [← haskEq] at haskSide ⊢
      exact h _ _ _ _ holdBid holdAsk holdBidOpen holdAskOpen hbidSide haskSide

end Placement

/-! ## One command -/

section Process

variable [UuidV5]

/-- What holds of a book that processed commands with these identifiers only. -/
structure Live (commandIds : Set EventId) (book : OrderBook) : Prop where
  wf : book.Wf
  sequenced : book.Sequenced
  uncrossed : book.Uncrossed
  derived : ∀ eventId ∈ book.appliedEvents, ∃ commandId ∈ commandIds,
    commandId ∈ book.processedCommands ∧
      ∃ ordinal ≤ u32Max, eventId = EventId.derive commandId "matching-event" ordinal

theorem new_live (commandIds : Set EventId) (marketId : MarketId) :
    Live commandIds (new marketId) where
  wf := new_wf marketId
  sequenced := new_sequenced marketId
  uncrossed := new_uncrossed marketId
  derived := by
    intro eventId h
    cases h

theorem Live.fresh {commandIds : Set EventId} {book : OrderBook} (h : Live commandIds book)
    (hdistinct : EventIdsDistinct commandIds) {command : EngineCommand}
    (hcommand : command.commandId ∈ commandIds)
    (hunseen : command.commandId ∉ book.processedCommands) : Fresh command 0 book := by
  intro ordinal _ hordinal hmem
  obtain ⟨other, hother, hprocessed, ordinal', hordinal', heq⟩ := h.derived _ hmem
  obtain ⟨hsame, _⟩ :=
    hdistinct _ hcommand _ hother ordinal hordinal ordinal' hordinal' heq
  rw [hsame] at hunseen
  exact hunseen hprocessed

theorem Decided.uncrossed {book book' : OrderBook} (hwf : book.Wf)
    (hsequenced : book.Sequenced) (h : book.Uncrossed) {command : EngineCommand}
    (hdistinct : EventIdsDistinct {command.commandId}) (hfresh : Fresh command 0 book)
    (hadmissible : Admissible book command) {events : List EngineEvent}
    (hdecided : Decided book command events) (hall : AppliedAll book events book') :
    book'.Uncrossed := by
  cases hdecided with
  | placed _ hvalid hordinal =>
      obtain ⟨settled, hsettledAll, hsettled⟩ :=
        placement_settles hwf hsequenced hdistinct hfresh hadmissible hvalid hordinal
      cases hall.unique hsettledAll
      exact hsettled.uncrossed hwf h
  | cancelled _ hlookup hopen =>
      have hclosed : AppliedAll book [event command 0 (.orderCancelled _ _)] _ :=
        .cons (hfresh 0 (le_refl _) (Nat.zero_le _)) (.cancelled hlookup hopen) (.nil _)
      cases hall.unique hclosed
      have hstatus : OrderStatus.cancelled.isOpen = false := rfl
      exact (h.closed _ hstatus).record _
  | expired _ hlookup hopen _ =>
      have hclosed : AppliedAll book [event command 0 (.orderExpired _ _)] _ :=
        .cons (hfresh 0 (le_refl _) (Nat.zero_le _)) (.expired hlookup hopen) (.nil _)
      cases hall.unique hclosed
      have hstatus : OrderStatus.expired.isOpen = false := rfl
      exact (h.closed _ hstatus).record _

/-- The bookkeeping of a decision that was applied completely. -/
theorem Decided.recorded {book book' : OrderBook} {command : EngineCommand}
    (hadmissible : Admissible book command) {events : List EngineEvent}
    (hdecided : Decided book command events) (hall : AppliedAll book events book') :
    command.commandId ∈ book'.processedCommands ∧
      book'.lastCommandSequence = book.lastCommandSequence + 1 := by
  have hevents : ∀ e ∈ events, e.causationId = command.commandId ∧
      e.commandSequence = book.lastCommandSequence + 1 := by
    intro e he
    obtain ⟨_, _, _, rfl⟩ := hdecided.event_of_mem he
    exact ⟨rfl, hadmissible.next⟩
  obtain ⟨first, rest, rfl, _⟩ := hdecided.shape
  constructor
  · exact hall.mem_processedCommands.mpr
      (.inr ⟨first, List.mem_cons_self, (hevents first List.mem_cons_self).1⟩)
  · exact hall.lastCommandSequence_eq (List.cons_ne_nil _ _) (Nat.le_succ _)
      fun e he => (hevents e he).2

theorem Decided.live {commandIds : Set EventId} {book book' : OrderBook}
    (hlive : Live commandIds book) (hdistinct : EventIdsDistinct commandIds)
    {command : EngineCommand} (hcommand : command.commandId ∈ commandIds)
    (hadmissible : Admissible book command) {events : List EngineEvent}
    (hdecided : Decided book command events) (hall : AppliedAll book events book') :
    Live commandIds book' where
  wf := hall.wf hlive.wf
  sequenced :=
    hdecided.sequenced hlive.wf hlive.sequenced hadmissible List.prefix_rfl hall
  uncrossed := hdecided.uncrossed hlive.wf hlive.sequenced hlive.uncrossed
    (hdistinct.mono (Set.singleton_subset_iff.mpr hcommand)) (hlive.fresh hdistinct hcommand hadmissible.unseen)
    hadmissible hall
  derived := by
    intro eventId hmem
    obtain hold | ⟨e, he, rfl⟩ := hall.mem_appliedEvents.mp hmem
    · obtain ⟨commandId, hid, hprocessed, hordinal⟩ := hlive.derived eventId hold
      exact ⟨commandId, hid, hall.mem_processedCommands.mpr (.inl hprocessed), hordinal⟩
    · obtain ⟨ordinal, payload, hordinal, rfl⟩ := hdecided.event_of_mem he
      exact ⟨command.commandId, hcommand, (hdecided.recorded hadmissible hall).1, ordinal,
        hordinal, rfl⟩

/-- What `process` can do to a live book: skip, refuse, or apply a whole decision. -/
theorem Live.process_cases {commandIds : Set EventId} {book : OrderBook}
    (hlive : Live commandIds book) (hdistinct : EventIdsDistinct commandIds)
    {command : EngineCommand} (hcommand : command.commandId ∈ commandIds) :
    (command.commandId ∈ book.processedCommands ∧
        (process command).run book = .ok [] book) ∨
      (command.commandId ∉ book.processedCommands ∧
        ∃ error, (process command).run book = .error error book) ∨
      (Admissible book command ∧ ∃ events book', Decided book command events ∧
        (process command).run book = .ok events book' ∧
          AppliedAll book events book' ∧ Live commandIds book') := by
  obtain hskip | hrefuse | ⟨hadmissible, events, hdecided, hrun⟩ :=
    process_outcome hlive.wf command
  · exact .inl hskip
  · exact .inr (.inl hrefuse)
  · obtain ⟨book', hall⟩ := hdecided.appliedAll hlive.wf hlive.sequenced
      (hdistinct.mono (Set.singleton_subset_iff.mpr hcommand))
      (hlive.fresh hdistinct hcommand hadmissible.unseen) hadmissible
    have happly := applyDecided_of_appliedAll hlive.wf hall
    have hprocess := process_run_of_admissible hadmissible
      ((decideCommand_eq_ok_iff hlive.wf).mpr hdecided)
    rw [happly] at hprocess
    exact .inr (.inr ⟨hadmissible, events, book', hdecided, hprocess, hall,
      hdecided.live hlive hdistinct hcommand hadmissible hall⟩)

theorem processAll_live {commands : List EngineCommand} {ids : Set EventId}
    (hdistinct : EventIdsDistinct ids) (hids : commandIds commands ⊆ ids)
    (marketId : MarketId) : Live ids (processAll commands (new marketId)).1 := by
  have hstep : ∀ command ∈ commands, ∀ book (history : List EngineEvent),
      Live ids book → Live ids (processStep book command).1 := by
    intro command hcommand book _ hlive
    change Live _ (after (process command) book)
    unfold after
    obtain ⟨_, hrun⟩ | ⟨_, error, hrun⟩ | ⟨_, events, book', _, hrun, _, hlive'⟩ :=
      hlive.process_cases hdistinct (hids ⟨command, hcommand, rfl⟩)
    · rwa [hrun]
    · rwa [hrun]
    · rwa [hrun]
  exact run_invariant processStep hstep (new_live _ marketId)

/-! ## No crossed book -/

theorem Live.bid_lt_ask {ids : Set EventId} {book : OrderBook} (h : Live ids book)
    {bid : Priceᵒᵈ} (hbid : bid ∈ book.bids) {ask : Price} (hask : ask ∈ book.asks) :
    OrderDual.ofDual bid < ask := by
  obtain ⟨bidQueue, hbidQueue⟩ := OrderedMap.mem_iff_lookup.mp hbid
  obtain ⟨askQueue, haskQueue⟩ := OrderedMap.mem_iff_lookup.mp hask
  have hbidLevel : book.level .buy (OrderDual.ofDual bid) = some bidQueue := hbidQueue
  have haskLevel : book.level .sell ask = some askQueue := haskQueue
  obtain ⟨bidId, hbidMem⟩ := List.exists_mem_of_ne_nil _ (h.wf.queue_nonempty hbidLevel)
  obtain ⟨askId, haskMem⟩ := List.exists_mem_of_ne_nil _ (h.wf.queue_nonempty haskLevel)
  obtain ⟨bidOrder, hbidLookup, hbidOpen, hbidSide, hbidPrice⟩ :=
    h.wf.owner hbidLevel hbidMem
  obtain ⟨askOrder, haskLookup, haskOpen, haskSide, haskPrice⟩ :=
    h.wf.owner haskLevel haskMem
  rw [← hbidPrice, ← haskPrice]
  exact h.uncrossed _ _ _ _ hbidLookup haskLookup hbidOpen haskOpen hbidSide haskSide

end Process

theorem processAll_bid_lt_ask [UuidV5] (marketId : MarketId) (commands : List EngineCommand)
    (hdistinct : EventIdsDistinct (commandIds commands)) {bid : Priceᵒᵈ} {ask : Price}
    (hbid : bid ∈ (processAll commands (new marketId)).1.bids)
    (hask : ask ∈ (processAll commands (new marketId)).1.asks) :
    OrderDual.ofDual bid < ask :=
  (processAll_live hdistinct subset_rfl marketId).bid_lt_ask hbid hask

/-- A bid at 10 and an ask at 12, after a sale at 9 took part of the bid. -/
def twoSided : List EngineCommand :=
  [placement 1 .buy (.literal 10 (.refl true)) (.literal 5 (.refl true)),
    placement 2 .sell (.literal 12 (.refl true)) (.literal 3 (.refl true)),
    placement 3 .sell (.literal 9 (.refl true)) (.literal 2 (.refl true))]

theorem processAll_bid_lt_ask_twoSided :
    let book := (@processAll UuidV5.positional twoSided (new ⟨1⟩)).1
    let bid : Price := ⟨10, by decide, by decide⟩
    let ask : Price := ⟨12, by decide, by decide⟩
    OrderDual.toDual bid ∈ book.bids ∧ ask ∈ book.asks ∧ bid < ask := by
  intro book bid ask
  have hbid : OrderDual.toDual bid ∈ book.bids := by decide +kernel
  have hask : ask ∈ book.asks := by decide +kernel
  exact ⟨hbid, hask, @processAll_bid_lt_ask UuidV5.positional ⟨1⟩ twoSided
    (UuidV5.positional_distinct _) _ _ hbid hask⟩

/-! ## Atomicity -/

/--
A command is skipped, refused without a trace, or applied completely.  An event
that `apply` does not take leaves no trace either, in any book.
-/
theorem process_apply_atomic [UuidV5] (marketId : MarketId) :
    (∀ (commands : List EngineCommand) (command : EngineCommand),
      EventIdsDistinct (commandIds (command :: commands)) →
      let book := (processAll commands (new marketId)).1
      ((command.commandId ∈ book.processedCommands ∧
          (process command).run book = .ok [] book) ∨
        (∃ error, (process command).run book = .error error book) ∨
        ∃ events book', (process command).run book = .ok events book' ∧ events ≠ [] ∧
          (applyDecided events).run book = .ok () book' ∧
          (∀ e ∈ events, e.eventId ∈ book'.appliedEvents) ∧
          book'.lastCommandSequence = book.lastCommandSequence + 1) ∧
      ∀ events, Admissible book command → book.decideCommand command = .ok events →
        ∃ book', (applyDecided events).run book = .ok () book') ∧
    ∀ (calls : List Call) (e : EngineEvent), let book := reach calls (new marketId)
      (∀ error book', (apply e).run book = .error error book' → book' = book) ∧
      ∀ book', (apply e).run book = .ok false book' → book' = book := by
  refine ⟨fun commands command hdistinct => ?_, fun calls e => ?_⟩
  · have hcommand : command.commandId ∈ commandIds (command :: commands) :=
      ⟨command, List.mem_cons_self, rfl⟩
    have hids : commandIds commands ⊆ commandIds (command :: commands) := by
      rintro _ ⟨other, hother, rfl⟩
      exact ⟨other, List.mem_cons_of_mem _ hother, rfl⟩
    have hlive := processAll_live hdistinct hids marketId
    constructor
    · obtain hskip | ⟨_, hrefuse⟩ | ⟨hadmissible, events, book', hdecided, hrun, hall, _⟩ :=
        hlive.process_cases hdistinct hcommand
      · exact .inl hskip
      · exact .inr (.inl hrefuse)
      · obtain ⟨first, rest, rfl, _⟩ := hdecided.shape
        exact .inr (.inr ⟨_, book', hrun, List.cons_ne_nil _ _,
          applyDecided_of_appliedAll hlive.wf hall,
          fun e he => hall.mem_appliedEvents.mpr (.inr ⟨e, he, rfl⟩),
          (hdecided.recorded hadmissible hall).2⟩)
    · intro events hadmissible hdecide
      have hdecided := (decideCommand_eq_ok_iff hlive.wf).mp hdecide
      obtain ⟨book', hall⟩ := hdecided.appliedAll hlive.wf hlive.sequenced
        (hdistinct.mono (Set.singleton_subset_iff.mpr hcommand))
        (hlive.fresh hdistinct hcommand hadmissible.unseen) hadmissible
      exact ⟨book', applyDecided_of_appliedAll hlive.wf hall⟩
  · have hwf := reach_wf (new_wf marketId) calls
    obtain ⟨_, hrun⟩ | ⟨_, error, hrun⟩ | ⟨_, middle, _, hrun⟩ := apply_cases hwf e
    · simp [hrun]
    · simp [hrun]
    · simp [hrun]

theorem process_apply_atomic_sale :
    let book := (@processAll UuidV5.positional (twoSided.take 2) (new ⟨1⟩)).1
    let command := placement 3 .sell ⟨9, by decide, by decide⟩ ⟨2, by decide, by decide⟩
    ∃ events book', @decideCommand UuidV5.positional book command = .ok events ∧
      (applyDecided events).run book = .ok () book' := by
  intro book command
  have hadmissible : Admissible book command :=
    ⟨by decide +kernel, by decide +kernel, by decide +kernel⟩
  cases hdecide : @decideCommand UuidV5.positional book command with
  | error error =>
      have hok : (@decideCommand UuidV5.positional book command).isOk = true := by
        decide +kernel
      rw [hdecide] at hok
      cases hok
  | ok events =>
      obtain ⟨book', hrun⟩ := ((@process_apply_atomic UuidV5.positional ⟨1⟩).1
        (twoSided.take 2) command (UuidV5.positional_distinct _)).2 events hadmissible
        hdecide
      exact ⟨events, book', rfl, hrun⟩

end OrderBook

end MatchPlane
