import MatchPlane.Engine.Runs

/-!
# Price-time priority

The reference matcher knows nothing of levels and queues: it sorts the open
crossing orders of the other side by price and then by acceptance, and fills the
taker along that list.  On every book that `process` can reach, the two nested
loops of the engine visit the makers in exactly this order.
-/

namespace MatchPlane

open MatchPlane.Library

namespace OrderBook

instance (side : OrderSide) (first second : Price) : Decidable (better side first second) :=
  match side with
  | .buy => inferInstanceAs (Decidable (second < first))
  | .sell => inferInstanceAs (Decidable (first < second))

/-- Best price first, then the earlier acceptance. -/
def precedes (side : OrderSide) (first second : OrderView) : Bool :=
  better side first.intent.price second.intent.price ∨
    first.intent.price = second.intent.price ∧
      first.acceptedSequence ≤ second.acceptedSequence

/-- The makers of the reference matcher. -/
def referenceMakers (book : OrderBook) (intent : OrderIntent) : List OrderView :=
  (book.orderViews.filter fun order =>
    order.status.isOpen && order.intent.side == intent.side.opposite &&
      intent.crosses order.intent.price).mergeSort (precedes intent.side.opposite)

/-! ## Agreement with the loops -/

theorem better_trans {side : OrderSide} {first second third : Price}
    (h : better side first second) (h' : better side second third) :
    better side first third := by
  cases side with
  | buy => exact lt_trans h' h
  | sell => exact lt_trans h h'

theorem better_trichotomy (side : OrderSide) (first second : Price) :
    better side first second ∨ first = second ∨ better side second first := by
  cases side with
  | buy =>
      obtain h | h | h := lt_trichotomy first second
      · exact .inr (.inr h)
      · exact .inr (.inl h)
      · exact .inl h
  | sell => exact lt_trichotomy first second

theorem precedes_trans (side : OrderSide) (first second third : OrderView)
    (h : precedes side first second = true) (h' : precedes side second third = true) :
    precedes side first third = true := by
  simp only [precedes, decide_eq_true_eq] at h h' ⊢
  obtain hbetter | ⟨heq, hle⟩ := h <;> obtain hbetter' | ⟨heq', hle'⟩ := h'
  · exact .inl (better_trans hbetter hbetter')
  · exact .inl (heq' ▸ hbetter)
  · exact .inl (heq ▸ hbetter')
  · exact .inr ⟨heq.trans heq', hle.trans hle'⟩

theorem precedes_total (side : OrderSide) (first second : OrderView) :
    (precedes side first second || precedes side second first) = true := by
  simp only [precedes, Bool.or_eq_true, decide_eq_true_eq]
  obtain hbetter | heq | hbetter :=
    better_trichotomy side first.intent.price second.intent.price
  · exact .inl (.inl hbetter)
  · obtain hle | hle := le_total first.acceptedSequence second.acceptedSequence
    · exact .inl (.inr ⟨heq, hle⟩)
    · exact .inr (.inr ⟨heq.symm, hle⟩)
  · exact .inr (.inl hbetter)

/-- Along the makers, price or acceptance gets strictly worse. -/
theorem makersFor_strict {book : OrderBook} (hwf : book.Wf) (hsequenced : book.Sequenced)
    (intent : OrderIntent) :
    (book.makersFor intent).Pairwise fun first second =>
      better intent.side.opposite first.intent.price second.intent.price ∨
        first.intent.price = second.intent.price ∧
          first.acceptedSequence < second.acceptedSequence := by
  refine makersFor_pairwise hwf ?_ fun first second _ _ hbetter => .inl hbetter
  intro price queue hlevel
  refine (hsequenced.increasing hlevel).imp_of_mem ?_
  intro firstId secondId hfirstMem hsecondMem hless first hfirst second hsecond
  have hprice : ∀ {orderId order}, orderId ∈ queue → book.order orderId = some order →
      order.intent.price = price := by
    intro orderId order hmem hlookup
    obtain ⟨found, hfound, _, _, hprice⟩ := hwf.owner hlevel hmem
    rw [hlookup] at hfound
    cases hfound
    exact hprice
  exact .inr ⟨(hprice hfirstMem hfirst).trans (hprice hsecondMem hsecond).symm,
    hless first hfirst second hsecond⟩

theorem orderViews_nodup {book : OrderBook} (hwf : book.Wf) : book.orderViews.Nodup := by
  rw [orderViews, List.Nodup, List.pairwise_map]
  refine (OrderedMap.toList_pairwise book.orders).imp_of_mem ?_
  rintro ⟨firstId, first⟩ ⟨secondId, second⟩ hfirst hsecond hless heq
  have hfirstId := hwf.order_id (OrderedMap.mem_toList.mp hfirst)
  have hsecondId := hwf.order_id (OrderedMap.mem_toList.mp hsecond)
  change first = second at heq
  rw [heq, hsecondId] at hfirstId
  exact hless.ne hfirstId.symm

theorem makersFor_eq_reference {book : OrderBook} (hwf : book.Wf)
    (hsequenced : book.Sequenced) (intent : OrderIntent) :
    book.makersFor intent = book.referenceMakers intent := by
  have hstrict := makersFor_strict hwf hsequenced intent
  refine Sorting.eq_mergeSort hstrict (makersFor_nodup hwf intent)
    ((orderViews_nodup hwf).filter _) ?_ (precedes_trans _) (precedes_total _) ?_ ?_
  · intro order
    rw [mem_makersFor hwf, List.mem_filter, mem_orderViews]
    simp only [Bool.and_eq_true, beq_iff_eq, and_assoc]
    constructor
    · rintro ⟨hlookup, hrest⟩
      exact ⟨⟨_, hlookup⟩, hrest⟩
    · rintro ⟨⟨orderId, hlookup⟩, hrest⟩
      rw [hwf.order_id hlookup]
      exact ⟨hlookup, hrest⟩
  · intro first second h
    simp only [precedes, decide_eq_true_eq]
    exact h.imp_right fun h => ⟨h.1, h.2.le⟩
  · intro first second h
    simp only [precedes, decide_eq_false_iff_not]
    rintro (hbetter' | ⟨heq', hle'⟩)
    · obtain hbetter | ⟨heq, _⟩ := h
      · exact better_irrefl _ _ (better_trans hbetter hbetter')
      · exact better_irrefl _ _ (heq ▸ hbetter')
    · obtain hbetter | ⟨_, hless⟩ := h
      · exact better_irrefl _ _ (heq' ▸ hbetter)
      · omega

theorem referenceMakers_positive {book : OrderBook} (hwf : book.Wf)
    (hsequenced : book.Sequenced) (intent : OrderIntent) :
    ∀ maker ∈ book.referenceMakers intent, 0 < maker.remainingQuantity.value := by
  intro maker hmaker
  rw [← makersFor_eq_reference hwf hsequenced] at hmaker
  obtain ⟨hlookup, hopen, _⟩ := (mem_makersFor hwf).mp hmaker
  exact hwf.open_positive hlookup hopen

end OrderBook

/-! ## Mirror images -/

/-- The reflection of the price range that exchanges better and worse. -/
def Price.mirror (price : Price) : Price :=
  ⟨i128Max + 1 - price.value, by
    have := price.bounded
    omega, by
    have := price.positive
    omega⟩

theorem Price.mirror_le_mirror (first second : Price) :
    first.mirror ≤ second.mirror ↔ second ≤ first := by
  simp only [Price.le_def, Price.mirror]
  omega

theorem Price.mirror_lt_mirror (first second : Price) :
    first.mirror < second.mirror ↔ second < first := by
  simp only [Price.lt_def, Price.mirror]
  omega

theorem Price.mirror_inj {first second : Price} :
    first.mirror = second.mirror ↔ first = second := by
  refine ⟨fun h => Price.value_injective ?_, fun h => h ▸ rfl⟩
  have hvalue := congrArg Price.value h
  simp only [Price.mirror] at hvalue
  omega

def OrderIntent.mirror (intent : OrderIntent) : OrderIntent :=
  { intent with side := intent.side.opposite, price := intent.price.mirror }

def OrderView.mirror (order : OrderView) : OrderView :=
  { order with intent := order.intent.mirror }

def Trade.mirror (trade : Trade) : Trade :=
  { trade with
    price := trade.price.mirror
    buyOrderId := trade.sellOrderId
    sellOrderId := trade.buyOrderId }

def MatchingEvent.mirror : MatchingEvent → MatchingEvent
  | .orderAccepted intent acceptedSequence => .orderAccepted intent.mirror acceptedSequence
  | .tradeExecuted trade => .tradeExecuted trade.mirror
  | .orderCancelled orderId releasedQuantity => .orderCancelled orderId releasedQuantity
  | .orderExpired orderId releasedQuantity => .orderExpired orderId releasedQuantity

def EngineEvent.mirror (event : EngineEvent) : EngineEvent :=
  { event with payload := event.payload.mirror }

theorem OrderIntent.mirror_crosses (intent : OrderIntent) (price : Price) :
    intent.mirror.crosses price.mirror = intent.crosses price := by
  unfold crosses mirror
  cases intent.side <;> simp only [OrderSide.opposite, Price.mirror_le_mirror]

namespace OrderBook

/-- Two books whose orders are mirror images of each other. -/
def Mirrored (book book' : OrderBook) : Prop :=
  ∀ orderId : OrderId, book'.order orderId = (book.order orderId).map OrderView.mirror

theorem Mirrored.orderViews_eq {book book' : OrderBook} (h : Mirrored book book') :
    book'.orderViews = book.orderViews.map OrderView.mirror := by
  have horders : book'.orders = book.orders.map fun _ order => order.mirror := by
    apply OrderedMap.ext
    intro orderId
    rw [Std.ExtTreeMap.getElem?_map]
    exact h orderId
  simp [orderViews, horders, Std.ExtTreeMap.toList_map]

theorem better_mirror (side : OrderSide) (first second : Price) :
    better side.opposite first.mirror second.mirror ↔ better side first second := by
  cases side with
  | buy => exact Price.mirror_lt_mirror first second
  | sell => exact Price.mirror_lt_mirror second first

theorem precedes_mirror (side : OrderSide) (first second : OrderView) :
    precedes side first second = precedes side.opposite first.mirror second.mirror := by
  have hprice : ∀ order : OrderView, order.mirror.intent.price = order.intent.price.mirror :=
    fun _ => rfl
  have hsequence : ∀ order : OrderView,
      order.mirror.acceptedSequence = order.acceptedSequence := fun _ => rfl
  simp only [precedes, hprice, hsequence, better_mirror, Price.mirror_inj]

theorem Mirrored.referenceMakers_eq {book book' : OrderBook} (h : Mirrored book book')
    (intent : OrderIntent) :
    book'.referenceMakers intent.mirror =
      (book.referenceMakers intent).map OrderView.mirror := by
  unfold referenceMakers
  rw [h.orderViews_eq, List.filter_map]
  rw [List.map_mergeSort fun first _ second _ => precedes_mirror _ first second]
  congr 2
  apply List.filter_congr
  intro order _
  have hside : (order.mirror.intent.side == intent.mirror.side.opposite) =
      (order.intent.side == intent.side.opposite) := by
    change (order.intent.side.opposite == intent.side.opposite.opposite) = _
    cases order.intent.side <;> cases intent.side <;> rfl
  have hcrosses : intent.mirror.crosses order.mirror.intent.price =
      intent.crosses order.intent.price := intent.mirror_crosses order.intent.price
  simp only [Function.comp_apply, hside, hcrosses]
  rfl

theorem fills_mirror (remaining : Quantity) (makers : List OrderView) :
    fills remaining (makers.map OrderView.mirror) =
      (fills remaining makers).map fun fill => (fill.1.mirror, fill.2) := by
  induction makers generalizing remaining with
  | nil => rfl
  | cons maker makers ih =>
      have hremaining : maker.mirror.remainingQuantity = maker.remainingQuantity := rfl
      simp only [List.map_cons, fills, hremaining]
      cases remaining.isZero with
      | true => rfl
      | false => simp only [Bool.false_eq_true, if_false, List.map_cons, ih]

theorem tradeEvents_mirror [UuidV5] (command : EngineCommand) (kind : EngineCommandKind)
    (intent : OrderIntent) (ordinal : Nat) (allocation : List (OrderView × Quantity)) :
    tradeEvents { command with kind := kind } intent.mirror ordinal
        (allocation.map fun fill => (fill.1.mirror, fill.2)) =
      (tradeEvents command intent ordinal allocation).map EngineEvent.mirror := by
  induction allocation generalizing ordinal with
  | nil => rfl
  | cons entry rest ih =>
      obtain ⟨maker, quantity⟩ := entry
      simp only [List.map_cons, tradeEvents, ih]
      congr 1
      simp only [tradeEvent, event, EngineEvent.mirror, MatchingEvent.mirror, Trade.mirror]
      cases hside : intent.side <;>
        simp [OrderIntent.mirror, OrderView.mirror, OrderSide.opposite, hside]

/-! ## Every accepted placement -/

/-- The events of the reference matcher. -/
def referenceEvents [UuidV5] (book : OrderBook) (command : EngineCommand)
    (intent : OrderIntent) : List EngineEvent :=
  event command 0 (.orderAccepted intent command.shardSequence) ::
    tradeEvents command intent 0 (fills intent.quantity (book.referenceMakers intent))

theorem Mirrored.referenceEvents_eq [UuidV5] {book book' : OrderBook}
    (h : Mirrored book book') (command : EngineCommand) (kind : EngineCommandKind)
    (intent : OrderIntent) :
    book'.referenceEvents { command with kind := kind } intent.mirror =
      (book.referenceEvents command intent).map EngineEvent.mirror := by
  have htrades := tradeEvents_mirror command kind intent 0
    (fills intent.quantity (book.referenceMakers intent))
  have hquantity : intent.mirror.quantity = intent.quantity := rfl
  simp only [referenceEvents, h.referenceMakers_eq, hquantity, fills_mirror, htrades,
    List.map_cons]
  rfl

theorem process_eq_reference [UuidV5] {book book' : OrderBook} (hwf : book.Wf)
    (hsequenced : book.Sequenced) {command : EngineCommand} {intent : OrderIntent}
    (hkind : command.kind = .placeLimitOrder intent)
    (hunseen : command.commandId ∉ book.processedCommands) {events : List EngineEvent}
    (hrun : (process command).run book = .ok events book') :
    events = book.referenceEvents command intent := by
  obtain ⟨hseen, _⟩ | ⟨_, error, herror⟩ | ⟨_, decided, hdecided, hcases⟩ :=
    process_outcome hwf command
  · exact absurd hseen hunseen
  · rw [hrun] at herror
    cases herror
  · obtain ⟨after, hok, _⟩ | ⟨error, segment, after, herror, _⟩ := hcases
    · rw [hrun] at hok
      cases hok
      cases hdecided with
      | placed hplaced _ _ =>
          rw [hkind] at hplaced
          cases hplaced
          rw [placementEvents, fillsFor, makersFor_eq_reference hwf hsequenced]
          rfl
      | cancelled hcancelled _ _ =>
          rw [hkind] at hcancelled
          cases hcancelled
      | expired hexpired _ _ _ =>
          rw [hkind] at hexpired
          cases hexpired
    · rw [hrun] at herror
      cases herror

/--
An accepted placement emits what the reference matcher emits: no crossing maker
is passed over unless the taker is exhausted, only the last maker hit can keep
some quantity, and mirrored books give mirrored events.
-/
theorem process_price_time_priority [UuidV5] (marketId : MarketId)
    (commands : List EngineCommand) (command : EngineCommand) (intent : OrderIntent)
    (hkind : command.kind = .placeLimitOrder intent)
    (hunseen : command.commandId ∉
      (processAll commands (new marketId)).1.processedCommands)
    (events : List EngineEvent) (after : OrderBook)
    (hrun : (process command).run (processAll commands (new marketId)).1 =
      .ok events after) :
    let book := (processAll commands (new marketId)).1
    let makers := book.referenceMakers intent
    let allocation := fills intent.quantity makers
    events = event command 0 (.orderAccepted intent command.shardSequence) ::
        tradeEvents command intent 0 allocation ∧
      (∀ before last, allocation = before ++ [last] →
        ∀ entry ∈ before, entry.2 = entry.1.remainingQuantity) ∧
      allocation.map Prod.fst <+: makers ∧
      (∀ maker ∈ makers, maker ∉ allocation.map Prod.fst →
        (allocation.map fun fill => fill.2.value).sum = intent.quantity.value) ∧
      ∀ (commands' : List EngineCommand) (events' : List EngineEvent) (after' : OrderBook),
        let book' := (processAll commands' (new marketId)).1
        let command' := { command with kind := .placeLimitOrder intent.mirror }
        Mirrored book book' → command'.commandId ∉ book'.processedCommands →
        (process command').run book' = .ok events' after' →
          events' = events.map EngineEvent.mirror := by
  obtain ⟨hwf, hsequenced⟩ := processAll_wf_sequenced marketId commands
  have hevents := process_eq_reference hwf hsequenced hkind hunseen hrun
  have hpositive := referenceMakers_positive hwf hsequenced intent
  refine ⟨hevents, fun before last h => fills_full_but_last hpositive h,
    fills_makers_initial _ _, fun maker hmaker h => sum_fills_of_not_mem hpositive hmaker h,
    ?_⟩
  intro commands' events' after' book' command' hmirrored hunseen' hrun'
  obtain ⟨hwf', hsequenced'⟩ := processAll_wf_sequenced marketId commands'
  rw [process_eq_reference hwf' hsequenced' rfl hunseen' hrun', hevents]
  exact hmirrored.referenceEvents_eq command _ intent

/-- Asks at 12 and at 11; the later one has the better price. -/
def twoAsks : List EngineCommand :=
  [placement 1 .sell ⟨12, by decide, by decide⟩ ⟨3, by decide, by decide⟩,
    placement 2 .sell ⟨11, by decide, by decide⟩ ⟨3, by decide, by decide⟩]

theorem process_price_time_priority_twoAsks :
    let book := (@processAll UuidV5.positional twoAsks (new ⟨1⟩)).1
    let command := placement 3 .buy ⟨12, by decide, by decide⟩ ⟨4, by decide, by decide⟩
    ∃ intent events after, command.kind = .placeLimitOrder intent ∧
      (@process UuidV5.positional command).run book = .ok events after ∧
        events.length = 3 ∧ events = @referenceEvents UuidV5.positional book command intent := by
  intro book command
  have hlength : (@emitted UuidV5.positional command book).length = 3 := by decide +kernel
  have hunseen : command.commandId ∉ book.processedCommands := by decide +kernel
  unfold emitted at hlength
  cases hrun : (@process UuidV5.positional command).run book with
  | error error after =>
      rw [hrun] at hlength
      cases hlength
  | ok events after =>
      rw [hrun] at hlength
      exact ⟨_, events, after, rfl, rfl, hlength,
        (@process_price_time_priority UuidV5.positional ⟨1⟩ twoAsks command _ rfl hunseen
          events after hrun).1⟩

end OrderBook

end MatchPlane
