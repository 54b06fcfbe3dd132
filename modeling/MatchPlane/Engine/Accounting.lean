import MatchPlane.Engine.History

/-!
# Accounting for every unit

Along a history each order's quantity splits into what remains, what was traded
and what a cancellation or an expiry released.  The sums run over the history
alone; the book only says what remains.
-/

namespace MatchPlane

open MatchPlane.Library

def Trade.involves (trade : Trade) (orderId : OrderId) : Bool :=
  trade.makerOrderId == orderId || trade.takerOrderId == orderId

namespace EngineEvent

/-- What an event trades of an order, as maker or as taker. -/
def traded (event : EngineEvent) (orderId : OrderId) : Int :=
  match event.payload with
  | .tradeExecuted trade => if trade.involves orderId then trade.quantity.value else 0
  | _ => 0

/-- What an event releases of an order. -/
def released (event : EngineEvent) (orderId : OrderId) : Int :=
  match event.payload with
  | .orderCancelled closedId quantity | .orderExpired closedId quantity =>
      if closedId = orderId then quantity.value else 0
  | _ => 0

/-- An event that cancels or expires an order. -/
def closes (event : EngineEvent) (orderId : OrderId) : Bool :=
  match event.payload with
  | .orderCancelled closedId _ | .orderExpired closedId _ => closedId == orderId
  | _ => false

theorem traded_nonnegative (event : EngineEvent) (orderId : OrderId) :
    0 ≤ event.traded orderId := by
  unfold traded
  cases event.payload with
  | tradeExecuted trade =>
      dsimp only
      split
      · exact trade.quantity.nonnegative
      · exact le_refl 0
  | _ => exact le_refl 0

theorem released_nonnegative (event : EngineEvent) (orderId : OrderId) :
    0 ≤ event.released orderId := by
  unfold released
  cases event.payload with
  | orderCancelled closedId quantity =>
      dsimp only
      split
      · exact quantity.nonnegative
      · exact le_refl 0
  | orderExpired closedId quantity =>
      dsimp only
      split
      · exact quantity.nonnegative
      · exact le_refl 0
  | _ => exact le_refl 0

end EngineEvent

namespace OrderBook

def tradedTotal (history : List EngineEvent) (orderId : OrderId) : Int :=
  (history.map fun event => event.traded orderId).sum

def releasedTotal (history : List EngineEvent) (orderId : OrderId) : Int :=
  (history.map fun event => event.released orderId).sum

@[simp] theorem tradedTotal_snoc (history : List EngineEvent) (event : EngineEvent)
    (orderId : OrderId) :
    tradedTotal (history ++ [event]) orderId =
      tradedTotal history orderId + event.traded orderId := by
  simp [tradedTotal]

@[simp] theorem releasedTotal_snoc (history : List EngineEvent) (event : EngineEvent)
    (orderId : OrderId) :
    releasedTotal (history ++ [event]) orderId =
      releasedTotal history orderId + event.released orderId := by
  simp [releasedTotal]

/-! ## What one event does to one order -/

/-- A trade takes its quantity from both of its orders and touches no other. -/
theorem TradeValid.effect {book : OrderBook} (hwf : book.Wf) {trade : Trade}
    {maker taker : OrderView} (h : TradeValid book trade maker taker) (orderId : OrderId) :
    let book' := (book.update (maker.filled trade.quantity h.maker_quantity)).update
      (taker.filled trade.quantity h.taker_quantity)
    (∃ order hle, trade.involves orderId = true ∧ book.order orderId = some order ∧
      order.status.isOpen = true ∧
        book'.order orderId = some (order.filled trade.quantity hle)) ∨
    (trade.involves orderId = false ∧ book'.order orderId = book.order orderId) := by
  intro book'
  have hmakerId := hwf.order_id h.maker_lookup
  have htakerId := hwf.order_id h.taker_lookup
  have horder : book'.order orderId =
      if orderId = trade.takerOrderId then
        some (taker.filled trade.quantity h.taker_quantity)
      else if orderId = trade.makerOrderId then
        some (maker.filled trade.quantity h.maker_quantity)
      else book.order orderId := by
    rw [update_order, update_order, OrderView.filled_intent, OrderView.filled_intent,
      hmakerId, htakerId]
  by_cases htaker : orderId = trade.takerOrderId
  · subst htaker
    refine .inl ⟨taker, h.taker_quantity, ?_, h.taker_lookup, h.taker_open, ?_⟩
    · simp [Trade.involves]
    · rw [horder, if_pos rfl]
  · by_cases hmaker : orderId = trade.makerOrderId
    · subst hmaker
      refine .inl ⟨maker, h.maker_quantity, ?_, h.maker_lookup, h.maker_open, ?_⟩
      · simp [Trade.involves]
      · rw [horder, if_neg htaker, if_pos rfl]
    · refine .inr ⟨?_, ?_⟩
      · simp [Trade.involves, Ne.symm htaker, Ne.symm hmaker]
      · rw [horder, if_neg htaker, if_neg hmaker]

/-- Closing an order touches no other order. -/
theorem closed_order {book : OrderBook} (hwf : book.Wf) {closedId : OrderId}
    {order : OrderView} (hlookup : book.order closedId = some order)
    (status : OrderStatus) (orderId : OrderId) :
    (book.update (order.closed status)).order orderId =
      if orderId = closedId then some (order.closed status) else book.order orderId := by
  have hid := hwf.order_id hlookup
  have hclosedId : (order.closed status).intent.orderId = closedId := hid
  rw [update_order, hclosedId]

/--
The change that an event makes to the order with this identifier: it adds it,
takes what it trades and releases, or leaves it alone.
-/
inductive Effect (event : EngineEvent) (orderId : OrderId) :
    Option OrderView → Option OrderView → Prop
  | added {order : OrderView}
      (hfull : order.remainingQuantity = order.intent.quantity)
      (htraded : event.traded orderId = 0) (hreleased : event.released orderId = 0)
      (hcloses : event.closes orderId = false) :
      Effect event orderId none (some order)
  | changed {order order' : OrderView} (hopen : order.status.isOpen = true)
      (hintent : order'.intent = order.intent)
      (hremaining : order'.remainingQuantity.value = order.remainingQuantity.value -
        event.traded orderId - event.released orderId)
      (hcloses : event.closes orderId = true → order'.status.isOpen = false) :
      Effect event orderId (some order) (some order')
  | untouched {view : Option OrderView} (htraded : event.traded orderId = 0)
      (hreleased : event.released orderId = 0)
      (hcloses : event.closes orderId = false) :
      Effect event orderId view view

theorem closed_effect {book : OrderBook} (hwf : book.Wf) {closedId orderId : OrderId}
    {order : OrderView} (hlookup : book.order closedId = some order)
    (hopen : order.status.isOpen = true) {status : OrderStatus}
    (hstatus : status.isOpen = false) {event : EngineEvent}
    (htraded : event.traded orderId = 0)
    (hreleased : event.released orderId =
      if closedId = orderId then order.remainingQuantity.value else 0)
    (hcloses : event.closes orderId = (closedId == orderId)) :
    Effect event orderId (book.order orderId)
      ((book.update (order.closed status)).order orderId) := by
  rw [closed_order hwf hlookup]
  by_cases heq : orderId = closedId
  · subst heq
    rw [if_pos rfl] at hreleased
    rw [if_pos rfl, hlookup]
    refine .changed hopen rfl ?_ fun _ => hstatus
    rw [htraded, hreleased]
    change (0 : Int) = _
    omega
  · rw [if_neg (Ne.symm heq)] at hreleased
    rw [if_neg heq]
    refine .untouched htraded hreleased ?_
    rw [hcloses]
    simpa using Ne.symm heq

theorem Applied.effect {book book' : OrderBook} (hwf : book.Wf) {event : EngineEvent}
    (h : Applied book event.payload book') (orderId : OrderId) :
    Effect event orderId (book.order orderId) (book'.order orderId) := by
  generalize hpayload : event.payload = payload at h
  cases h with
  | @accepted intent acceptedSequence _ hnew _ =>
      have htraded : event.traded orderId = 0 := by rw [EngineEvent.traded, hpayload]
      have hreleased : event.released orderId = 0 := by rw [EngineEvent.released, hpayload]
      have hcloses : event.closes orderId = false := by rw [EngineEvent.closes, hpayload]
      rw [addOrder_order]
      by_cases heq : orderId = intent.orderId
      · subst heq
        rw [if_pos rfl, hnew]
        exact .added rfl htraded hreleased hcloses
      · rw [if_neg heq]
        exact .untouched htraded hreleased hcloses
  | @traded trade maker taker htrade =>
      have htraded : event.traded orderId =
          if trade.involves orderId then trade.quantity.value else 0 := by
        rw [EngineEvent.traded, hpayload]
      have hreleased : event.released orderId = 0 := by rw [EngineEvent.released, hpayload]
      have hcloses : event.closes orderId = false := by rw [EngineEvent.closes, hpayload]
      obtain ⟨order, hle, hinvolves, hlookup, hopen, horder⟩ | ⟨hinvolves, horder⟩ :=
        htrade.effect hwf orderId
      · rw [hlookup, horder]
        refine .changed hopen rfl ?_ ?_
        · rw [htraded, if_pos hinvolves, hreleased, OrderView.filled_remaining_value]
          omega
        · intro h
          rw [hcloses] at h
          cases h
      · rw [horder]
        refine .untouched ?_ hreleased hcloses
        rw [htraded, hinvolves]
        rfl
  | cancelled hlookup hopen =>
      refine closed_effect hwf hlookup hopen rfl ?_ ?_ ?_
      · rw [EngineEvent.traded, hpayload]
      · rw [EngineEvent.released, hpayload]
      · rw [EngineEvent.closes, hpayload]
  | expired hlookup hopen =>
      refine closed_effect hwf hlookup hopen rfl ?_ ?_ ?_
      · rw [EngineEvent.traded, hpayload]
      · rw [EngineEvent.released, hpayload]
      · rw [EngineEvent.closes, hpayload]

/-! ## Along a history -/

/-- The account of one order: what is known of it from a history and from the book. -/
def Account (history : List EngineEvent) (orderId : OrderId) : Option OrderView → Prop
  | none => tradedTotal history orderId = 0 ∧ releasedTotal history orderId = 0 ∧
      history.countP (fun event => event.closes orderId) = 0
  | some order => order.intent.quantity.value = order.remainingQuantity.value +
        tradedTotal history orderId + releasedTotal history orderId ∧
      history.countP (fun event => event.closes orderId) ≤ 1 ∧
      (order.status.isOpen = true →
        history.countP (fun event => event.closes orderId) = 0)

theorem Effect.account {event : EngineEvent} {orderId : OrderId}
    {view view' : Option OrderView} (h : Effect event orderId view view')
    {history : List EngineEvent} (haccount : Account history orderId view) :
    Account (history ++ [event]) orderId view' := by
  cases h with
  | added hfull htraded hreleased hcloses =>
      obtain ⟨htradedTotal, hreleasedTotal, hcount⟩ := haccount
      simp [Account, hfull, htraded, hreleased, htradedTotal, hreleasedTotal, hcount, hcloses]
  | @changed order order' hopen hintent hremaining hcloses =>
      obtain ⟨hbalance, _, hcount⟩ := haccount
      refine ⟨?_, ?_, ?_⟩
      · rw [hintent, hbalance, hremaining, tradedTotal_snoc, releasedTotal_snoc]
        omega
      · rw [List.countP_append, hcount hopen, Nat.zero_add]
        exact List.countP_le_length
      · intro hopen'
        have hnot : event.closes orderId = false := by
          by_contra hne
          rw [hcloses (by simpa using hne)] at hopen'
          cases hopen'
        rw [List.countP_append, hcount hopen]
        simp [hnot]
  | untouched htraded hreleased hcloses =>
      cases view with
      | none => simpa [Account, htraded, hreleased, hcloses] using haccount
      | some order => simpa [Account, htraded, hreleased, hcloses] using haccount

theorem AppliedAll.account {marketId : MarketId} {history : List EngineEvent}
    {book : OrderBook} (h : AppliedAll (new marketId) history book) (orderId : OrderId) :
    Account history orderId (book.order orderId) := by
  refine h.history_invariant
    (P := fun history book => Account history orderId (book.order orderId))
    (fun hwf haccount happlied => (happlied.effect hwf orderId).account haccount)
    (new_wf marketId) ?_
  have hnone : (new marketId).order orderId = none := by simp [new, OrderBook.order]
  rw [hnone]
  exact ⟨rfl, rfl, rfl⟩

/-- Orders are never forgotten, and closed ones never change again. -/
theorem Effect.kept {event : EngineEvent} {orderId : OrderId} {order : OrderView}
    {view' : Option OrderView} (h : Effect event orderId (some order) view') :
    ∃ order', view' = some order' ∧ order'.intent = order.intent ∧
      (order.status.isOpen = false → order' = order) := by
  cases h with
  | @changed _ order' hopen hintent _ _ =>
      refine ⟨order', rfl, hintent, fun hclosed => ?_⟩
      rw [hopen] at hclosed
      cases hclosed
  | untouched _ _ _ => exact ⟨order, rfl, rfl, fun _ => rfl⟩

theorem Applied.tradeValid {book middle : OrderBook} {trade : Trade}
    (h : Applied book (.tradeExecuted trade) middle) :
    ∃ maker taker, TradeValid book trade maker taker := by
  cases h with
  | traded htrade => exact ⟨_, _, htrade⟩

theorem TradeValid.involves_open {book : OrderBook} {trade : Trade}
    {maker taker : OrderView} (h : TradeValid book trade maker taker) {orderId : OrderId}
    (hinvolves : trade.involves orderId = true) :
    ∃ order, book.order orderId = some order ∧ order.status.isOpen = true := by
  simp only [Trade.involves, Bool.or_eq_true, beq_iff_eq] at hinvolves
  obtain rfl | rfl := hinvolves
  · exact ⟨maker, h.maker_lookup, h.maker_open⟩
  · exact ⟨taker, h.taker_lookup, h.taker_open⟩

theorem AppliedAll.not_involved_of_closed {book book' : OrderBook}
    {events : List EngineEvent} (h : AppliedAll book events book') (hwf : book.Wf)
    {orderId : OrderId} {order : OrderView} (hlookup : book.order orderId = some order)
    (hclosed : order.status.isOpen = false) :
    ∀ event ∈ events, ∀ trade, event.payload = .tradeExecuted trade →
      trade.involves orderId = false := by
  induction h with
  | nil _ => simp
  | @cons book middle _ event events _ happlied _ ih =>
      have heffect := happlied.effect hwf orderId
      rw [hlookup] at heffect
      obtain ⟨order', hlookup', _, hsame⟩ := heffect.kept
      cases hsame hclosed
      intro other hother trade hpayload
      obtain rfl | hother := List.mem_cons.mp hother
      · rw [hpayload] at happlied
        obtain ⟨maker, taker, htrade⟩ := happlied.tradeValid
        by_contra hinvolves
        obtain ⟨found, hfound, hopen⟩ := htrade.involves_open (by simpa using hinvolves)
        rw [hlookup] at hfound
        cases hfound
        rw [hclosed] at hopen
        cases hopen
      · exact ih ((happlied.wf hwf).record event) hlookup' other hother trade hpayload

/-- What the book still knows about the events of its history. -/
structure Witnessed (history : List EngineEvent) (book : OrderBook) : Prop where
  accepted : ∀ event ∈ history, ∀ intent acceptedSequence,
    event.payload = .orderAccepted intent acceptedSequence →
      ∃ order, book.order intent.orderId = some order ∧ order.intent = intent
  traded : ∀ event ∈ history, ∀ trade, event.payload = .tradeExecuted trade →
    0 < trade.quantity.value ∧ ∃ maker taker,
      book.order trade.makerOrderId = some maker ∧
      book.order trade.takerOrderId = some taker ∧
      maker.intent.crosses trade.price = true ∧ taker.intent.crosses trade.price = true

theorem OrderIntent.crosses_own_price (intent : OrderIntent) :
    intent.crosses intent.price = true := by
  unfold OrderIntent.crosses
  cases intent.side <;> simp

theorem Witnessed.snoc {history : List EngineEvent} {book middle : OrderBook}
    (h : Witnessed history book) (hwf : book.Wf) {event : EngineEvent}
    (happlied : Applied book event.payload middle) :
    Witnessed (history ++ [event]) (middle.record event) := by
  have hkept : ∀ {orderId order}, book.order orderId = some order →
      ∃ order', middle.order orderId = some order' ∧ order'.intent = order.intent := by
    intro orderId order hlookup
    have heffect := happlied.effect hwf orderId
    rw [hlookup] at heffect
    obtain ⟨order', hlookup', hintent, _⟩ := heffect.kept
    exact ⟨order', hlookup', hintent⟩
  constructor
  case accepted =>
    intro other hother intent acceptedSequence hpayload
    obtain hother | hother := List.mem_append.mp hother
    · obtain ⟨order, hlookup, rfl⟩ := h.accepted other hother _ _ hpayload
      exact hkept hlookup
    · rw [List.mem_singleton.mp hother] at hpayload
      rw [hpayload] at happlied
      cases happlied with
      | accepted _ _ _ => exact ⟨_, (addOrder_order _ _ _).trans (if_pos rfl), rfl⟩
  case traded =>
    intro other hother trade hpayload
    obtain hother | hother := List.mem_append.mp hother
    · obtain ⟨hpositive, maker, taker, hmaker, htaker, hmakerLimit, htakerLimit⟩ :=
        h.traded other hother trade hpayload
      obtain ⟨maker', hmaker', hmakerIntent⟩ := hkept hmaker
      obtain ⟨taker', htaker', htakerIntent⟩ := hkept htaker
      refine ⟨hpositive, maker', taker', hmaker', htaker', ?_, ?_⟩
      · rwa [hmakerIntent]
      · rwa [htakerIntent]
    · rw [List.mem_singleton.mp hother] at hpayload
      have happliedTrade := happlied
      rw [hpayload] at happliedTrade
      obtain ⟨maker, taker, htrade⟩ := happliedTrade.tradeValid
      obtain ⟨maker', hmaker', hmakerIntent⟩ := hkept htrade.maker_lookup
      obtain ⟨taker', htaker', htakerIntent⟩ := hkept htrade.taker_lookup
      refine ⟨htrade.positive, maker', taker', hmaker', htaker', ?_, ?_⟩
      · rw [hmakerIntent, htrade.price]
        exact OrderIntent.crosses_own_price maker.intent
      · rw [htakerIntent]
        exact htrade.crosses

theorem AppliedAll.witnessed {marketId : MarketId} {history : List EngineEvent}
    {book : OrderBook} (h : AppliedAll (new marketId) history book) :
    Witnessed history book := by
  have hstep : ∀ {history book middle event}, book.Wf → Witnessed history book →
      Applied book event.payload middle →
        Witnessed (history ++ [event]) (middle.record event) :=
    fun hwf hwitnessed happlied => hwitnessed.snoc hwf happlied
  exact h.history_invariant hstep (new_wf marketId) ⟨by simp, by simp⟩

theorem tradedTotal_nonnegative (history : List EngineEvent) (orderId : OrderId) :
    0 ≤ tradedTotal history orderId := by
  refine List.sum_nonneg ?_
  intro amount hamount
  obtain ⟨event, _, rfl⟩ := List.mem_map.mp hamount
  exact event.traded_nonnegative orderId

theorem releasedTotal_nonnegative (history : List EngineEvent) (orderId : OrderId) :
    0 ≤ releasedTotal history orderId := by
  refine List.sum_nonneg ?_
  intro amount hamount
  obtain ⟨event, _, rfl⟩ := List.mem_map.mp hamount
  exact event.released_nonnegative orderId

/--
Every accepted order is accounted for by what remains of it, its trades and at
most one release; closed orders do not trade; trades are positive and within the
limits of both orders.
-/
theorem processAll_conserves_quantity [UuidV5] (marketId : MarketId)
    (commands : List EngineCommand) (hdistinct : EventIdsDistinct (commandIds commands)) :
    let book := (processAll commands (new marketId)).1
    let history := (processAll commands (new marketId)).2
    (∀ event ∈ history, ∀ intent acceptedSequence,
      event.payload = .orderAccepted intent acceptedSequence →
        ∃ order, book.order intent.orderId = some order ∧ order.intent = intent ∧
          intent.quantity.value = order.remainingQuantity.value +
            tradedTotal history intent.orderId + releasedTotal history intent.orderId ∧
          history.countP (fun e => e.closes intent.orderId) ≤ 1 ∧
          tradedTotal history intent.orderId ≤ intent.quantity.value) ∧
    (∀ first second, commands = first ++ second → ∀ orderId order,
      (processAll first (new marketId)).1.order orderId = some order →
      order.status.isOpen = false →
        ∀ event ∈ (processAll second (processAll first (new marketId)).1).2,
          ∀ trade, event.payload = .tradeExecuted trade →
            trade.involves orderId = false) ∧
    ∀ event ∈ history, ∀ trade, event.payload = .tradeExecuted trade →
      0 < trade.quantity.value ∧ ∃ maker taker,
        book.order trade.makerOrderId = some maker ∧
        book.order trade.takerOrderId = some taker ∧
        maker.intent.crosses trade.price = true ∧
        taker.intent.crosses trade.price = true := by
  intro book history
  obtain ⟨_, hall⟩ :=
    processAll_history hdistinct (subset_refl _) (new_live _ marketId)
  have hwitnessed := hall.witnessed
  refine ⟨?_, ?_, hwitnessed.traded⟩
  · intro event hevent intent acceptedSequence hpayload
    obtain ⟨order, hlookup, rfl⟩ := hwitnessed.accepted event hevent _ _ hpayload
    have haccount := hall.account order.intent.orderId
    rw [hlookup] at haccount
    obtain ⟨hbalance, hcount, _⟩ := haccount
    have hremaining := order.remainingQuantity.nonnegative
    have hreleased := releasedTotal_nonnegative history order.intent.orderId
    refine ⟨order, hlookup, rfl, hbalance, hcount, ?_⟩
    rw [hbalance]
    change tradedTotal history _ ≤ _ + tradedTotal history _ + releasedTotal history _
    omega
  · rintro first second rfl orderId order hlookup hclosed event hevent trade hpayload
    have hfirstIds : commandIds first ⊆ commandIds (first ++ second) := by
      rintro _ ⟨command, hcommand, rfl⟩
      exact ⟨command, List.mem_append_left _ hcommand, rfl⟩
    have hsecondIds : commandIds second ⊆ commandIds (first ++ second) := by
      rintro _ ⟨command, hcommand, rfl⟩
      exact ⟨command, List.mem_append_right _ hcommand, rfl⟩
    have hmiddle := processAll_live hdistinct hfirstIds marketId
    obtain ⟨_, hlater⟩ := processAll_history hdistinct hsecondIds hmiddle
    exact hlater.not_involved_of_closed hmiddle.wf hlookup hclosed event hevent trade
      hpayload

/-- The bid of `twoSided`, cancelled with three of its five units left. -/
def cancelledBid : List EngineCommand :=
  twoSided ++ [{
    commandId := ⟨4⟩
    shardSequence := 4
    occurredAt := 0
    kind := .cancelOrder ⟨1⟩ }]

theorem processAll_conserves_quantity_cancelledBid :
    let book := (@processAll UuidV5.positional cancelledBid (new ⟨1⟩)).1
    let history := (@processAll UuidV5.positional cancelledBid (new ⟨1⟩)).2
    tradedTotal history ⟨1⟩ = 2 ∧ releasedTotal history ⟨1⟩ = 3 ∧
      ∃ order, book.order ⟨1⟩ = some order ∧ 5 = order.remainingQuantity.value +
        tradedTotal history ⟨1⟩ + releasedTotal history ⟨1⟩ := by
  intro book history
  refine ⟨by decide +kernel, by decide +kernel, ?_⟩
  have haccepted : @event UuidV5.positional
      (placement 1 .buy ⟨10, by decide, by decide⟩ ⟨5, by decide, by decide⟩) 0
      (.orderAccepted ⟨⟨1⟩, ⟨1⟩, ⟨1⟩, ⟨1⟩, .buy, ⟨10, by decide, by decide⟩,
        ⟨5, by decide, by decide⟩, 0, none⟩ 1) ∈ history := by decide +kernel
  obtain ⟨order, hlookup, _, hbalance, _⟩ :=
    (@processAll_conserves_quantity UuidV5.positional ⟨1⟩ cancelledBid
      (UuidV5.positional_distinct _)).1 _ haccepted _ _ rfl
  exact ⟨order, hlookup, hbalance⟩

end OrderBook

end MatchPlane
