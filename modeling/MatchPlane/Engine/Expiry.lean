import MatchPlane.Engine.Accounting

/-!
# Expiry

The engine compares an order's expiry with the time of a command in two places:
when it admits the order, and when an explicit command expires it.  Nothing else
looks at the expiry of a resting order, so a maker whose time has passed can be
hit until that command arrives.
-/

namespace MatchPlane

open MatchPlane.Library

namespace OrderBook

theorem AppliedAll.kept {book book' : OrderBook} {events : List EngineEvent}
    (h : AppliedAll book events book') (hwf : book.Wf) {orderId : OrderId}
    {order : OrderView} (hlookup : book.order orderId = some order) :
    ∃ order', book'.order orderId = some order' ∧ order'.intent = order.intent ∧
      (order.status.isOpen = false → order' = order) := by
  induction h generalizing order with
  | nil _ => exact ⟨order, hlookup, rfl, fun _ => rfl⟩
  | cons _ happlied _ ih =>
      have heffect := happlied.effect hwf orderId
      rw [hlookup] at heffect
      obtain ⟨next, hnext, hintent, hsame⟩ := heffect.kept
      obtain ⟨order', hlookup', hintent', hsame'⟩ :=
        ih ((happlied.wf hwf).record _) hnext
      refine ⟨order', hlookup', hintent'.trans hintent, fun hclosed => ?_⟩
      cases hsame hclosed
      exact hsame' hclosed

theorem Applied.closed_of_expired {book middle : OrderBook} (hwf : book.Wf)
    {orderId : OrderId} {quantity : Quantity}
    (h : Applied book (.orderExpired orderId quantity) middle) :
    ∃ order, middle.order orderId = some order ∧ order.status.isOpen = false := by
  generalize hpayload : MatchingEvent.orderExpired orderId quantity = payload at h
  cases h with
  | expired hlookup _ =>
      cases hpayload
      exact ⟨_, (closed_order hwf hlookup _ _).trans (if_pos rfl), rfl⟩
  | _ => cases hpayload

/-- An expired order trades in no later event. -/
def NoTradeAfterExpiry (first second : EngineEvent) : Prop :=
  ∀ orderId quantity, first.payload = .orderExpired orderId quantity →
    ∀ trade, second.payload = .tradeExecuted trade → trade.involves orderId = false

theorem AppliedAll.noTradeAfterExpiry {book book' : OrderBook} {events : List EngineEvent}
    (h : AppliedAll book events book') (hwf : book.Wf) :
    events.Pairwise NoTradeAfterExpiry ∧
      ∀ e ∈ events, ∀ orderId quantity, e.payload = .orderExpired orderId quantity →
        ∃ order, book'.order orderId = some order ∧ order.status.isOpen = false := by
  induction h with
  | nil _ => simp
  | @cons book middle book' first rest _ happlied hrest ih =>
      have hmiddle := (happlied.wf hwf).record first
      obtain ⟨hpairwise, hclosed⟩ := ih hmiddle
      have hfirst : ∀ {orderId quantity}, first.payload = .orderExpired orderId quantity →
          ∃ order, (middle.record first).order orderId = some order ∧
            order.status.isOpen = false := by
        intro orderId quantity hpayload
        rw [hpayload] at happlied
        exact happlied.closed_of_expired hwf
      constructor
      · refine List.pairwise_cons.mpr ⟨?_, hpairwise⟩
        intro second hsecond orderId quantity hpayload trade htrade
        obtain ⟨order, hlookup, horder⟩ := hfirst hpayload
        exact hrest.not_involved_of_closed hmiddle hlookup horder second hsecond trade htrade
      · intro e he orderId quantity hpayload
        obtain rfl | he := List.mem_cons.mp he
        · obtain ⟨order, hlookup, horder⟩ := hfirst hpayload
          obtain ⟨order', hlookup', _, hsame⟩ := hrest.kept hmiddle hlookup
          cases hsame horder
          exact ⟨_, hlookup', horder⟩
        · exact hclosed e he orderId quantity hpayload

/-- What a history tells about expiry, with the book it led to. -/
structure ExpiryKept (book : OrderBook) (history : List EngineEvent) : Prop where
  wf : book.Wf
  taker : ∀ e ∈ history, ∀ trade, e.payload = .tradeExecuted trade →
    ∃ taker, book.order trade.takerOrderId = some taker ∧
      taker.intent.expiredAt e.occurredAt = false
  closed : ∀ e ∈ history, ∀ orderId quantity,
    e.payload = .orderExpired orderId quantity →
      ∃ order, book.order orderId = some order ∧ order.status.isOpen = false
  later : history.Pairwise NoTradeAfterExpiry

theorem ExpiryKept.applied {book book' : OrderBook} {history applied : List EngineEvent}
    (h : ExpiryKept book history) (hall : AppliedAll book applied book') :
    ExpiryKept book' history where
  wf := hall.wf h.wf
  taker := by
    intro e he trade hpayload
    obtain ⟨taker, hlookup, hunexpired⟩ := h.taker e he trade hpayload
    obtain ⟨taker', hlookup', hintent, _⟩ := hall.kept h.wf hlookup
    exact ⟨taker', hlookup', by rwa [hintent]⟩
  closed := by
    intro e he orderId quantity hpayload
    obtain ⟨order, hlookup, hclosed⟩ := h.closed e he orderId quantity hpayload
    obtain ⟨order', hlookup', _, hsame⟩ := hall.kept h.wf hlookup
    cases hsame hclosed
    exact ⟨_, hlookup', hclosed⟩
  later := h.later

section Runs

variable [UuidV5]

/-- A trade that `process` decided has the command's own order as its taker. -/
theorem Decided.taker_unexpired {book book' : OrderBook} (hwf : book.Wf)
    {command : EngineCommand} {events : List EngineEvent}
    (h : Decided book command events) (hall : AppliedAll book events book')
    {e : EngineEvent} (he : e ∈ events) {trade : Trade}
    (hpayload : e.payload = .tradeExecuted trade) :
    ∃ taker, book'.order trade.takerOrderId = some taker ∧
      taker.intent.expiredAt e.occurredAt = false := by
  cases h with
  | @placed intent _ hvalid _ =>
      obtain ⟨_, _, _, hunexpired⟩ := validateIntent_eq_ok_iff.mp hvalid
      obtain rfl | he := List.mem_cons.mp he
      · cases hpayload
      · obtain ⟨maker, quantity, ordinal, _, _, _, rfl⟩ := mem_tradeEvents he
        cases hpayload
        cases hall with
        | cons _ happlied hrest =>
            have hadmitted := (happlied.wf hwf).record
              (event command 0 (.orderAccepted intent command.shardSequence))
            generalize hfirst : (event command 0
              (.orderAccepted intent command.shardSequence)).payload = first at happlied
            cases happlied with
            | accepted _ _ _ =>
                cases hfirst
                obtain ⟨taker, htaker, hintent, _⟩ := hrest.kept hadmitted
                  ((addOrder_order _ _ _).trans (if_pos rfl))
                refine ⟨taker, htaker, ?_⟩
                rw [hintent]
                exact hunexpired
            | _ => cases hfirst
  | cancelled _ _ _ =>
      rw [List.mem_singleton] at he
      rw [he] at hpayload
      cases hpayload
  | expired _ _ _ _ =>
      rw [List.mem_singleton] at he
      rw [he] at hpayload
      cases hpayload

theorem ExpiryKept.decided {book book' : OrderBook} {history events : List EngineEvent}
    (h : ExpiryKept book history) {command : EngineCommand}
    (hdecided : Decided book command events) (hall : AppliedAll book events book') :
    ExpiryKept book' (history ++ events) := by
  have hold := h.applied hall
  obtain ⟨hpairwise, hclosed⟩ := hall.noTradeAfterExpiry h.wf
  constructor
  case wf => exact hold.wf
  case taker =>
    intro e he trade hpayload
    obtain he | he := List.mem_append.mp he
    · exact hold.taker e he trade hpayload
    · exact hdecided.taker_unexpired h.wf hall he hpayload
  case closed =>
    intro e he
    obtain he | he := List.mem_append.mp he
    · exact hold.closed e he
    · exact hclosed e he
  case later =>
    refine List.pairwise_append.mpr ⟨h.later, hpairwise, ?_⟩
    intro first hfirst second hsecond orderId quantity hpayload trade htrade
    obtain ⟨order, hlookup, horder⟩ := h.closed first hfirst orderId quantity hpayload
    exact hall.not_involved_of_closed h.wf hlookup horder second hsecond trade htrade

/-- The makers of a decision were open, and the command is a placement. -/
theorem Decided.maker_open {book : OrderBook} (hwf : book.Wf) {command : EngineCommand}
    {events : List EngineEvent} (h : Decided book command events) {e : EngineEvent}
    (he : e ∈ events) {trade : Trade} (hpayload : e.payload = .tradeExecuted trade) :
    e.occurredAt = command.occurredAt ∧
      (∃ intent, command.kind = .placeLimitOrder intent) ∧
      ∃ maker, book.order trade.makerOrderId = some maker ∧
        maker.status.isOpen = true := by
  cases h with
  | placed hkind _ _ =>
      obtain rfl | he := List.mem_cons.mp he
      · cases hpayload
      · obtain ⟨maker, quantity, ordinal, hfill, _, _, rfl⟩ := mem_tradeEvents he
        cases hpayload
        obtain ⟨hlookup, hopen, _⟩ := (mem_makersFor hwf).mp (mem_of_mem_fills hfill)
        exact ⟨rfl, ⟨_, hkind⟩, maker, hlookup, hopen⟩
  | cancelled _ _ _ =>
      rw [List.mem_singleton] at he
      rw [he] at hpayload
      cases hpayload
  | expired _ _ _ _ =>
      rw [List.mem_singleton] at he
      rw [he] at hpayload
      cases hpayload

/-- Every placement of the run meets a book without open orders past their expiry. -/
def ExpiredInTime (marketId : MarketId) (commands : List EngineCommand) : Prop :=
  ∀ first command second, commands = first ++ command :: second →
    (∃ intent, command.kind = .placeLimitOrder intent) →
      ∀ orderId order, (processAll first (new marketId)).1.order orderId = some order →
        order.status.isOpen = true → order.intent.expiredAt command.occurredAt = false

theorem processAll_maker_unexpired (marketId : MarketId) (commands : List EngineCommand)
    (h : ExpiredInTime marketId commands) :
    ∀ e ∈ (processAll commands (new marketId)).2, ∀ trade,
      e.payload = .tradeExecuted trade →
        ∃ maker, (processAll commands (new marketId)).1.order trade.makerOrderId =
          some maker ∧ maker.intent.expiredAt e.occurredAt = false := by
  induction commands using List.reverseRecOn with
  | nil =>
      intro e he
      cases he
  | append_singleton commands command ih =>
      have hbefore : ExpiredInTime marketId commands := by
        rintro first other second rfl
        exact h first other (second ++ [command]) (by simp)
      have hnow := h commands command [] rfl
      obtain ⟨hwf, _⟩ := processAll_wf_sequenced marketId commands
      -- Trades of earlier commands keep their makers through the last command.
      have hold : ∀ {book' applied}, AppliedAll (processAll commands (new marketId)).1
          applied book' → ∀ e ∈ (processAll commands (new marketId)).2, ∀ trade,
          e.payload = .tradeExecuted trade → ∃ maker,
            book'.order trade.makerOrderId = some maker ∧
              maker.intent.expiredAt e.occurredAt = false := by
        intro book' applied hall e he trade hpayload
        obtain ⟨maker, hlookup, hunexpired⟩ := ih hbefore e he trade hpayload
        obtain ⟨maker', hlookup', hintent, _⟩ := hall.kept hwf hlookup
        exact ⟨maker', hlookup', by rwa [hintent]⟩
      unfold processAll at hwf hnow hold ⊢
      rw [run_snoc]
      change ∀ e ∈ _ ++ emitted command _, ∀ trade, _ → ∃ maker,
        (after (process command) _).order _ = _ ∧ _
      unfold after emitted
      obtain ⟨_, hrun⟩ | ⟨_, error, hrun⟩ | ⟨_, events, hdecided, ⟨book', hrun, hall⟩ |
        ⟨error, segment, book', hrun, _, hall⟩⟩ := process_outcome hwf command
      · rw [hrun]
        simpa using hold (.nil _)
      · rw [hrun]
        simpa using hold (.nil _)
      · rw [hrun]
        intro e he trade hpayload
        obtain he | he := List.mem_append.mp he
        · exact hold hall e he trade hpayload
        · obtain ⟨htime, hplaced, maker, hlookup, hopen⟩ :=
            hdecided.maker_open hwf he hpayload
          obtain ⟨maker', hlookup', hintent, _⟩ := hall.kept hwf hlookup
          refine ⟨maker', hlookup', ?_⟩
          rw [hintent, htime]
          exact hnow hplaced _ maker hlookup hopen
      · rw [hrun]
        simpa using hold hall

theorem processAll_expiryKept (marketId : MarketId) (commands : List EngineCommand) :
    ExpiryKept (processAll commands (new marketId)).1
      (processAll commands (new marketId)).2 := by
  have hstep : ∀ command ∈ commands, ∀ book history, ExpiryKept book history →
      ExpiryKept (processStep book command).1
        (history ++ (processStep book command).2) := by
    intro command _ book history h
    change ExpiryKept (after (process command) book) (history ++ emitted command book)
    unfold after emitted
    obtain ⟨_, hrun⟩ | ⟨_, error, hrun⟩ | ⟨_, events, hdecided, ⟨book', hrun, hall⟩ |
      ⟨error, segment, book', hrun, _, hall⟩⟩ := process_outcome h.wf command
    · rw [hrun]
      simpa using h
    · rw [hrun]
      simpa using h
    · rw [hrun]
      exact h.decided hdecided hall
    · rw [hrun]
      simpa using h.applied hall
  refine run_invariant processStep hstep ?_
  exact ⟨new_wf marketId, by simp, by simp, List.Pairwise.nil⟩

end Runs

/--
No taker trades at or after its own expiry, no order trades after a command
expired it, and no maker trades past its expiry when such commands come in time.
-/
theorem processAll_expired_taker_never_trades [UuidV5] (marketId : MarketId)
    (commands : List EngineCommand) :
    let book := (processAll commands (new marketId)).1
    let history := (processAll commands (new marketId)).2
    (∀ e ∈ history, ∀ trade, e.payload = .tradeExecuted trade →
      ∃ taker, book.order trade.takerOrderId = some taker ∧
        taker.intent.expiredAt e.occurredAt = false) ∧
    history.Pairwise NoTradeAfterExpiry ∧
    (ExpiredInTime marketId commands →
      ∀ e ∈ history, ∀ trade, e.payload = .tradeExecuted trade →
        ∃ maker, book.order trade.makerOrderId = some maker ∧
          maker.intent.expiredAt e.occurredAt = false) :=
  let h := processAll_expiryKept marketId commands
  ⟨h.taker, h.later, processAll_maker_unexpired marketId commands⟩

/-- An ask that expires at 10. -/
def expiringAsk : OrderIntent where
  orderId := ⟨1⟩
  tenantId := ⟨1⟩
  domainId := ⟨1⟩
  marketId := ⟨1⟩
  side := .sell
  price := .literal 10 (.refl true)
  quantity := .literal 5 (.refl true)
  submittedAt := 0
  expiresAt := some 10

/-- A bid for the same price and quantity. -/
def lateBid : OrderIntent :=
  { expiringAsk with orderId := ⟨2⟩, side := .buy, submittedAt := 20, expiresAt := none }

/-- The ask is placed at 0 and the bid at 20, with no expiry command in between. -/
def expiredAsk : List EngineCommand :=
  [⟨⟨1⟩, 1, 0, .placeLimitOrder expiringAsk⟩, ⟨⟨2⟩, 2, 20, .placeLimitOrder lateBid⟩]

theorem expiredAsk_trades :
    let book := (@processAll UuidV5.positional expiredAsk (new ⟨1⟩)).1
    let history := (@processAll UuidV5.positional expiredAsk (new ⟨1⟩)).2
    ∃ e ∈ history, ∃ trade maker, e.payload = .tradeExecuted trade ∧
      book.order trade.makerOrderId = some maker ∧
        maker.intent.expiredAt e.occurredAt = true := by
  intro book history
  let trade : EngineEvent :=
    @tradeEvent UuidV5.positional ⟨⟨2⟩, 2, 20, .placeLimitOrder lateBid⟩ 1 lateBid
      ⟨expiringAsk, expiringAsk.quantity, .open, 1⟩ expiringAsk.price expiringAsk.quantity
  have hemitted : trade ∈ history := by decide +kernel
  have hmaker : book.order ⟨1⟩ = some ⟨expiringAsk, Quantity.zero, .filled, 1⟩ := by
    decide +kernel
  exact ⟨trade, hemitted, _, _, rfl, hmaker, by decide⟩

end OrderBook

end MatchPlane
