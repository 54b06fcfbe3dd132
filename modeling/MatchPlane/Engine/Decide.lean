import MatchPlane.Engine.Matching

/-!
# What the engine decides

`Decided` lists the three kinds of commands with the checks they passed and the
events they emit; it is the inversion of `decideCommand`.  The makers of a
placement are the open crossing orders of the other side, each of them once.
-/

namespace MatchPlane

open MatchPlane.Library

namespace OrderBook

/-! ## Membership and order of the makers -/

theorem mem_queueViews {book : OrderBook} {queue : List OrderId} {order : OrderView} :
    order ∈ book.queueViews queue ↔
      ∃ orderId ∈ queue, book.order orderId = some order := by
  simp [queueViews, List.mem_filterMap]

theorem mem_makersFor {book : OrderBook} (hwf : book.Wf) {intent : OrderIntent}
    {order : OrderView} :
    order ∈ book.makersFor intent ↔
      book.order order.intent.orderId = some order ∧ order.status.isOpen = true ∧
        order.intent.side = intent.side.opposite ∧
          intent.crosses order.intent.price = true := by
  simp only [makersFor, List.mem_flatMap, List.mem_filter, Prod.exists, mem_levels,
    mem_queueViews]
  constructor
  · rintro ⟨price, queue, ⟨hlevel, hcrosses⟩, orderId, hmem, hlookup⟩
    obtain ⟨found, hfound, hopen, hside, rfl⟩ := hwf.owner hlevel hmem
    rw [hlookup] at hfound
    cases hfound
    rw [hwf.order_id hlookup]
    exact ⟨hlookup, hopen, hside, hcrosses⟩
  · rintro ⟨hlookup, hopen, hside, hcrosses⟩
    obtain ⟨queue, hlevel, hmem⟩ := hwf.queued hlookup hopen
    rw [hside] at hlevel
    exact ⟨_, queue, ⟨hlevel, hcrosses⟩, _, hmem, hlookup⟩

/--
The makers come level by level, and queue by queue within a level: a relation
that holds along both holds along all of them.
-/
theorem makersFor_pairwise {book : OrderBook} (hwf : book.Wf) {intent : OrderIntent}
    {r : OrderView → OrderView → Prop}
    (hqueue : ∀ {price queue}, book.level intent.side.opposite price = some queue →
      queue.Pairwise fun firstId secondId => ∀ first, book.order firstId = some first →
        ∀ second, book.order secondId = some second → r first second)
    (hprice : ∀ first second, first ∈ book.makersFor intent →
      second ∈ book.makersFor intent →
      better intent.side.opposite first.intent.price second.intent.price →
        r first second) :
    (book.makersFor intent).Pairwise r := by
  have hmem : ∀ {level order}, level ∈ (book.levels intent.side.opposite).filter
      (fun level => intent.crosses level.1) → order ∈ book.queueViews level.2 →
      order ∈ book.makersFor intent ∧ order.intent.price = level.1 := by
    rintro ⟨price, queue⟩ order hlevel horder
    refine ⟨List.mem_flatMap.mpr ⟨_, hlevel, horder⟩, ?_⟩
    obtain ⟨orderId, hmem, hlookup⟩ := mem_queueViews.mp horder
    obtain ⟨found, hfound, _, _, hprice⟩ :=
      hwf.owner (mem_levels.mp (List.mem_filter.mp hlevel).1) hmem
    rw [hlookup] at hfound
    cases hfound
    exact hprice
  rw [makersFor, List.pairwise_flatMap]
  constructor
  · rintro ⟨price, queue⟩ hlevel
    rw [queueViews, List.pairwise_filterMap]
    exact hqueue (mem_levels.mp (List.mem_filter.mp hlevel).1)
  · refine List.Pairwise.imp_of_mem ?_ ((book.levels_pairwise _).filter _)
    intro first second hfirst hsecond hbetter order horder other hother
    obtain ⟨horderMem, horderPrice⟩ := hmem hfirst horder
    obtain ⟨hotherMem, hotherPrice⟩ := hmem hsecond hother
    refine hprice order other horderMem hotherMem ?_
    rw [horderPrice, hotherPrice]
    exact hbetter

theorem better_irrefl (side : OrderSide) (price : Price) : ¬better side price price := by
  cases side <;> exact lt_irrefl _

theorem makersFor_ids_nodup {book : OrderBook} (hwf : book.Wf) (intent : OrderIntent) :
    ((book.makersFor intent).map fun order => order.intent.orderId).Nodup := by
  rw [List.Nodup, List.pairwise_map]
  refine makersFor_pairwise hwf ?_ ?_
  · intro price queue hlevel
    refine (hwf.queue_nodup hlevel).imp ?_
    intro firstId secondId hne first hfirst second hsecond
    rw [hwf.order_id hfirst, hwf.order_id hsecond]
    exact hne
  · intro first second hfirst hsecond hbetter hid
    have hlookup := ((mem_makersFor hwf).mp hfirst).1
    rw [hid, ((mem_makersFor hwf).mp hsecond).1] at hlookup
    cases hlookup
    exact better_irrefl _ _ hbetter

theorem makersFor_nodup {book : OrderBook} (hwf : book.Wf) (intent : OrderIntent) :
    (book.makersFor intent).Nodup :=
  List.Nodup.of_map _ (makersFor_ids_nodup hwf intent)

/-! ## Inversion of the decisions -/

theorem validateIntent_eq_ok_iff {book : OrderBook} {command : EngineCommand}
    {intent : OrderIntent} :
    book.validateIntent command intent = .ok () ↔
      book.validateOrderScope intent = .ok () ∧ book.order intent.orderId = none ∧
        0 < intent.quantity.value ∧ intent.expiredAt command.occurredAt = false := by
  simp only [validateIntent, bind, Except.bind, pure, Except.pure, throw, throwThe,
    MonadExceptOf.throw]
  cases book.validateOrderScope intent with
  | error error => simp
  | ok _ =>
      simp only [guard_eq_ok_iff, and_true, true_and]
      rw [OrderedMap.not_mem_iff_lookup, Bool.not_eq_true, Quantity.isZero_eq_false_iff,
        Bool.not_eq_true]
      rfl

section Decided

variable [UuidV5]

/-- The fills of a placement on a book. -/
def fillsFor (book : OrderBook) (intent : OrderIntent) : List (OrderView × Quantity) :=
  fills intent.quantity (book.makersFor intent)

/-- The events of an accepted placement. -/
def placementEvents (book : OrderBook) (command : EngineCommand) (intent : OrderIntent) :
    List EngineEvent :=
  event command 0 (.orderAccepted intent command.shardSequence) ::
    tradeEvents command intent 0 (book.fillsFor intent)

inductive Decided (book : OrderBook) (command : EngineCommand) :
    List EngineEvent → Prop
  | placed {intent : OrderIntent} (hkind : command.kind = .placeLimitOrder intent)
      (hvalid : book.validateIntent command intent = .ok ())
      (hordinal : (book.fillsFor intent).length ≤ u32Max) :
      Decided book command (book.placementEvents command intent)
  | cancelled {orderId : OrderId} {order : OrderView}
      (hkind : command.kind = .cancelOrder orderId)
      (hlookup : book.order orderId = some order)
      (hopen : order.status.isOpen = true) :
      Decided book command
        [event command 0 (.orderCancelled orderId order.remainingQuantity)]
  | expired {orderId : OrderId} {order : OrderView}
      (hkind : command.kind = .expireOrder orderId)
      (hlookup : book.order orderId = some order)
      (hopen : order.status.isOpen = true)
      (hexpired : order.intent.expiredAt command.occurredAt = true) :
      Decided book command
        [event command 0 (.orderExpired orderId order.remainingQuantity)]

theorem decidePlaceLimitOrder_eq_ok_iff {book : OrderBook} (hwf : book.Wf)
    {command : EngineCommand} {intent : OrderIntent} {events : List EngineEvent} :
    book.decidePlaceLimitOrder command intent = .ok events ↔
      book.validateIntent command intent = .ok () ∧
        (book.fillsFor intent).length ≤ u32Max ∧
          events = book.placementEvents command intent := by
  unfold decidePlaceLimitOrder
  rw [bind_eq_ok_iff]
  constructor
  · rintro ⟨_, hvalid, h⟩
    obtain ⟨_, _, hpositive, _⟩ := validateIntent_eq_ok_iff.mp hvalid
    refine ⟨hvalid, ?_⟩
    dsimp only at h
    rw [matchSide_eq hwf, matchMakers_eq _ _ _ _ hpositive (Nat.zero_le _)] at h
    by_cases hoverflow : u32Max < 0 + (fills intent.quantity (book.makersFor intent)).length
    · rw [if_pos hoverflow] at h
      cases h
    · rw [if_neg hoverflow] at h
      simp only [Functor.map, Except.map, bind, Except.bind, Except.ok.injEq,
        List.singleton_append] at h
      exact ⟨by simpa [fillsFor] using hoverflow, h.symm⟩
  · rintro ⟨hvalid, hordinal, rfl⟩
    obtain ⟨_, _, hpositive, _⟩ := validateIntent_eq_ok_iff.mp hvalid
    refine ⟨(), hvalid, ?_⟩
    have hfits : ¬u32Max < 0 + (fills intent.quantity (book.makersFor intent)).length := by
      simpa [fillsFor] using hordinal
    dsimp only
    rw [matchSide_eq hwf, matchMakers_eq _ _ _ _ hpositive (Nat.zero_le _), if_neg hfits]
    rfl

theorem decideCommand_eq_ok_iff {book : OrderBook} (hwf : book.Wf)
    {command : EngineCommand} {events : List EngineEvent} :
    book.decideCommand command = .ok events ↔ Decided book command events := by
  constructor
  · intro h
    unfold decideCommand at h
    cases hkind : command.kind with
    | placeLimitOrder intent =>
        rw [hkind] at h
        obtain ⟨hvalid, hordinal, rfl⟩ := (decidePlaceLimitOrder_eq_ok_iff hwf).mp h
        exact .placed hkind hvalid hordinal
    | cancelOrder orderId =>
        rw [hkind] at h
        obtain ⟨order, hopen, h⟩ := bind_eq_ok_iff.mp h
        obtain ⟨hlookup, horder⟩ := openOrder_eq_ok_iff.mp hopen
        cases h
        exact .cancelled hkind hlookup horder
    | expireOrder orderId =>
        rw [hkind] at h
        obtain ⟨order, hopen, h⟩ := bind_eq_ok_iff.mp h
        obtain ⟨hlookup, horder⟩ := openOrder_eq_ok_iff.mp hopen
        cases hexpired : order.intent.expiredAt command.occurredAt with
        | false =>
            rw [hexpired] at h
            cases h
        | true =>
            rw [hexpired] at h
            cases h
            exact .expired hkind hlookup horder hexpired
  · intro h
    unfold decideCommand
    cases h with
    | placed hkind hvalid hordinal =>
        rw [hkind]
        exact (decidePlaceLimitOrder_eq_ok_iff hwf).mpr ⟨hvalid, hordinal, rfl⟩
    | cancelled hkind hlookup hopen =>
        rw [hkind]
        exact bind_eq_ok_iff.mpr ⟨_, openOrder_eq_ok_iff.mpr ⟨hlookup, hopen⟩, rfl⟩
    | expired hkind hlookup hopen hexpired =>
        rw [hkind]
        refine bind_eq_ok_iff.mpr ⟨_, openOrder_eq_ok_iff.mpr ⟨hlookup, hopen⟩, ?_⟩
        rw [if_pos hexpired]

/-! ## The events of a decision -/

theorem mem_tradeEvents {command : EngineCommand} {intent : OrderIntent} {ordinal : Nat}
    {allocation : List (OrderView × Quantity)} {e : EngineEvent}
    (h : e ∈ tradeEvents command intent ordinal allocation) :
    ∃ maker quantity tradeOrdinal, (maker, quantity) ∈ allocation ∧
      ordinal < tradeOrdinal ∧ tradeOrdinal ≤ ordinal + allocation.length ∧
      e = tradeEvent command tradeOrdinal intent maker maker.intent.price quantity := by
  induction allocation generalizing ordinal with
  | nil => cases h
  | cons entry rest ih =>
      obtain ⟨maker, quantity⟩ := entry
      obtain rfl | h := List.mem_cons.mp h
      · refine ⟨maker, quantity, ordinal + 1, List.mem_cons_self, Nat.lt_succ_self _, ?_,
          rfl⟩
        simp only [List.length_cons]
        omega
      · obtain ⟨other, amount, tradeOrdinal, hmem, hlower, hupper, rfl⟩ := ih h
        refine ⟨other, amount, tradeOrdinal, List.mem_cons_of_mem _ hmem, by omega, ?_,
          rfl⟩
        simp only [List.length_cons]
        omega

/-- Every event of a decision is labelled by its command and a 32-bit ordinal. -/
theorem Decided.event_of_mem {book : OrderBook} {command : EngineCommand}
    {events : List EngineEvent} (h : Decided book command events) {e : EngineEvent}
    (he : e ∈ events) :
    ∃ ordinal payload, ordinal ≤ u32Max ∧ e = event command ordinal payload := by
  cases h with
  | placed _ _ hordinal =>
      obtain rfl | he := List.mem_cons.mp he
      · exact ⟨0, _, Nat.zero_le _, rfl⟩
      · obtain ⟨_, _, tradeOrdinal, _, _, hupper, rfl⟩ := mem_tradeEvents he
        exact ⟨tradeOrdinal, _, by omega, rfl⟩
  | cancelled _ _ _ =>
      rw [List.mem_singleton] at he
      exact ⟨0, _, Nat.zero_le _, he⟩
  | expired _ _ _ _ =>
      rw [List.mem_singleton] at he
      exact ⟨0, _, Nat.zero_le _, he⟩

/-- A decision is one leading event, and trades if that event is an acceptance. -/
theorem Decided.shape {book : OrderBook} {command : EngineCommand}
    {events : List EngineEvent} (h : Decided book command events) :
    ∃ first rest, events = first :: rest ∧
      (∀ intent acceptedSequence,
        first.payload = .orderAccepted intent acceptedSequence →
          acceptedSequence = command.shardSequence) ∧
      ∀ e ∈ rest, ∃ trade, e.payload = .tradeExecuted trade := by
  cases h with
  | placed _ _ _ =>
      refine ⟨_, _, rfl, ?_, ?_⟩
      · intro intent acceptedSequence h
        cases h
        rfl
      · intro e he
        obtain ⟨_, _, _, _, _, _, rfl⟩ := mem_tradeEvents he
        exact ⟨_, rfl⟩
  | cancelled _ _ _ =>
      refine ⟨_, [], rfl, ?_, ?_⟩
      · intro intent acceptedSequence h
        cases h
      · intro e he
        cases he
  | expired _ _ _ _ =>
      refine ⟨_, [], rfl, ?_, ?_⟩
      · intro intent acceptedSequence h
        cases h
      · intro e he
        cases he

end Decided

end OrderBook

end MatchPlane
