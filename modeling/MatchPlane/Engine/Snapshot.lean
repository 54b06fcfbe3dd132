import MatchPlane.Engine.Priority

/-!
# Snapshots

A snapshot stores the orders and the bookkeeping, but no queues.  Restoring it
pushes the open orders in the order of their acceptance, which rebuilds every
queue because acceptance numbers increase along each of them.

The JSON codec, like the digest, comes from a third-party crate and is a parameter.
-/

namespace MatchPlane

open MatchPlane.Library

structure SnapshotState where
  marketId : MarketId
  lastCommandSequence : Nat
  orders : List OrderView
  processedCommands : List EventId
  appliedEvents : List EventId
  deriving DecidableEq, Repr

/-- The JSON codec of snapshots; its errors carry a message. -/
class SnapshotCodec where
  toVec : SnapshotState → Except String Bytes
  fromSlice : Bytes → Except String SnapshotState

/-- A snapshot can be written, and is read back as it was. -/
def SnapshotCodec.Lossless [SnapshotCodec] (state : SnapshotState) : Prop :=
  ∃ bytes, toVec state = .ok bytes ∧ fromSlice bytes = .ok state

namespace OrderBook

/-- The sort key of a snapshot's orders. -/
def snapshotKey (order : OrderView) : ℕ ×ₗ OrderId :=
  toLex (order.acceptedSequence, order.intent.orderId)

def sortedOrders (orders : List OrderView) : List OrderView :=
  orders.mergeSort fun first second => snapshotKey first ≤ snapshotKey second

def snapshotState (book : OrderBook) : SnapshotState where
  marketId := book.marketId
  lastCommandSequence := book.lastCommandSequence
  orders := sortedOrders book.orderViews
  processedCommands := book.processedCommands.sort (· ≤ ·)
  appliedEvents := book.appliedEvents.sort (· ≤ ·)

/-- One turn of the loop that restores the orders of a snapshot. -/
def restoreOrder (book : OrderBook) (order : OrderView) :
    Except EngineError OrderBook := do
  book.validateOrderScope order.intent
  if order.intent.orderId ∈ book.orders then
    throw (.eventInvariant s!"snapshot contains duplicate order {order.intent.orderId}")
  let book := { book with orders := book.orders.insert order.intent.orderId order }
  if order.status.isOpen then .ok (pushToLevel order book) else .ok book

def fromSnapshotState (snapshot : SnapshotState) : Except EngineError OrderBook :=
  let book := { new snapshot.marketId with
    lastCommandSequence := snapshot.lastCommandSequence
    processedCommands := snapshot.processedCommands.toFinset
    appliedEvents := snapshot.appliedEvents.toFinset }
  snapshot.orders.foldlM restoreOrder book

section Codec

variable [SnapshotCodec]

def snapshotBytes (book : OrderBook) : Except EngineError Bytes :=
  match SnapshotCodec.toVec book.snapshotState with
  | .ok bytes => .ok bytes
  | .error message => .error (.snapshotSerialization message)

def stateHash [Sha256] (book : OrderBook) : Except EngineError Bytes :=
  book.snapshotBytes.map Sha256.digest

def fromSnapshotBytes (bytes : Bytes) : Except EngineError OrderBook :=
  match SnapshotCodec.fromSlice bytes with
  | .ok snapshot => fromSnapshotState snapshot
  | .error message => .error (.snapshotSerialization message)

end Codec

/-! ## The sorted orders -/

theorem snapshotKey_trans (first second third : OrderView)
    (h : decide (snapshotKey first ≤ snapshotKey second) = true)
    (h' : decide (snapshotKey second ≤ snapshotKey third) = true) :
    decide (snapshotKey first ≤ snapshotKey third) = true := by
  simp only [decide_eq_true_eq] at h h' ⊢
  exact h.trans h'

theorem snapshotKey_total (first second : OrderView) :
    (decide (snapshotKey first ≤ snapshotKey second) ||
      decide (snapshotKey second ≤ snapshotKey first)) = true := by
  simpa using le_total (snapshotKey first) (snapshotKey second)

/-- Orders of one book have different keys. -/
theorem snapshotKey_injective {book : OrderBook} (hwf : book.Wf) {first second : OrderView}
    (hfirst : first ∈ book.orderViews) (hsecond : second ∈ book.orderViews)
    (h : snapshotKey first = snapshotKey second) : first = second := by
  obtain ⟨firstId, hfirstLookup⟩ := mem_orderViews.mp hfirst
  obtain ⟨secondId, hsecondLookup⟩ := mem_orderViews.mp hsecond
  have hid : first.intent.orderId = second.intent.orderId :=
    congrArg (fun key => (ofLex key).2) h
  rw [hwf.order_id hfirstLookup, hwf.order_id hsecondLookup] at hid
  rw [hid, hsecondLookup] at hfirstLookup
  cases hfirstLookup
  rfl

theorem sortedOrders_perm (orders : List OrderView) : (sortedOrders orders).Perm orders :=
  List.mergeSort_perm orders _

theorem mem_sortedOrders {orders : List OrderView} {order : OrderView} :
    order ∈ sortedOrders orders ↔ order ∈ orders :=
  (sortedOrders_perm orders).mem_iff

theorem sortedOrders_pairwise (orders : List OrderView) :
    (sortedOrders orders).Pairwise fun first second =>
      snapshotKey first ≤ snapshotKey second := by
  have hpairwise := List.pairwise_mergeSort snapshotKey_trans snapshotKey_total orders
  exact hpairwise.imp fun h => by simpa using h

/-- The order in which the order map is iterated does not show in a snapshot. -/
theorem snapshotState_orders_perm {book : OrderBook} (hwf : book.Wf)
    {views : List OrderView} (h : views.Perm book.orderViews) :
    sortedOrders views = book.snapshotState.orders := by
  have hperm : (sortedOrders views).Perm (sortedOrders book.orderViews) :=
    (sortedOrders_perm views).trans (h.trans (sortedOrders_perm _).symm)
  refine hperm.eq_of_pairwise ?_ (sortedOrders_pairwise _) (sortedOrders_pairwise _)
  intro first second hfirst hsecond hle hge
  exact snapshotKey_injective hwf (h.mem_iff.mp (mem_sortedOrders.mp hfirst))
    (mem_sortedOrders.mp hsecond) (le_antisymm hle hge)

/-! ## Restoring -/

/-- The queue that pushing these orders builds at a side and price. -/
def queueOf (orders : List OrderView) (side : OrderSide) (price : Price) :
    Option (List OrderId) :=
  match (orders.filter fun order => order.status.isOpen &&
      order.intent.side == side && order.intent.price == price).map
      fun order => order.intent.orderId with
  | [] => none
  | orderId :: queue => some (orderId :: queue)

/-- A book in the middle of being restored. -/
structure Restored (book : OrderBook) (done : List OrderView) (image : OrderBook) :
    Prop where
  marketId : image.marketId = book.marketId
  processedCommands : image.processedCommands = book.processedCommands
  appliedEvents : image.appliedEvents = book.appliedEvents
  lastCommandSequence : image.lastCommandSequence = book.lastCommandSequence
  order : ∀ orderId order, image.order orderId = some order ↔
    order ∈ done ∧ order.intent.orderId = orderId
  level : ∀ side price, image.level side price = queueOf done side price

theorem queueOf_snoc_of_ne {orders : List OrderView} {order : OrderView}
    {side : OrderSide} {price : Price}
    (h : ¬(order.status.isOpen = true ∧ order.intent.side = side ∧
      order.intent.price = price)) :
    queueOf (orders ++ [order]) side price = queueOf orders side price := by
  have hfilter : ([order].filter fun order => order.status.isOpen &&
      order.intent.side == side && order.intent.price == price) = [] := by
    simpa [and_assoc] using h
  simp only [queueOf, List.filter_append, hfilter, List.append_nil]

theorem queueOf_snoc_self {orders : List OrderView} {order : OrderView}
    (hopen : order.status.isOpen = true) :
    queueOf (orders ++ [order]) order.intent.side order.intent.price =
      some ((queueOf orders order.intent.side order.intent.price).getD [] ++
        [order.intent.orderId]) := by
  have hfilter : ([order].filter fun other => other.status.isOpen &&
      other.intent.side == order.intent.side &&
        other.intent.price == order.intent.price) = [order] := by
    simp [hopen]
  simp only [queueOf, List.filter_append, hfilter, List.map_append, List.map_cons,
    List.map_nil]
  cases (orders.filter fun other => other.status.isOpen &&
      other.intent.side == order.intent.side &&
        other.intent.price == order.intent.price).map
      fun other => other.intent.orderId <;> rfl

theorem Restored.snoc {book image : OrderBook} (hwf : book.Wf) {done : List OrderView}
    (h : Restored book done image) (hdone : ∀ order ∈ done, order ∈ book.orderViews)
    {order : OrderView} (horder : order ∈ book.orderViews)
    (hnew : ∀ other ∈ done, other.intent.orderId ≠ order.intent.orderId) :
    ∃ image', image.restoreOrder order = .ok image' ∧
      Restored book (done ++ [order]) image' := by
  obtain ⟨orderId, hlookup⟩ := mem_orderViews.mp horder
  have hscope : image.validateOrderScope order.intent = .ok () := by
    rw [validateOrderScope, guard_eq_ok_iff, guard_eq_ok_iff, not_not]
    refine ⟨(hwf.market hlookup).trans h.marketId.symm, ?_, rfl⟩
    cases hviews : image.orderViews with
    | nil => simp
    | cons first rest =>
        have hfirst : first ∈ image.orderViews := by
          rw [hviews]
          exact List.mem_cons_self
        obtain ⟨firstId, hfirstLookup⟩ := mem_orderViews.mp hfirst
        obtain ⟨hfirstDone, _⟩ := (h.order _ _).mp hfirstLookup
        obtain ⟨bookId, hbookLookup⟩ := mem_orderViews.mp (hdone first hfirstDone)
        obtain ⟨htenant, hdomain⟩ := hwf.scope hbookLookup hlookup
        simp [htenant, hdomain]
  have hfresh : order.intent.orderId ∉ image.orders := by
    intro hmem
    obtain ⟨other, hother⟩ := OrderedMap.mem_iff_lookup.mp hmem
    obtain ⟨hotherDone, hotherId⟩ := (h.order _ _).mp hother
    exact hnew other hotherDone hotherId
  have horders : ∀ orderId found, (image.setOrder order).order orderId = some found ↔
      found ∈ done ++ [order] ∧ found.intent.orderId = orderId := by
    intro orderId found
    rw [setOrder_order, List.mem_append, List.mem_singleton]
    by_cases heq : orderId = order.intent.orderId
    · subst heq
      rw [if_pos rfl, Option.some.injEq]
      constructor
      · rintro rfl
        exact ⟨.inr rfl, rfl⟩
      · rintro ⟨hfound | rfl, hid⟩
        · exact absurd hid (hnew found hfound)
        · rfl
    · rw [if_neg heq, h.order]
      constructor
      · rintro ⟨hfound, hid⟩
        exact ⟨.inl hfound, hid⟩
      · rintro ⟨hfound | rfl, hid⟩
        · exact ⟨hfound, hid⟩
        · exact absurd hid.symm heq
  have hrun : image.restoreOrder order = if order.status.isOpen then
      .ok (image.addOrder order) else .ok (image.setOrder order) := by
    simp only [restoreOrder, hscope, hfresh, bind, Except.bind, if_false]
    rfl
  cases hopen : order.status.isOpen with
  | true =>
      rw [hopen] at hrun
      refine ⟨image.addOrder order, hrun, ?_⟩
      constructor
      case marketId => simp [h.marketId]
      case processedCommands => simp [h.processedCommands]
      case appliedEvents => simp [h.appliedEvents]
      case lastCommandSequence => simp [h.lastCommandSequence]
      case order =>
        intro orderId found
        rw [addOrder_order, ← setOrder_order]
        exact horders orderId found
      case level =>
        intro side price
        rw [addOrder_level]
        by_cases hown : side = order.intent.side ∧ price = order.intent.price
        · obtain ⟨rfl, rfl⟩ := hown
          rw [if_pos ⟨rfl, rfl⟩, queueOf_snoc_self hopen, h.level]
        · rw [if_neg hown, queueOf_snoc_of_ne, h.level]
          rintro ⟨_, rfl, rfl⟩
          exact hown ⟨rfl, rfl⟩
  | false =>
      rw [hopen] at hrun
      refine ⟨image.setOrder order, hrun, ?_⟩
      constructor
      case marketId => exact h.marketId
      case processedCommands => exact h.processedCommands
      case appliedEvents => exact h.appliedEvents
      case lastCommandSequence => exact h.lastCommandSequence
      case order => exact horders
      case level =>
        intro side price
        rw [setOrder_level, queueOf_snoc_of_ne, h.level]
        rintro ⟨hstatus, _⟩
        rw [hopen] at hstatus
        cases hstatus

theorem Restored.foldlM {book image : OrderBook} (hwf : book.Wf)
    {done rest : List OrderView} (h : Restored book done image)
    (hall : ∀ order ∈ done ++ rest, order ∈ book.orderViews)
    (hnodup : ((done ++ rest).map fun order => order.intent.orderId).Nodup) :
    ∃ image', rest.foldlM restoreOrder image = .ok image' ∧
      Restored book (done ++ rest) image' := by
  induction rest generalizing done image with
  | nil => exact ⟨image, rfl, by simpa using h⟩
  | cons order rest ih =>
      have hnew : ∀ other ∈ done, other.intent.orderId ≠ order.intent.orderId := by
        intro other hother heq
        rw [List.map_append, List.nodup_append] at hnodup
        exact hnodup.2.2 _ (List.mem_map_of_mem hother) _
          (List.mem_map_of_mem List.mem_cons_self) heq
      obtain ⟨next, hrun, hnext⟩ := h.snoc hwf
        (fun other hother => hall other (List.mem_append_left _ hother))
        (hall order (List.mem_append_right _ List.mem_cons_self)) hnew
      have hassoc : done ++ [order] ++ rest = done ++ order :: rest := by simp
      rw [← hassoc] at hall hnodup ⊢
      obtain ⟨image', hrest, hrestored⟩ := ih hnext hall hnodup
      refine ⟨image', ?_, hrestored⟩
      rw [List.foldlM_cons, hrun]
      exact hrest

/-! ## The round trip -/

theorem queueViews_ids {book : OrderBook} (hwf : book.Wf) {side : OrderSide}
    {price : Price} {queue : List OrderId} (hlevel : book.level side price = some queue) :
    (book.queueViews queue).map (fun order => order.intent.orderId) = queue := by
  have howner := fun {orderId} (hmem : orderId ∈ queue) => hwf.owner hlevel hmem
  clear hlevel
  induction queue with
  | nil => rfl
  | cons orderId queue ih =>
      obtain ⟨order, hlookup, _⟩ := howner List.mem_cons_self
      have htail := ih fun hmem => howner (List.mem_cons_of_mem _ hmem)
      rw [queueViews, List.filterMap_cons, hlookup]
      simp only [List.map_cons, hwf.order_id hlookup]
      exact congrArg _ htail

/-- The open orders of a level, sorted for a snapshot, are its queue. -/
theorem filter_sortedOrders {book : OrderBook} (hwf : book.Wf)
    (hsequenced : book.Sequenced) {side : OrderSide} {price : Price}
    {queue : List OrderId} (hlevel : book.level side price = some queue) :
    ((sortedOrders book.orderViews).filter fun order => order.status.isOpen &&
      order.intent.side == side && order.intent.price == price) =
        book.queueViews queue := by
  have hmem : ∀ order, order ∈ ((sortedOrders book.orderViews).filter fun order =>
      order.status.isOpen && order.intent.side == side && order.intent.price == price) ↔
      order ∈ book.queueViews queue := by
    intro order
    simp only [List.mem_filter, mem_sortedOrders, mem_orderViews, Bool.and_eq_true,
      beq_iff_eq, mem_queueViews]
    constructor
    · rintro ⟨⟨orderId, hlookup⟩, ⟨hopen, rfl⟩, rfl⟩
      obtain ⟨own, hown, hmem⟩ := hwf.queued hlookup hopen
      rw [hlevel] at hown
      cases hown
      exact ⟨orderId, hmem, hlookup⟩
    · rintro ⟨orderId, hmem, hlookup⟩
      obtain ⟨found, hfound, hopen, hside, hprice⟩ := hwf.owner hlevel hmem
      rw [hlookup] at hfound
      cases hfound
      exact ⟨⟨orderId, hlookup⟩, ⟨hopen, hside⟩, hprice⟩
  have hstrict : (book.queueViews queue).Pairwise fun first second =>
      first.acceptedSequence < second.acceptedSequence := by
    rw [queueViews, List.pairwise_filterMap]
    exact hsequenced.increasing hlevel
  have hkeys : (book.queueViews queue).Pairwise fun first second =>
      snapshotKey first ≤ snapshotKey second :=
    hstrict.imp fun h => Prod.Lex.toLex_le_toLex.mpr (.inl h)
  have hsorted := (sortedOrders_pairwise book.orderViews).filter
    fun order => order.status.isOpen && order.intent.side == side &&
      order.intent.price == price
  have hnodup : (sortedOrders book.orderViews).Nodup :=
    (sortedOrders_perm _).nodup_iff.mpr (orderViews_nodup hwf)
  have hperm := (List.perm_ext_iff_of_nodup (hnodup.filter _)
    (hstrict.imp fun h heq => by rw [heq] at h; exact lt_irrefl _ h)).mpr hmem
  refine hperm.eq_of_pairwise ?_ hsorted hkeys
  intro first second hfirst hsecond hle hge
  have hviews : ∀ {order}, order ∈ book.queueViews queue → order ∈ book.orderViews := by
    intro order horder
    obtain ⟨orderId, _, hlookup⟩ := mem_queueViews.mp horder
    exact mem_orderViews.mpr ⟨orderId, hlookup⟩
  exact snapshotKey_injective hwf (hviews ((hmem first).mp hfirst)) (hviews hsecond)
    (le_antisymm hle hge)

theorem queueOf_sortedOrders {book : OrderBook} (hwf : book.Wf)
    (hsequenced : book.Sequenced) (side : OrderSide) (price : Price) :
    queueOf (sortedOrders book.orderViews) side price = book.level side price := by
  unfold queueOf
  cases hlevel : book.level side price with
  | none =>
      have hfilter : ((sortedOrders book.orderViews).filter fun order =>
          order.status.isOpen && order.intent.side == side &&
            order.intent.price == price) = [] := by
        rw [List.filter_eq_nil_iff]
        intro order horder hmatch
        obtain ⟨orderId, hlookup⟩ := mem_orderViews.mp (mem_sortedOrders.mp horder)
        simp only [Bool.and_eq_true, beq_iff_eq] at hmatch
        obtain ⟨⟨hopen, rfl⟩, rfl⟩ := hmatch
        obtain ⟨queue, hqueue, _⟩ := hwf.queued hlookup hopen
        rw [hlevel] at hqueue
        cases hqueue
      rw [hfilter]
      rfl
  | some queue =>
      rw [filter_sortedOrders hwf hsequenced hlevel, queueViews_ids hwf hlevel]
      cases queue with
      | nil => exact absurd rfl (hwf.queue_nonempty hlevel)
      | cons orderId queue => rfl

theorem fromSnapshotState_snapshotState {book : OrderBook} (hwf : book.Wf)
    (hsequenced : book.Sequenced) : fromSnapshotState book.snapshotState = .ok book := by
  have hviews : ∀ order ∈ [] ++ sortedOrders book.orderViews, order ∈ book.orderViews :=
    fun order horder => mem_sortedOrders.mp horder
  have hnodup : (([] ++ sortedOrders book.orderViews).map fun order : OrderView =>
      order.intent.orderId).Nodup := by
    have hperm := (sortedOrders_perm book.orderViews).map
      fun order : OrderView => order.intent.orderId
    refine hperm.nodup_iff.mpr ?_
    refine (List.nodup_map_iff_inj_on (orderViews_nodup hwf)).mpr ?_
    intro first hfirst second hsecond hid
    obtain ⟨firstId, hfirstLookup⟩ := mem_orderViews.mp hfirst
    obtain ⟨secondId, hsecondLookup⟩ := mem_orderViews.mp hsecond
    rw [hwf.order_id hfirstLookup, hwf.order_id hsecondLookup] at hid
    rw [hid, hsecondLookup] at hfirstLookup
    cases hfirstLookup
    rfl
  have hstart : Restored book [] { new book.marketId with
      lastCommandSequence := book.lastCommandSequence
      processedCommands := (book.processedCommands.sort (· ≤ ·)).toFinset
      appliedEvents := (book.appliedEvents.sort (· ≤ ·)).toFinset } := by
    constructor
    case marketId => rfl
    case processedCommands => simp
    case appliedEvents => simp
    case lastCommandSequence => rfl
    case order =>
      intro orderId order
      simp [new, OrderBook.order]
    case level =>
      intro side price
      cases side <;> simp [new, level, queueOf]
  obtain ⟨image, hrun, hrestored⟩ := hstart.foldlM hwf hviews hnodup
  have hsame : image = book := by
    refine ext_level hrestored.marketId ?_ ?_ hrestored.processedCommands
      hrestored.appliedEvents hrestored.lastCommandSequence
    · intro side price
      rw [hrestored.level, List.nil_append, queueOf_sortedOrders hwf hsequenced]
    · intro orderId
      apply Option.ext
      intro order
      rw [hrestored.order, List.nil_append, mem_sortedOrders, mem_orderViews]
      constructor
      · rintro ⟨⟨otherId, hlookup⟩, rfl⟩
        rw [hwf.order_id hlookup]
        exact hlookup
      · intro hlookup
        exact ⟨⟨orderId, hlookup⟩, hwf.order_id hlookup⟩
  subst hsame
  exact hrun

/-- A restored book is the book that was stored, so it behaves like it from then on. -/
theorem snapshot_round_trip [UuidV5] [SnapshotCodec] [Sha256] (marketId : MarketId)
    (commands : List EngineCommand)
    (hlossless : SnapshotCodec.Lossless
      (processAll commands (new marketId)).1.snapshotState) :
    let book := (processAll commands (new marketId)).1
    ∃ bytes restored, book.snapshotBytes = .ok bytes ∧
      fromSnapshotBytes bytes = .ok restored ∧
      restored.orders = book.orders ∧ restored.bids = book.bids ∧
      restored.asks = book.asks ∧
      restored.processedCommands = book.processedCommands ∧
      restored.appliedEvents = book.appliedEvents ∧
      restored.lastCommandSequence = book.lastCommandSequence ∧
      (∀ (further : List EngineCommand) (command : EngineCommand),
        (process command).run (processAll further restored).1 =
          (process command).run (processAll further book).1) ∧
      restored.stateHash = book.stateHash := by
  intro book
  obtain ⟨hwf, hsequenced⟩ := processAll_wf_sequenced marketId commands
  obtain ⟨bytes, hwrite, hread⟩ := hlossless
  refine ⟨bytes, book, ?_, ?_, rfl, rfl, rfl, rfl, rfl, rfl, fun _ _ => rfl, rfl⟩
  · rw [snapshotBytes, hwrite]
  · rw [fromSnapshotBytes, hread]
    exact fromSnapshotState_snapshotState hwf hsequenced

/-- A codec that knows one document. -/
@[reducible] def documentCodec (state : SnapshotState) (document : String) :
    SnapshotCodec where
  toVec := fun other =>
    if other = state then .ok document.toUTF8.toList else .error "unknown state"
  fromSlice := fun bytes =>
    if bytes = document.toUTF8.toList then .ok state else .error "unknown document"

theorem documentCodec_lossless (state : SnapshotState) (document : String) :
    @SnapshotCodec.Lossless (documentCodec state document) state :=
  ⟨document.toUTF8.toList, if_pos rfl, if_pos rfl⟩

/-- The snapshot of a market with one resting ask, as it is written. -/
def restingAskDocument (applied : EventId) : String :=
  "\x7b\"market_id\":\"00000000-0000-0000-0000-000000000001\"," ++
    "\"last_command_sequence\":1,\"orders\":[\x7b\"intent\":\x7b" ++
    "\"order_id\":\"00000000-0000-0000-0000-000000000001\"," ++
    "\"tenant_id\":\"00000000-0000-0000-0000-000000000001\"," ++
    "\"domain_id\":\"00000000-0000-0000-0000-000000000001\"," ++
    "\"market_id\":\"00000000-0000-0000-0000-000000000001\"," ++
    "\"side\":\"sell\",\"price\":12,\"quantity\":3," ++
    "\"submitted_at\":\"1970-01-01 00:00:00.0 +00:00:00\",\"expires_at\":null\x7d," ++
    "\"remaining_quantity\":3,\"status\":\"open\",\"accepted_sequence\":1\x7d]," ++
    "\"processed_commands\":[\"00000000-0000-0000-0000-000000000001\"]," ++
    "\"applied_events\":[\"" ++ toString applied ++ "\"]\x7d"

theorem snapshot_round_trip_restingAsk :
    let book := (@processAll UuidV5.positional (twoAsks.take 1) (new ⟨1⟩)).1
    let codec := documentCodec book.snapshotState
      (restingAskDocument (@EventId.derive UuidV5.positional ⟨1⟩ "matching-event" 0))
    ∃ bytes restored, @snapshotBytes codec book = .ok bytes ∧
      @fromSnapshotBytes codec bytes = .ok restored ∧
      restored.asks = book.asks ∧
      book.asks[(⟨12, by decide, by decide⟩ : Price)]? = some [⟨1⟩] := by
  intro book codec
  have hask : book.asks[(⟨12, by decide, by decide⟩ : Price)]? = some [⟨1⟩] := by
    decide +kernel
  obtain ⟨bytes, restored, hwrite, hread, _, _, hasks, _⟩ :=
    @snapshot_round_trip UuidV5.positional codec ⟨id⟩ ⟨1⟩ (twoAsks.take 1)
      (documentCodec_lossless _ _)
  exact ⟨bytes, restored, hwrite, hread, hasks, hask⟩

end OrderBook

end MatchPlane
