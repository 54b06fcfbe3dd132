import MatchPlane.Engine.Effects

/-!
# The representation invariant

`Wf` relates the four parts of a book: the order map, the two level maps, and
the statuses.  It is stable under every event that `apply` accepts, whether or
not this book produced the event, because `Applied` reduces each of them to
`addOrder` and `update`.  Under `Wf` no mutation can fail after the checks that
precede it, so a refused event leaves the book as it was.
-/

namespace MatchPlane

open MatchPlane.Library

namespace OrderBook

structure Wf (book : OrderBook) : Prop where
  order_id : ∀ {orderId order}, book.order orderId = some order →
    order.intent.orderId = orderId
  open_positive : ∀ {orderId order}, book.order orderId = some order →
    order.status.isOpen = true → 0 < order.remainingQuantity.value
  open_bounded : ∀ {orderId order}, book.order orderId = some order →
    order.status.isOpen = true → order.remainingQuantity ≤ order.intent.quantity
  open_status : ∀ {orderId order}, book.order orderId = some order →
    order.status.isOpen = true →
      (order.status = .open ↔ order.remainingQuantity = order.intent.quantity)
  closed_zero : ∀ {orderId order}, book.order orderId = some order →
    order.status.isOpen = false → order.remainingQuantity = Quantity.zero
  queued : ∀ {orderId order}, book.order orderId = some order →
    order.status.isOpen = true →
      ∃ queue, book.level order.intent.side order.intent.price = some queue ∧
        orderId ∈ queue
  owner : ∀ {side price queue orderId}, book.level side price = some queue →
    orderId ∈ queue →
      ∃ order, book.order orderId = some order ∧ order.status.isOpen = true ∧
        order.intent.side = side ∧ order.intent.price = price
  queue_nodup : ∀ {side price queue}, book.level side price = some queue →
    queue.Nodup
  queue_nonempty : ∀ {side price queue}, book.level side price = some queue →
    queue ≠ []
  market : ∀ {orderId order}, book.order orderId = some order →
    order.intent.marketId = book.marketId
  scope : ∀ {orderId orderId' order order'}, book.order orderId = some order →
    book.order orderId' = some order' →
      order.intent.tenantId = order'.intent.tenantId ∧
        order.intent.domainId = order'.intent.domainId

theorem new_wf (marketId : MarketId) : (new marketId).Wf := by
  have hlookup : ∀ {orderId : OrderId} {order : OrderView},
      (new marketId).order orderId = some order → False := by
    intro orderId order h
    simp [new, OrderBook.order] at h
  have hlevel : ∀ {side : OrderSide} {price : Price} {queue : List OrderId},
      (new marketId).level side price = some queue → False := by
    intro side price queue h
    cases side <;> simp [new, level] at h
  constructor <;> intros <;> exfalso <;> first
    | exact hlookup ‹_›
    | exact hlevel ‹_›

/-! ## Scope -/

theorem mem_orderViews {book : OrderBook} {order : OrderView} :
    order ∈ book.orderViews ↔ ∃ orderId : OrderId, book.order orderId = some order := by
  simp only [orderViews, List.mem_map, Prod.exists, OrderedMap.mem_toList,
    exists_eq_right, OrderBook.order]

/--
The scope check consults one arbitrary order.  In a well-formed book any other
order would give the same answer.
-/
theorem validateOrderScope_eq_ok_iff {book : OrderBook} (hwf : book.Wf)
    (intent : OrderIntent) :
    book.validateOrderScope intent = .ok () ↔
      intent.marketId = book.marketId ∧
        ∀ order ∈ book.orderViews, order.intent.tenantId = intent.tenantId ∧
          order.intent.domainId = intent.domainId := by
  rw [validateOrderScope, guard_eq_ok_iff, guard_eq_ok_iff, not_not]
  refine and_congr_right fun _ => ?_
  simp only [and_true]
  cases hviews : book.orderViews with
  | nil => simp
  | cons first rest =>
      have hfirst : first ∈ book.orderViews := by rw [hviews]; exact List.mem_cons_self
      obtain ⟨firstId, hfirstLookup⟩ := mem_orderViews.mp hfirst
      simp only [List.head?_cons, Option.any_some, decide_eq_true_eq, not_or, not_not,
        ne_eq]
      constructor
      · intro h order horder
        rw [← hviews] at horder
        obtain ⟨orderId, hlookup⟩ := mem_orderViews.mp horder
        obtain ⟨htenant, hdomain⟩ := hwf.scope hlookup hfirstLookup
        exact ⟨htenant.trans h.1, hdomain.trans h.2⟩
      · intro h
        exact h first List.mem_cons_self

theorem validateOrderScope_of_mem {book : OrderBook} (hwf : book.Wf)
    {intent : OrderIntent} {order : OrderView} (horder : order ∈ book.orderViews) :
    book.validateOrderScope intent = .ok () ↔
      intent.marketId = book.marketId ∧
        order.intent.tenantId = intent.tenantId ∧
          order.intent.domainId = intent.domainId := by
  rw [validateOrderScope_eq_ok_iff hwf]
  refine and_congr_right fun _ => ⟨fun h => h order horder, fun h other hother => ?_⟩
  obtain ⟨orderId, hlookup⟩ := mem_orderViews.mp horder
  obtain ⟨otherId, hotherLookup⟩ := mem_orderViews.mp hother
  obtain ⟨htenant, hdomain⟩ := hwf.scope hotherLookup hlookup
  exact ⟨htenant.trans h.1, hdomain.trans h.2⟩

/-! ## Preservation by the two updates -/

theorem Wf.not_queued {book : OrderBook} (hwf : book.Wf) {orderId : OrderId}
    (hnew : book.order orderId = none) {side : OrderSide} {price : Price}
    {queue : List OrderId} (hlevel : book.level side price = some queue) :
    orderId ∉ queue := by
  intro hmem
  obtain ⟨order, hlookup, _⟩ := hwf.owner hlevel hmem
  rw [hnew] at hlookup
  cases hlookup

/-- Lookups after an order was overwritten or added: the order, or an old one. -/
theorem lookup_cases {book book' : OrderBook} {order : OrderView}
    (h : ∀ orderId : OrderId, book'.order orderId =
      if orderId = order.intent.orderId then some order else book.order orderId)
    {orderId : OrderId} {found : OrderView} (hfound : book'.order orderId = some found) :
    (orderId = order.intent.orderId ∧ found = order) ∨
      (orderId ≠ order.intent.orderId ∧ book.order orderId = some found) := by
  rw [h orderId] at hfound
  split at hfound
  · rename_i heq
    cases hfound
    exact .inl ⟨heq, rfl⟩
  · rename_i hne
    exact .inr ⟨hne, hfound⟩

/-- Levels after an admission: the order's own level grew by one, at its back. -/
theorem addOrder_level_cases {book : OrderBook} {order : OrderView} {side : OrderSide}
    {price : Price} {queue : List OrderId}
    (h : (book.addOrder order).level side price = some queue) :
    book.level side price = some queue ∨
      side = order.intent.side ∧ price = order.intent.price ∧
        ∃ before, (book.level side price = some before ∨
          book.level side price = none ∧ before = []) ∧
          queue = before ++ [order.intent.orderId] := by
  rw [addOrder_level] at h
  split at h
  · rename_i hown
    cases h
    refine .inr ⟨hown.1, hown.2, ?_⟩
    cases hlevel : book.level side price with
    | none => exact ⟨[], .inr ⟨rfl, rfl⟩, rfl⟩
    | some before => exact ⟨before, .inl rfl, rfl⟩
  · exact .inl h

/-- Levels after an update: unchanged, or without the order that was closed. -/
theorem update_level_cases {book : OrderBook} {order : OrderView} {side : OrderSide}
    {price : Price} {queue : List OrderId}
    (h : (book.update order).level side price = some queue) :
    ∃ before, book.level side price = some before ∧
      (queue = before ∧ (order.status.isOpen = true ∨
          ¬(side = order.intent.side ∧ price = order.intent.price)) ∨
        order.status.isOpen = false ∧
          queue = before.filter (· ≠ order.intent.orderId) ∧ queue ≠ []) := by
  cases hopen : order.status.isOpen with
  | true =>
      rw [update_level_of_open _ _ hopen] at h
      exact ⟨queue, h, .inl ⟨rfl, .inl rfl⟩⟩
  | false =>
      rw [update_level_of_closed _ _ hopen] at h
      split at h
      · cases hlevel : book.level side price with
        | none => simp [hlevel, retainOthers] at h
        | some before =>
            simp only [hlevel, retainOthers] at h
            split at h
            · cases h
            · rename_i hnonempty
              cases h
              refine ⟨before, rfl, .inr ⟨rfl, rfl, ?_⟩⟩
              simpa using hnonempty
      · rename_i hother
        exact ⟨queue, h, .inl ⟨rfl, .inr hother⟩⟩

/-- An order other than the updated one keeps its place in a queue. -/
theorem update_level_of_mem {book : OrderBook} {order : OrderView} {side : OrderSide}
    {price : Price} {queue : List OrderId} {orderId : OrderId}
    (hlevel : book.level side price = some queue) (hmem : orderId ∈ queue)
    (hne : order.status.isOpen = true ∨ orderId ≠ order.intent.orderId) :
    ∃ after, (book.update order).level side price = some after ∧ orderId ∈ after := by
  cases hopen : order.status.isOpen with
  | true =>
      rw [update_level_of_open _ _ hopen]
      exact ⟨queue, hlevel, hmem⟩
  | false =>
      have hne : orderId ≠ order.intent.orderId := by simpa [hopen] using hne
      rw [update_level_of_closed _ _ hopen, hlevel]
      split
      · have hkept : orderId ∈ queue.filter (· ≠ order.intent.orderId) :=
          List.mem_filter.mpr ⟨hmem, by simpa using hne⟩
        have hnonempty : ¬(queue.filter (· ≠ order.intent.orderId)).isEmpty = true := by
          simpa using List.ne_nil_of_mem hkept
        rw [retainOthers, if_neg hnonempty]
        exact ⟨_, rfl, hkept⟩
      · exact ⟨queue, rfl, hmem⟩

theorem Wf.addOrder {book : OrderBook} (hwf : book.Wf) {order : OrderView}
    (hnew : book.order order.intent.orderId = none)
    (hpositive : 0 < order.remainingQuantity.value)
    (hfull : order.remainingQuantity = order.intent.quantity)
    (hstatus : order.status = .open)
    (hscope : book.validateOrderScope order.intent = .ok ()) :
    (book.addOrder order).Wf := by
  have hcases : ∀ {orderId found}, (book.addOrder order).order orderId = some found →
      (orderId = order.intent.orderId ∧ found = order) ∨
        (orderId ≠ order.intent.orderId ∧ book.order orderId = some found) :=
    fun h => lookup_cases (book.addOrder_order order) h
  have hself : (book.addOrder order).order order.intent.orderId = some order := by
    rw [addOrder_order, if_pos rfl]
  have hopen : order.status.isOpen = true := by rw [hstatus]; rfl
  obtain ⟨hmarket, hscope⟩ := (validateOrderScope_eq_ok_iff hwf _).mp hscope
  have hother : ∀ {orderId found}, book.order orderId = some found →
      (book.addOrder order).order orderId = some found := by
    intro orderId found h
    rw [addOrder_order, if_neg, h]
    rintro rfl
    rw [hnew] at h
    cases h
  have hnotMem : ∀ {side price before}, (book.level side price = some before ∨
      book.level side price = none ∧ before = []) → order.intent.orderId ∉ before := by
    rintro side price before (h | ⟨_, rfl⟩)
    · exact hwf.not_queued hnew h
    · simp
  constructor
  case order_id =>
    intro orderId found h
    obtain ⟨rfl, rfl⟩ | ⟨_, h⟩ := hcases h
    · rfl
    · exact hwf.order_id h
  case open_positive =>
    intro orderId found h hfound
    obtain ⟨_, rfl⟩ | ⟨_, h⟩ := hcases h
    · exact hpositive
    · exact hwf.open_positive h hfound
  case open_bounded =>
    intro orderId found h hfound
    obtain ⟨_, rfl⟩ | ⟨_, h⟩ := hcases h
    · exact hfull.le
    · exact hwf.open_bounded h hfound
  case open_status =>
    intro orderId found h hfound
    obtain ⟨_, rfl⟩ | ⟨_, h⟩ := hcases h
    · exact iff_of_true hstatus hfull
    · exact hwf.open_status h hfound
  case closed_zero =>
    intro orderId found h hfound
    obtain ⟨_, rfl⟩ | ⟨_, h⟩ := hcases h
    · rw [hopen] at hfound
      cases hfound
    · exact hwf.closed_zero h hfound
  case queued =>
    intro orderId found h hfound
    obtain ⟨rfl, rfl⟩ | ⟨_, h⟩ := hcases h
    · refine ⟨_, (addOrder_level _ _ _ _).trans (if_pos ⟨rfl, rfl⟩), ?_⟩
      simp
    · obtain ⟨queue, hlevel, hmem⟩ := hwf.queued h hfound
      rw [addOrder_level, hlevel]
      split
      · exact ⟨_, rfl, List.mem_append_left _ hmem⟩
      · exact ⟨queue, rfl, hmem⟩
  case owner =>
    intro side price queue orderId h hmem
    obtain h | ⟨hside, hprice, before, hbefore, rfl⟩ := addOrder_level_cases h
    · obtain ⟨found, hfound, hrest⟩ := hwf.owner h hmem
      exact ⟨found, hother hfound, hrest⟩
    · obtain hmem | hmem := List.mem_append.mp hmem
      · obtain hbefore | ⟨_, rfl⟩ := hbefore
        · obtain ⟨found, hfound, hrest⟩ := hwf.owner hbefore hmem
          exact ⟨found, hother hfound, hrest⟩
        · cases hmem
      · rw [List.mem_singleton] at hmem
        subst hmem
        exact ⟨order, hself, hopen, hside.symm, hprice.symm⟩
  case queue_nodup =>
    intro side price queue h
    obtain h | ⟨_, _, before, hbefore, rfl⟩ := addOrder_level_cases h
    · exact hwf.queue_nodup h
    · have hnodup : before.Nodup := by
        obtain hbefore | ⟨_, rfl⟩ := hbefore
        · exact hwf.queue_nodup hbefore
        · exact List.nodup_nil
      exact List.nodup_append_comm.mp (List.nodup_cons.mpr ⟨hnotMem hbefore, hnodup⟩)
  case queue_nonempty =>
    intro side price queue h
    obtain h | ⟨_, _, before, _, rfl⟩ := addOrder_level_cases h
    · exact hwf.queue_nonempty h
    · simp
  case market =>
    intro orderId found h
    rw [addOrder_marketId]
    obtain ⟨_, rfl⟩ | ⟨_, h⟩ := hcases h
    · exact hmarket
    · exact hwf.market h
  case scope =>
    intro orderId orderId' found found' h h'
    obtain ⟨_, hfound⟩ | ⟨_, hold⟩ := hcases h <;>
      obtain ⟨_, hfound'⟩ | ⟨_, hold'⟩ := hcases h'
    · rw [hfound, hfound']
      exact ⟨rfl, rfl⟩
    · obtain ⟨htenant, hdomain⟩ := hscope _ (mem_orderViews.mpr ⟨_, hold'⟩)
      rw [hfound]
      exact ⟨htenant.symm, hdomain.symm⟩
    · rw [hfound']
      exact hscope _ (mem_orderViews.mpr ⟨_, hold⟩)
    · exact hwf.scope hold hold'

theorem Wf.update {book : OrderBook} (hwf : book.Wf) {before order : OrderView}
    (hlookup : book.order order.intent.orderId = some before)
    (hbefore : before.status.isOpen = true) (hintent : order.intent = before.intent)
    (hopen : order.status.isOpen = true → 0 < order.remainingQuantity.value ∧
      order.remainingQuantity ≤ order.intent.quantity ∧
      (order.status = .open ↔ order.remainingQuantity = order.intent.quantity))
    (hclosed : order.status.isOpen = false → order.remainingQuantity = Quantity.zero) :
    (book.update order).Wf := by
  have hcases : ∀ {orderId found}, (book.update order).order orderId = some found →
      (orderId = order.intent.orderId ∧ found = order) ∨
        (orderId ≠ order.intent.orderId ∧ book.order orderId = some found) :=
    fun h => lookup_cases (book.update_order order) h
  -- Every lookup after the update has a lookup before it with the same intent.
  have hsame : ∀ {orderId found}, (book.update order).order orderId = some found →
      ∃ old, book.order orderId = some old ∧ old.intent = found.intent := by
    intro orderId found h
    obtain ⟨rfl, rfl⟩ | ⟨_, h⟩ := hcases h
    · exact ⟨before, hlookup, hintent.symm⟩
    · exact ⟨found, h, rfl⟩
  constructor
  case order_id =>
    intro orderId found h
    obtain ⟨old, hold, heq⟩ := hsame h
    rw [← heq]
    exact hwf.order_id hold
  case open_positive =>
    intro orderId found h hfound
    obtain ⟨_, rfl⟩ | ⟨_, h⟩ := hcases h
    · exact (hopen hfound).1
    · exact hwf.open_positive h hfound
  case open_bounded =>
    intro orderId found h hfound
    obtain ⟨_, rfl⟩ | ⟨_, h⟩ := hcases h
    · exact (hopen hfound).2.1
    · exact hwf.open_bounded h hfound
  case open_status =>
    intro orderId found h hfound
    obtain ⟨_, rfl⟩ | ⟨_, h⟩ := hcases h
    · exact (hopen hfound).2.2
    · exact hwf.open_status h hfound
  case closed_zero =>
    intro orderId found h hfound
    obtain ⟨_, rfl⟩ | ⟨_, h⟩ := hcases h
    · exact hclosed hfound
    · exact hwf.closed_zero h hfound
  case queued =>
    intro orderId found h hfound
    obtain ⟨rfl, rfl⟩ | ⟨hne, h⟩ := hcases h
    · obtain ⟨queue, hlevel, hmem⟩ := hwf.queued hlookup hbefore
      rw [← hintent] at hlevel
      exact update_level_of_mem hlevel hmem (.inl hfound)
    · obtain ⟨queue, hlevel, hmem⟩ := hwf.queued h hfound
      exact update_level_of_mem hlevel hmem (.inr hne)
  case owner =>
    intro side price queue orderId h hmem
    obtain ⟨old, hlevel, hqueue⟩ := update_level_cases h
    have hmemOld : orderId ∈ old := by
      obtain ⟨rfl, _⟩ | ⟨_, rfl, _⟩ := hqueue
      · exact hmem
      · exact (List.mem_filter.mp hmem).1
    obtain ⟨found, hfound, hfoundOpen, hside, hprice⟩ := hwf.owner hlevel hmemOld
    by_cases heq : orderId = order.intent.orderId
    · subst heq
      rw [hlookup] at hfound
      cases hfound
      refine ⟨order, ?_, ?_, ?_, ?_⟩
      · rw [update_order, if_pos rfl]
      · obtain ⟨_, hopen | hother⟩ | ⟨_, rfl, _⟩ := hqueue
        · exact hopen
        · rw [hintent] at hother
          exact absurd ⟨hside.symm, hprice.symm⟩ hother
        · simp at hmem
      · rw [hintent]
        exact hside
      · rw [hintent]
        exact hprice
    · refine ⟨found, ?_, hfoundOpen, hside, hprice⟩
      rw [update_order, if_neg heq]
      exact hfound
  case queue_nodup =>
    intro side price queue h
    obtain ⟨old, hlevel, ⟨rfl, _⟩ | ⟨_, rfl, _⟩⟩ := update_level_cases h
    · exact hwf.queue_nodup hlevel
    · exact (hwf.queue_nodup hlevel).filter _
  case queue_nonempty =>
    intro side price queue h
    obtain ⟨old, hlevel, ⟨rfl, _⟩ | ⟨_, _, hne⟩⟩ := update_level_cases h
    · exact hwf.queue_nonempty hlevel
    · exact hne
  case market =>
    intro orderId found h
    obtain ⟨old, hold, heq⟩ := hsame h
    rw [update_marketId, ← heq]
    exact hwf.market hold
  case scope =>
    intro orderId orderId' found found' h h'
    obtain ⟨old, hold, heq⟩ := hsame h
    obtain ⟨old', hold', heq'⟩ := hsame h'
    rw [← heq, ← heq']
    exact hwf.scope hold hold'

end OrderBook

end MatchPlane
