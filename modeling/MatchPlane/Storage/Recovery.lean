import MatchPlane.Engine.Processed
import MatchPlane.Storage.Commit

/-!
# Recovery

What a market's part of the journal must look like for a recovery to find its
book: the facts are the events of the market's commands, numbered from one, and
the latest snapshot holds a book at the end of some of them.
-/

namespace MatchPlane

open MatchPlane.Library OrderBook

namespace Journal

/-- The commands logged for a market, in the order they were logged. -/
def commandsOf (journal : Journal) (marketId : MarketId) : List CommandLogRow :=
  journal.commandLog.rows.filter fun row => row.marketId = marketId

def factsOf (journal : Journal) (marketId : MarketId) : List DomainEventRow :=
  journal.domainEvents.rows.filter fun row =>
    row.marketId = marketId ∧ row.streamKind = .domainEvent

def snapshotsOf (journal : Journal) (marketId : MarketId) : List OrderBookSnapshotRow :=
  journal.orderBookSnapshots.rows.filter fun row => row.marketId = marketId

end Journal

/-! ## Facts -/

/-- These rows hold these events, numbered from the position after `position`. -/
def Numbered (position : Nat) (rows : List DomainEventRow) (events : List EngineEvent) :
    Prop :=
  rows.map (fun row => (row.shardSequence, row.payload)) =
    (events.zipIdx (position + 1)).map fun (event, sequence) => (sequence, .fact event)

namespace Numbered

variable {position : Nat} {rows : List DomainEventRow} {events : List EngineEvent}

theorem length_eq (h : Numbered position rows events) : rows.length = events.length := by
  simpa using congrArg List.length h

theorem sequences (h : Numbered position rows events) :
    rows.map DomainEventRow.shardSequence = List.range' (position + 1) events.length := by
  have hfirst := congrArg (List.map Prod.fst) h
  simpa [Function.comp_def, List.map_map, ← List.zipIdx_map_snd] using hfirst

theorem payloads (h : Numbered position rows events) :
    rows.map DomainEventRow.payload = events.map .fact := by
  have hsecond := congrArg (List.map Prod.snd) h
  rw [List.map_map, List.map_map] at hsecond
  refine hsecond.trans ?_
  conv_rhs => rw [← List.zipIdx_map_fst (position + 1) events, List.map_map]
  rfl

theorem append {rows' : List DomainEventRow} {events' : List EngineEvent}
    (h : Numbered position rows events)
    (h' : Numbered (position + events.length) rows' events') :
    Numbered position (rows ++ rows') (events ++ events') := by
  unfold Numbered at h h' ⊢
  rw [List.map_append, h, h', List.zipIdx_append, List.map_append,
    Nat.add_right_comm position]

theorem split {events' : List EngineEvent} (h : Numbered position rows (events ++ events')) :
    ∃ first second, rows = first ++ second ∧ Numbered position first events ∧
      Numbered (position + events.length) second events' := by
  unfold Numbered at h
  rw [List.zipIdx_append, List.map_append, List.map_eq_append_iff] at h
  obtain ⟨first, second, rfl, hfirst, hsecond⟩ := h
  refine ⟨first, second, rfl, hfirst, ?_⟩
  rw [Numbered, hsecond, Nat.add_right_comm position]

theorem mem_sequence (h : Numbered position rows events) {row : DomainEventRow}
    (hrow : row ∈ rows) :
    position < row.shardSequence ∧ row.shardSequence ≤ position + events.length := by
  have hmem : row.shardSequence ∈ rows.map DomainEventRow.shardSequence :=
    List.mem_map_of_mem hrow
  rw [h.sequences, List.mem_range'_1] at hmem
  omega

theorem pairwise (h : Numbered position rows events) :
    rows.Pairwise fun first second => first.shardSequence < second.shardSequence := by
  have hrange : (rows.map DomainEventRow.shardSequence).Pairwise (· < ·) := by
    rw [h.sequences]
    exact List.pairwise_lt_range'
  exact List.pairwise_map.mp hrange

end Numbered

/-- The facts with a cause hold the events with that cause. -/
theorem filter_causation_payloads {rows : List DomainEventRow} {events : List EngineEvent}
    (h : rows.map DomainEventRow.payload = events.map .fact)
    (hcauses : ∀ row ∈ rows, ∀ event, row.payload = .fact event →
      row.causationId = event.causationId) (commandId : EventId) :
    (rows.filter fun row => row.causationId = commandId).map DomainEventRow.payload =
      (events.filter fun event => event.causationId = commandId).map .fact := by
  induction rows generalizing events with
  | nil =>
      cases events with
      | nil => rfl
      | cons event events => cases h
  | cons row rows ih =>
      cases events with
      | nil => cases h
      | cons event events =>
          rw [List.map_cons, List.map_cons, List.cons.injEq] at h
          have hcause := hcauses row List.mem_cons_self event h.1
          have hrest := ih h.2 fun other hother =>
            hcauses other (List.mem_cons_of_mem _ hother)
          by_cases heq : event.causationId = commandId
          · simp [hcause, heq, h.1, hrest]
          · simp [hcause, heq, hrest]

theorem factRows_numbered [Sha256] [Prost] (decoded : DecodedCommand)
    (ownerNodeId : FederationNodeId) (token position : Nat) (events : List EngineEvent) :
    Numbered position (factRows decoded ownerNodeId token (position + 1) events)
      events := by
  unfold Numbered factRows
  conv_rhs => rw [List.zipIdx_eq_map_add, List.map_map]
  rw [List.map_map]
  exact List.map_congr_left fun entry _ => rfl

/-- Replaying the rows of applied events arrives at the book they led to. -/
theorem foldlM_replayRow {book book' : OrderBook} {events : List EngineEvent}
    (hall : AppliedAll book events book') (hwf : book.Wf) {rows : List DomainEventRow}
    {position : Nat} (hrows : Numbered position rows events)
    (hbound : ∀ row ∈ rows, row.shardSequence ≤ u64Max) :
    rows.foldlM replayRow (book, position) = .ok (book', position + events.length) := by
  induction hall generalizing rows position with
  | nil book =>
      have hnil : rows = [] := List.length_eq_zero_iff.mp hrows.length_eq
      subst hnil
      rfl
  | @cons book middle book' event events hnew happlied hrest ih =>
      cases rows with
      | nil => cases hrows.length_eq
      | cons row rows =>
          have hcons := hrows
          unfold Numbered at hcons
          rw [List.zipIdx_cons, List.map_cons, List.map_cons, List.cons.injEq,
            Prod.mk.injEq] at hcons
          obtain ⟨⟨hsequence, hpayload⟩, htail⟩ := hcons
          have hlast := hbound row List.mem_cons_self
          have hexpected : saturatingSucc position = position + 1 := by
            unfold saturatingSucc
            omega
          have hstep : replayRow (book, position) row =
              .ok (middle.record event, position + 1) := by
            simp [replayRow, hexpected, hsequence, hpayload,
              apply_of_applied hwf hnew happlied]
          rw [List.foldlM_cons, hstep]
          refine (ih ((happlied.wf hwf).record event) htail fun other hother =>
            hbound other (List.mem_cons_of_mem _ hother)).trans ?_
          rw [List.length_cons]
          congr 2
          omega

theorem laterFacts_eq {journal : Journal} {marketId : MarketId}
    {events rest : List EngineEvent}
    (h : Numbered 0 (journal.factsOf marketId) (events ++ rest)) :
    ∃ rows, laterFacts journal marketId events.length = rows ∧
      Numbered events.length rows rest ∧ ∀ row ∈ rows, row ∈ journal.factsOf marketId := by
  obtain ⟨first, second, hrows, hfirst, hsecond⟩ := h.split
  rw [Nat.zero_add] at hsecond
  refine ⟨second, ?_, hsecond, by simp +contextual [hrows]⟩
  have hfilter : (journal.factsOf marketId).filter
      (fun row => events.length < row.shardSequence) = second := by
    rw [hrows, List.filter_append, List.filter_eq_nil_iff.mpr, List.nil_append,
      List.filter_eq_self.mpr]
    · intro row hrow
      simpa using (hsecond.mem_sequence hrow).1
    · intro row hrow
      have hle := (hfirst.mem_sequence hrow).2
      simpa using hle
  have hlater : journal.domainEvents.rows.filter (fun row => row.marketId = marketId ∧
      row.streamKind = .domainEvent ∧ events.length < row.shardSequence) = second := by
    rw [← hfilter, Journal.factsOf, List.filter_filter]
    refine List.filter_congr fun row _ => ?_
    simp only [Bool.decide_and]
    cases decide (row.marketId = marketId) <;>
      cases decide (row.streamKind = .domainEvent) <;> simp
  rw [laterFacts, hlater]
  refine List.mergeSort_of_pairwise (hsecond.pairwise.imp fun hless => ?_)
  simpa using hless.le

theorem replayFacts_eq {journal : Journal} {marketId : MarketId} {book book' : OrderBook}
    {events rest : List EngineEvent}
    (h : Numbered 0 (journal.factsOf marketId) (events ++ rest)) (hwf : book.Wf)
    (hall : AppliedAll book rest book') :
    replayFacts journal marketId (book, events.length) =
      .ok (book', (events ++ rest).length) := by
  obtain ⟨rows, hlater, hrows, hfacts⟩ := laterFacts_eq h
  rw [replayFacts, hlater, List.length_append]
  refine foldlM_replayRow hall hwf hrows fun row hrow => ?_
  have hcheck := journal.domainEvents.valid.checked row (List.mem_of_mem_filter (hfacts row hrow))
  simp only [domainEvents, decide_eq_true_eq, isSequence_iff] at hcheck
  exact hcheck.1.2.trans (by decide)

/-! ## Snapshots -/

section Snapshots

variable [SnapshotCodec]

section Latest

variable [Sha256]

/-- The latest snapshot of a market is of this book, at this position of the facts. -/
def LatestSnapshot (journal : Journal) (marketId : MarketId) (book : OrderBook)
    (position : Nat) : Prop :=
  (journal.snapshotsOf marketId = [] ∧ book = new marketId ∧ position = 0) ∨
    ∃ earlier row, journal.snapshotsOf marketId = earlier ++ [row] ∧ 0 < position ∧
      (∀ other ∈ earlier, other.lastEventSequence < position) ∧
        SnapshotOf marketId book position row

theorem LatestSnapshot.le {journal : Journal} {marketId : MarketId} {book : OrderBook}
    {position : Nat} (h : LatestSnapshot journal marketId book position)
    {row : OrderBookSnapshotRow} (hrow : row ∈ journal.snapshotsOf marketId) :
    row.lastEventSequence ≤ position := by
  rcases h with ⟨hnone, _⟩ | ⟨earlier, last, hrows, _, hearlier, hlast⟩
  · rw [hnone] at hrow
    cases hrow
  · rw [hrows] at hrow
    rcases List.mem_append.mp hrow with hrow | hrow
    · exact (hearlier row hrow).le
    · rw [List.mem_singleton] at hrow
      rw [hrow, hlast.lastEventSequence]

end Latest

variable [SerdeJson]

/--
The codec reads back what it wrote, as long as every number fits.  Larger integers
can be written but not read.
-/
def SnapshotCodec.Faithful : Prop :=
  ∀ state bytes, (∀ order ∈ state.orders, order.intent.hasJson = true ∧
    order.remainingQuantity ≤ order.intent.quantity) →
      SnapshotCodec.toVec state = .ok bytes → SnapshotCodec.fromSlice bytes = .ok state

theorem fromSnapshotBytes_of_snapshotBytes (hfaithful : SnapshotCodec.Faithful)
    {book : OrderBook} (hwf : book.Wf) (hsequenced : book.Sequenced)
    (hjson : ∀ orderId order, book.order orderId = some order →
      order.intent.hasJson = true) {bytes : Bytes}
    (h : book.snapshotBytes = .ok bytes) : fromSnapshotBytes bytes = .ok book := by
  have hwrite : SnapshotCodec.toVec book.snapshotState = .ok bytes := by
    unfold snapshotBytes at h
    split at h
    · rename_i heq
      cases h
      exact heq
    · cases h
  have hread : SnapshotCodec.fromSlice bytes = .ok book.snapshotState := by
    refine hfaithful _ _ ?_ hwrite
    intro order horder
    obtain ⟨orderId, hlookup⟩ := mem_orderViews.mp (mem_sortedOrders.mp horder)
    refine ⟨hjson orderId order hlookup, ?_⟩
    cases hopen : order.status.isOpen with
    | true => exact hwf.open_bounded hlookup hopen
    | false =>
        rw [hwf.closed_zero hlookup hopen, Quantity.le_def]
        exact order.intent.quantity.nonnegative
  rw [fromSnapshotBytes, hread]
  exact fromSnapshotState_snapshotState hwf hsequenced

theorem recoverSnapshot_eq [Sha256] (hfaithful : SnapshotCodec.Faithful) {journal : Journal}
    {marketId : MarketId} {book : OrderBook} {position : Nat}
    (h : LatestSnapshot journal marketId book position) (hwf : book.Wf)
    (hsequenced : book.Sequenced)
    (hjson : ∀ orderId order, book.order orderId = some order →
      order.intent.hasJson = true) :
    recoverSnapshot journal marketId = .ok (book, position) := by
  rcases h with ⟨hnone, rfl, rfl⟩ | ⟨earlier, row, hrows, hpositive, hearlier, hrow⟩
  · unfold Journal.snapshotsOf at hnone
    simp [recoverSnapshot, latestSnapshot, hnone]
    rfl
  · have hargmax : (journal.snapshotsOf marketId).argmax
        OrderBookSnapshotRow.lastEventSequence = some row := by
      rw [hrows, List.argmax_concat]
      cases hbest : earlier.argmax OrderBookSnapshotRow.lastEventSequence with
      | none => rfl
      | some other =>
          have hless := hearlier other (List.argmax_mem hbest)
          rw [← hrow.lastEventSequence] at hless
          exact if_pos hless
    have hlatest : latestSnapshot journal marketId =
        .ok (some ⟨position, row.state, Sha256.digest row.state⟩) := by
      unfold Journal.snapshotsOf at hargmax
      rw [latestSnapshot, hargmax]
      dsimp only
      rw [hrow.lastEventSequence, hrow.checksum, if_neg (by omega)]
    have hbook := fromSnapshotBytes_of_snapshotBytes hfaithful hwf hsequenced hjson hrow.state
    simp only [recoverSnapshot, hlatest, bind, Except.bind, hbook, StorageError.ofEngine,
      ne_eq, not_true_eq_false, if_false]

end Snapshots

theorem documentCodec_faithful [SerdeJson] (state : SnapshotState) (document : String) :
    @SnapshotCodec.Faithful (documentCodec state document) _ := by
  intro other bytes _ hwrite
  by_cases hstate : other = state
  · have hbytes : bytes = document.toUTF8.toList := by
      have hdocument : .ok document.toUTF8.toList = (.ok bytes : Except String Bytes) :=
        (if_pos hstate).symm.trans hwrite
      exact (Except.ok.inj hdocument).symm
    rw [hstate]
    exact if_pos hbytes
  · have hunknown : .error "unknown state" = (.ok bytes : Except String Bytes) :=
      (if_neg hstate).symm.trans hwrite
    cases hunknown

end MatchPlane
