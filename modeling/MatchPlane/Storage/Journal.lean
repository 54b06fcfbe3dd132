import MatchPlane.Storage.Matching

/-!
# What transactions do to the journal

One specification for each journal operation, and from them the effect of a whole
submission or commit.  The specifications leave the admissible errors open, so
that the same lemmas serve statements about successes only and statements about
which errors can occur.
-/

namespace MatchPlane

open MatchPlane.Library

section Sequences

variable {σ : Type} {failure : StorageError → Prop} {state : σ} {post : Nat → σ → Prop}

theorem ensures_i64Sequence {value : Nat}
    (hfailure : i64Max < value →
      failure (.invalidData "sequence exceeds PostgreSQL bigint"))
    (h : value ≤ i64Max → post value state) :
    Ensures (i64Sequence value) failure state post := by
  unfold i64Sequence
  rw [ensures_ite, ensures_throw, ensures_pure]
  exact ⟨hfailure, fun hnot => h (by omega)⟩

theorem ensures_positiveU64 {value : Nat}
    (hfailure : value = 0 → failure (.invalidData "sequence is not positive"))
    (h : value ≠ 0 → post value state) :
    Ensures (positiveU64 value) failure state post := by
  unfold positiveU64
  rw [ensures_ite, ensures_throw, ensures_pure]
  exact ⟨hfailure, h⟩

theorem ensures_eventSequence {first ordinal : Nat}
    (hfailure : u64Max < first + ordinal →
      failure (.invalidData "event sequence overflow"))
    (h : first + ordinal ≤ u64Max → post (first + ordinal) state) :
    Ensures (eventSequence first ordinal) failure state post := by
  unfold eventSequence
  rw [ensures_ite, ensures_throw, ensures_pure]
  exact ⟨hfailure, fun hnot => h (by omega)⟩

end Sequences

theorem isSequence_iff {value : Nat} :
    isSequence value = true ↔ 0 < value ∧ value ≤ i64Max := by
  simp [isSequence]

/-! ## Facts and messages -/

/-- Messages that are not commands were queued, and these rows were added to the facts. -/
structure Extended (journal journal' : Journal) (rows : List DomainEventRow) : Prop where
  domainEvents : journal'.domainEvents.rows = journal.domainEvents.rows ++ rows
  outboxEvents : ∃ added, journal'.outboxEvents.rows = journal.outboxEvents.rows ++ added ∧
    ∀ row ∈ added, ∀ command, row.payload ≠ .matchingCommand command
  commandLog : journal'.commandLog = journal.commandLog
  consumerInbox : journal'.consumerInbox = journal.consumerInbox
  shardLeases : journal'.shardLeases = journal.shardLeases
  orderBookSnapshots : journal'.orderBookSnapshots = journal.orderBookSnapshots

theorem Extended.refl (journal : Journal) : Extended journal journal [] where
  domainEvents := by simp
  outboxEvents := ⟨[], by simp⟩
  commandLog := rfl
  consumerInbox := rfl
  shardLeases := rfl
  orderBookSnapshots := rfl

theorem Extended.trans {first second third : Journal} {rows rows' : List DomainEventRow}
    (h : Extended first second rows) (h' : Extended second third rows') :
    Extended first third (rows ++ rows') where
  domainEvents := by rw [h'.domainEvents, h.domainEvents, List.append_assoc]
  outboxEvents := by
    obtain ⟨added, hadded, hcommands⟩ := h.outboxEvents
    obtain ⟨added', hadded', hcommands'⟩ := h'.outboxEvents
    refine ⟨added ++ added', by rw [hadded', hadded, List.append_assoc], ?_⟩
    intro row hrow
    rcases List.mem_append.mp hrow with hrow | hrow
    · exact hcommands row hrow
    · exact hcommands' row hrow
  commandLog := h'.commandLog.trans h.commandLog
  consumerInbox := h'.consumerInbox.trans h.consumerInbox
  shardLeases := h'.shardLeases.trans h.shardLeases
  orderBookSnapshots := h'.orderBookSnapshots.trans h.orderBookSnapshots

section Facts

variable {failure : StorageError → Prop} {journal : Journal}

theorem ensures_insertOutbox {envelope : EventEnvelope} {topic messageKey : String}
    {payload : MessagePayload} {post : PUnit → Journal → Prop} (hsqlx : failure .sqlx)
    (hbigint : i64Max < envelope.shardSequence →
      failure (.invalidData "sequence exceeds PostgreSQL bigint"))
    (h : ∀ t, t.rows = journal.outboxEvents.rows ++ [⟨envelope, topic, messageKey, payload⟩] →
      post ⟨⟩ { journal with outboxEvents := t }) :
    Ensures (insertOutbox envelope topic messageKey payload) failure journal post := by
  unfold insertOutbox
  rw [ensures_bind]
  refine ensures_i64Sequence hbigint fun _ => ?_
  rw [ensures_on]
  exact Table.ensures_insert hsqlx h

/-- A row of the domain events together with its message, as both event writers store them. -/
theorem ensures_publish {row : DomainEventRow} {envelope : EventEnvelope}
    {topic messageKey : String} {payload : MessagePayload}
    (hpayload : ∀ command, payload ≠ .matchingCommand command) (hsqlx : failure .sqlx)
    (hbigint : i64Max < envelope.shardSequence →
      failure (.invalidData "sequence exceeds PostgreSQL bigint")) :
    Ensures (do
        Journal.domainEventTable.on (Table.insert .sqlx row)
        insertOutbox envelope topic messageKey payload) failure journal
      fun _ journal' => Extended journal journal' [row] := by
  rw [ensures_bind, ensures_on]
  refine Table.ensures_insert hsqlx fun events hevents => ?_
  refine ensures_insertOutbox hsqlx hbigint fun outbox houtbox => ?_
  refine ⟨hevents, ⟨_, houtbox, ?_⟩, rfl, rfl, rfl, rfl⟩
  intro added hadded
  rw [List.mem_singleton] at hadded
  subst hadded
  exact hpayload

variable [Sha256] [Prost]

/-- The row of an engine event. -/
def factRow (decoded : DecodedCommand) (ownerNodeId : FederationNodeId)
    (fencingToken sequence : Nat) (event : EngineEvent) : DomainEventRow :=
  .ofEnvelope (factEnvelope decoded ownerNodeId sequence event) (eventType event.payload)
    (.fact event) fencingToken

theorem ensures_persistDomainEvent [SerdeJson] {decoded : DecodedCommand}
    {ownerNodeId : FederationNodeId} {fencingToken sequence : Nat} {event : EngineEvent}
    (hsqlx : failure .sqlx)
    (hbigint : i64Max < sequence →
      failure (.invalidData "sequence exceeds PostgreSQL bigint"))
    (hjson : event.hasJson = false → failure .json) :
    Ensures (persistDomainEvent decoded ownerNodeId fencingToken sequence event) failure
      journal fun _ journal' => Extended journal journal'
        [factRow decoded ownerNodeId fencingToken sequence event] := by
  unfold persistDomainEvent
  rw [ensures_bind]
  refine ensures_i64Sequence hbigint fun _ => ?_
  simp only [ensures_ite, ensures_bind, ensures_throw]
  refine ⟨hjson, fun _ => ?_⟩
  rw [← ensures_bind]
  refine ensures_publish ?_ hsqlx hbigint
  intro command h
  cases h

theorem ensures_persistBookDelta [UuidV5] [SnapshotCodec] {decoded : DecodedCommand}
    {ownerNodeId : FederationNodeId} {fencingToken : Nat} {book : OrderBook}
    (hsqlx : failure .sqlx)
    (hbigint : i64Max < decoded.envelope.shardSequence →
      failure (.invalidData "sequence exceeds PostgreSQL bigint"))
    (hdelta : ∀ error, orderBookDelta decoded book = .error error → failure error) :
    Ensures (persistBookDelta decoded ownerNodeId fencingToken book) failure journal
      fun _ journal' => ∃ row, row.streamKind = .orderBookDelta ∧
        Extended journal journal' [row] := by
  unfold persistBookDelta
  rw [ensures_bind, ensures_lift]
  cases hrun : orderBookDelta decoded book with
  | error error => exact hdelta error hrun
  | ok delta =>
      simp only [ensures_bind]
      refine ensures_i64Sequence hbigint fun _ => ?_
      rw [← ensures_bind]
      refine (ensures_publish ?_ hsqlx ?_).mono (fun _ h => h) fun _ journal' h => ?_
      · intro command h
        cases h
      · exact hbigint
      · exact ⟨_, rfl, h⟩

/-- The rows of the events of one command, numbered from `first`. -/
def factRows (decoded : DecodedCommand) (ownerNodeId : FederationNodeId)
    (fencingToken first : Nat) (events : List EngineEvent) : List DomainEventRow :=
  events.zipIdx.map fun (event, ordinal) =>
    factRow decoded ownerNodeId fencingToken (first + ordinal) event

theorem ensures_persistDomainEvents [SerdeJson] {decoded : DecodedCommand}
    {ownerNodeId : FederationNodeId} {fencingToken first : Nat} {events : List EngineEvent}
    (hsqlx : failure .sqlx)
    (hoverflow : u64Max < first + (events.length - 1) →
      failure (.invalidData "event sequence overflow"))
    (hbigint : i64Max < first + (events.length - 1) →
      failure (.invalidData "sequence exceeds PostgreSQL bigint"))
    (hjson : ∀ event ∈ events, event.hasJson = false → failure .json) :
    Ensures (forM events.zipIdx fun (event, ordinal) => do
        let sequence ← eventSequence first ordinal
        persistDomainEvent decoded ownerNodeId fencingToken sequence event) failure
      journal fun _ journal' => Extended journal journal'
        (factRows decoded ownerNodeId fencingToken first events) := by
  refine Ensures.mono (Ensures.forM (fun rest journal' =>
    ∃ before, events.zipIdx = before ++ rest ∧
      Extended journal journal' (before.map fun (event, ordinal) =>
        factRow decoded ownerNodeId fencingToken (first + ordinal) event)) ?_
    ⟨[], rfl, Extended.refl journal⟩) (fun _ h => h) ?_
  · rintro ⟨event, ordinal⟩ rest journal' hsuffix ⟨before, hbefore, hextended⟩
    have hmem : (event, ordinal) ∈ events.zipIdx := hsuffix.mem List.mem_cons_self
    obtain ⟨_, hlast, hevent⟩ := List.mem_zipIdx hmem
    have hordinal : ordinal ≤ events.length - 1 := by omega
    rw [ensures_bind]
    refine ensures_eventSequence (fun h => hoverflow (by omega)) fun _ => ?_
    refine (ensures_persistDomainEvent hsqlx (fun h => hbigint (by omega))
      (hjson event ?_)).mono (fun _ h => h) ?_
    · rw [hevent]
      exact List.getElem_mem _
    · intro _ journal'' h
      refine ⟨before ++ [(event, ordinal)], ?_, ?_⟩
      · rw [hbefore, List.append_assoc]
        rfl
      · rw [List.map_append]
        exact hextended.trans h
  · rintro _ journal' ⟨before, hbefore, hextended⟩
    rw [factRows, hbefore, List.append_nil]
    exact hextended

end Facts

/-! ## The steps of a commit -/

section Commit

variable {failure : StorageError → Prop} {journal : Journal} {decoded : DecodedCommand}

theorem ensures_insertInbox {name : String} {post : Bool → Journal → Prop}
    (hsqlx : failure .sqlx)
    (hbigint : i64Max < decoded.envelope.shardSequence →
      failure (.invalidData "sequence exceeds PostgreSQL bigint"))
    (h : ∀ t row, t.rows = journal.consumerInbox.rows ++ [row] → row.consumerName = name →
      row.eventId = decoded.envelope.eventId →
      row.payloadHash = decoded.envelope.payloadHash → row.status = .processing →
        post true { journal with consumerInbox := t })
    (hignored : journal.consumerInbox.lookup (name, decoded.envelope.eventId) ≠ none →
      post false journal) :
    Ensures (insertInbox name decoded) failure journal post := by
  unfold insertInbox
  rw [ensures_bind]
  refine ensures_i64Sequence hbigint fun _ => ?_
  rw [ensures_on]
  refine Table.ensures_insertOrIgnore hsqlx (fun t ht => h t _ ht rfl rfl rfl rfl) ?_
  intro hcheck hinvalid
  refine hignored fun hnone => hinvalid ?_
  -- The key is the only unique column, so nothing else can turn the row away.
  rw [Table.lookup_eq_none_iff] at hnone
  refine ⟨?_, ?_, ?_⟩
  · rw [List.pairwise_append]
    refine ⟨journal.consumerInbox.valid.keys, List.pairwise_singleton _ _, ?_⟩
    intro other hother added hadded
    rw [List.mem_singleton] at hadded
    subst hadded
    exact hnone other hother
  · exact List.pairwise_of_forall fun _ _ => rfl
  · intro other hother
    rcases List.mem_append.mp hother with hother | hother
    · exact journal.consumerInbox.valid.checked other hother
    · rw [List.mem_singleton] at hother
      subst hother
      exact hcheck

theorem ensures_verifyExistingInbox {name : String}
    (hsqlx : failure .sqlx)
    (hreused : ∀ row, journal.consumerInbox.lookup (name, decoded.envelope.eventId) =
      some row → row.payloadHash ≠ decoded.envelope.payloadHash →
        failure (.invalidData "inbox event ID was reused with a different payload"))
    (hstatus : ∀ row, journal.consumerInbox.lookup (name, decoded.envelope.eventId) =
      some row → row.status ≠ .applied →
        failure (.invalidData s!"existing inbox record is unexpectedly {row.status.text}")) :
    Ensures (verifyExistingInbox name decoded) failure journal fun outcome journal' =>
      outcome = .duplicate ∧ journal' = journal ∧
        ∃ row, journal.consumerInbox.lookup (name, decoded.envelope.eventId) = some row ∧
          row.status = .applied := by
  unfold verifyExistingInbox
  simp only [ensures_bind, ensures_get, ensures_require]
  refine ⟨fun _ => hsqlx, fun row hrow => ?_⟩
  simp only [ensures_ite, ensures_bind, ensures_throw, ensures_pure]
  refine ⟨hreused row hrow, fun _ => ⟨hstatus row hrow, fun happlied => ?_⟩⟩
  exact ⟨trivial, trivial, row, hrow, not_not.mp happlied⟩

theorem ensures_duplicateInboxResult {name : String} (hfailure : ∀ message,
      failure (.invalidData message)) :
    Ensures (duplicateInboxResult name decoded) failure journal fun outcome journal' =>
      outcome = .duplicate ∧ journal' = journal := by
  unfold duplicateInboxResult
  simp only [ensures_bind, ensures_get, ensures_require]
  refine ⟨fun _ => hfailure _, fun row _ => ?_⟩
  simp only [ensures_ite, ensures_bind, ensures_throw, ensures_pure]
  exact ⟨fun _ => hfailure _, fun _ => ⟨trivial, trivial⟩⟩

theorem ensures_verifyPendingCommand {post : PUnit → Journal → Prop}
    (hfailure : ¬(∃ row, journal.commandLog.lookup decoded.envelope.eventId = some row ∧
        row.payloadHash = decoded.envelope.payloadHash ∧
        row.shardSequence = decoded.envelope.shardSequence ∧ row.status = .pending) →
      ∀ error, failure error)
    (h : ∀ row, journal.commandLog.lookup decoded.envelope.eventId = some row →
      row.payloadHash = decoded.envelope.payloadHash →
      row.shardSequence = decoded.envelope.shardSequence → row.status = .pending →
        post ⟨⟩ journal) :
    Ensures (verifyPendingCommand decoded) failure journal post := by
  unfold verifyPendingCommand
  simp only [ensures_bind, ensures_get, ensures_require]
  refine ⟨fun hnone => hfailure ?_ _, fun row hrow => ?_⟩
  · rintro ⟨row, hrow, _⟩
    rw [hnone] at hrow
    cases hrow
  · have hpositive := isSequence_iff.mp (by
      simpa [commandLog] using Table.check_of_lookup hrow)
    refine ensures_positiveU64 (fun hzero => absurd hzero (by omega)) fun _ => ?_
    simp only [ensures_ite, ensures_throw, ensures_pure]
    refine ⟨fun hmismatch => hfailure ?_ _, fun hmatch => ?_⟩
    · rintro ⟨other, hother, hhash, hsequence, hstatus⟩
      rw [hrow] at hother
      cases hother
      simp [hhash, hsequence, hstatus] at hmismatch
    · simp only [not_or, not_not] at hmatch
      exact h row hrow hmatch.1 hmatch.2.1 hmatch.2.2

/-- The token of a market's lease, zero before the first one. -/
def Journal.fencingToken (journal : Journal) (marketId : MarketId) : Nat :=
  (journal.shardLeases.lookup marketId).elim 0 ShardLeaseRow.fencingToken

/-- Acquiring a lease returns its token, which is not below any earlier one. -/
theorem ensures_acquireLease {markets : Table markets} {ownerInstanceId : String}
    {ownerNodeId : FederationNodeId} {now : OffsetDateTime} {post : Nat → Journal → Prop}
    (hsqlx : failure .sqlx) (hlease : failure .leaseUnavailable)
    (h : ∀ token t, (∀ marketId, journal.fencingToken marketId ≤
      ({ journal with shardLeases := t } : Journal).fencingToken marketId) →
        post token { journal with shardLeases := t }) :
    Ensures (acquireLease markets decoded ownerInstanceId ownerNodeId now) failure journal
      post := by
  unfold acquireLease
  simp only [ensures_bind, ensures_get, ensures_require]
  refine ⟨fun _ => hlease, fun _ _ => ?_⟩
  cases hstored : journal.shardLeases.lookup decoded.envelope.marketId with
  | none =>
      simp only [ensures_bind, ensures_on, ensures_pure, ensures_ite, ensures_throw,
        Journal.shardLeaseTable]
      refine Table.ensures_insert hsqlx fun t ht => ?_
      refine ⟨fun hzero => absurd hzero (by decide), fun _ => h 1 t fun marketId => ?_⟩
      simp only [Journal.fencingToken, Table.lookup_inserted ht]
      by_cases hmarket : marketId = decoded.envelope.marketId
      · simp [hmarket, hstored]
      · simp [shardLeases, hmarket]
  | some lease =>
      simp only [ensures_bind, ensures_on, ensures_pure, ensures_ite, ensures_throw,
        Journal.shardLeaseTable]
      refine Table.ensures_update hsqlx fun t ht => ?_
      rw [ensures_require]
      refine ⟨fun _ => hlease, fun row hrow => ⟨fun hzero => ?_, fun _ => h _ t ?_⟩⟩
      · -- A stored token is positive, and so is what replaces it.
        have hpositive := isSequence_iff.mp (by
          simpa [shardLeases] using Table.check_of_lookup hstored)
        simp only [hstored, Option.map_eq_some_iff, Option.filter_eq_some_iff] at hrow
        obtain ⟨_, ⟨hsame, _⟩, rfl⟩ := hrow
        cases hsame
        dsimp only at hzero
        split at hzero <;> omega
      · intro marketId
        simp only [Journal.fencingToken, Table.lookup_replaced ht fun _ => rfl]
        by_cases hmarket : marketId = decoded.envelope.marketId
        · simp only [hmarket, hstored, if_true, Option.map_some, Option.elim_some]
          split
          · dsimp only
            split <;> omega
          · exact le_refl _
        · simp [hmarket]

/-- The status of one logged command goes from pending to applied. -/
def Journal.logApplied (journal : Journal) (eventId : EventId) : List CommandLogRow :=
  journal.commandLog.replaced eventId (fun row => row.status = .pending)
    fun row => { row with status := .applied }

/-- The inbox row of a command goes from processing to applied. -/
def Journal.inboxApplied (journal : Journal) (name : String) (eventId : EventId) :
    List ConsumerInboxRow :=
  journal.consumerInbox.replaced (name, eventId) (fun row => row.status = .processing)
    fun row => { row with status := .applied }

theorem ensures_markApplied {name : String} {post : PUnit → Journal → Prop}
    (hsqlx : failure .sqlx)
    (h : ∀ log inbox, log.rows = journal.logApplied decoded.envelope.eventId →
      inbox.rows = journal.inboxApplied name decoded.envelope.eventId →
        post ⟨⟩ { journal with commandLog := log, consumerInbox := inbox }) :
    Ensures (markApplied name decoded) failure journal post := by
  unfold markApplied
  simp only [ensures_bind, ensures_on, ensures_pure, Journal.commandLogTable,
    Journal.consumerInboxTable]
  refine Table.ensures_update hsqlx fun log hlog => ?_
  exact Table.ensures_update hsqlx fun inbox hinbox => h log inbox hlog hinbox

variable [Sha256] [SnapshotCodec]

/-- A row that holds the snapshot of a book at a position of the facts. -/
structure SnapshotOf (marketId : MarketId) (book : OrderBook) (position : Nat)
    (row : OrderBookSnapshotRow) : Prop where
  marketId : row.marketId = marketId
  lastEventSequence : row.lastEventSequence = position
  state : book.snapshotBytes = .ok row.state
  checksum : row.checksum = Sha256.digest row.state

theorem ensures_persistSnapshot {snapshotId : Uuid} {position : Nat} {book : OrderBook}
    {post : PUnit → Journal → Prop} (hsqlx : failure .sqlx)
    (hbigint : i64Max < position →
      failure (.invalidData "sequence exceeds PostgreSQL bigint"))
    (hengine : ∀ error, book.snapshotBytes = .error error → failure (.engine error))
    (h : ∀ t row, t.rows = journal.orderBookSnapshots.rows ++ [row] →
      SnapshotOf decoded.envelope.marketId book position row →
        post ⟨⟩ { journal with orderBookSnapshots := t }) :
    Ensures (persistSnapshot decoded snapshotId position book) failure journal post := by
  unfold persistSnapshot
  rw [ensures_bind, ensures_lift]
  cases hstate : book.snapshotBytes with
  | error error => exact hengine error hstate
  | ok state =>
      simp only [StorageError.ofEngine, ensures_bind]
      refine ensures_i64Sequence hbigint fun _ => ?_
      simp only [ensures_on, Journal.snapshotTable]
      exact Table.ensures_insert hsqlx fun t ht => h t _ ht ⟨rfl, rfl, hstate, rfl⟩

variable [UuidV5] [Prost] [SerdeJson]

/-- What a commit adds to the journal, from a position of the facts on. -/
structure Persisted (journal journal' : Journal) (name : String)
    (decoded : DecodedCommand) (book : OrderBook) (events : List EngineEvent)
    (first : Nat) : Prop where
  domainEvents : ∃ ownerNodeId token delta, delta.streamKind = .orderBookDelta ∧
    journal'.domainEvents.rows = journal.domainEvents.rows ++
      (factRows decoded ownerNodeId token first events ++ [delta])
  outboxEvents : ∃ added, journal'.outboxEvents.rows = journal.outboxEvents.rows ++ added ∧
    ∀ row ∈ added, ∀ command, row.payload ≠ .matchingCommand command
  commandLog : journal'.commandLog.rows = journal.logApplied decoded.envelope.eventId
  consumerInbox :
    journal'.consumerInbox.rows = journal.inboxApplied name decoded.envelope.eventId
  shardLeases : journal'.shardLeases = journal.shardLeases
  orderBookSnapshots : ∃ row,
    journal'.orderBookSnapshots.rows = journal.orderBookSnapshots.rows ++ [row] ∧
      SnapshotOf decoded.envelope.marketId book (first + (events.length - 1)) row

/-- The errors that storing an outcome can end in, each with what it takes. -/
structure OutcomeFailures (failure : StorageError → Prop) (decoded : DecodedCommand)
    (book : OrderBook) (events : List EngineEvent) (first : Nat) : Prop where
  sqlx : failure .sqlx
  overflow : u64Max < first + (events.length - 1) →
    failure (.invalidData "event sequence overflow")
  bigint : i64Max < first + (events.length - 1) ∨ i64Max < decoded.envelope.shardSequence →
    failure (.invalidData "sequence exceeds PostgreSQL bigint")
  json : ∀ event ∈ events, event.hasJson = false → failure .json
  delta : ∀ error, orderBookDelta decoded book = .error error → failure error
  snapshot : ∀ error, book.snapshotBytes = .error error → failure (.engine error)

theorem ensures_persistOutcome {name : String} {ownerNodeId : FederationNodeId}
    {book : OrderBook} {events : List EngineEvent} {token first : Nat} {snapshotId : Uuid}
    (hfailure : OutcomeFailures failure decoded book events first) :
    Ensures (persistOutcome name ownerNodeId decoded book events token first snapshotId)
      failure journal fun _ journal' =>
        Persisted journal journal' name decoded book events first := by
  unfold persistOutcome
  rw [ensures_bind]
  refine (ensures_persistDomainEvents hfailure.sqlx hfailure.overflow
    (fun h => hfailure.bigint (.inl h)) hfailure.json).mono (fun _ h => h) ?_
  intro _ facts hfacts
  rw [ensures_bind]
  refine ensures_eventSequence hfailure.overflow fun _ => ?_
  rw [ensures_bind]
  refine (ensures_persistBookDelta hfailure.sqlx (fun h => hfailure.bigint (.inr h))
    hfailure.delta).mono (fun _ h => h) ?_
  rintro _ published ⟨delta, hkind, hdelta⟩
  rw [ensures_bind]
  refine ensures_persistSnapshot hfailure.sqlx (fun h => hfailure.bigint (.inl h))
    hfailure.snapshot fun snapshots row hrows hrow => ?_
  refine ensures_markApplied hfailure.sqlx fun log inbox hlog hinbox => ?_
  have hboth := hfacts.trans hdelta
  constructor
  case domainEvents => exact ⟨ownerNodeId, token, delta, hkind, hboth.domainEvents⟩
  case outboxEvents => exact hboth.outboxEvents
  case commandLog =>
    rw [hlog, Journal.logApplied, Journal.logApplied, hboth.commandLog]
  case consumerInbox =>
    rw [hinbox, Journal.inboxApplied, Journal.inboxApplied, hboth.consumerInbox]
  case shardLeases => exact hboth.shardLeases
  case orderBookSnapshots =>
    refine ⟨row, ?_, hrow⟩
    rw [hrows, hboth.orderBookSnapshots]

end Commit

end MatchPlane
