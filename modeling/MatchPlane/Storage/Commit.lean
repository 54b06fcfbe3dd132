import MatchPlane.Storage.Journal

/-!
# Submissions and commits as a whole

Both transactions touch the three parts of the database in turn.  Their effect on
the markets and the journal is exact; the holdings are left to the caller, as a
property that the holdings side establishes.
-/

namespace MatchPlane

open MatchPlane.Library

/-! ## Markets -/

section Markets

variable {failure : StorageError → Prop} {t : Table markets}

theorem ensures_allocateCommandSequence {tenantId : TenantId} {domainId : DomainId}
    {marketId : MarketId} {post : MarketRow × Nat → Table markets → Prop}
    (hsqlx : failure .sqlx) (hmarket : failure (.notFound "active market"))
    (h : ∀ t' market, t.lookup marketId = some market → market.tenantId = tenantId →
      market.domainId = domainId → market.status = .active →
      (∀ id, t'.lookup id = if id = marketId then
        some { market with nextCommandSequence := market.nextCommandSequence + 1 }
      else t.lookup id) →
        post ({ market with nextCommandSequence := market.nextCommandSequence + 1 },
          market.nextCommandSequence) t') :
    Ensures (allocateCommandSequence tenantId domainId marketId) failure t post := by
  unfold allocateCommandSequence
  rw [ensures_bind]
  refine Table.ensures_update hsqlx fun t' ht' => ?_
  simp only [ensures_bind, ensures_require]
  refine ⟨fun _ => hmarket, fun updated hupdated => ?_⟩
  simp only [Option.map_eq_some_iff, Option.filter_eq_some_iff, decide_eq_true_eq]
    at hupdated
  obtain ⟨market, ⟨hlookup, htenant, hdomain, hactive⟩, rfl⟩ := hupdated
  have hcheck := Table.check_of_lookup hlookup
  simp only [markets, decide_eq_true_eq, isSequence_iff] at hcheck
  refine ensures_positiveU64 (fun hzero => absurd hzero ?_) fun _ => ?_
  · change market.nextCommandSequence + 1 - 1 ≠ 0
    omega
  · refine h t' market hlookup htenant hdomain hactive fun id => ?_
    rw [Table.lookup_replaced ht' fun _ => rfl, hlookup]
    simp [htenant, hdomain, hactive]

theorem ensures_allocateEventSequences {marketId : MarketId} {count : Nat}
    {post : Nat → Table markets → Prop} (hsqlx : failure .sqlx)
    (h : ∀ t' market, t.lookup marketId = some market →
      (∀ id, t'.lookup id = if id = marketId then
        some { market with nextEventSequence := market.nextEventSequence + count }
      else t.lookup id) → post market.nextEventSequence t') :
    Ensures (allocateEventSequences marketId count) failure t post := by
  unfold allocateEventSequences
  rw [ensures_bind]
  refine Table.ensures_update hsqlx fun t' ht' => ?_
  simp only [ensures_bind, ensures_require]
  refine ⟨fun _ => hsqlx, fun updated hupdated => ?_⟩
  simp only [Option.map_eq_some_iff, Option.filter_eq_some_iff, and_true] at hupdated
  obtain ⟨market, hlookup, rfl⟩ := hupdated
  have hcheck := Table.check_of_lookup hlookup
  simp only [markets, decide_eq_true_eq, isSequence_iff] at hcheck
  have hfirst : market.nextEventSequence + count - count = market.nextEventSequence := by
    omega
  refine ensures_positiveU64 (fun hzero => absurd hzero ?_) fun _ => ?_
  · rw [hfirst]
    omega
  · rw [hfirst]
    refine h t' market hlookup fun id => ?_
    rw [Table.lookup_replaced ht' fun _ => rfl, hlookup]
    simp

end Markets

/-! ## Commits -/

section Commit

variable [UuidV5] [Sha256] [Prost] [SerdeJson] [SnapshotCodec]

/-- The effect of an applied commit on the markets and the journal. -/
structure Committed (db db' : Database) (name : String) (decoded : DecodedCommand)
    (book : OrderBook) (events : List EngineEvent) (market : MarketRow) : Prop where
  pending : ∃ row, db.journal.commandLog.lookup decoded.envelope.eventId = some row ∧
    row.payloadHash = decoded.envelope.payloadHash ∧
    row.shardSequence = decoded.envelope.shardSequence ∧ row.status = .pending
  found : db.markets.lookup decoded.envelope.marketId = some market
  markets : ∀ id, db'.markets.lookup id = if id = decoded.envelope.marketId then
      some { market with nextEventSequence := market.nextEventSequence + events.length }
    else db.markets.lookup id
  domainEvents : ∃ ownerNodeId token delta, delta.streamKind = .orderBookDelta ∧
    db'.journal.domainEvents.rows = db.journal.domainEvents.rows ++
      (factRows decoded ownerNodeId token market.nextEventSequence events ++ [delta])
  outboxEvents : ∃ added,
    db'.journal.outboxEvents.rows = db.journal.outboxEvents.rows ++ added ∧
      ∀ row ∈ added, ∀ command, row.payload ≠ .matchingCommand command
  commandLog :
    db'.journal.commandLog.rows = db.journal.logApplied decoded.envelope.eventId
  consumerInbox : ∃ row,
    db'.journal.consumerInbox.rows = db.journal.consumerInbox.rows ++ [row] ∧
      row.consumerName = name ∧ row.eventId = decoded.envelope.eventId ∧
      row.payloadHash = decoded.envelope.payloadHash ∧ row.status = .applied
  fencingToken : ∀ marketId,
    db.journal.fencingToken marketId ≤ db'.journal.fencingToken marketId
  orderBookSnapshots : ∃ row,
    db'.journal.orderBookSnapshots.rows = db.journal.orderBookSnapshots.rows ++ [row] ∧
      SnapshotOf decoded.envelope.marketId book
        (market.nextEventSequence + (events.length - 1)) row

/-- The errors that a commit can end in, each with what it takes. -/
structure CommitFailures (failure : StorageError → Prop) (db : Database) (name : String)
    (decoded : DecodedCommand) (book : OrderBook) (events : List EngineEvent) : Prop where
  lease : failure .leaseUnavailable
  sqlx : failure .sqlx
  duplicate : events = [] → ∀ message, failure (.invalidData message)
  bigint : i64Max < decoded.envelope.shardSequence →
    failure (.invalidData "sequence exceeds PostgreSQL bigint")
  inbox : db.journal.consumerInbox.lookup (name, decoded.envelope.eventId) ≠ none →
    ∀ message, failure (.invalidData message)
  pending : ¬(∃ row, db.journal.commandLog.lookup decoded.envelope.eventId = some row ∧
      row.payloadHash = decoded.envelope.payloadHash ∧
      row.shardSequence = decoded.envelope.shardSequence ∧ row.status = .pending) →
    ∀ error, failure error
  tooMany : i64Max < events.length →
    failure (.invalidData "too many events in one command")
  outcome : ∀ market, db.markets.lookup decoded.envelope.marketId = some market →
    ∀ t : Table markets, t.lookup decoded.envelope.marketId =
      some { market with nextEventSequence := market.nextEventSequence + events.length } →
    OutcomeFailures failure decoded book events market.nextEventSequence

/-- The outcome of a commit, with what the holdings side established. -/
inductive CommitPost (db : Database) (name : String) (decoded : DecodedCommand)
    (book : OrderBook) (events : List EngineEvent) (expired settled : Holdings → Prop) :
    MatchCommitOutcome → Database → Prop
  | again (hevents : events = []) : CommitPost db name decoded book events expired settled
      .duplicate db
  | duplicate {row : ConsumerInboxRow} {holdings : Holdings} (hevents : events ≠ [])
      (hrow : db.journal.consumerInbox.lookup (name, decoded.envelope.eventId) = some row)
      (hstatus : row.status = .applied) (hexpired : expired holdings) :
      CommitPost db name decoded book events expired settled .duplicate
        { db with holdings := holdings }
  | applied {db' : Database} {market : MarketRow} (hevents : events ≠ [])
      (hcommitted : Committed db db' name decoded book events market)
      (hsettled : settled db'.holdings) :
      CommitPost db name decoded book events expired settled .applied db'

theorem ensures_commitMatching {failure : StorageError → Prop} {db : Database}
    {name ownerInstanceId : String} {ownerNodeId : FederationNodeId}
    {decoded : DecodedCommand} {book : OrderBook} {events : List EngineEvent}
    {now : OffsetDateTime} {snapshotId : Uuid} {expired settled : Holdings → Prop}
    (hfailure : CommitFailures failure db name decoded book events)
    (hexpire : events ≠ [] →
      Ensures (expireFederatedReservations decoded.envelope.marketId now) failure
        db.holdings fun _ holdings => expired holdings)
    (hsettle : events ≠ [] → ∀ holdings token, expired holdings →
      Ensures (settleCommand db.markets decoded book events token) failure holdings
        fun _ holdings' => settled holdings') :
    Ensures (commitMatching name ownerInstanceId ownerNodeId decoded book events now
      snapshotId) failure db (CommitPost db name decoded book events expired settled) := by
  unfold commitMatching
  rw [ensures_ite]
  constructor
  · intro hempty
    have hnil : events = [] := List.isEmpty_iff.mp hempty
    simp only [ensures_on, Database.journalPart]
    refine (ensures_duplicateInboxResult (hfailure.duplicate hnil)).mono (fun _ h => h) ?_
    rintro _ _ ⟨rfl, rfl⟩
    exact .again hnil
  · intro hne
    have hevents : events ≠ [] := fun h => hne (List.isEmpty_iff.mpr h)
    simp only [ensures_bind, ensures_on, Database.journalPart, Database.holdingsPart,
      Database.marketTable]
    refine (hexpire hevents).mono (fun _ h => h) fun _ holdings hexpired => ?_
    refine ensures_insertInbox hfailure.sqlx hfailure.bigint ?_ ?_
    · intro inbox row hinbox hname hid hhash hprocessing
      simp only [Bool.true_eq_false, if_false, ensures_bind, ensures_on, ensures_get,
        ensures_ite, ensures_throw, ensures_pure]
      refine ensures_verifyPendingCommand hfailure.pending ?_
      intro stored hstored hstoredHash hsequence hpending
      refine ensures_acquireLease hfailure.sqlx hfailure.lease fun token leases htokens => ?_
      refine (hsettle hevents holdings token hexpired).mono (fun _ h => h) ?_
      intro _ holdings' hsettled
      refine ⟨hfailure.tooMany, fun _ => ?_⟩
      refine ensures_allocateEventSequences hfailure.sqlx fun t market hmarket hmarkets => ?_
      refine (ensures_persistOutcome (hfailure.outcome market hmarket t
        (by rw [hmarkets, if_pos rfl]))).mono (fun _ h => h) ?_
      intro _ journal' hpersisted
      refine CommitPost.applied hevents (?_ : Committed _ _ _ _ _ _ market) hsettled
      constructor
      case pending => exact ⟨stored, hstored, hstoredHash, hsequence, hpending⟩
      case found => exact hmarket
      case markets => exact hmarkets
      case domainEvents => exact hpersisted.domainEvents
      case outboxEvents => exact hpersisted.outboxEvents
      case commandLog => exact hpersisted.commandLog
      case consumerInbox =>
        refine ⟨{ row with status := .applied }, ?_, hname, hid, hhash, rfl⟩
        rw [hpersisted.consumerInbox, Journal.inboxApplied]
        refine Table.replaced_inserted hinbox ?_ ?_
        · simp [consumerInbox, hname, hid]
        · simp [hprocessing]
      case fencingToken =>
        intro marketId
        refine (htokens marketId).trans (le_of_eq ?_)
        simp only [Journal.fencingToken, hpersisted.shardLeases]
      case orderBookSnapshots => exact hpersisted.orderBookSnapshots
    · intro hfound
      simp only [if_true, ensures_on]
      refine (ensures_verifyExistingInbox hfailure.sqlx
        (fun _ _ _ => hfailure.inbox hfound _) (fun _ _ _ => hfailure.inbox hfound _)).mono
        (fun _ h => h) ?_
      rintro _ _ ⟨rfl, rfl, row, hrow, hstatus⟩
      exact .duplicate hevents hrow hstatus hexpired

end Commit

/-- A statement about successes alone leaves all errors open. -/
theorem CommitFailures.of_forall [Sha256] [SerdeJson] [SnapshotCodec] (db : Database)
    (name : String) (decoded : DecodedCommand) (book : OrderBook)
    (events : List EngineEvent) :
    CommitFailures (fun _ => True) db name decoded book events := by
  constructor <;> intros <;> first
    | trivial
    | constructor <;> intros <;> trivial

/-! ## Submissions -/

section Submit

variable [Sha256] [Prost]

/-- The logged command of a submission that was given the next sequence of a market. -/
def SubmitOrder.logRow (request : SubmitOrder) (commandId : EventId) (market : MarketRow) :
    CommandLogRow where
  eventId := commandId
  sourceNodeId := request.sourceNodeId
  tenantId := request.intent.tenantId
  domainId := request.intent.domainId
  marketId := request.intent.marketId
  shardId := market.shardId
  shardSequence := market.nextCommandSequence
  occurredAt := request.intent.submittedAt
  payloadHash := requestHash request
  payload := request.engineCommand commandId market.nextCommandSequence
  status := .pending

def SubmitOrder.orderRow (request : SubmitOrder) (commandId : EventId) (sequence : Nat) :
    OrderRow where
  id := request.intent.orderId
  tenantId := request.intent.tenantId
  domainId := request.intent.domainId
  marketId := request.intent.marketId
  reservationAccountId := request.reservationAccountId
  settlementAccountId := request.settlementAccountId
  side := request.intent.side
  price := request.intent.price.value
  originalQuantity := request.intent.quantity.value
  remainingQuantity := request.intent.quantity.value
  federatedReservedQuantity := 0
  status := .pending
  acceptedSequence := none
  commandEventId := commandId
  commandSequence := sequence
  idempotencyKey := request.idempotencyKey
  idempotencyPayloadHash := requestHash request

def SubmitOrder.outboxRow (request : SubmitOrder) (commandId : EventId)
    (market : MarketRow) : OutboxEventRow where
  envelope := request.envelope commandId market market.nextCommandSequence
  topic := Topics.commands
  messageKey := toString request.intent.marketId
  payload := .matchingCommand (matchingCommand request)

variable [SerdeJson]

/-- The effect of a new submission on the markets and the journal. -/
structure Logged (db db' : Database) (request : SubmitOrder) (commandId : EventId)
    (market : MarketRow) : Prop where
  found : db.markets.lookup request.intent.marketId = some market
  tenantId : market.tenantId = request.intent.tenantId
  domainId : market.domainId = request.intent.domainId
  hasJson : (request.engineCommand commandId market.nextCommandSequence).hasJson = true
  reservation : expectedReservation request.intent = .ok request.reservationAmount.value
  markets : ∀ id, db'.markets.lookup id = if id = request.intent.marketId then
      some { market with nextCommandSequence := market.nextCommandSequence + 1 }
    else db.markets.lookup id
  commandLog : db'.journal.commandLog.rows =
    db.journal.commandLog.rows ++ [request.logRow commandId market]
  outboxEvents : db'.journal.outboxEvents.rows =
    db.journal.outboxEvents.rows ++ [request.outboxRow commandId market]
  consumerInbox : db'.journal.consumerInbox = db.journal.consumerInbox
  shardLeases : db'.journal.shardLeases = db.journal.shardLeases
  domainEvents : db'.journal.domainEvents = db.journal.domainEvents
  orderBookSnapshots : db'.journal.orderBookSnapshots = db.journal.orderBookSnapshots

/-- A submission repeats an earlier one or is logged. -/
inductive SubmitPost (db : Database) (request : SubmitOrder) (commandId : EventId)
    (stored : MarketRow → Holdings → Prop) : SubmitOrderOutcome → Database → Prop
  | duplicate {row : OrderRow} (hrow : row ∈ db.holdings.orders.rows)
      (htenant : row.tenantId = request.intent.tenantId)
      (hkey : row.idempotencyKey = request.idempotencyKey)
      (hhash : row.idempotencyPayloadHash = requestHash request) :
      SubmitPost db request commandId stored
        ⟨row.id, row.commandEventId, row.commandSequence, true⟩ db
  | logged {db' : Database} {market : MarketRow}
      (hlogged : Logged db db' request commandId market)
      (hstored : stored market db'.holdings) :
      SubmitPost db request commandId stored
        ⟨request.intent.orderId, commandId, market.nextCommandSequence, false⟩ db'

theorem ensures_logCommand {request : SubmitOrder} {commandId : EventId}
    {market : MarketRow} {sequence : Nat} {journal : Journal}
    {post : PUnit → Journal → Prop}
    (h : ∀ log outbox, (request.engineCommand commandId sequence).hasJson = true →
      log.rows = journal.commandLog.rows ++ [{
        request.logRow commandId market with
          shardSequence := sequence
          payload := request.engineCommand commandId sequence }] →
      outbox.rows = journal.outboxEvents.rows ++ [{
        request.outboxRow commandId market with
          envelope := request.envelope commandId market sequence }] →
        post ⟨⟩ { journal with commandLog := log, outboxEvents := outbox }) :
    Ensures (logCommand request commandId market sequence) (fun _ => True) journal post := by
  unfold logCommand
  rw [ensures_bind]
  refine ensures_i64Sequence (fun _ => trivial) fun _ => ?_
  simp only [ensures_ite, ensures_bind, ensures_throw, ensures_on, Journal.commandLogTable]
  refine ⟨fun _ => trivial, fun hjson => ?_⟩
  refine Table.ensures_insert trivial fun log hlog => ?_
  refine ensures_insertOutbox trivial (fun _ => trivial) fun outbox houtbox => ?_
  exact h log outbox (by simpa using hjson) hlog houtbox

theorem ensures_submitOrder [UuidV5] {db : Database} {request : SubmitOrder}
    {commandId : EventId} {stored : MarketRow → Holdings → Prop}
    (hstore : ∀ market, db.markets.lookup request.intent.marketId = some market →
      Ensures (ensureAccountScope request.intent.tenantId request.reservationAccountId
          request.settlementAccountId request.intent.side market) (fun _ => True)
        db.holdings fun _ holdings =>
          Ensures (storeOrder request commandId market.nextCommandSequence)
            (fun _ => True) holdings fun _ holdings' => stored market holdings') :
    Ensures (submitOrder request commandId) (fun _ => True) db
      (SubmitPost db request commandId stored) := by
  unfold submitOrder validateReservation
  simp only [ensures_bind, ensures_lift]
  cases hreservation : expectedReservation request.intent with
  | error error => trivial
  | ok amount =>
      simp only [ensures_ite, ensures_bind, ensures_throw, ensures_pure, ensures_get]
      refine ⟨fun _ => trivial, fun hamount => ⟨fun _ => trivial, fun _ => ?_⟩⟩
      split
      · rename_i row hfound
        simp only [ensures_ite, ensures_bind, ensures_throw]
        refine ⟨fun _ => trivial, fun hhash => ?_⟩
        have hsame := List.find?_some hfound
        simp only [decide_eq_true_eq] at hsame
        exact ensures_positiveU64 (fun _ => trivial) fun _ =>
          .duplicate (List.mem_of_find?_eq_some hfound) hsame.1 hsame.2 (not_not.mp hhash)
      · simp only [ensures_bind, ensures_on, ensures_pure, Database.marketTable,
          Database.holdingsPart, Database.journalPart]
        refine ensures_allocateCommandSequence trivial trivial ?_
        intro t market hmarket htenant hdomain _ hmarkets
        refine (hstore market hmarket).mono (fun _ h => h) fun _ _ hscoped => ?_
        refine hscoped.mono (fun _ h => h) fun _ holdings hstored => ?_
        refine ensures_logCommand fun log outbox hjson hlog houtbox => ?_
        refine SubmitPost.logged (?_ : Logged _ _ _ _ market) hstored
        rw [not_not] at hamount
        exact {
          found := hmarket
          tenantId := htenant
          domainId := hdomain
          hasJson := hjson
          reservation := by rw [hreservation, hamount]
          markets := hmarkets
          commandLog := hlog
          outboxEvents := houtbox
          consumerInbox := rfl
          shardLeases := rfl
          domainEvents := rfl
          orderBookSnapshots := rfl }

end Submit

end MatchPlane
