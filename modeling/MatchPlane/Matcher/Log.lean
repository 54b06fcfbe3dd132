import MatchPlane.Matcher.System
import MatchPlane.Storage.Recovery

/-!
# The log of a market

`MarketLog` is the invariant of one market in the shared database: its commands
are numbered, an initial segment of them is applied, and the facts and snapshots
are those of the book that this segment leads to.  Submissions and commits keep
it; the commit needs to know that its caller processed the next command on that
book.
-/

namespace MatchPlane

open MatchPlane.Library OrderBook

namespace Journal

def appliedOf (journal : Journal) (marketId : MarketId) : List CommandLogRow :=
  (journal.commandsOf marketId).filter fun row => row.status = .applied

def waitingOf (journal : Journal) (marketId : MarketId) : List CommandLogRow :=
  (journal.commandsOf marketId).filter fun row => row.status = .pending

/-- The applied commands of a market, as the engine took them. -/
def applied (journal : Journal) (marketId : MarketId) : List EngineCommand :=
  (journal.appliedOf marketId).map CommandLogRow.payload

theorem mem_appliedOf {journal : Journal} {marketId : MarketId} {row : CommandLogRow} :
    row ∈ journal.appliedOf marketId ↔
      row ∈ journal.commandLog.rows ∧ row.marketId = marketId ∧ row.status = .applied := by
  simp only [appliedOf, commandsOf, List.mem_filter, decide_eq_true_eq, and_assoc]

theorem mem_waitingOf {journal : Journal} {marketId : MarketId} {row : CommandLogRow} :
    row ∈ journal.waitingOf marketId ↔
      row ∈ journal.commandLog.rows ∧ row.marketId = marketId ∧ row.status = .pending := by
  simp only [waitingOf, commandsOf, List.mem_filter, decide_eq_true_eq, and_assoc]

/-- Applied commands followed by pending ones: the two lists are these. -/
theorem partition_eq {journal : Journal} {marketId : MarketId}
    {first second : List CommandLogRow}
    (h : journal.commandsOf marketId = first ++ second)
    (hfirst : ∀ row ∈ first, row.status = .applied)
    (hsecond : ∀ row ∈ second, row.status = .pending) :
    journal.appliedOf marketId = first ∧ journal.waitingOf marketId = second := by
  have hpending : ∀ row ∈ second, row.status ≠ .applied := by
    intro row hrow
    rw [hsecond row hrow]
    decide
  have happlied : ∀ row ∈ first, row.status ≠ .pending := by
    intro row hrow
    rw [hfirst row hrow]
    decide
  unfold appliedOf waitingOf
  rw [h, List.filter_append, List.filter_append]
  rw [List.filter_eq_self.mpr (by simpa using hfirst),
    List.filter_eq_nil_iff.mpr (by simpa using hpending),
    List.filter_eq_nil_iff.mpr (by simpa using happlied),
    List.filter_eq_self.mpr (by simpa using hsecond)]
  simp

end Journal

section MarketLog

variable [UuidV5] [Sha256] [SerdeJson] [SnapshotCodec]

structure MarketLog (markets : Table markets) (journal : Journal) (marketId : MarketId)
    (book : OrderBook) (events : List EngineEvent) : Prop where
  log : journal.commandsOf marketId =
    journal.appliedOf marketId ++ journal.waitingOf marketId
  numbered : (journal.commandsOf marketId).map CommandLogRow.shardSequence =
    List.range' 1 (journal.commandsOf marketId).length
  commands : ∀ row ∈ journal.commandsOf marketId, row.payload.commandId = row.eventId ∧
    row.payload.shardSequence = row.shardSequence ∧ row.payload.hasJson = true
  processed : Processed marketId (journal.applied marketId) book events
  facts : Numbered 0 (journal.factsOf marketId) events
  causes : ∀ row ∈ journal.factsOf marketId, ∀ event, row.payload = .fact event →
    row.causationId = event.causationId
  snapshot : LatestSnapshot journal marketId book events.length
  sequences : ∀ row, markets.lookup marketId = some row →
    row.nextCommandSequence = (journal.commandsOf marketId).length + 1 ∧
      row.nextEventSequence = events.length + 1

namespace MarketLog

variable {markets : Table markets} {journal : Journal} {marketId : MarketId}
  {book : OrderBook} {events : List EngineEvent}

theorem waiting_sequences (h : MarketLog markets journal marketId book events) :
    (journal.waitingOf marketId).map CommandLogRow.shardSequence =
      List.range' ((journal.applied marketId).length + 1)
        (journal.waitingOf marketId).length := by
  have hnumbered := h.numbered
  rw [h.log, List.map_append, List.length_append, ← List.range'_append_1] at hnumbered
  have hsecond := (List.append_inj hnumbered (by simp)).2
  rw [hsecond, Journal.applied, List.length_map, Nat.add_comm]

/-- An applied command stands at the place that its number says. -/
theorem applied_getElem? (h : MarketLog markets journal marketId book events)
    {row : CommandLogRow} (hrow : row ∈ journal.appliedOf marketId) {index : Nat}
    (hsequence : row.shardSequence = index + 1) :
    (journal.applied marketId)[index]? = some row.payload := by
  have hnumbered := h.numbered
  rw [h.log, List.map_append, List.length_append, ← List.range'_append_1] at hnumbered
  have hfirst := (List.append_inj hnumbered (by simp)).1
  obtain ⟨place, hplace, rfl⟩ := List.getElem_of_mem hrow
  have hnumber := congrArg (fun numbers => numbers[place]?) hfirst
  simp only [List.getElem?_map, List.getElem?_eq_getElem hplace, Option.map_some,
    List.getElem?_range' hplace, Option.some.injEq] at hnumber
  have hindex : index = place := by omega
  subst hindex
  simp [Journal.applied, List.getElem?_eq_getElem hplace]

/-- A logged command that is applied stands among the applied ones as in the log. -/
theorem applied_split (h : MarketLog markets journal marketId book events)
    {before after : List CommandLogRow} {row : CommandLogRow}
    (hlog : journal.commandsOf marketId = before ++ row :: after)
    (hstatus : row.status = .applied) :
    ∃ rest, journal.appliedOf marketId = before ++ row :: rest := by
  have hnot : row ∉ journal.waitingOf marketId := by
    intro hmem
    have hpending := (Journal.mem_waitingOf.mp hmem).2.2
    rw [hstatus] at hpending
    cases hpending
  have hsplit := h.log.symm.trans hlog
  rcases List.append_eq_append_iff.mp hsplit with ⟨segment, _, hwaiting⟩ |
    ⟨segment, happlied, hrest⟩
  · exact absurd (by simp [hwaiting]) hnot
  · cases segment with
    | nil =>
        have hwaiting : row :: after = journal.waitingOf marketId := hrest
        exact absurd (hwaiting ▸ List.mem_cons_self) hnot
    | cons first segment =>
        cases hrest
        exact ⟨segment, happlied⟩

/-- The facts that a logged command caused: its events if it is applied, else none. -/
theorem facts_of_command (h : MarketLog markets journal marketId book events)
    {before after : List CommandLogRow} {row : CommandLogRow}
    (hlog : journal.commandsOf marketId = before ++ row :: after) :
    ((journal.factsOf marketId).filter fun fact => fact.causationId = row.eventId).map
        DomainEventRow.payload =
      if row.status = .applied then
        (emitted row.payload (processAll (before.map CommandLogRow.payload)
          (new marketId)).1).map .fact
      else [] := by
  rw [filter_causation_payloads h.facts.payloads h.causes]
  have hids : ∀ other ∈ journal.appliedOf marketId,
      other.payload.commandId = other.eventId :=
    fun other hother => (h.commands other (List.mem_of_mem_filter hother)).1
  split
  · rename_i hstatus
    obtain ⟨rest, happlied⟩ := h.applied_split hlog hstatus
    have hkeys : (before ++ row :: rest).Pairwise fun first second =>
        first.eventId ≠ second.eventId := by
      rw [← happlied]
      exact (journal.commandLog.valid.keys.filter _).filter _
    have hprocessed := h.processed
    rw [Journal.applied, happlied, List.map_append, List.map_cons] at hprocessed
    rw [happlied] at hids
    have hrow := hids row (by simp)
    rw [← hrow, hprocessed.filter_causation]
    intro command hcommand
    rw [← List.map_append] at hcommand
    obtain ⟨other, hother, rfl⟩ := List.mem_map.mp hcommand
    rw [hrow, hids other (by simp only [List.mem_append, List.mem_cons] at hother ⊢; tauto)]
    rw [List.pairwise_append, List.pairwise_cons] at hkeys
    rcases List.mem_append.mp hother with hother | hother
    · exact hkeys.2.2 other hother row List.mem_cons_self
    · exact Ne.symm (hkeys.2.1.1 other hother)
  · rename_i hstatus
    rw [List.map_eq_nil_iff, List.filter_eq_nil_iff]
    intro event hevent hcause
    obtain ⟨command, hcommand, hcausation⟩ := h.processed.causation hevent
    obtain ⟨other, hother, rfl⟩ := List.mem_map.mp hcommand
    -- The cause is an applied command, so it cannot have the key of a pending one.
    obtain ⟨hmem, _, happlied⟩ := Journal.mem_appliedOf.mp hother
    have hrow : row ∈ journal.commandLog.rows := by
      have hmem : row ∈ journal.commandsOf marketId := by simp [hlog]
      exact List.mem_of_mem_filter hmem
    have hkey : other.eventId = row.eventId := by
      rw [← hids other hother, ← hcausation]
      simpa using hcause
    have hsame : journal.commandLog.lookup row.eventId = some row :=
      Table.lookup_of_mem hrow
    rw [Table.lookup_eq_some_iff.mpr ⟨hmem, hkey⟩] at hsame
    cases hsame
    exact hstatus happlied

/-- A pending command whose number is not above the next one is the next one. -/
theorem next (h : MarketLog markets journal marketId book events) {row : CommandLogRow}
    (hrow : row ∈ journal.waitingOf marketId)
    (hsequence : row.shardSequence ≤ (journal.applied marketId).length + 1) :
    ∃ rest, journal.waitingOf marketId = row :: rest := by
  have hnumbers := h.waiting_sequences
  cases hwaiting : journal.waitingOf marketId with
  | nil =>
      rw [hwaiting] at hrow
      cases hrow
  | cons first rest =>
      rw [hwaiting] at hrow hnumbers
      rw [List.length_cons, List.range'_succ, List.map_cons, List.cons.injEq] at hnumbers
      rcases List.mem_cons.mp hrow with rfl | hrest
      · exact ⟨rest, rfl⟩
      · have hmem := List.mem_map_of_mem (f := CommandLogRow.shardSequence) hrest
        rw [hnumbers.2, List.mem_range'_1] at hmem
        omega

theorem order_hasJson (h : MarketLog markets journal marketId book events)
    {orderId : OrderId} {order : OrderView} (hlookup : book.order orderId = some order) :
    order.intent.hasJson = true := by
  obtain ⟨command, hcommand, hkind⟩ := h.processed.placed hlookup
  obtain ⟨row, hrow, rfl⟩ := List.mem_map.mp hcommand
  have hjson := (h.commands row (List.mem_of_mem_filter hrow)).2.2
  simp only [EngineCommand.hasJson, hkind, Bool.and_eq_true] at hjson
  exact hjson.2

theorem recoverSnapshot_eq (h : MarketLog markets journal marketId book events)
    (hfaithful : SnapshotCodec.Faithful) :
    recoverSnapshot journal marketId = .ok (book, events.length) :=
  MatchPlane.recoverSnapshot_eq hfaithful h.snapshot h.processed.wf h.processed.sequenced
    fun _ _ => h.order_hasJson

/-- A replay from any earlier book of the market arrives at the current one. -/
theorem replayFacts_eq (h : MarketLog markets journal marketId book events)
    {commands : List EngineCommand} {earlier : OrderBook} {before : List EngineEvent}
    (hstart : commands <+: journal.applied marketId)
    (hbefore : Processed marketId commands earlier before) :
    replayFacts journal marketId (earlier, before.length) = .ok (book, events.length) := by
  obtain ⟨later, hlater⟩ := hstart
  have hprocessed := h.processed
  rw [← hlater] at hprocessed
  obtain ⟨book', before', rest, hfirst, hevents, hrest⟩ := hprocessed.split
  obtain ⟨rfl, rfl⟩ := hbefore.unique hfirst
  have hfacts := h.facts
  rw [hevents] at hfacts ⊢
  exact MatchPlane.replayFacts_eq hfacts hbefore.wf hrest

theorem recoverOrderBook_eq (h : MarketLog markets journal marketId book events)
    (hfaithful : SnapshotCodec.Faithful) :
    recoverOrderBook journal marketId = .ok (book, events.length) := by
  rw [recoverOrderBook, h.recoverSnapshot_eq hfaithful]
  exact h.replayFacts_eq List.prefix_rfl h.processed

end MarketLog

end MarketLog

/-! ## Submissions -/

section Logged

variable [Sha256] [Prost] [SerdeJson] {db db' : Database} {request : SubmitOrder}
  {commandId : EventId} {market : MarketRow}

theorem Logged.commandsOf_eq (h : Logged db db' request commandId market) :
    db'.journal.commandsOf request.intent.marketId =
      db.journal.commandsOf request.intent.marketId ++ [request.logRow commandId market] := by
  simp [Journal.commandsOf, h.commandLog, SubmitOrder.logRow]

theorem Logged.commandsOf_of_ne (h : Logged db db' request commandId market)
    {marketId : MarketId} (hne : marketId ≠ request.intent.marketId) :
    db'.journal.commandsOf marketId = db.journal.commandsOf marketId := by
  simp [Journal.commandsOf, h.commandLog, SubmitOrder.logRow, Ne.symm hne]

/-- A submission only adds to the pending commands of its market. -/
theorem Logged.appliedOf_eq (h : Logged db db' request commandId market)
    (marketId : MarketId) :
    db'.journal.appliedOf marketId = db.journal.appliedOf marketId := by
  unfold Journal.appliedOf
  by_cases hmarket : marketId = request.intent.marketId
  · subst hmarket
    rw [h.commandsOf_eq, List.filter_append]
    simp [SubmitOrder.logRow]
  · rw [h.commandsOf_of_ne hmarket]

theorem Logged.applied_eq (h : Logged db db' request commandId market)
    (marketId : MarketId) :
    db'.journal.applied marketId = db.journal.applied marketId := by
  rw [Journal.applied, Journal.applied, h.appliedOf_eq]

theorem MarketLog.logged [UuidV5] [SnapshotCodec] {marketId : MarketId} {book : OrderBook}
    {events : List EngineEvent}
    (hlog : MarketLog db.markets db.journal marketId book events)
    (h : Logged db db' request commandId market) :
    MarketLog db'.markets db'.journal marketId book events := by
  have hprocessed := hlog.processed
  rw [← h.applied_eq marketId] at hprocessed
  have hfacts : db'.journal.factsOf marketId = db.journal.factsOf marketId := by
    rw [Journal.factsOf, Journal.factsOf, h.domainEvents]
  have hsnapshots : db'.journal.snapshotsOf marketId = db.journal.snapshotsOf marketId := by
    rw [Journal.snapshotsOf, Journal.snapshotsOf, h.orderBookSnapshots]
  have hsnapshot : LatestSnapshot db'.journal marketId book events.length := by
    rw [LatestSnapshot, hsnapshots]
    exact hlog.snapshot
  by_cases hmarket : marketId = request.intent.marketId
  · subst hmarket
    obtain ⟨hcommand, hevent⟩ := hlog.sequences market h.found
    have hnew : (request.logRow commandId market).shardSequence =
        (db.journal.commandsOf request.intent.marketId).length + 1 := hcommand
    have hwaiting : db'.journal.waitingOf request.intent.marketId =
        db.journal.waitingOf request.intent.marketId ++ [request.logRow commandId market] := by
      simp [Journal.waitingOf, h.commandsOf_eq, SubmitOrder.logRow]
    constructor
    case log =>
      rw [h.commandsOf_eq, h.appliedOf_eq, hwaiting, ← List.append_assoc, ← hlog.log]
    case numbered =>
      rw [h.commandsOf_eq, List.map_append, hlog.numbered, List.length_append,
        List.length_singleton, List.range'_concat, List.map_singleton, hnew]
      simp [Nat.add_comm]
    case commands =>
      intro row hrow
      rw [h.commandsOf_eq] at hrow
      rcases List.mem_append.mp hrow with hrow | hrow
      · exact hlog.commands row hrow
      · rw [List.mem_singleton] at hrow
        subst hrow
        exact ⟨rfl, rfl, h.hasJson⟩
    case processed => exact hprocessed
    case facts =>
      rw [hfacts]
      exact hlog.facts
    case causes =>
      rw [hfacts]
      exact hlog.causes
    case snapshot => exact hsnapshot
    case sequences =>
      intro row hrow
      rw [h.markets, if_pos rfl] at hrow
      cases hrow
      rw [h.commandsOf_eq, List.length_append, List.length_singleton]
      exact ⟨congrArg Nat.succ hcommand, hevent⟩
  · have hcommands := h.commandsOf_of_ne hmarket
    constructor
    case log =>
      rw [Journal.appliedOf, Journal.waitingOf, hcommands]
      exact hlog.log
    case numbered =>
      rw [hcommands]
      exact hlog.numbered
    case commands =>
      rw [hcommands]
      exact hlog.commands
    case processed => exact hprocessed
    case facts =>
      rw [hfacts]
      exact hlog.facts
    case causes =>
      rw [hfacts]
      exact hlog.causes
    case snapshot => exact hsnapshot
    case sequences =>
      rw [h.markets, if_neg hmarket, hcommands]
      exact hlog.sequences

end Logged

/-! ## Commits -/

/-- The logged row that a decoded command refers to. -/
def Carried (journal : Journal) (decoded : DecodedCommand) : Prop :=
  ∃ row, journal.commandLog.lookup decoded.envelope.eventId = some row ∧
    row.marketId = decoded.envelope.marketId ∧ row.payload = decoded.engineCommand

/-- A row of the log after the commit of one command. -/
def CommandLogRow.committed (eventId : EventId) (row : CommandLogRow) : CommandLogRow :=
  if row.eventId = eventId ∧ row.status = .pending then { row with status := .applied }
  else row

@[simp] theorem CommandLogRow.committed_marketId (eventId : EventId) (row : CommandLogRow) :
    (row.committed eventId).marketId = row.marketId := by
  unfold CommandLogRow.committed
  split <;> rfl

@[simp] theorem CommandLogRow.committed_payload (eventId : EventId) (row : CommandLogRow) :
    (row.committed eventId).payload = row.payload := by
  unfold CommandLogRow.committed
  split <;> rfl

@[simp] theorem CommandLogRow.committed_shardSequence (eventId : EventId)
    (row : CommandLogRow) : (row.committed eventId).shardSequence = row.shardSequence := by
  unfold CommandLogRow.committed
  split <;> rfl

@[simp] theorem CommandLogRow.committed_eventId (eventId : EventId) (row : CommandLogRow) :
    (row.committed eventId).eventId = row.eventId := by
  unfold CommandLogRow.committed
  split <;> rfl

section Committed

variable [Sha256] [Prost] [SnapshotCodec] {db db' : Database}
  {name : String} {decoded : DecodedCommand} {book' : OrderBook}
  {added : List EngineEvent} {market : MarketRow}

theorem Committed.commandsOf_eq (h : Committed db db' name decoded book' added market)
    (marketId : MarketId) :
    db'.journal.commandsOf marketId = (db.journal.commandsOf marketId).map
      (CommandLogRow.committed decoded.envelope.eventId) := by
  have hrows : db'.journal.commandLog.rows =
      db.journal.commandLog.rows.map (CommandLogRow.committed decoded.envelope.eventId) := by
    rw [h.commandLog, Journal.logApplied, Table.replaced]
    simp only [decide_eq_true_eq]
    rfl
  simp only [Journal.commandsOf, hrows, List.filter_map, Function.comp_def,
    CommandLogRow.committed_marketId]

theorem Committed.factsOf_eq (h : Committed db db' name decoded book' added market) :
    ∃ ownerNodeId token, db'.journal.factsOf decoded.envelope.marketId =
      db.journal.factsOf decoded.envelope.marketId ++
        factRows decoded ownerNodeId token market.nextEventSequence added := by
  obtain ⟨ownerNodeId, token, delta, hdelta, hrows⟩ := h.domainEvents
  refine ⟨ownerNodeId, token, ?_⟩
  have hown : ∀ row ∈ factRows decoded ownerNodeId token market.nextEventSequence added,
      row.marketId = decoded.envelope.marketId ∧ row.streamKind = .domainEvent := by
    intro row hrow
    obtain ⟨_, _, rfl⟩ := List.mem_map.mp hrow
    exact ⟨rfl, rfl⟩
  have hkept : (factRows decoded ownerNodeId token market.nextEventSequence added).filter
      (fun row => row.marketId = decoded.envelope.marketId ∧
        row.streamKind = .domainEvent) = _ :=
    List.filter_eq_self.mpr (by simpa using hown)
  rw [Journal.factsOf, hrows, List.filter_append, List.filter_append, hkept]
  simp [Journal.factsOf, hdelta]

theorem Committed.factsOf_of_ne (h : Committed db db' name decoded book' added market)
    {marketId : MarketId} (hne : marketId ≠ decoded.envelope.marketId) :
    db'.journal.factsOf marketId = db.journal.factsOf marketId := by
  obtain ⟨ownerNodeId, token, delta, hdelta, hrows⟩ := h.domainEvents
  have hother : ∀ row ∈ factRows decoded ownerNodeId token market.nextEventSequence added,
      row.marketId ≠ marketId := by
    intro row hrow
    obtain ⟨_, _, rfl⟩ := List.mem_map.mp hrow
    exact Ne.symm hne
  have hdropped : (factRows decoded ownerNodeId token market.nextEventSequence
      added).filter (fun row => row.marketId = marketId ∧ row.streamKind = .domainEvent) =
        [] :=
    List.filter_eq_nil_iff.mpr (by simp +contextual [hother])
  rw [Journal.factsOf, hrows, List.filter_append, List.filter_append, hdropped]
  simp [Journal.factsOf, hdelta]

theorem Committed.snapshotsOf_of_ne (h : Committed db db' name decoded book' added market)
    {marketId : MarketId} (hne : marketId ≠ decoded.envelope.marketId) :
    db'.journal.snapshotsOf marketId = db.journal.snapshotsOf marketId := by
  obtain ⟨row, hrows, hrow⟩ := h.orderBookSnapshots
  simp [Journal.snapshotsOf, hrows, hrow.marketId, Ne.symm hne]

/-- The rows of another market do not have the key of the committed command. -/
theorem Committed.commandsOf_of_ne (h : Committed db db' name decoded book' added market)
    (hcarried : Carried db.journal decoded) {marketId : MarketId}
    (hne : marketId ≠ decoded.envelope.marketId) :
    db'.journal.commandsOf marketId = db.journal.commandsOf marketId := by
  obtain ⟨stored, hstored, hmarket, _⟩ := hcarried
  rw [h.commandsOf_eq]
  refine (List.map_congr_left fun row hrow => ?_).trans (List.map_id' _)
  simp only [Journal.commandsOf, List.mem_filter, decide_eq_true_eq] at hrow
  refine if_neg fun hsame => hne ?_
  have hlookup : db.journal.commandLog.lookup decoded.envelope.eventId = some row :=
    Table.lookup_eq_some_iff.mpr ⟨hrow.1, hsame.1⟩
  rw [hstored] at hlookup
  cases hlookup
  rw [← hrow.2, hmarket]

variable [UuidV5] [SerdeJson]

theorem MarketLog.committed_of_ne {marketId : MarketId} {book : OrderBook}
    {events : List EngineEvent}
    (hlog : MarketLog db.markets db.journal marketId book events)
    (h : Committed db db' name decoded book' added market)
    (hcarried : Carried db.journal decoded) (hne : marketId ≠ decoded.envelope.marketId) :
    db'.journal.applied marketId = db.journal.applied marketId ∧
      MarketLog db'.markets db'.journal marketId book events := by
  have hcommands := h.commandsOf_of_ne hcarried hne
  have happlied : db'.journal.applied marketId = db.journal.applied marketId := by
    rw [Journal.applied, Journal.applied, Journal.appliedOf, Journal.appliedOf, hcommands]
  refine ⟨happlied, ?_⟩
  constructor
  case log =>
    rw [Journal.appliedOf, Journal.waitingOf, hcommands]
    exact hlog.log
  case numbered =>
    rw [hcommands]
    exact hlog.numbered
  case commands =>
    rw [hcommands]
    exact hlog.commands
  case processed =>
    rw [happlied]
    exact hlog.processed
  case facts =>
    rw [h.factsOf_of_ne hne]
    exact hlog.facts
  case causes =>
    rw [h.factsOf_of_ne hne]
    exact hlog.causes
  case snapshot =>
    rw [LatestSnapshot, h.snapshotsOf_of_ne hne]
    exact hlog.snapshot
  case sequences =>
    rw [h.markets, if_neg hne, hcommands]
    exact hlog.sequences

/-- The pending row that a commit applies is the first one waiting. -/
theorem MarketLog.committed_first {book : OrderBook} {events : List EngineEvent}
    (hlog : MarketLog db.markets db.journal decoded.envelope.marketId book events)
    (h : Committed db db' name decoded book' added market)
    (hcarried : Carried db.journal decoded)
    (hsequence : decoded.engineCommand.shardSequence ≤
      (db.journal.applied decoded.envelope.marketId).length + 1) :
    ∃ row rest, db.journal.waitingOf decoded.envelope.marketId = row :: rest ∧
      row.eventId = decoded.envelope.eventId ∧ row.payload = decoded.engineCommand := by
  obtain ⟨row, hlookup, hmarket, hpayload⟩ := hcarried
  obtain ⟨stored, hstored, _, _, hpending⟩ := h.pending
  rw [hlookup] at hstored
  cases hstored
  have hmem := Table.mem_of_lookup hlookup
  have hwaiting : row ∈ db.journal.waitingOf decoded.envelope.marketId :=
    Journal.mem_waitingOf.mpr ⟨hmem, hmarket, hpending⟩
  have hnumber := (hlog.commands row (List.mem_of_mem_filter hwaiting)).2.1
  rw [hpayload] at hnumber
  obtain ⟨rest, hrest⟩ := hlog.next hwaiting (by omega)
  exact ⟨row, rest, hrest, Table.key_of_lookup hlookup, hpayload⟩

/-- The committed command moves from the pending commands to the applied ones. -/
theorem MarketLog.committed_rows {book : OrderBook} {events : List EngineEvent}
    (hlog : MarketLog db.markets db.journal decoded.envelope.marketId book events)
    (h : Committed db db' name decoded book' added market)
    {row : CommandLogRow} {rest : List CommandLogRow}
    (hwaiting : db.journal.waitingOf decoded.envelope.marketId = row :: rest)
    (hrow : row.eventId = decoded.envelope.eventId) :
    db'.journal.commandsOf decoded.envelope.marketId =
        db'.journal.appliedOf decoded.envelope.marketId ++
          db'.journal.waitingOf decoded.envelope.marketId ∧
      db'.journal.appliedOf decoded.envelope.marketId =
        db.journal.appliedOf decoded.envelope.marketId ++ [{ row with status := .applied }] ∧
      db'.journal.waitingOf decoded.envelope.marketId = rest := by
  have hpending : ∀ other ∈ row :: rest, other.status = .pending := by
    intro other hother
    rw [← hwaiting] at hother
    exact (Journal.mem_waitingOf.mp hother).2.2
  have happlied : ∀ other ∈ db.journal.appliedOf decoded.envelope.marketId,
      other.status = .applied := fun other hother => (Journal.mem_appliedOf.mp hother).2.2
  have hkeys : (row :: rest).Pairwise fun first second =>
      first.eventId ≠ second.eventId := by
    rw [← hwaiting]
    exact (db.journal.commandLog.valid.keys.filter _).filter _
  have hold : (db.journal.appliedOf decoded.envelope.marketId).map
      (CommandLogRow.committed decoded.envelope.eventId) =
        db.journal.appliedOf decoded.envelope.marketId := by
    refine (List.map_congr_left fun other hother => ?_).trans (List.map_id' _)
    exact if_neg fun hsame => by simp [happlied other hother] at hsame
  have hrest : rest.map (CommandLogRow.committed decoded.envelope.eventId) = rest := by
    refine (List.map_congr_left fun other hother => ?_).trans (List.map_id' _)
    exact if_neg fun hsame =>
      (List.pairwise_cons.mp hkeys).1 other hother (hrow.trans hsame.1.symm)
  have hfirst : row.committed decoded.envelope.eventId = { row with status := .applied } :=
    if_pos ⟨hrow, hpending row List.mem_cons_self⟩
  have hcommands : db'.journal.commandsOf decoded.envelope.marketId =
      (db.journal.appliedOf decoded.envelope.marketId ++ [{ row with status := .applied }]) ++
        rest := by
    rw [h.commandsOf_eq, hlog.log, List.map_append, hwaiting, hold, List.map_cons, hfirst,
      hrest, List.append_assoc, List.singleton_append]
  have hlists := Journal.partition_eq hcommands (by
    intro other hother
    rcases List.mem_append.mp hother with hother | hother
    · exact happlied other hother
    · rw [List.mem_singleton] at hother
      rw [hother]) fun other hother => hpending other (List.mem_cons_of_mem _ hother)
  rw [hcommands, hlists.1, hlists.2]
  exact ⟨rfl, rfl, rfl⟩

/-- A commit of the next command, processed on the current book, extends the log by it. -/
theorem MarketLog.committed {book : OrderBook} {events : List EngineEvent}
    (hlog : MarketLog db.markets db.journal decoded.envelope.marketId book events)
    (h : Committed db db' name decoded book' added market)
    (hcarried : Carried db.journal decoded)
    (hrun : (process decoded.engineCommand).run book = .ok added book')
    (hadded : added ≠ []) :
    db'.journal.applied decoded.envelope.marketId =
        db.journal.applied decoded.envelope.marketId ++ [decoded.engineCommand] ∧
      MarketLog db'.markets db'.journal decoded.envelope.marketId book'
        (events ++ added) := by
  have hsequence := hlog.processed.shardSequence_eq hrun hadded
  obtain ⟨row, rest, hwaiting, hid, hpayload⟩ :=
    hlog.committed_first h hcarried hsequence.le
  obtain ⟨hrows, happliedRows, hwaiting'⟩ := hlog.committed_rows h hwaiting hid
  have happlied : db'.journal.applied decoded.envelope.marketId =
      db.journal.applied decoded.envelope.marketId ++ [decoded.engineCommand] := by
    rw [Journal.applied, happliedRows, List.map_append, List.map_singleton, ← hpayload]
    rfl
  obtain ⟨hnextCommand, hnextEvent⟩ := hlog.sequences market h.found
  have hpositive := List.length_pos_of_ne_nil hadded
  have hlast : market.nextEventSequence + (added.length - 1) =
      (events ++ added).length := by
    rw [List.length_append]
    omega
  refine ⟨happlied, ?_⟩
  constructor
  case log => exact hrows
  case numbered =>
    rw [h.commandsOf_eq, List.map_map, List.length_map]
    simpa [Function.comp_def] using hlog.numbered
  case commands =>
    intro other hother
    rw [h.commandsOf_eq] at hother
    obtain ⟨old, hold, rfl⟩ := List.mem_map.mp hother
    simpa using hlog.commands old hold
  case processed =>
    rw [happlied]
    exact hlog.processed.snoc hrun hadded
  case facts =>
    obtain ⟨ownerNodeId, token, hfacts⟩ := h.factsOf_eq
    rw [hfacts, hnextEvent]
    refine hlog.facts.append ?_
    rw [Nat.zero_add]
    exact factRows_numbered decoded ownerNodeId token events.length added
  case causes =>
    obtain ⟨ownerNodeId, token, hfacts⟩ := h.factsOf_eq
    intro fact hfact event hpayload
    rw [hfacts] at hfact
    rcases List.mem_append.mp hfact with hfact | hfact
    · exact hlog.causes fact hfact event hpayload
    · obtain ⟨_, _, rfl⟩ := List.mem_map.mp hfact
      cases hpayload
      rfl
  case snapshot =>
    obtain ⟨snapshot, hsnapshots, hsnapshot⟩ := h.orderBookSnapshots
    rw [hlast] at hsnapshot
    refine .inr ⟨db.journal.snapshotsOf decoded.envelope.marketId, snapshot, ?_, ?_, ?_,
      hsnapshot⟩
    · simp [Journal.snapshotsOf, hsnapshots, hsnapshot.marketId]
    · rw [List.length_append]
      omega
    · intro other hother
      have hle := hlog.snapshot.le hother
      rw [List.length_append]
      omega
  case sequences =>
    intro stored hstored
    rw [h.markets, if_pos rfl] at hstored
    cases hstored
    rw [h.commandsOf_eq, List.length_map, List.length_append]
    exact ⟨hnextCommand, by dsimp only; omega⟩

end Committed

end MatchPlane
