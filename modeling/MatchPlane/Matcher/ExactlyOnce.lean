import MatchPlane.Matcher.Log

/-!
# Exactly-once matching

The shared database and the memory of every process, along any run.  A process
may hold a book that others have left behind; all that matters is that some
initial segment of the applied commands leads to it, so that a command processed
on it is either a repetition or the next one.
-/

namespace MatchPlane

open MatchPlane.Library OrderBook

/-! ## Journals that grow -/

/-- Commands stay logged and applied, and lease tokens do not go back. -/
structure Journal.Grows (journal journal' : Journal) : Prop where
  commands : ∀ {eventId row}, journal.commandLog.lookup eventId = some row →
    ∃ status, journal'.commandLog.lookup eventId = some { row with status := status } ∧
      (row.status = .applied → status = .applied)
  applied : ∀ marketId, journal.applied marketId <+: journal'.applied marketId
  fencingToken : ∀ marketId, journal.fencingToken marketId ≤ journal'.fencingToken marketId

theorem Journal.Grows.refl (journal : Journal) : journal.Grows journal where
  commands := fun {_ row} h => ⟨row.status, h, id⟩
  applied := fun _ => List.prefix_rfl
  fencingToken := fun _ => le_refl _

theorem Journal.Grows.trans {first second third : Journal} (h : first.Grows second)
    (h' : second.Grows third) : first.Grows third where
  commands := by
    intro eventId row hrow
    obtain ⟨status, hlookup, hstatus⟩ := h.commands hrow
    obtain ⟨status', hlookup', hstatus'⟩ := h'.commands hlookup
    exact ⟨status', hlookup', fun happlied => hstatus' (hstatus happlied)⟩
  applied := fun marketId => (h.applied marketId).trans (h'.applied marketId)
  fencingToken := fun marketId => (h.fencingToken marketId).trans (h'.fencingToken marketId)

theorem Carried.grows {journal journal' : Journal} {decoded : DecodedCommand}
    (h : Carried journal decoded) (hgrows : journal.Grows journal') :
    Carried journal' decoded := by
  obtain ⟨row, hlookup, hmarket, hpayload⟩ := h
  obtain ⟨status, hlookup', _⟩ := hgrows.commands hlookup
  exact ⟨_, hlookup', hmarket, hpayload⟩

theorem Logged.grows [Sha256] [Prost] [SerdeJson] {db db' : Database}
    {request : SubmitOrder} {commandId : EventId} {market : MarketRow}
    (h : Logged db db' request commandId market) : db.journal.Grows db'.journal where
  commands := fun {_ row} hrow =>
    ⟨row.status, Table.lookup_inserted_of_some h.commandLog hrow, id⟩
  applied := fun marketId => by rw [h.applied_eq]
  fencingToken := fun marketId => by rw [Journal.fencingToken, Journal.fencingToken, h.shardLeases]

theorem Committed.lookup_commandLog [Sha256] [Prost] [SnapshotCodec] {db db' : Database}
    {name : String} {decoded : DecodedCommand} {book : OrderBook}
    {events : List EngineEvent} {market : MarketRow}
    (h : Committed db db' name decoded book events market) (eventId : EventId) :
    db'.journal.commandLog.lookup eventId = (db.journal.commandLog.lookup eventId).map
      (CommandLogRow.committed decoded.envelope.eventId) := by
  rw [Table.lookup_replaced h.commandLog fun _ => rfl]
  split
  · rename_i heq
    rw [heq]
    refine Option.map_congr fun row hrow => ?_
    have hkey : row.eventId = decoded.envelope.eventId := Table.key_of_lookup hrow
    simp [CommandLogRow.committed, hkey]
  · rename_i hne
    cases hrow : db.journal.commandLog.lookup eventId with
    | none => rfl
    | some row =>
        have hkey : row.eventId = eventId := Table.key_of_lookup hrow
        simp [CommandLogRow.committed, hkey, hne]

/-! ## Books in memory -/

/-- A book that some of a market's applied commands lead to, and their events. -/
def Held [UuidV5] (journal : Journal) (marketId : MarketId) (book : OrderBook)
    (events : List EngineEvent) : Prop :=
  ∃ commands, commands <+: journal.applied marketId ∧
    Processed marketId commands book events

/-- A candidate that a carried command led to, from a book that is held. -/
def Prepared [UuidV5] (journal : Journal) (decoded : DecodedCommand) (candidate : OrderBook)
    (added : List EngineEvent) : Prop :=
  ∃ book events, Held journal decoded.envelope.marketId book events ∧
    (process decoded.engineCommand).run book = .ok added candidate

theorem Held.grows [UuidV5] {journal journal' : Journal} {marketId : MarketId} {book : OrderBook}
    {events : List EngineEvent} (h : Held journal marketId book events)
    (hgrows : journal.Grows journal') : Held journal' marketId book events := by
  obtain ⟨commands, hstart, hprocessed⟩ := h
  exact ⟨commands, hstart.trans (hgrows.applied marketId), hprocessed⟩

/-! ## The database -/

section Consistent

variable [Sha256] [Prost]

/-- A queued command came from a submission, whose row is still in the log. -/
def Submitted (journal : Journal) (row : OutboxEventRow) : Prop :=
  ∃ (request : SubmitOrder) (market : MarketRow) (status : CommandStatus),
    row = request.outboxRow row.envelope.eventId market ∧
    market.id = request.intent.marketId ∧
    journal.commandLog.lookup row.envelope.eventId =
      some { request.logRow row.envelope.eventId market with status := status }

theorem Submitted.carried {journal : Journal} {row : OutboxEventRow}
    (h : Submitted journal row) {command : MatchingCommand}
    (hpayload : row.payload = .matchingCommand command) :
    Carried journal (decodeCommandEnvelope row.envelope command) := by
  obtain ⟨request, market, status, hrow, hmarket, hlookup⟩ := h
  have hcommand : matchingCommand request = command := by
    rw [hrow] at hpayload
    cases hpayload
    rfl
  refine ⟨_, hlookup, ?_, ?_⟩
  · rw [hrow]
    exact hmarket.symm
  · rw [← hcommand, hrow]
    rfl

theorem Submitted.grows {journal journal' : Journal} {row : OutboxEventRow}
    (h : Submitted journal row) (hgrows : journal.Grows journal') :
    Submitted journal' row := by
  obtain ⟨request, market, status, hrow, hmarket, hlookup⟩ := h
  obtain ⟨status', hlookup', _⟩ := hgrows.commands hlookup
  exact ⟨request, market, status', hrow, hmarket, hlookup'⟩

variable [UuidV5] [SerdeJson] [SnapshotCodec]

structure Consistent (db : Database) : Prop where
  markets : ∀ marketId, ∃ book events,
    MarketLog db.markets db.journal marketId book events
  inbox : ∀ row ∈ db.journal.consumerInbox.rows, ∃ stored,
    db.journal.commandLog.lookup row.eventId = some stored ∧ stored.status = .applied
  outbox : ∀ row ∈ db.journal.outboxEvents.rows, ∀ command,
    row.payload = .matchingCommand command → Submitted db.journal row

theorem Consistent.of_same {db db' : Database} (h : Consistent db)
    (hmarkets : db'.markets = db.markets) (hjournal : db'.journal = db.journal) :
    Consistent db' where
  markets := by
    rw [hmarkets, hjournal]
    exact h.markets
  inbox := by
    rw [hjournal]
    exact h.inbox
  outbox := by
    rw [hjournal]
    exact h.outbox

theorem Consistent.logged {db db' : Database} {request : SubmitOrder}
    {commandId : EventId} {market : MarketRow} (h : Consistent db)
    (hlogged : Logged db db' request commandId market) : Consistent db' where
  markets := fun marketId => by
    obtain ⟨book, events, hlog⟩ := h.markets marketId
    exact ⟨book, events, hlog.logged hlogged⟩
  inbox := by
    intro row hrow
    rw [hlogged.consumerInbox] at hrow
    obtain ⟨stored, hstored, hstatus⟩ := h.inbox row hrow
    exact ⟨stored, Table.lookup_inserted_of_some hlogged.commandLog hstored, hstatus⟩
  outbox := by
    intro row hrow command hpayload
    rw [hlogged.outboxEvents] at hrow
    rcases List.mem_append.mp hrow with hrow | hrow
    · exact (h.outbox row hrow command hpayload).grows hlogged.grows
    · rw [List.mem_singleton] at hrow
      subst hrow
      refine ⟨request, market, .pending, rfl, Table.key_of_lookup hlogged.found, ?_⟩
      rw [Table.lookup_inserted hlogged.commandLog]
      exact if_pos rfl

/-- A prepared command that is still pending was processed on the current book. -/
theorem MarketLog.current {db db' : Database} {name : String} {decoded : DecodedCommand}
    {book candidate : OrderBook} {events added : List EngineEvent} {market : MarketRow}
    (hlog : MarketLog db.markets db.journal decoded.envelope.marketId book events)
    (h : Committed db db' name decoded candidate added market)
    (hcarried : Carried db.journal decoded)
    (hprepared : Prepared db.journal decoded candidate added) (hadded : added ≠ []) :
    (process decoded.engineCommand).run book = .ok added candidate := by
  obtain ⟨earlier, before, ⟨commands, hstart, hprocessed⟩, hrun⟩ := hprepared
  have hsequence := hprocessed.shardSequence_eq hrun hadded
  have hle := hstart.length_le
  obtain ⟨row, rest, hwaiting, _, hpayload⟩ :=
    hlog.committed_first h hcarried (by omega)
  -- The number of the first pending command leaves no room for a shorter segment.
  have hnumbers := hlog.waiting_sequences
  rw [hwaiting, List.length_cons, List.range'_succ, List.map_cons, List.cons.injEq]
    at hnumbers
  have hrow := (hlog.commands row (by
    rw [hlog.log, hwaiting]
    exact List.mem_append_right _ List.mem_cons_self)).2.1
  rw [hpayload] at hrow
  have hall : commands = db.journal.applied decoded.envelope.marketId :=
    hstart.eq_of_length (by omega)
  subst hall
  obtain ⟨rfl, _⟩ := hlog.processed.unique hprocessed
  exact hrun

theorem Consistent.committed {db db' : Database} {name : String}
    {decoded : DecodedCommand} {candidate : OrderBook} {added : List EngineEvent}
    {market : MarketRow} (h : Consistent db)
    (hcommitted : Committed db db' name decoded candidate added market)
    (hcarried : Carried db.journal decoded)
    (hprepared : Prepared db.journal decoded candidate added) (hadded : added ≠ []) :
    Consistent db' ∧ db.journal.Grows db'.journal ∧
      db'.journal.applied decoded.envelope.marketId =
        db.journal.applied decoded.envelope.marketId ++ [decoded.engineCommand] := by
  obtain ⟨book, events, hlog⟩ := h.markets decoded.envelope.marketId
  have hrun := hlog.current hcommitted hcarried hprepared hadded
  obtain ⟨happlied, hlog'⟩ := hlog.committed hcommitted hcarried hrun hadded
  have hothers : ∀ marketId, marketId ≠ decoded.envelope.marketId →
      db'.journal.applied marketId = db.journal.applied marketId ∧
        ∃ book events, MarketLog db'.markets db'.journal marketId book events := by
    intro marketId hne
    obtain ⟨other, others, hother⟩ := h.markets marketId
    obtain ⟨hsame, hother'⟩ := hother.committed_of_ne hcommitted hcarried hne
    exact ⟨hsame, other, others, hother'⟩
  have hgrows : db.journal.Grows db'.journal := by
    constructor
    case commands =>
      intro eventId row hrow
      rw [hcommitted.lookup_commandLog, hrow, Option.map_some, CommandLogRow.committed]
      split
      · exact ⟨.applied, rfl, fun _ => rfl⟩
      · exact ⟨row.status, rfl, id⟩
    case applied =>
      intro marketId
      by_cases hmarket : marketId = decoded.envelope.marketId
      · rw [hmarket, happlied]
        exact List.prefix_append _ _
      · rw [(hothers marketId hmarket).1]
    case fencingToken => exact hcommitted.fencingToken
  refine ⟨?_, hgrows, happlied⟩
  constructor
  case markets =>
    intro marketId
    by_cases hmarket : marketId = decoded.envelope.marketId
    · exact ⟨candidate, events ++ added, by rw [hmarket]; exact hlog'⟩
    · exact (hothers marketId hmarket).2
  case inbox =>
    intro row hrow
    obtain ⟨entry, hrows, _, hid, _, _⟩ := hcommitted.consumerInbox
    rw [hrows] at hrow
    rcases List.mem_append.mp hrow with hrow | hrow
    · obtain ⟨stored, hstored, hstatus⟩ := h.inbox row hrow
      obtain ⟨status, hlookup, hkept⟩ := hgrows.commands hstored
      exact ⟨_, hlookup, hkept hstatus⟩
    · rw [List.mem_singleton] at hrow
      subst hrow
      obtain ⟨stored, hstored, _, _, hpending⟩ := hcommitted.pending
      have hkey : stored.eventId = decoded.envelope.eventId := Table.key_of_lookup hstored
      rw [hid, hcommitted.lookup_commandLog, hstored]
      exact ⟨_, rfl, by simp [CommandLogRow.committed, hkey, hpending]⟩
  case outbox =>
    intro row hrow command hpayload
    obtain ⟨rows, hrows, hcommands⟩ := hcommitted.outboxEvents
    rw [hrows] at hrow
    rcases List.mem_append.mp hrow with hrow | hrow
    · exact (h.outbox row hrow command hpayload).grows hgrows
    · exact absurd hpayload (hcommands row hrow command)

/-- A prepared command that was applied meanwhile leads to a book that is held. -/
theorem Prepared.held {db : Database} {decoded : DecodedCommand} {candidate : OrderBook}
    {added : List EngineEvent} (hconsistent : Consistent db)
    (hprepared : Prepared db.journal decoded candidate added) (hadded : added ≠ [])
    (hcarried : Carried db.journal decoded) {row : CommandLogRow}
    (hrow : db.journal.commandLog.lookup decoded.envelope.eventId = some row)
    (hstatus : row.status = .applied) :
    ∃ events, Held db.journal decoded.envelope.marketId candidate events := by
  obtain ⟨book, before, ⟨commands, hstart, hprocessed⟩, hrun⟩ := hprepared
  obtain ⟨current, events, hlog⟩ := hconsistent.markets decoded.envelope.marketId
  have hsequence := hprocessed.shardSequence_eq hrun hadded
  refine ⟨before ++ added, commands ++ [decoded.engineCommand], ?_,
    hprocessed.snoc hrun hadded⟩
  obtain ⟨stored, hstored, hmarket, hpayload⟩ := hcarried
  rw [hrow] at hstored
  cases hstored
  have hmem : row ∈ db.journal.appliedOf decoded.envelope.marketId :=
    Journal.mem_appliedOf.mpr ⟨Table.mem_of_lookup hrow, hmarket, hstatus⟩
  have hnumber := (hlog.commands row (List.mem_of_mem_filter hmem)).2.1
  rw [hpayload, hsequence] at hnumber
  have hplace := hlog.applied_getElem? hmem hnumber.symm
  rw [hpayload] at hplace
  obtain ⟨later, hlater⟩ := hstart
  rw [← hlater, List.getElem?_append_right (le_refl _), Nat.sub_self] at hplace
  cases later with
  | nil => cases hplace
  | cons first later =>
      cases hplace
      exact ⟨later, by rw [← hlater, List.append_assoc, List.singleton_append]⟩

end Consistent

namespace Matcher

/-! ## One process -/

/-- What a process knows while it works on a record. -/
def Phase.Sound [UuidV5] (journal : Journal) : Phase → Prop
  | .idle => True
  | .recovering decoded _ state => Carried journal decoded ∧ ∃ events,
      Held journal decoded.envelope.marketId state.1 events ∧ state.2 = events.length
  | .committing decoded candidate added =>
      Carried journal decoded ∧ Prepared journal decoded candidate added

structure Process.Sound [UuidV5] (journal : Journal) (process : Process) : Prop where
  books : ∀ {marketId book}, process.books marketId = some book →
    ∃ events, Held journal marketId book events
  phase : process.phase.Sound journal

theorem Process.empty_sound [UuidV5] (journal : Journal) : Process.empty.Sound journal where
  books := fun h => nomatch h
  phase := trivial

theorem Process.Sound.idle [UuidV5] {journal : Journal} {process : Process}
    (h : process.Sound journal) : Process.Sound journal { process with phase := .idle } where
  books := h.books
  phase := trivial

theorem Process.Sound.grows [UuidV5] {journal journal' : Journal} {process : Process}
    (h : process.Sound journal) (hgrows : journal.Grows journal') :
    process.Sound journal' where
  books := by
    intro marketId book hbook
    obtain ⟨events, hheld⟩ := h.books hbook
    exact ⟨events, hheld.grows hgrows⟩
  phase := by
    have hphase := h.phase
    cases hcase : process.phase with
    | idle => trivial
    | recovering decoded retry state =>
        rw [hcase] at hphase
        obtain ⟨hcarried, events, hheld, hlength⟩ := hphase
        exact ⟨hcarried.grows hgrows, events, hheld.grows hgrows, hlength⟩
    | committing decoded candidate added =>
        rw [hcase] at hphase
        obtain ⟨hcarried, book, events, hheld, hrun⟩ := hphase
        exact ⟨hcarried.grows hgrows, book, events, hheld.grows hgrows, hrun⟩

/-- Caching a book that is held. -/
theorem Process.Sound.cache [UuidV5] {journal : Journal} {process : Process}
    (h : process.Sound journal) {marketId : MarketId} {book : OrderBook}
    {events : List EngineEvent} (hheld : Held journal marketId book events) :
    Process.Sound journal { process with
      books := Function.update process.books marketId (some book) } where
  books := by
    intro other found hfound
    by_cases hmarket : other = marketId
    · subst hmarket
      simp only [Function.update_self, Option.some.injEq] at hfound
      exact ⟨events, hfound ▸ hheld⟩
    · dsimp only at hfound
      rw [Function.update_of_ne hmarket] at hfound
      exact h.books hfound
  phase := h.phase

section Record

variable [UuidV5] [Sha256] [Prost] [SerdeJson] [SnapshotCodec] {db : Database}
  {decoded : DecodedCommand} {process : Process}

theorem validateCommand_carried (hconsistent : Consistent db) {row : OutboxEventRow}
    (hrow : row ∈ db.journal.outboxEvents.rows) (h : validateCommand row = some decoded) :
    Carried db.journal decoded := by
  unfold validateCommand at h
  split at h
  · rename_i command hpayload
    have hcarried := (hconsistent.outbox row hrow command hpayload).carried hpayload
    simp only [Option.ite_none_right_eq_some, Option.some.injEq] at h
    obtain ⟨_, rfl⟩ := h
    exact hcarried
  · cases h

theorem startRecovery_sound (hconsistent : Consistent db)
    (hfaithful : SnapshotCodec.Faithful) (h : process.Sound db.journal)
    (hcarried : Carried db.journal decoded) (retry : Bool) :
    (startRecovery db.journal decoded retry process).Sound db.journal := by
  obtain ⟨book, events, hlog⟩ := hconsistent.markets decoded.envelope.marketId
  rw [startRecovery, hlog.recoverSnapshot_eq hfaithful]
  exact ⟨h.books, hcarried, events, ⟨_, List.prefix_rfl, hlog.processed⟩, rfl⟩

theorem attempt_sound (hconsistent : Consistent db) (hfaithful : SnapshotCodec.Faithful)
    (h : process.Sound db.journal) (hcarried : Carried db.journal decoded) (retry : Bool)
    {book : OrderBook} {events : List EngineEvent}
    (hheld : Held db.journal decoded.envelope.marketId book events) :
    (attempt db.journal decoded retry book process).Sound db.journal := by
  unfold attempt
  split
  · rename_i added candidate hrun
    exact ⟨h.books, hcarried, book, events, hheld, hrun⟩
  · split
    · exact h.idle
    · exact startRecovery_sound hconsistent hfaithful h hcarried true

theorem receive_sound (hconsistent : Consistent db) (hfaithful : SnapshotCodec.Faithful)
    (h : process.Sound db.journal) (hcarried : Carried db.journal decoded) :
    (receive db.journal decoded process).Sound db.journal := by
  unfold receive
  split
  · rename_i book hbook
    obtain ⟨events, hheld⟩ := h.books hbook
    exact attempt_sound hconsistent hfaithful h hcarried false hheld
  · exact startRecovery_sound hconsistent hfaithful h hcarried false

theorem finishRecovery_sound (hconsistent : Consistent db)
    (hfaithful : SnapshotCodec.Faithful) (h : process.Sound db.journal) :
    (finishRecovery db.journal process).Sound db.journal := by
  have hphase := h.phase
  unfold finishRecovery
  split
  · rename_i decoded retry state hcase
    rw [hcase] at hphase
    obtain ⟨hcarried, before, ⟨commands, hstart, hprocessed⟩, hlength⟩ := hphase
    obtain ⟨book, events, hlog⟩ := hconsistent.markets decoded.envelope.marketId
    have hheld : Held db.journal decoded.envelope.marketId book events :=
      ⟨_, List.prefix_rfl, hlog.processed⟩
    have hreplay := hlog.replayFacts_eq hstart hprocessed
    rw [← hlength] at hreplay
    rw [hreplay]
    exact attempt_sound hconsistent hfaithful (h.cache hheld) hcarried retry hheld
  · exact h

end Record

/-! ## The system -/

/-- Transactions on the holdings leave the markets and the journal alone. -/
theorem holdings_unchanged {α : Type} (x : Tx Holdings α) (db : Database) :
    (committed (Database.holdingsPart.on x) db).markets = db.markets ∧
      (committed (Database.holdingsPart.on x) db).journal = db.journal := by
  have hspec : Ensures (Database.holdingsPart.on x) (fun _ => True) db fun _ db' =>
      db'.markets = db.markets ∧ db'.journal = db.journal := by
    rw [ensures_on]
    exact (ensures_true _ _).mono (fun _ h => h) fun _ _ _ => ⟨rfl, rfl⟩
  obtain ⟨_, hsame⟩ | ⟨_, _, hpost⟩ := committed_cases hspec
  · rw [hsame]
    exact ⟨rfl, rfl⟩
  · exact hpost

namespace System

variable [UuidV5] [Sha256] [Prost] [SerdeJson] [SnapshotCodec]

structure Sound (system : System) : Prop where
  consistent : Consistent system.db
  processes : ∀ owner, (system.processes owner).Sound system.db.journal

variable {system : System}

theorem Sound.setProcess (h : system.Sound) {owner : Owner} {process : Process}
    (hprocess : process.Sound system.db.journal) : (system.setProcess owner process).Sound where
  consistent := h.consistent
  processes := by
    intro other
    by_cases howner : other = owner
    · subst howner
      simpa [System.setProcess] using hprocess
    · simpa [System.setProcess, Function.update_of_ne howner] using h.processes other

/-- Changes of the database that keep it consistent leave every process sound. -/
theorem Sound.setDb (h : system.Sound) {db : Database} (hconsistent : Consistent db)
    (hgrows : system.db.journal.Grows db.journal) :
    Sound { system with db := db } where
  consistent := hconsistent
  processes := fun owner => (h.processes owner).grows hgrows

theorem submitOrder_consistent {db : Database} (h : Consistent db) (request : SubmitOrder)
    (commandId : EventId) :
    Consistent (committed (submitOrder request commandId) db) ∧
      db.journal.Grows (committed (submitOrder request commandId) db).journal := by
  have hspec : Ensures (submitOrder request commandId) (fun _ => True) db
      (SubmitPost db request commandId fun _ _ => True) :=
    ensures_submitOrder fun _ _ => (ensures_true _ _).mono (fun _ h => h)
      fun _ _ _ => ensures_true _ _
  obtain ⟨_, hsame⟩ | ⟨_, outcome, hpost⟩ := committed_cases hspec
  · rw [hsame]
    exact ⟨h, .refl _⟩
  · generalize committed (submitOrder request commandId) db = db' at hpost
    cases hpost with
    | duplicate _ _ _ _ => exact ⟨h, .refl _⟩
    | logged hlogged _ => exact ⟨h.logged hlogged, hlogged.grows⟩

theorem Sound.holdings (h : system.Sound) {α : Type} (x : Tx Holdings α) :
    Sound { system with db := committed (Database.holdingsPart.on x) system.db } := by
  obtain ⟨hmarkets, hjournal⟩ := holdings_unchanged x system.db
  refine h.setDb (Consistent.of_same h.consistent hmarkets hjournal) ?_
  rw [hjournal]
  exact .refl _

/-- A commit of a prepared candidate, whatever comes of it. -/
theorem commitCandidate_consistent {db : Database} (h : Consistent db) (owner : Owner)
    {decoded : DecodedCommand} {candidate : OrderBook} {added : List EngineEvent}
    (hcarried : Carried db.journal decoded)
    (hprepared : Prepared db.journal decoded candidate added) (now : OffsetDateTime)
    (snapshotId : Uuid) :
    let transaction := commitCandidate owner decoded candidate added now snapshotId
    let db' := committed transaction db
    Consistent db' ∧ db.journal.Grows db'.journal ∧
      (succeeds transaction db = true → added ≠ [] →
        ∃ events, Held db'.journal decoded.envelope.marketId candidate events) := by
  intro transaction db'
  have hspec : Ensures transaction (fun _ => True) db (CommitPost db consumerName decoded
      candidate added (fun _ => True) fun _ => True) :=
    ensures_commitMatching (CommitFailures.of_forall _ _ _ _ _)
      (fun _ => ensures_true _ _) fun _ _ _ _ => ensures_true _ _
  obtain ⟨hfailed, hsame⟩ | ⟨_, outcome, hpost⟩ := committed_cases hspec
  · have hdb : db' = db := hsame
    rw [hdb, hfailed]
    exact ⟨h, .refl _, fun hfalse => by cases hfalse⟩
  · change CommitPost db consumerName decoded candidate added _ _ outcome db' at hpost
    generalize db' = after at hpost
    cases hpost with
    | again hnil => exact ⟨h, .refl _, fun _ hne => absurd hnil hne⟩
    | @duplicate row holdings hadded hrow hstatus _ =>
        have hconsistent : Consistent { db with holdings := holdings } :=
          Consistent.of_same h rfl rfl
        refine ⟨hconsistent, .refl _, fun _ _ => ?_⟩
        have hid : row.eventId = decoded.envelope.eventId :=
          congrArg Prod.snd (Table.key_of_lookup hrow)
        obtain ⟨stored, hstored, happlied⟩ := h.inbox row (Table.mem_of_lookup hrow)
        rw [hid] at hstored
        exact hprepared.held hconsistent hadded hcarried hstored happlied
    | applied hadded hcommitted _ =>
        obtain ⟨hconsistent, hgrows, hextended⟩ :=
          h.committed hcommitted hcarried hprepared hadded
        refine ⟨hconsistent, hgrows, fun _ _ => ?_⟩
        obtain ⟨book, events, hlog⟩ := h.markets decoded.envelope.marketId
        have hrun := hlog.current hcommitted hcarried hprepared hadded
        refine ⟨events ++ added, _, List.prefix_rfl, ?_⟩
        rw [hextended]
        exact hlog.processed.snoc hrun hadded

theorem Sound.commitStep (h : system.Sound) (owner : Owner) (now : OffsetDateTime)
    (snapshotId : Uuid) (fault : Fault) :
    (system.commitStep owner now snapshotId fault).Sound ∧
      system.db.journal.Grows (system.commitStep owner now snapshotId fault).db.journal := by
  have hprocess := h.processes owner
  have hphase := hprocess.phase
  unfold System.commitStep
  dsimp only
  split
  · rename_i decoded candidate added hcase
    rw [hcase] at hphase
    obtain ⟨hcarried, hprepared⟩ := hphase
    obtain ⟨hconsistent, hgrows, hheld⟩ :=
      commitCandidate_consistent h.consistent owner hcarried hprepared now snapshotId
    have hdb := h.setDb hconsistent hgrows
    cases fault with
    | rolledBack => exact ⟨h.setProcess hprocess.idle, .refl _⟩
    | acknowledgementLost => exact ⟨hdb.setProcess (hprocess.idle.grows hgrows), hgrows⟩
    | none =>
        refine ⟨hdb.setProcess ?_, hgrows⟩
        split
        · rename_i hsucceeds
          split
          · exact hprocess.idle.grows hgrows
          · rename_i hadded
            obtain ⟨events, hcandidate⟩ := hheld hsucceeds (by simpa using hadded)
            exact (hprocess.idle.grows hgrows).cache hcandidate
        · exact hprocess.idle.grows hgrows
  · exact ⟨h, .refl _⟩

theorem Sound.step (hfaithful : SnapshotCodec.Faithful) (h : system.Sound)
    (action : Action) :
    (system.step action).Sound ∧
      system.db.journal.Grows (system.step action).db.journal := by
  cases action with
  | submitOrder request commandId =>
      obtain ⟨hconsistent, hgrows⟩ := submitOrder_consistent h.consistent request commandId
      exact ⟨h.setDb hconsistent hgrows, hgrows⟩
  | reserveFederated request reservationId now =>
      refine ⟨h.holdings _, ?_⟩
      rw [System.step, (holdings_unchanged _ system.db).2]
      exact .refl _
  | confirmFederated request now =>
      refine ⟨h.holdings _, ?_⟩
      rw [System.step, (holdings_unchanged _ system.db).2]
      exact .refl _
  | abortFederated request now =>
      refine ⟨h.holdings _, ?_⟩
      rw [System.step, (holdings_unchanged _ system.db).2]
      exact .refl _
  | deliver owner eventId =>
      unfold System.step
      dsimp only
      split
      · rename_i decoded _ hdecoded
        refine ⟨h.setProcess (receive_sound h.consistent hfaithful (h.processes owner) ?_),
          .refl _⟩
        obtain ⟨row, hrow, hvalid⟩ := Option.bind_eq_some_iff.mp hdecoded
        exact validateCommand_carried h.consistent (Table.mem_of_lookup hrow) hvalid
      · exact ⟨h, .refl _⟩
  | replay owner =>
      exact ⟨h.setProcess (finishRecovery_sound h.consistent hfaithful (h.processes owner)),
        .refl _⟩
  | commit owner now snapshotId fault => exact h.commitStep owner now snapshotId fault
  | interrupt owner => exact ⟨h.setProcess (h.processes owner).idle, .refl _⟩
  | crash owner => exact ⟨h.setProcess (Process.empty_sound _), .refl _⟩

theorem Sound.run (hfaithful : SnapshotCodec.Faithful) (h : system.Sound)
    (actions : List Action) :
    (system.run actions).Sound ∧
      system.db.journal.Grows (system.run actions).db.journal := by
  induction actions generalizing system with
  | nil => exact ⟨h, .refl _⟩
  | cons action actions ih =>
      obtain ⟨hstep, hgrows⟩ := h.step hfaithful action
      obtain ⟨hrun, hgrows'⟩ := ih hstep
      exact ⟨hrun, hgrows.trans hgrows'⟩

end System

/-! ## From a fresh database -/

/-- A database before the first order; both numberings of every market start at one. -/
structure Fresh (db : Database) : Prop where
  journal : db.journal = ⟨.empty, .empty, .empty, .empty, .empty, .empty⟩
  sequences : ∀ row ∈ db.markets.rows,
    row.nextCommandSequence = 1 ∧ row.nextEventSequence = 1

theorem Fresh.consistent [UuidV5] [Sha256] [Prost] [SerdeJson] [SnapshotCodec]
    {db : Database} (h : Fresh db) : Consistent db := by
  obtain ⟨hjournal, hsequences⟩ := h
  constructor
  case markets =>
    intro marketId
    refine ⟨new marketId, [], ?_⟩
    rw [hjournal]
    constructor
    case log => rfl
    case numbered => rfl
    case commands => exact fun row hrow => nomatch hrow
    case processed => exact .nil
    case facts => rfl
    case causes => exact fun row hrow => nomatch hrow
    case snapshot => exact .inl ⟨rfl, rfl, rfl⟩
    case sequences =>
      intro row hrow
      exact hsequences row (Table.mem_of_lookup hrow)
  case inbox =>
    rw [hjournal]
    exact fun row hrow => nomatch hrow
  case outbox =>
    rw [hjournal]
    exact fun row hrow => nomatch hrow

/-- Processes without any memory, on a database. -/
def System.start (db : Database) : System := ⟨db, fun _ => .empty⟩

theorem System.start_sound [UuidV5] [Sha256] [Prost] [SerdeJson] [SnapshotCodec]
    {db : Database} (h : Fresh db) : (System.start db).Sound where
  consistent := h.consistent
  processes := fun _ => Process.empty_sound _

/--
After any run: the log of a market is numbered without gaps and applied in that
order, its facts are numbered without gaps and each command caused its own events
once if it is applied and none otherwise, and a recovery returns the book of the
applied commands.  Whatever happens later extends the applied commands and does
not lower a lease token.
-/
theorem run_exactly_once [UuidV5] [Sha256] [Prost] [SerdeJson] [SnapshotCodec]
    (hfaithful : SnapshotCodec.Faithful) {db : Database} (hfresh : Fresh db)
    (actions : List Action) (marketId : MarketId) :
    let journal := ((System.start db).run actions).db.journal
    let log := journal.commandsOf marketId
    let facts := journal.factsOf marketId
    log.map CommandLogRow.shardSequence = List.range' 1 log.length ∧
    log = journal.appliedOf marketId ++ journal.waitingOf marketId ∧
    facts.map DomainEventRow.shardSequence = List.range' 1 facts.length ∧
    facts.map DomainEventRow.payload =
      (processAll (journal.applied marketId) (new marketId)).2.map .fact ∧
    (∀ before row after, log = before ++ row :: after →
      (facts.filter fun fact => fact.causationId = row.eventId).map DomainEventRow.payload =
        if row.status = .applied then
          (emitted row.payload (processAll (before.map CommandLogRow.payload)
            (new marketId)).1).map .fact
        else []) ∧
    recoverOrderBook journal marketId =
      .ok ((processAll (journal.applied marketId) (new marketId)).1, facts.length) ∧
    ∀ further, let later := ((System.start db).run (actions ++ further)).db.journal
      journal.applied marketId <+: later.applied marketId ∧
        journal.fencingToken marketId ≤ later.fencingToken marketId := by
  intro journal log facts
  obtain ⟨hsound, _⟩ := (System.start_sound hfresh).run hfaithful actions
  obtain ⟨book, events, hlog⟩ := hsound.consistent.markets marketId
  have hlength : facts.length = events.length := hlog.facts.length_eq
  refine ⟨hlog.numbered, hlog.log, ?_, ?_, fun before row after hrows => ?_, ?_, ?_⟩
  · rw [hlength]
    exact hlog.facts.sequences
  · rw [hlog.processed.processAll_eq]
    exact hlog.facts.payloads
  · exact hlog.facts_of_command hrows
  · rw [hlog.processed.processAll_eq, hlength]
    exact hlog.recoverOrderBook_eq hfaithful
  · intro further later
    obtain ⟨_, hgrows⟩ := hsound.run hfaithful further
    have hlater : later = (((System.start db).run actions).run further).db.journal := by
      simp only [later, System.run, List.foldl_append]
    rw [hlater]
    exact ⟨hgrows.applied marketId, hgrows.fencingToken marketId⟩

/-- Two processes take the same record; the acknowledgement of the first commit is lost. -/
def takenTwice : List Action :=
  [.submitOrder smallAsk ⟨1⟩, .deliver (⟨1⟩, "first") ⟨1⟩, .replay (⟨1⟩, "first"),
    .deliver (⟨2⟩, "second") ⟨1⟩, .replay (⟨2⟩, "second"),
    .commit (⟨1⟩, "first") 0 1 .acknowledgementLost, .commit (⟨2⟩, "second") 0 2 .none]

theorem run_exactly_once_takenTwice :
    let book := (@processAll UuidV5.positional (twoAsks.take 1) (new ⟨1⟩)).1
    let codec := documentCodec book.snapshotState
      (restingAskDocument (@EventId.derive UuidV5.positional ⟨1⟩ "matching-event" 0))
    let journal := (@System.run UuidV5.positional ⟨id⟩ ⟨fun _ => []⟩ documentedJson codec
      takenTwice (System.start smallMarket)).db.journal
    (journal.commandsOf ⟨1⟩).map CommandLogRow.status = [.applied] ∧
      (journal.factsOf ⟨1⟩).length = 1 ∧
      @recoverOrderBook ⟨id⟩ codec journal ⟨1⟩ = .ok
        ((@processAll UuidV5.positional (journal.applied ⟨1⟩) (new ⟨1⟩)).1,
          (journal.factsOf ⟨1⟩).length) := by
  intro book codec journal
  obtain ⟨_, _, _, _, _, hrecover, _⟩ := @run_exactly_once UuidV5.positional ⟨id⟩
    ⟨fun _ => []⟩ documentedJson codec (@documentCodec_faithful documentedJson _ _)
    smallMarket ⟨rfl, by decide⟩ takenTwice ⟨1⟩
  exact ⟨by decide +kernel, by decide +kernel, hrecover⟩

end Matcher

end MatchPlane
