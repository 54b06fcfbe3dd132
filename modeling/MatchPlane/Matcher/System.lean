import MatchPlane.Storage.Calls

/-!
# Matchers

Any number of matcher processes share one database.  Each keeps books in memory
and handles one record at a time, in up to four steps that other processes may
come between: it receives the record, reads the latest snapshot, replays later
facts, and commits.  A step may fail, a commit may take effect without its caller
learning of it, and a process may lose its memory at any point.  Records arrive in
any order and any number of times.
-/

namespace MatchPlane

open MatchPlane.Library

namespace Matcher

def consumerName : String := "matchplane-matcher-v1"

/-- A node and the process on it. -/
abbrev Owner := FederationNodeId × String

inductive Phase where
  | idle
  /-- A snapshot was read; the flag says that a cached book was already tried. -/
  | recovering (decoded : DecodedCommand) (retry : Bool) (state : OrderBook × Nat)
  | committing (decoded : DecodedCommand) (candidate : OrderBook)
      (events : List EngineEvent)

structure Process where
  books : MarketId → Option OrderBook
  phase : Phase

def Process.empty : Process := ⟨fun _ => none, .idle⟩

def validateCommand (row : OutboxEventRow) : Option DecodedCommand :=
  match row.payload with
  | .matchingCommand command =>
      let decoded := decodeCommandEnvelope row.envelope command
      let inScope : Bool := match command with
        | .placeLimitOrder place =>
            decide (place.intent.tenantId = row.envelope.tenantId ∧
              place.intent.domainId = row.envelope.domainId ∧
              place.intent.marketId = row.envelope.marketId)
        | _ => true
      if row.topic = Topics.commands ∧ row.envelope.streamKind = .command ∧
          row.messageKey = toString row.envelope.marketId ∧ inScope = true then
        some decoded
      else none
  | _ => none

section Record

variable [UuidV5] [Sha256] [SnapshotCodec]

def startRecovery (journal : Journal) (decoded : DecodedCommand) (retry : Bool)
    (process : Process) : Process :=
  match recoverSnapshot journal decoded.envelope.marketId with
  | .ok state => { process with phase := .recovering decoded retry state }
  | .error _ => { process with phase := .idle }

/-- Processes the record on a copy of a book of this process. -/
def attempt (journal : Journal) (decoded : DecodedCommand) (retry : Bool)
    (book : OrderBook) (process : Process) : Process :=
  match (OrderBook.process decoded.engineCommand).run book with
  | .ok events candidate => { process with phase := .committing decoded candidate events }
  | .error _ _ =>
      -- A record that fails on a book recovered because of it is given up.
      if retry then { process with phase := .idle }
      else startRecovery journal decoded true process

def receive (journal : Journal) (decoded : DecodedCommand) (process : Process) : Process :=
  match process.books decoded.envelope.marketId with
  | some book => attempt journal decoded false book process
  | none => startRecovery journal decoded false process

def finishRecovery (journal : Journal) (process : Process) : Process :=
  match process.phase with
  | .recovering decoded retry state =>
      match replayFacts journal decoded.envelope.marketId state with
      | .ok (book, _) =>
          attempt journal decoded retry book { process with
            books := Function.update process.books decoded.envelope.marketId (some book) }
      | .error _ => { process with phase := .idle }
  | _ => process

end Record

/-! ## The system -/

structure System where
  db : Database
  processes : Owner → Process

/-- How much of a commit reaches the database, and how much of that its caller. -/
inductive Fault where
  | none
  | rolledBack
  | acknowledgementLost
  deriving DecidableEq, Repr

inductive Action where
  | submitOrder (request : SubmitOrder) (commandId : EventId)
  | reserveFederated (request : ReserveFederated) (reservationId : ReservationId)
      (now : OffsetDateTime)
  | confirmFederated (request : FederationTransition) (now : OffsetDateTime)
  | abortFederated (request : FederationTransition) (now : OffsetDateTime)
  | deliver (owner : Owner) (eventId : EventId)
  | replay (owner : Owner)
  | commit (owner : Owner) (now : OffsetDateTime) (snapshotId : Uuid) (fault : Fault)
  /-- A read fails and the record is retried later. -/
  | interrupt (owner : Owner)
  | crash (owner : Owner)

namespace System

def setProcess (system : System) (owner : Owner) (process : Process) : System :=
  { system with processes := Function.update system.processes owner process }

section Step

variable [UuidV5] [Sha256] [Prost] [SerdeJson] [SnapshotCodec]

/-- The commit of a candidate, on behalf of its owner. -/
def commitCandidate (owner : Owner) (decoded : DecodedCommand) (candidate : OrderBook)
    (events : List EngineEvent) (now : OffsetDateTime) (snapshotId : Uuid) :
    Tx Database MatchCommitOutcome :=
  commitMatching consumerName owner.2 owner.1 decoded candidate events now snapshotId

def commitStep (system : System) (owner : Owner) (now : OffsetDateTime)
    (snapshotId : Uuid) (fault : Fault) : System :=
  let process := system.processes owner
  match process.phase with
  | .committing decoded candidate events =>
      let transaction := commitCandidate owner decoded candidate events now snapshotId
      let idle := { process with phase := .idle }
      -- The candidate replaces the cached book only if the commit is known to stand.
      let advanced := if events.isEmpty then idle else { idle with
        books := Function.update process.books decoded.envelope.marketId (some candidate) }
      match fault with
      | .rolledBack => system.setProcess owner idle
      | .acknowledgementLost =>
          setProcess { system with db := committed transaction system.db } owner idle
      | .none =>
          setProcess { system with db := committed transaction system.db } owner
            (if succeeds transaction system.db then advanced else idle)
  | _ => system

def step (system : System) : Action → System
  | .submitOrder request commandId =>
      { system with db := committed (MatchPlane.submitOrder request commandId) system.db }
  | .reserveFederated request reservationId now =>
      { system with db := committed (Database.holdingsPart.on
        (MatchPlane.reserveFederated request reservationId now)) system.db }
  | .confirmFederated request now =>
      { system with db := committed (Database.holdingsPart.on
        (MatchPlane.confirmFederated request now)) system.db }
  | .abortFederated request now =>
      { system with db := committed (Database.holdingsPart.on
        (MatchPlane.abortFederated request now)) system.db }
  | .deliver owner eventId =>
      match (system.processes owner).phase,
        (system.db.journal.outboxEvents.lookup eventId).bind validateCommand with
      | .idle, some decoded => system.setProcess owner
          (receive system.db.journal decoded (system.processes owner))
      | _, _ => system
  | .replay owner => system.setProcess owner
      (finishRecovery system.db.journal (system.processes owner))
  | .commit owner now snapshotId fault => system.commitStep owner now snapshotId fault
  | .interrupt owner =>
      system.setProcess owner { system.processes owner with phase := .idle }
  | .crash owner => system.setProcess owner .empty

def run (actions : List Action) (system : System) : System := actions.foldl step system

/-- All that a system does to its database is to call the store. -/
theorem step_calls (system : System) (action : Action) :
    ∃ calls, (system.step action).db = system.db.calls calls := by
  cases action with
  | submitOrder request commandId =>
      exact ⟨[.submitOrder request commandId], (committed_discard _ _).symm⟩
  | reserveFederated request reservationId now =>
      exact ⟨[.reserveFederated request reservationId now], (committed_on_discard _ _ _).symm⟩
  | confirmFederated request now =>
      exact ⟨[.confirmFederated request now], (committed_on_discard _ _ _).symm⟩
  | abortFederated request now =>
      exact ⟨[.abortFederated request now], (committed_on_discard _ _ _).symm⟩
  | deliver owner eventId =>
      refine ⟨[], ?_⟩
      unfold System.step
      dsimp only
      split
      · rfl
      · rfl
  | replay owner => exact ⟨[], rfl⟩
  | commit owner now snapshotId fault =>
      unfold System.step System.commitStep
      dsimp only
      split
      · rename_i decoded candidate events _
        cases fault with
        | rolledBack => exact ⟨[], rfl⟩
        | acknowledgementLost =>
            exact ⟨[.commitMatching consumerName owner.2 owner.1 decoded candidate events now
              snapshotId], (committed_discard _ _).symm⟩
        | none =>
            exact ⟨[.commitMatching consumerName owner.2 owner.1 decoded candidate events now
              snapshotId], (committed_discard _ _).symm⟩
      · exact ⟨[], rfl⟩
  | interrupt owner => exact ⟨[], rfl⟩
  | crash owner => exact ⟨[], rfl⟩

theorem run_calls (system : System) (actions : List Action) :
    ∃ calls, (system.run actions).db = system.db.calls calls := by
  induction actions generalizing system with
  | nil => exact ⟨[], rfl⟩
  | cons action actions ih =>
      obtain ⟨first, hfirst⟩ := system.step_calls action
      obtain ⟨rest, hrest⟩ := ih (system.step action)
      refine ⟨first ++ rest, ?_⟩
      rw [Database.calls_append, ← hfirst]
      exact hrest

end Step

end System

end Matcher

end MatchPlane
