import MatchPlane.Storage.Schema

/-!
# Outbox

Records wait in the outbox until a relay has published them.  A relay claims the
first unpublished record of every topic and message key, publishes it and reports
back with the token of its claim.  A claim that is a minute old may be taken over,
and a record is tried twelve times.

`now` is the database clock, read once per statement.  `locked` are the records
that `SKIP LOCKED` passes over, which is up to other transactions.
-/

namespace MatchPlane

open MatchPlane.Library

inductive OutboxStatus where
  | pending
  | publishing
  | published
  | failed
  deriving DecidableEq, Repr

/-- A queued record with the columns that relays write. -/
structure OutboxRow where
  event : OutboxEventRow
  createdAt : OffsetDateTime
  status : OutboxStatus
  attempts : Nat
  claimedAt : Option OffsetDateTime
  availableAt : OffsetDateTime
  publishedAt : Option OffsetDateTime
  claimToken : Option Uuid
  lastError : Option String
  deriving DecidableEq, Repr

namespace OutboxRow

def eventId (row : OutboxRow) : EventId := row.event.envelope.eventId

def shardSequence (row : OutboxRow) : Nat := row.event.envelope.shardSequence

/-- Records are ordered among those of the same topic and key. -/
def stream (row : OutboxRow) : String × String := (row.event.topic, row.event.messageKey)

end OutboxRow

def outboxRows : Schema EventId OutboxRow where
  key := OutboxRow.eventId
  clash := fun first second => outboxEvents.clash first.event second.event
  check := fun row => outboxEvents.check row.event ∧ row.attempts ≤ 2147483647

/-- The columns that `insert_outbox` leaves to their defaults. -/
def OutboxRow.queued (event : OutboxEventRow) (now : OffsetDateTime) : OutboxRow where
  event := event
  createdAt := now
  status := .pending
  attempts := 0
  claimedAt := none
  availableAt := now
  publishedAt := none
  claimToken := none
  lastError := none

abbrev Outbox := Table outboxRows

/-! ## Claims -/

def maxDeliveryAttempts : Nat := 12

/-- Sixty seconds. -/
def claimLease : Int := 60000000000

structure OutboxMessage where
  eventId : EventId
  topic : String
  messageKey : String
  shardSequence : Nat
  payload : MessagePayload
  attempts : Nat
  claimToken : Option Uuid
  deriving DecidableEq, Repr

namespace OutboxRow

def isStale (row : OutboxRow) (now : OffsetDateTime) : Bool :=
  row.claimedAt.any (· < now - claimLease)

/-- The row comparison of sequence, creation and identity. -/
def precedes (first second : OutboxRow) : Bool :=
  first.shardSequence < second.shardSequence ∨
    (first.shardSequence = second.shardSequence ∧
      (first.createdAt < second.createdAt ∨
        (first.createdAt = second.createdAt ∧ first.eventId < second.eventId)))

def isExhausted (row : OutboxRow) (now : OffsetDateTime) : Bool :=
  row.status = .publishing ∧ maxDeliveryAttempts ≤ row.attempts ∧ row.isStale now

def isCandidate (rows : List OutboxRow) (now : OffsetDateTime) (candidate : OutboxRow) :
    Bool :=
  candidate.availableAt ≤ now ∧ candidate.attempts < maxDeliveryAttempts ∧
    (candidate.status = .pending ∨ candidate.status = .failed ∨
      (candidate.status = .publishing ∧ candidate.isStale now)) ∧
    ∀ predecessor ∈ rows, ¬(predecessor.stream = candidate.stream ∧
      predecessor.status ≠ .published ∧ predecessor.precedes candidate)

def exhausted (row : OutboxRow) : OutboxRow :=
  { row with
    status := .failed
    claimedAt := none
    claimToken := none
    lastError :=
      some (row.lastError.getD "delivery claim lease expired after attempt limit") }

def claimed (row : OutboxRow) (claimToken : Uuid) (now : OffsetDateTime) : OutboxRow :=
  { row with
    status := .publishing
    attempts := row.attempts + 1
    claimedAt := some now
    claimToken := some claimToken
    lastError := none }

def message (row : OutboxRow) : OutboxMessage where
  eventId := row.eventId
  topic := row.event.topic
  messageKey := row.event.messageKey
  shardSequence := row.shardSequence
  payload := row.event.payload
  attempts := row.attempts
  claimToken := row.claimToken

end OutboxRow

/-- The candidates of a claim: the oldest ones that are not locked. -/
def outboxCandidates (rows : List OutboxRow) (limit : Int) (now : OffsetDateTime)
    (locked : EventId → Bool) : List EventId :=
  let candidates := rows.filter (OutboxRow.isCandidate rows now)
  let ordered := candidates.mergeSort fun first second =>
    first.createdAt < second.createdAt ∨
      (first.createdAt = second.createdAt ∧ first.eventId ≤ second.eventId)
  let unlocked := ordered.filter fun row => !locked row.eventId
  (unlocked.take (max 1 (min 500 limit)).toNat).map OutboxRow.eventId

/-- What the statement of a claim makes of a row. -/
def OutboxRow.afterClaim (candidates : List EventId) (claimToken : Uuid)
    (now : OffsetDateTime) (row : OutboxRow) : OutboxRow :=
  if row.isExhausted now then row.exhausted
  else if row.eventId ∈ candidates then row.claimed claimToken now
  else row

def claimOutbox (limit : Int) (claimToken : Uuid) (now : OffsetDateTime)
    (locked : EventId → Bool) : Tx Outbox (List OutboxMessage) := do
  let rows := (← get).rows
  let candidates := outboxCandidates rows limit now locked
  Table.updateAll .sqlx (OutboxRow.afterClaim candidates claimToken now)
  pure (((← get).rows.filter fun row => row.eventId ∈ candidates).map OutboxRow.message)

/-! ## Reports -/

def markOutboxPublished (eventId : EventId) (claimToken : Uuid) (now : OffsetDateTime) :
    Tx Outbox Unit := do
  let updated ← Table.update .sqlx eventId
    (fun row => row.status = .publishing ∧ row.claimToken = some claimToken)
    fun row => { row with
      status := .published
      publishedAt := some now
      claimedAt := none
      claimToken := none
      lastError := none }
  let _ ← require (.conflict "outbox publication acknowledgement lost its claim") updated

def truncateError (error : String) : String := String.ofList (error.toList.take 2000)

/-- The delay before a record is tried again, doubling up to five minutes. -/
def retryDelay (attempts : Int) : Int :=
  let exponent := max 1 (min 10 attempts)
  min (2 ^ exponent.toNat) 300 * 1000000000

def markOutboxFailed (eventId : EventId) (claimToken : Uuid) (attempts : Int)
    (error : String) (now : OffsetDateTime) : Tx Outbox Unit := do
  let updated ← Table.update .sqlx eventId
    (fun row => row.status = .publishing ∧ row.claimToken = some claimToken)
    fun row => { row with
      status := .failed
      claimedAt := none
      claimToken := none
      lastError := some (truncateError error)
      availableAt := now + retryDelay attempts }
  let _ ← require (.conflict "outbox retry transition lost its claim") updated

/-! ## Runs -/

/-- Statements of writers and of any number of relays; a relay that stops makes none. -/
inductive OutboxAction where
  | insert (event : OutboxEventRow) (now : OffsetDateTime)
  | claim (limit : Int) (claimToken : Uuid) (now : OffsetDateTime) (locked : EventId → Bool)
  | published (eventId : EventId) (claimToken : Uuid) (now : OffsetDateTime)
  | failed (eventId : EventId) (claimToken : Uuid) (attempts : Int) (error : String)
      (now : OffsetDateTime)

namespace Outbox

def step (outbox : Outbox) : OutboxAction → Outbox
  | .insert event now => committed (Table.insert StorageError.sqlx (.queued event now)) outbox
  | .claim limit claimToken now locked =>
      committed (claimOutbox limit claimToken now locked) outbox
  | .published eventId claimToken now =>
      committed (markOutboxPublished eventId claimToken now) outbox
  | .failed eventId claimToken attempts error now =>
      committed (markOutboxFailed eventId claimToken attempts error now) outbox

def run (outbox : Outbox) (actions : List OutboxAction) : Outbox := actions.foldl step outbox

/-- Writers append to a stream in the order of its sequences. -/
def isAppended (outbox : Outbox) : OutboxAction → Bool
  | .insert event now => outbox.rows.all fun row =>
      row.stream ≠ (OutboxRow.queued event now).stream ∨
        row.shardSequence < event.envelope.shardSequence
  | _ => true

def areAppended (outbox : Outbox) : List OutboxAction → Bool
  | [] => true
  | action :: actions => outbox.isAppended action && (outbox.step action).areAppended actions

end Outbox

def OutboxAction.claimToken? : OutboxAction → Option Uuid
  | .claim _ claimToken _ _ => some claimToken
  | _ => none

/-! ## What a statement can do to a record -/

inductive OutboxRow.Written (rows : List OutboxRow) :
    OutboxAction → OutboxRow → OutboxRow → Prop
  | unchanged (action : OutboxAction) (row : OutboxRow) : Written rows action row row
  | exhausted {limit : Int} {claimToken : Uuid} {now : OffsetDateTime}
      {locked : EventId → Bool} {row : OutboxRow} (h : row.isExhausted now = true) :
      Written rows (.claim limit claimToken now locked) row row.exhausted
  | claimed {limit : Int} {claimToken : Uuid} {now : OffsetDateTime}
      {locked : EventId → Bool} {row : OutboxRow} (h : row.isCandidate rows now = true) :
      Written rows (.claim limit claimToken now locked) row (row.claimed claimToken now)
  | published {claimToken : Uuid} {now : OffsetDateTime} {row : OutboxRow}
      (hstatus : row.status = .publishing) (htoken : row.claimToken = some claimToken) :
      Written rows (.published row.eventId claimToken now) row { row with
        status := .published
        publishedAt := some now
        claimedAt := none
        claimToken := none
        lastError := none }
  | failed {claimToken : Uuid} {attempts : Int} {error : String} {now : OffsetDateTime}
      {row : OutboxRow} (hstatus : row.status = .publishing)
      (htoken : row.claimToken = some claimToken) :
      Written rows (.failed row.eventId claimToken attempts error now) row { row with
        status := .failed
        claimedAt := none
        claimToken := none
        lastError := some (truncateError error)
        availableAt := now + retryDelay attempts }

theorem OutboxRow.Written.event {rows : List OutboxRow} {action : OutboxAction}
    {row row' : OutboxRow} (h : row.Written rows action row') : row'.event = row.event := by
  cases h <;> rfl

theorem OutboxRow.Written.createdAt {rows : List OutboxRow} {action : OutboxAction}
    {row row' : OutboxRow} (h : row.Written rows action row') :
    row'.createdAt = row.createdAt := by
  cases h <;> rfl

theorem OutboxRow.isCandidate_iff {rows : List OutboxRow} {now : OffsetDateTime}
    {row : OutboxRow} : row.isCandidate rows now = true ↔
      row.availableAt ≤ now ∧ row.attempts < maxDeliveryAttempts ∧
      (row.status = .pending ∨ row.status = .failed ∨
        (row.status = .publishing ∧ row.isStale now = true)) ∧
      ∀ predecessor ∈ rows, ¬(predecessor.stream = row.stream ∧
        predecessor.status ≠ .published ∧ predecessor.precedes row = true) :=
  decide_eq_true_iff

theorem OutboxRow.isExhausted_iff {now : OffsetDateTime} {row : OutboxRow} :
    row.isExhausted now = true ↔ row.status = .publishing ∧
      maxDeliveryAttempts ≤ row.attempts ∧ row.isStale now = true :=
  decide_eq_true_iff

/-- A record that was published is not written again. -/
theorem OutboxRow.Written.of_published {rows : List OutboxRow} {action : OutboxAction}
    {row row' : OutboxRow} (h : row.Written rows action row')
    (hpublished : row.status = .published) : row' = row := by
  cases h with
  | unchanged => rfl
  | exhausted h => simp [OutboxRow.isExhausted_iff, hpublished] at h
  | claimed h => simp [OutboxRow.isCandidate_iff, hpublished] at h
  | published hstatus _ =>
      rw [hpublished] at hstatus
      cases hstatus
  | failed hstatus _ =>
      rw [hpublished] at hstatus
      cases hstatus

namespace Outbox

variable {outbox : Outbox}

/-- The rows that a claim works on are candidates. -/
theorem isCandidate_of_mem {limit : Int} {now : OffsetDateTime} {locked : EventId → Bool}
    {row : OutboxRow} (hrow : row ∈ outbox.rows)
    (h : row.eventId ∈ outboxCandidates outbox.rows limit now locked) :
    row.isCandidate outbox.rows now = true := by
  simp only [outboxCandidates, List.mem_map] at h
  obtain ⟨other, hother, hid⟩ := h
  have hmem := List.mem_of_mem_take hother
  simp only [List.mem_filter, List.mem_mergeSort] at hmem
  have hsame : other = row := by
    have hlookup : outbox.lookup row.eventId = some row := Table.lookup_of_mem hrow
    have hlookup' : outbox.lookup other.eventId = some other :=
      Table.lookup_of_mem hmem.1.1
    rw [hid, hlookup, Option.some.injEq] at hlookup'
    exact hlookup'.symm
  rw [← hsame]
  exact hmem.1.2

section Claim

variable {limit : Int} {claimToken : Uuid} {now : OffsetDateTime} {locked : EventId → Bool}

theorem afterClaim_written {row : OutboxRow} (hrow : row ∈ outbox.rows) :
    row.Written outbox.rows (.claim limit claimToken now locked)
      (row.afterClaim (outboxCandidates outbox.rows limit now locked) claimToken now) := by
  unfold OutboxRow.afterClaim
  split
  · rename_i hexhausted
    exact .exhausted hexhausted
  · split
    · rename_i hmem
      exact .claimed (isCandidate_of_mem hrow hmem)
    · exact .unchanged _ _

theorem afterClaim_event (candidates : List EventId) (row : OutboxRow) :
    (row.afterClaim candidates claimToken now).event = row.event := by
  unfold OutboxRow.afterClaim
  split
  · rfl
  · split <;> rfl

theorem afterClaim_valid : outboxRows.Valid (outbox.rows.map
    (OutboxRow.afterClaim (outboxCandidates outbox.rows limit now locked) claimToken now)) := by
  refine Table.valid_map (fun row => ?_) (fun first second => ?_) fun row hrow => ?_
  · simp only [outboxRows, OutboxRow.eventId, afterClaim_event]
  · simp only [outboxRows, afterClaim_event]
  · have hcheck := outbox.valid.checked row hrow
    simp only [outboxRows, decide_eq_true_eq] at hcheck ⊢
    rw [afterClaim_event]
    refine ⟨hcheck.1, ?_⟩
    have hwritten : row.Written outbox.rows (.claim limit claimToken now locked) _ :=
      afterClaim_written hrow
    generalize OutboxRow.afterClaim _ claimToken now row = row' at hwritten
    cases hwritten with
    | unchanged => exact hcheck.2
    | exhausted => exact hcheck.2
    | claimed h =>
        obtain ⟨_, hattempts, _⟩ := OutboxRow.isCandidate_iff.mp h
        rw [maxDeliveryAttempts] at hattempts
        simp only [OutboxRow.claimed]
        omega

/-- A claim succeeds, and every message of it is one record that it wrote. -/
theorem ensures_claimOutbox : Ensures (claimOutbox limit claimToken now locked)
    (fun _ => False) outbox fun messages outbox' =>
      outbox'.rows = outbox.rows.map (OutboxRow.afterClaim
        (outboxCandidates outbox.rows limit now locked) claimToken now) ∧
      ∀ message ∈ messages, ∃ row ∈ outbox.rows, message.eventId = row.eventId ∧
        row.isCandidate outbox.rows now = true ∧
        outbox'.lookup row.eventId = some (row.claimed claimToken now) := by
  unfold claimOutbox
  simp only [ensures_bind, ensures_get, ensures_pure]
  refine Table.ensures_updateAll afterClaim_valid fun t' ht' => ⟨ht', ?_⟩
  simp only [ht', List.mem_map, List.mem_filter, decide_eq_true_eq]
  rintro _ ⟨_, ⟨⟨row, hrow, rfl⟩, hmem⟩, rfl⟩
  have hid : (row.afterClaim (outboxCandidates outbox.rows limit now locked) claimToken
      now).eventId = row.eventId := by
    rw [OutboxRow.eventId, afterClaim_event]
    rfl
  rw [hid] at hmem
  have hcandidate := isCandidate_of_mem hrow hmem
  refine ⟨row, hrow, hid, hcandidate, ?_⟩
  have hexhausted : ¬row.isExhausted now = true := by
    rw [OutboxRow.isExhausted_iff]
    rintro ⟨_, hle, _⟩
    obtain ⟨_, hlt, _⟩ := OutboxRow.isCandidate_iff.mp hcandidate
    omega
  have hclaimed : row.afterClaim (outboxCandidates outbox.rows limit now locked) claimToken
      now = row.claimed claimToken now := by
    rw [OutboxRow.afterClaim, if_neg hexhausted, if_pos hmem]
  refine Table.lookup_eq_some_iff.mpr ⟨?_, rfl⟩
  rw [ht', ← hclaimed]
  exact List.mem_map_of_mem hrow

end Claim

/-- An update by a report writes the claim of its token or nothing. -/
theorem step_report {action : OutboxAction} {eventId : EventId} {claimToken : Uuid}
    {error : StorageError} {set : OutboxRow → OutboxRow}
    (hstep : outbox.step action = committed (do
      let updated ← Table.update .sqlx eventId
        (fun row => row.status = .publishing ∧ row.claimToken = some claimToken) set
      let _ ← require error updated) outbox)
    (hset : ∀ row : OutboxRow, row.eventId = eventId → row.status = .publishing →
      row.claimToken = some claimToken → row.Written outbox.rows action (set row)) :
    ∃ set', (outbox.step action).rows = outbox.rows.map set' ∧
      ∀ row ∈ outbox.rows, row.Written outbox.rows action (set' row) := by
  have hspec : Ensures (do
      let updated ← Table.update .sqlx eventId
        (fun row => row.status = .publishing ∧ row.claimToken = some claimToken) set
      let _ ← require error updated) (fun _ => True) outbox fun _ outbox' =>
        outbox'.rows = outbox.replaced eventId
          (fun row => row.status = .publishing ∧ row.claimToken = some claimToken) set := by
    rw [ensures_bind]
    refine Table.ensures_update trivial fun t' ht' => ?_
    simp only [ensures_bind, ensures_pure, ensures_require]
    exact ⟨fun _ => trivial, fun _ _ => ht'⟩
  rcases committed_cases hspec with ⟨_, hsame⟩ | ⟨_, _, hpost⟩
  · refine ⟨id, ?_, fun row _ => .unchanged _ _⟩
    rw [hstep, hsame, List.map_id]
  · refine ⟨_, by rw [hstep, hpost]; rfl, fun row _ => ?_⟩
    dsimp only
    split
    · rename_i hmatch
      simp only [decide_eq_true_eq] at hmatch
      exact hset row hmatch.1 hmatch.2.1 hmatch.2.2
    · exact .unchanged _ _

/-- Every statement appends one record or writes the records there are. -/
theorem step_cases (outbox : Outbox) (action : OutboxAction) :
    (∃ event now, action = .insert event now ∧
      (outbox.step action).rows = outbox.rows ++ [.queued event now]) ∨
    ∃ set, (outbox.step action).rows = outbox.rows.map set ∧
      ∀ row ∈ outbox.rows, row.Written outbox.rows action (set row) := by
  cases action with
  | insert event now =>
      have hspec : Ensures (Table.insert StorageError.sqlx (OutboxRow.queued event now))
          (fun _ => True) outbox fun _ outbox' =>
            outbox'.rows = outbox.rows ++ [.queued event now] :=
        Table.ensures_insert trivial fun _ h => h
      rcases committed_cases hspec with ⟨_, hsame⟩ | ⟨_, _, hpost⟩
      · refine .inr ⟨id, ?_, fun row _ => .unchanged _ _⟩
        rw [step, hsame, List.map_id]
      · exact .inl ⟨event, now, rfl, hpost⟩
  | claim limit claimToken now locked =>
      have hclaim : Ensures (claimOutbox limit claimToken now locked) (fun _ => False) outbox _ :=
        ensures_claimOutbox
      rcases committed_cases hclaim with ⟨hfailed, _⟩ | ⟨_, _, hrows, _⟩
      · rw [hclaim.succeeds] at hfailed
        cases hfailed
      · exact .inr ⟨_, hrows, fun row hrow => afterClaim_written hrow⟩
  | published eventId claimToken now =>
      refine .inr (step_report rfl fun row hid hstatus htoken => ?_)
      subst hid
      exact .published hstatus htoken
  | failed eventId claimToken attempts error now =>
      refine .inr (step_report rfl fun row hid hstatus htoken => ?_)
      subst hid
      exact .failed hstatus htoken

theorem lookup_step {eventId : EventId} {row : OutboxRow}
    (hrow : outbox.lookup eventId = some row) (action : OutboxAction) :
    ∃ row', (outbox.step action).lookup eventId = some row' ∧
      row.Written outbox.rows action row' := by
  have hkey : row.eventId = eventId := Table.key_of_lookup hrow
  rcases outbox.step_cases action with ⟨event, now, _, hrows⟩ | ⟨set, hrows, hwritten⟩
  · exact ⟨row, Table.lookup_inserted_of_some hrows hrow, .unchanged _ _⟩
  · have hset := hwritten row (Table.mem_of_lookup hrow)
    refine ⟨set row, Table.lookup_eq_some_iff.mpr ⟨?_, ?_⟩, hset⟩
    · rw [hrows]
      exact List.mem_map_of_mem (Table.mem_of_lookup hrow)
    · rw [← hkey]
      simp only [outboxRows, OutboxRow.eventId, hset.event]

end Outbox

end MatchPlane
