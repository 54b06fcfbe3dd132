import MatchPlane.Storage.Outbox

/-!
# Ordered delivery

Whatever relays do, a record is claimed only after every earlier record of its
topic and key was published, so the published records of a stream are always its
first ones.  A claim is given up by its own token or by its age.
-/

namespace MatchPlane

open MatchPlane.Library

/-! ## Order -/

/-- The record was claimed, or published after a claim. -/
def OutboxStatus.isSent : OutboxStatus → Bool
  | publishing | published => true
  | pending | failed => false

section Written

variable {rows : List OutboxRow} {action : OutboxAction} {row row' : OutboxRow}

theorem OutboxRow.Written.stream (h : row.Written rows action row') :
    row'.stream = row.stream := by
  rw [OutboxRow.stream, OutboxRow.stream, h.event]

theorem OutboxRow.Written.shardSequence (h : row.Written rows action row') :
    row'.shardSequence = row.shardSequence := by
  rw [OutboxRow.shardSequence, OutboxRow.shardSequence, h.event]

/-- A record is sent by a claim, which asks for what comes before it. -/
theorem OutboxRow.Written.isSent (h : row.Written rows action row')
    (hsent : row'.status.isSent = true) :
    row.status.isSent = true ∨ ∀ earlier ∈ rows, earlier.stream = row.stream →
      earlier.shardSequence < row.shardSequence → earlier.status = .published := by
  cases h with
  | unchanged => exact .inl hsent
  | exhausted => cases hsent
  | claimed h =>
      right
      intro earlier hearlier hstream hlt
      obtain ⟨_, _, _, hheads⟩ := OutboxRow.isCandidate_iff.mp h
      by_contra hunpublished
      exact hheads earlier hearlier ⟨hstream, hunpublished, by simp [OutboxRow.precedes, hlt]⟩
  | published hstatus _ =>
      left
      rw [hstatus]
      rfl
  | failed => cases hsent

end Written

namespace Outbox

structure Ordered (outbox : Outbox) : Prop where
  sequences : outbox.rows.Pairwise fun first second =>
    first.stream = second.stream → first.shardSequence < second.shardSequence
  heads : ∀ row ∈ outbox.rows, row.status.isSent = true → ∀ earlier ∈ outbox.rows,
    earlier.stream = row.stream → earlier.shardSequence < row.shardSequence →
      earlier.status = .published

variable {outbox : Outbox}

theorem ordered_empty : Ordered (.empty : Outbox) where
  sequences := .nil
  heads := fun _ h => nomatch h

/-- A new record is the last one of its stream. -/
theorem Ordered.inserted (h : outbox.Ordered) {outbox' : Outbox} {event : OutboxEventRow}
    {now : OffsetDateTime} (hrows : outbox'.rows = outbox.rows ++ [.queued event now])
    (hlast : outbox.isAppended (.insert event now) = true) : outbox'.Ordered := by
  have hlater : ∀ row ∈ outbox.rows, row.stream = (OutboxRow.queued event now).stream →
      row.shardSequence < (OutboxRow.queued event now).shardSequence := by
    intro row hrow hstream
    simp only [isAppended, List.all_eq_true, decide_eq_true_eq] at hlast
    rcases hlast row hrow with hne | hlt
    · exact absurd hstream hne
    · exact hlt
  constructor
  case sequences =>
    rw [hrows, List.pairwise_append]
    refine ⟨h.sequences, List.pairwise_singleton _ _, fun row hrow other hother => ?_⟩
    rw [List.mem_singleton.mp hother]
    exact hlater row hrow
  case heads =>
    rw [hrows]
    intro row hrow hsent earlier hearlier hstream hlt
    rcases List.mem_append.mp hrow with hrow | hrow
    · rcases List.mem_append.mp hearlier with hearlier | hearlier
      · exact h.heads row hrow hsent earlier hearlier hstream hlt
      · rw [List.mem_singleton.mp hearlier] at hstream hlt
        exact absurd (hlater row hrow hstream.symm) (not_lt.mpr hlt.le)
    · rw [List.mem_singleton.mp hrow] at hsent
      cases hsent

theorem Ordered.written (h : outbox.Ordered) {outbox' : Outbox} {action : OutboxAction}
    {set : OutboxRow → OutboxRow} (hrows : outbox'.rows = outbox.rows.map set)
    (hwritten : ∀ row ∈ outbox.rows, row.Written outbox.rows action (set row)) :
    outbox'.Ordered := by
  constructor
  case sequences =>
    rw [hrows, List.pairwise_map]
    refine h.sequences.imp_of_mem fun hfirst hsecond hlt => ?_
    rw [(hwritten _ hfirst).stream, (hwritten _ hsecond).stream,
      (hwritten _ hfirst).shardSequence, (hwritten _ hsecond).shardSequence]
    exact hlt
  case heads =>
    rw [hrows]
    simp only [List.mem_map]
    rintro _ ⟨row, hrow, rfl⟩ hsent _ ⟨earlier, hearlier, rfl⟩ hstream hlt
    have hset := hwritten row hrow
    have hset' := hwritten earlier hearlier
    rw [hset.stream, hset'.stream] at hstream
    rw [hset.shardSequence, hset'.shardSequence] at hlt
    have hpublished : earlier.status = .published := by
      rcases hset.isSent hsent with hbefore | hheads
      · exact h.heads row hrow hbefore earlier hearlier hstream hlt
      · exact hheads earlier hearlier hstream hlt
    rw [hset'.of_published hpublished, hpublished]

theorem Ordered.step (h : outbox.Ordered) {action : OutboxAction}
    (happended : outbox.isAppended action = true) : (outbox.step action).Ordered := by
  rcases outbox.step_cases action with ⟨event, now, rfl, hrows⟩ | ⟨set, hrows, hwritten⟩
  · exact h.inserted hrows happended
  · exact h.written hrows hwritten

theorem Ordered.run (h : outbox.Ordered) {actions : List OutboxAction}
    (happended : outbox.areAppended actions = true) : (outbox.run actions).Ordered := by
  induction actions generalizing outbox with
  | nil => exact h
  | cons action actions ih =>
      rw [areAppended, Bool.and_eq_true] at happended
      exact ih (h.step happended.1) happended.2

/-! ## One record along a run -/

/-- A record keeps its event, and stays as it is once it was published. -/
theorem lookup_run {eventId : EventId} {row : OutboxRow}
    (hrow : outbox.lookup eventId = some row) (actions : List OutboxAction) :
    ∃ row', (outbox.run actions).lookup eventId = some row' ∧ row'.event = row.event ∧
      row'.createdAt = row.createdAt ∧ (row.status = .published → row' = row) := by
  induction actions generalizing outbox row with
  | nil => exact ⟨row, hrow, rfl, rfl, fun _ => rfl⟩
  | cons action actions ih =>
      obtain ⟨next, hnext, hwritten⟩ := lookup_step hrow action
      obtain ⟨last, hlast, hevent, hcreated, hpublished⟩ := ih hnext
      refine ⟨last, hlast, hevent.trans hwritten.event, hcreated.trans hwritten.createdAt, ?_⟩
      intro hstatus
      have hsame := hwritten.of_published hstatus
      rw [hpublished (by rw [hsame, hstatus]), hsame]

/-- Twelve attempts are the last ones. -/
theorem lookup_run_exhausted {eventId : EventId} {row : OutboxRow}
    (hrow : outbox.lookup eventId = some row) (hattempts : maxDeliveryAttempts ≤ row.attempts)
    (actions : List OutboxAction) :
    ∃ row', (outbox.run actions).lookup eventId = some row' ∧
      row'.attempts = row.attempts ∧ (row.status = .failed → row' = row) := by
  induction actions generalizing outbox row with
  | nil => exact ⟨row, hrow, rfl, fun _ => rfl⟩
  | cons action actions ih =>
      obtain ⟨next, hnext, hwritten⟩ := lookup_step hrow action
      have hstep : next.attempts = row.attempts ∧ (row.status = .failed → next = row) := by
        cases hwritten with
        | unchanged => exact ⟨rfl, fun _ => rfl⟩
        | exhausted h =>
            refine ⟨rfl, fun hfailed => ?_⟩
            simp [OutboxRow.isExhausted_iff, hfailed] at h
        | claimed h =>
            obtain ⟨_, hlt, _⟩ := OutboxRow.isCandidate_iff.mp h
            omega
        | published hstatus _ => exact ⟨rfl, fun hfailed => by simp [hfailed] at hstatus⟩
        | failed hstatus _ => exact ⟨rfl, fun hfailed => by simp [hfailed] at hstatus⟩
      obtain ⟨last, hlast, hsame, hfailed⟩ := ih hnext (by omega)
      refine ⟨last, hlast, by omega, fun hstatus => ?_⟩
      have hkept := hstep.2 hstatus
      rw [hfailed (by rw [hkept, hstatus]), hkept]

/-! ## Claims that were taken over -/

/-- A token that no claim uses from now on does not come back. -/
theorem lookup_run_token {eventId : EventId} {row : OutboxRow} {claimToken : Uuid}
    (hrow : outbox.lookup eventId = some row) (htoken : row.claimToken ≠ some claimToken)
    {actions : List OutboxAction}
    (hfresh : claimToken ∉ actions.filterMap OutboxAction.claimToken?) :
    ∃ row', (outbox.run actions).lookup eventId = some row' ∧
      row'.claimToken ≠ some claimToken := by
  induction actions generalizing outbox row with
  | nil => exact ⟨row, hrow, htoken⟩
  | cons action actions ih =>
      obtain ⟨next, hnext, hwritten⟩ := lookup_step hrow action
      simp only [List.mem_filterMap, not_exists, not_and] at hfresh
      refine ih hnext ?_ ?_
      · have hother := hfresh action List.mem_cons_self
        cases hwritten with
        | unchanged => exact htoken
        | exhausted => exact nofun
        | claimed => exact hother
        | published => exact nofun
        | failed => exact nofun
      · simp only [List.mem_filterMap, not_exists, not_and]
        exact fun other hother => hfresh other (List.mem_cons_of_mem _ hother)

/-- A report with a token that the record does not have is turned down. -/
theorem reports_lost {eventId : EventId} {row : OutboxRow} {claimToken : Uuid}
    (hrow : outbox.lookup eventId = some row) (htoken : row.claimToken ≠ some claimToken)
    (attempts : Int) (error : String) (now : OffsetDateTime) :
    (markOutboxPublished eventId claimToken now).run outbox =
        .error (.conflict "outbox publication acknowledgement lost its claim") ∧
      (markOutboxFailed eventId claimToken attempts error now).run outbox =
        .error (.conflict "outbox retry transition lost its claim") := by
  have hunmatched : (outbox.lookup eventId).filter (fun row =>
      row.status = .publishing ∧ row.claimToken = some claimToken) = none := by
    simp [hrow, htoken]
  constructor
  · rw [markOutboxPublished, StateT.run_bind, Table.update_unmatched hunmatched]
    rfl
  · rw [markOutboxFailed, StateT.run_bind, Table.update_unmatched hunmatched]
    rfl

/-! ## Streams -/

def stream (outbox : Outbox) (topic messageKey : String) : List OutboxRow :=
  outbox.rows.filter fun row => row.stream = (topic, messageKey)

theorem Ordered.stream_sequences (h : outbox.Ordered) (topic messageKey : String) :
    (outbox.stream topic messageKey).Pairwise fun first second =>
      first.shardSequence < second.shardSequence := by
  refine (h.sequences.sublist List.filter_sublist).imp_of_mem fun hfirst hsecond hlt => ?_
  simp only [stream, List.mem_filter, decide_eq_true_eq] at hfirst hsecond
  exact hlt (hfirst.2.trans hsecond.2.symm)

theorem Ordered.stream_heads (h : outbox.Ordered) {topic messageKey : String}
    {row earlier : OutboxRow} (hrow : row ∈ outbox.stream topic messageKey)
    (hearlier : earlier ∈ outbox.stream topic messageKey) (hsent : row.status.isSent = true)
    (hlt : earlier.shardSequence < row.shardSequence) : earlier.status = .published := by
  simp only [stream, List.mem_filter, decide_eq_true_eq] at hrow hearlier
  exact h.heads row hrow.1 hsent earlier hearlier.1 (hearlier.2.trans hrow.2.symm) hlt

/-- The published records of a stream come first. -/
theorem Ordered.published_prefix (h : outbox.Ordered) (topic messageKey : String) :
    ∃ published rest, outbox.stream topic messageKey = published ++ rest ∧
      (∀ row ∈ published, row.status = .published) ∧
      ∀ row ∈ rest, row.status ≠ .published := by
  let isPublished := fun row : OutboxRow => decide (row.status = .published)
  let rows := outbox.stream topic messageKey
  have hsplit : rows.takeWhile isPublished ++ rows.dropWhile isPublished = rows :=
    List.takeWhile_append_dropWhile
  have hsequences : (rows.takeWhile isPublished ++ rows.dropWhile isPublished).Pairwise
      fun first second => first.shardSequence < second.shardSequence := by
    rw [hsplit]
    exact h.stream_sequences topic messageKey
  have hmem : ∀ row ∈ rows.dropWhile isPublished, row ∈ outbox.stream topic messageKey :=
    fun row hrow => (List.dropWhile_sublist _).subset hrow
  refine ⟨_, _, hsplit.symm, fun row hrow => ?_, ?_⟩
  · simpa [isPublished] using List.mem_takeWhile_imp hrow
  · have hlater := (List.pairwise_append.mp hsequences).2.1
    cases hrest : rows.dropWhile isPublished with
    | nil => exact fun _ hrow => nomatch hrow
    | cons first others =>
        rw [hrest] at hlater hmem
        have hfirst : first.status ≠ .published := by
          have hhead := List.head?_dropWhile_not isPublished rows
          rw [hrest] at hhead
          simpa [isPublished] using hhead
        intro row hrow hpublished
        rcases List.mem_cons.mp hrow with rfl | hother
        · exact hfirst hpublished
        · refine hfirst (h.stream_heads (hmem row hrow) (hmem first List.mem_cons_self) ?_
            ((List.pairwise_cons.mp hlater).1 row hother))
          rw [hpublished]
          rfl

/-- A stream has one claim at a time. -/
theorem Ordered.publishing_le_one (h : outbox.Ordered) (topic messageKey : String) :
    ((outbox.stream topic messageKey).filter fun row => row.status = .publishing).length ≤
      1 := by
  have hsequences : ((outbox.stream topic messageKey).filter
      (fun row => row.status = .publishing)).Pairwise fun first second =>
        first.shardSequence < second.shardSequence :=
    (h.stream_sequences topic messageKey).sublist List.filter_sublist
  have hmem : ∀ row ∈ (outbox.stream topic messageKey).filter
      (fun row => row.status = .publishing),
      row ∈ outbox.stream topic messageKey ∧ row.status = .publishing := by
    intro row hrow
    simpa [List.mem_filter] using hrow
  cases hrows : (outbox.stream topic messageKey).filter
    (fun row => row.status = .publishing) with
  | nil => simp
  | cons first others =>
      cases others with
      | nil => simp
      | cons second rest =>
          rw [hrows] at hsequences hmem
          have hlt := (List.pairwise_cons.mp hsequences).1 second List.mem_cons_self
          obtain ⟨hfirst, hpublishing⟩ := hmem first List.mem_cons_self
          obtain ⟨hsecond, hpublishing'⟩ :=
            hmem second (List.mem_cons_of_mem _ List.mem_cons_self)
          have hpublished := h.stream_heads hsecond hfirst (by rw [hpublishing']; rfl) hlt
          rw [hpublished] at hpublishing
          cases hpublishing

/-! ## Any run -/

theorem run_append (first second : List OutboxAction) :
    outbox.run (first ++ second) = (outbox.run first).run second :=
  List.foldl_append

/-- How a record can leave the claim it is under. -/
def LeavesClaim (row : OutboxRow) : OutboxAction → Prop
  | .insert _ _ => False
  | .claim _ _ now _ => row.isStale now = true
  | .published eventId claimToken _ | .failed eventId claimToken _ _ _ =>
      eventId = row.eventId ∧ row.claimToken = some claimToken

theorem lookup_step_claimed {eventId : EventId} {row : OutboxRow}
    (hrow : outbox.lookup eventId = some row) (hstatus : row.status = .publishing)
    (action : OutboxAction) :
    (outbox.step action).lookup eventId = some row ∨ LeavesClaim row action := by
  obtain ⟨row', hrow', hwritten⟩ := lookup_step hrow action
  cases hwritten with
  | unchanged => exact .inl hrow'
  | exhausted h => exact .inr (OutboxRow.isExhausted_iff.mp h).2.2
  | claimed h =>
      obtain ⟨_, _, hstale, _⟩ := OutboxRow.isCandidate_iff.mp h
      simp only [hstatus, reduceCtorEq, false_or, true_and] at hstale
      exact .inr hstale
  | published _ htoken => exact .inr ⟨rfl, htoken⟩
  | failed _ htoken => exact .inr ⟨rfl, htoken⟩

/-- The reports of a claim are turned down once another claim took the record over. -/
theorem reports_lost_of_reclaimed {before between after : List OutboxAction}
    {limit limit' : Int} {claimToken claimToken' : Uuid} {now now' : OffsetDateTime}
    {locked locked' : EventId → Bool} {messages : List OutboxMessage} {reclaimed : Outbox}
    {message : OutboxMessage}
    (hfresh : ((before ++ .claim limit claimToken now locked :: between ++
      .claim limit' claimToken' now' locked' :: after).filterMap
        OutboxAction.claimToken?).Nodup)
    (hclaim : (claimOutbox limit' claimToken' now' locked').run (outbox.run (before ++
      .claim limit claimToken now locked :: between)) = .ok (messages, reclaimed))
    (hmessage : message ∈ messages) (attempts : Int) (error : String)
    (time : OffsetDateTime) :
    let outbox' := outbox.run (before ++ .claim limit claimToken now locked :: between ++
      .claim limit' claimToken' now' locked' :: after)
    (markOutboxPublished message.eventId claimToken time).run outbox' =
        .error (.conflict "outbox publication acknowledgement lost its claim") ∧
      (markOutboxFailed message.eventId claimToken attempts error time).run outbox' =
        .error (.conflict "outbox retry transition lost its claim") := by
  intro outbox'
  obtain ⟨row, _, hid, _, hrow⟩ := (ensures_claimOutbox.of_ok hclaim).2 message hmessage
  have hreclaimed : outbox' = reclaimed.run after := by
    simp only [outbox']
    rw [run_append]
    simp only [run, List.foldl_cons, step, committed]
    rw [run] at hclaim
    rw [hclaim]
  simp only [List.filterMap_append, List.filterMap_cons, OutboxAction.claimToken?,
    List.nodup_append, List.nodup_cons, List.mem_append, List.mem_cons] at hfresh
  have hne : claimToken' ≠ claimToken ∧
      claimToken ∉ after.filterMap OutboxAction.claimToken? := by
    obtain ⟨_, _, hdistinct⟩ := hfresh
    constructor
    · rintro rfl
      exact hdistinct _ (.inr (.inl rfl)) _ (.inl rfl) rfl
    · intro hmem
      exact hdistinct _ (.inr (.inl rfl)) _ (.inr hmem) rfl
  rw [← hid] at hrow
  obtain ⟨row', hrow', htoken'⟩ := lookup_run_token hrow
    (fun htoken => hne.1 (Option.some.inj htoken)) hne.2
  rw [← hreclaimed] at hrow'
  exact reports_lost hrow' htoken' attempts error time

/--
After any run in which writers append in order and claims draw distinct tokens: a
stream has increasing sequences, its published records come first and it has one
claim at a time; a claim ends by its own token or by its age, and the reports of a
claim that was taken over are turned down; a record with twelve attempts is not
claimed again, stays failed once it failed, and holds back the rest of its stream
until it is published; no record is lost, and a published one does not change.
-/
theorem run_delivers_in_order {actions : List OutboxAction}
    (happended : areAppended .empty actions = true)
    (hfresh : (actions.filterMap OutboxAction.claimToken?).Nodup) :
    let outbox := run .empty actions
    (∀ topic messageKey,
      ((outbox.stream topic messageKey).Pairwise fun first second =>
        first.shardSequence < second.shardSequence) ∧
      (∃ published rest, outbox.stream topic messageKey = published ++ rest ∧
        (∀ row ∈ published, row.status = .published) ∧
        ∀ row ∈ rest, row.status ≠ .published) ∧
      ((outbox.stream topic messageKey).filter fun row =>
        row.status = .publishing).length ≤ 1) ∧
    (∀ row ∈ outbox.rows, row.status = .publishing → ∀ action,
      (outbox.step action).lookup row.eventId = some row ∨ LeavesClaim row action) ∧
    (∀ before between after limit limit' claimToken claimToken' now now' locked locked',
      actions = before ++ .claim limit claimToken now locked :: between ++
        .claim limit' claimToken' now' locked' :: after →
      ∀ messages reclaimed, (claimOutbox limit' claimToken' now' locked').run (run .empty
        (before ++ .claim limit claimToken now locked :: between)) =
          .ok (messages, reclaimed) →
      ∀ message ∈ messages, ∀ attempts error time,
        (markOutboxPublished message.eventId claimToken time).run outbox =
            .error (.conflict "outbox publication acknowledgement lost its claim") ∧
          (markOutboxFailed message.eventId claimToken attempts error time).run outbox =
            .error (.conflict "outbox retry transition lost its claim")) ∧
    (∀ row ∈ outbox.rows, maxDeliveryAttempts ≤ row.attempts → ∀ further,
      let later := outbox.run further
      (∀ limit claimToken now locked messages claimed,
        (claimOutbox limit claimToken now locked).run later = .ok (messages, claimed) →
          ∀ message ∈ messages, message.eventId ≠ row.eventId) ∧
      ∃ row', later.lookup row.eventId = some row' ∧ row'.attempts = row.attempts ∧
        (row.status = .failed → row' = row) ∧
        (outbox.areAppended further = true → row'.status ≠ .published →
          ∀ other ∈ later.rows, other.stream = row.stream →
            row.shardSequence < other.shardSequence →
              other.status = .pending ∨ other.status = .failed)) ∧
    ∀ row ∈ outbox.rows, ∀ further, ∃ row',
      (outbox.run further).lookup row.eventId = some row' ∧ row'.event = row.event ∧
        (row.status = .published → row' = row) := by
  intro outbox
  have hordered : outbox.Ordered := ordered_empty.run happended
  refine ⟨fun topic messageKey => ⟨hordered.stream_sequences topic messageKey,
    hordered.published_prefix topic messageKey, hordered.publishing_le_one topic messageKey⟩,
    fun row hrow hstatus action => ?_, ?_, fun row hrow hattempts further => ?_,
    fun row hrow further => ?_⟩
  · exact lookup_step_claimed (Table.lookup_of_mem hrow) hstatus action
  · rintro before between after limit limit' claimToken claimToken' now now' locked locked'
      hactions messages reclaimed hclaim message hmessage attempts error time
    subst hactions
    exact reports_lost_of_reclaimed hfresh hclaim hmessage attempts error time
  · intro later
    have hlookup : outbox.lookup row.eventId = some row := Table.lookup_of_mem hrow
    obtain ⟨row', hrow', hsame, hfailed⟩ := lookup_run_exhausted hlookup hattempts further
    refine ⟨?_, row', hrow', hsame, hfailed, fun hfurther hunpublished other hother hstream
      hlt => ?_⟩
    · intro limit claimToken now locked messages claimed hclaim message hmessage heq
      obtain ⟨candidate, hmem, hid, hcandidate, _⟩ :=
        (ensures_claimOutbox.of_ok hclaim).2 message hmessage
      have hcandidate' : later.lookup row.eventId = some candidate := by
        rw [← heq, hid]
        exact Table.lookup_of_mem hmem
      rw [hrow', Option.some.injEq] at hcandidate'
      obtain ⟨_, hfew, _⟩ := OutboxRow.isCandidate_iff.mp hcandidate
      rw [← hcandidate'] at hfew
      omega
    · obtain ⟨kept, hkept, hevent, _⟩ := lookup_run hlookup further
      rw [hrow', Option.some.injEq] at hkept
      rw [← hkept] at hevent
      have hlater : later.Ordered := hordered.run hfurther
      by_contra hsent
      refine hunpublished (hlater.heads other hother ?_ row' (Table.mem_of_lookup hrow') ?_ ?_)
      · cases hstatus : other.status with
        | pending => exact absurd (.inl hstatus) hsent
        | failed => exact absurd (.inr hstatus) hsent
        | publishing => rfl
        | published => rfl
      · rw [hstream, OutboxRow.stream, OutboxRow.stream, hevent]
      · rw [OutboxRow.shardSequence, hevent]
        exact hlt
  · obtain ⟨row', hrow', hevent, _, hpublished⟩ :=
      lookup_run (Table.lookup_of_mem hrow) further
    exact ⟨row', hrow', hevent, hpublished⟩

/-- A queued command with a position in the stream of its market. -/
def queuedCommand (eventId : EventId) (shardSequence : Nat) : OutboxEventRow where
  envelope := {
    eventId := eventId
    causationId := eventId
    sourceNodeId := ⟨1⟩
    tenantId := ⟨1⟩
    domainId := ⟨1⟩
    marketId := ⟨1⟩
    shardId := ⟨1⟩
    shardSequence := shardSequence
    streamKind := .command
    occurredAt := 0
    payloadHash := [] }
  topic := Topics.commands
  messageKey := "1"
  payload := .matchingCommand (.cancelOrder ⟨1⟩)

/-- The first claim is taken over after a minute; its relay reports too late. -/
def takenOver : List OutboxAction :=
  [.insert (queuedCommand ⟨1⟩ 1) 0, .insert (queuedCommand ⟨2⟩ 2) 0,
    .claim 100 7 0 fun _ => false, .claim 100 8 60000000001 fun _ => false,
    .published ⟨1⟩ 7 60000000002, .published ⟨1⟩ 8 60000000003]

theorem run_delivers_in_order_takenOver :
    let outbox := run .empty takenOver
    (outbox.stream Topics.commands "1").map OutboxRow.status = [.published, .pending] ∧
      (∃ published rest, outbox.stream Topics.commands "1" = published ++ rest ∧
        (∀ row ∈ published, row.status = .published) ∧
        ∀ row ∈ rest, row.status ≠ .published) ∧
      (markOutboxPublished ⟨1⟩ 7 60000000004).run outbox =
        .error (.conflict "outbox publication acknowledgement lost its claim") := by
  intro outbox
  obtain ⟨hstreams, _, hreclaimed, _⟩ :=
    @run_delivers_in_order takenOver (by decide +kernel) (by decide +kernel)
  have hmessages : ((claimOutbox 100 8 60000000001 fun _ => false).run
      (run .empty (takenOver.take 3))).toOption.map
        (fun outcome => outcome.1.map OutboxMessage.eventId) = some [⟨1⟩] := by
    decide +kernel
  refine ⟨by decide +kernel, (hstreams Topics.commands "1").2.1, ?_⟩
  cases hclaim : (claimOutbox 100 8 60000000001 fun _ => false).run
    (run .empty (takenOver.take 3)) with
  | error error =>
      rw [hclaim] at hmessages
      cases hmessages
  | ok outcome =>
      rw [hclaim] at hmessages
      have hids : outcome.1.map OutboxMessage.eventId = [⟨1⟩] := Option.some.inj hmessages
      obtain ⟨message, hmessage, hid⟩ : ∃ message ∈ outcome.1, message.eventId = ⟨1⟩ := by
        rw [← List.mem_map, hids]
        exact List.mem_singleton_self _
      rw [← hid]
      exact (hreclaimed (takenOver.take 2) [] (takenOver.drop 4) 100 100 7 8 0 60000000001
        (fun _ => false) (fun _ => false) rfl outcome.1 outcome.2 hclaim message hmessage 1 ""
        60000000004).1

end Outbox

end MatchPlane
