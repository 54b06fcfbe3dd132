import MatchPlane.Storage.Capacity

/-!
# Repeated and fenced transitions

A transition that reached its target answers every repetition alike.  One that
found its hold expired does not: the repetition finds a status that is neither
the target nor `reserved`.

A hold keeps the token it was taken with, and transitions compare with that token
only.  They are fenced off by a newer token of their node only when no reserved
hold has an older one.
-/

namespace MatchPlane

open MatchPlane.Library

/-! ## Repetition -/

section Repetition

variable {holdings : Holdings} {request : FederationTransition} {target : SagaStatus}
  {row : FederationSagaReservationRow}

/-- Everything that a repetition looks at before the status of its hold. -/
structure Repeatable (holdings : Holdings) (request : FederationTransition)
    (target : SagaStatus) (row : FederationSagaReservationRow) : Prop where
  valid : request.Valid
  found : holdings.federationSagaReservations.lookup request.reservationId = some row
  sourceNodeId : row.sourceNodeId = request.sourceNodeId
  idempotencyKey : row.idempotencyKey = request.idempotencyKey
  fencingToken : row.fencingToken = request.fencingToken
  admitted : holdings.nonceCheck (request.nonceRow target.text) = true
  nonce : holdings.federationReplayNonces.lookup (request.sourceNodeId, request.nonce) =
    some (request.nonceRow target.text)

theorem Repeatable.advances {holdings' : Holdings} (h : Repeatable holdings request target row)
    (hadvances : holdings.Advances holdings') (hstatus : row.status ≠ .reserved) :
    Repeatable holdings' request target row where
  valid := h.valid
  found := hadvances.settled h.found hstatus
  sourceNodeId := h.sourceNodeId
  idempotencyKey := h.idempotencyKey
  fencingToken := h.fencingToken
  admitted := by
    rw [hadvances.nonceCheck]
    exact h.admitted
  nonce := hadvances.nonces h.nonce

/-- The outcome of a repetition depends on the status alone. -/
theorem Repeatable.ensures_transitionFederated {failure : StorageError → Prop}
    {post : FederationReservation → Holdings → Prop} {now : OffsetDateTime}
    (h : Repeatable holdings request target row) (hstatus : row.status ≠ .reserved)
    (hdone : row.status = target → post (reservationFromRow row) holdings)
    (hother : row.status ≠ target →
      failure (.invalidReservationTransition row.status.text target.text)) :
    Ensures (transitionFederated request target now) failure holdings post := by
  unfold transitionFederated validateTransition validateKey validateFencingToken validateNonce
  simp only [ensures_bind, ensures_ite, ensures_throw, ensures_pure, ensures_get]
  refine ⟨fun hkey => absurd hkey h.valid.idempotencyKey, fun _ =>
    ⟨fun hversion => absurd hversion h.valid.expectedVersion, fun _ =>
      ⟨fun htoken => absurd htoken h.valid.fencingToken, fun _ =>
        ⟨fun hnonce => absurd hnonce h.valid.nonce, fun _ => ?_⟩⟩⟩⟩
  rw [h.found, ensures_require_some]
  refine ⟨fun hsource => absurd h.sourceNodeId hsource, fun _ =>
    ⟨fun hkey => absurd h.idempotencyKey hkey, fun _ =>
      ⟨fun htoken => absurd h.fencingToken htoken, fun _ => ?_⟩⟩⟩
  refine (ensures_registerTransitionNonce_again h.nonce h.admitted).mono
    (fun _ h => h.elim) fun _ holdings' hsame => ?_
  rw [hsame]
  refine ⟨hdone, fun hne => ⟨fun _ => hother hne, fun hreserved => ?_⟩⟩
  exact absurd (not_not.mp hreserved) hstatus

end Repetition

/-- After a success the hold has its final status and can be asked for again. -/
theorem Transitioned.repeatable {holdings holdings' : Holdings}
    {request : FederationTransition} {target : SagaStatus} {now : OffsetDateTime}
    {row : FederationSagaReservationRow} {result : FederationReservation}
    (h : Transitioned holdings holdings' request target now row result)
    (htarget : target ≠ .reserved) :
    ∃ row', Repeatable holdings' request target row' ∧ row'.status ≠ .reserved ∧
      result = reservationFromRow row' ∧
      (row'.status = target ↔ row.status = target ∨ now < row.expiresAt ∨ target = .expired) := by
  have hadmitted : holdings'.nonceCheck (request.nonceRow target.text) = true := by
    rw [h.nonceCheck]
    exact h.admitted
  rcases h.outcome with ⟨hdone, _, _, hsagas, hresult⟩ | ⟨status, hstatus, hmoved, hresult⟩
  · refine ⟨row, ⟨h.valid, ?_, h.sourceNodeId, h.idempotencyKey, h.fencingToken, hadmitted,
      h.nonce⟩, by rwa [hdone], hresult, by simp [hdone]⟩
    rw [hsagas]
    exact h.found
  · have hid : row.id = request.reservationId := Table.key_of_lookup h.found
    refine ⟨row.moved status, ⟨h.valid, ?_, h.sourceNodeId, h.idempotencyKey, h.fencingToken,
      hadmitted, h.nonce⟩, hmoved.settled, hresult, ?_⟩
    · rw [hmoved.sagas, if_pos hid.symm]
    · change status = target ↔ _
      rw [hstatus, hmoved.reserved]
      split
      · rename_i hexpired
        simp [not_lt.mpr hexpired, htarget.symm, eq_comm]
      · rename_i hopen
        simp [lt_of_not_ge hopen]

section Main

variable [UuidV5] [Sha256] [Prost] [SerdeJson] [SnapshotCodec]

/-- A repetition of a request, in a later state, returns the same and changes nothing. -/
def AnswersAlike (request : FederationTransition) (target : SagaStatus)
    (now : OffsetDateTime) (result : FederationReservation) (later : Holdings) : Prop :=
  ∃ result' after, (transitionFederated request target now).run later = .ok (result', after) ∧
    result'.status = result.status ∧ result'.version = result.version ∧
    after.federationSagaReservations = later.federationSagaReservations ∧
    after.orders = later.orders

/--
A confirmation or an abort that returned is answered alike forever after, whatever
else is called, exactly if the hold already had the target status or had not
expired when it was first asked for.
-/
theorem transition_answersAlike_iff {db : Database} (hunheld : Unheld db)
    (calls : List Call) (request : FederationTransition) {target : SagaStatus}
    (htarget : target = .confirmed ∨ target = .aborted) (now : OffsetDateTime)
    {result : FederationReservation} {holdings' : Holdings}
    (hrun : (transitionFederated request target now).run (db.calls calls).holdings =
      .ok (result, holdings')) :
    (∀ further now', now ≤ now' → AnswersAlike request target now' result
      ((Database.holdingsPart.put holdings' (db.calls calls)).calls further).holdings) ↔
    ∃ row, (db.calls calls).holdings.federationSagaReservations.lookup
        request.reservationId = some row ∧
      (row.status = target ∨ now < row.expiresAt) := by
  have hcapacity : Capacity (db.calls calls).holdings := (hunheld.capacity.calls calls).1
  obtain ⟨row, htransition⟩ := (hcapacity.ensures_transitionFederated htarget).of_ok hrun
  have hreserved : target ≠ .reserved ∧ target ≠ .expired := by
    rcases htarget with rfl | rfl <;> decide
  obtain ⟨row', hrepeatable, hsettled, hresult, hreached⟩ :=
    htransition.repeatable hreserved.1
  simp only [hreserved.2, or_false] at hreached
  have hfound : (∃ found, (db.calls calls).holdings.federationSagaReservations.lookup
      request.reservationId = some found ∧ (found.status = target ∨ now < found.expiresAt)) ↔
      row'.status = target := by
    rw [hreached, htransition.found]
    simp
  rw [hfound]
  constructor
  · intro halike
    obtain ⟨result', after, hagain, _⟩ := halike [] now (le_refl _)
    by_contra hne
    have herror : Ensures (transitionFederated request target now) (fun _ => True) holdings'
        fun _ _ => False :=
      hrepeatable.ensures_transitionFederated hsettled (fun hdone => hne hdone)
        fun _ => trivial
    exact herror.of_ok hagain
  · intro hdone further now' _
    have hafter : Capacity (Database.holdingsPart.put holdings' (db.calls calls)).holdings :=
      htransition.capacity hcapacity
    have hlater := hrepeatable.advances (hafter.calls further).2 hsettled
    generalize ((Database.holdingsPart.put holdings' (db.calls calls)).calls
      further).holdings = later at hlater
    have hensures : Ensures (transitionFederated request target now') (fun _ => False) later
        fun result' after => result' = result ∧ after = later :=
      hlater.ensures_transitionFederated hsettled (fun _ => ⟨hresult.symm, rfl⟩)
        fun hne => absurd hdone hne
    cases hagain : (transitionFederated request target now').run later with
    | error error => exact (hensures.of_error hagain).elim
    | ok outcome =>
        obtain ⟨hsame, hafter⟩ := hensures.of_ok hagain
        exact ⟨outcome.1, outcome.2, hagain, by rw [hsame], by rw [hsame], by rw [hafter],
          by rw [hafter]⟩

end Main

/-- One hold of two units, taken with the first token. -/
def heldMarket : Database :=
  @Database.calls UuidV5.positional ⟨id⟩ ⟨fun _ => []⟩ documentedJson
    (OrderBook.documentCodec (OrderBook.new ⟨1⟩).snapshotState "new")
    (askedMarket fun _ => true)
    [.reserveFederated (holdRequest "first" "reserve-nonce-0001" 1) ⟨1⟩ 0]

theorem transition_answersAlike_iff_confirmed :
    ∃ result holdings', (confirmFederated (moveRequest ⟨1⟩ "first" "confirm-nonce-001" 1) 10).run
        heldMarket.holdings = .ok (result, holdings') ∧ result.status = .confirmed ∧
      ∀ further now', 10 ≤ now' →
        AnswersAlike (moveRequest ⟨1⟩ "first" "confirm-nonce-001" 1) .confirmed now' result
          (@Database.calls UuidV5.positional ⟨id⟩ ⟨fun _ => []⟩ documentedJson
            (OrderBook.documentCodec (OrderBook.new ⟨1⟩).snapshotState "new")
            (Database.holdingsPart.put holdings' heldMarket) further).holdings := by
  have hstatus : ((confirmFederated (moveRequest ⟨1⟩ "first" "confirm-nonce-001" 1) 10).run
      heldMarket.holdings).toOption.map (fun outcome => outcome.1.status) =
        some .confirmed := by
    decide +kernel
  cases hrun : (confirmFederated (moveRequest ⟨1⟩ "first" "confirm-nonce-001" 1) 10).run
    heldMarket.holdings with
  | error error =>
      rw [hrun] at hstatus
      cases hstatus
  | ok outcome =>
      rw [hrun] at hstatus
      refine ⟨outcome.1, outcome.2, rfl, Option.some.inj hstatus, ?_⟩
      refine (@transition_answersAlike_iff UuidV5.positional ⟨id⟩ ⟨fun _ => []⟩ documentedJson
        (OrderBook.documentCodec (OrderBook.new ⟨1⟩).snapshotState "new")
        (askedMarket fun _ => true) (askedMarket_unheld _) _ _ _ (.inl rfl) 10 _ _ hrun).mpr ?_
      have hopen : (heldMarket.holdings.federationSagaReservations.lookup ⟨1⟩).any
          (fun row => (10 : Int) < row.expiresAt) = true := by
        decide +kernel
      cases hrow : heldMarket.holdings.federationSagaReservations.lookup ⟨1⟩ with
      | none =>
          rw [hrow] at hopen
          cases hopen
      | some row =>
          rw [hrow] at hopen
          exact ⟨row, hrow, .inr (by simpa using hopen)⟩

/-- The first call finds the hold expired and says so; the second one fails. -/
theorem confirm_expired_not_answersAlike :
    ∃ result holdings', (confirmFederated (moveRequest ⟨1⟩ "first" "confirm-nonce-001" 1)
        100).run heldMarket.holdings = .ok (result, holdings') ∧ result.status = .expired ∧
      ¬AnswersAlike (moveRequest ⟨1⟩ "first" "confirm-nonce-001" 1) .confirmed 101 result
        holdings' := by
  have hstatus : ((confirmFederated (moveRequest ⟨1⟩ "first" "confirm-nonce-001" 1) 100).run
      heldMarket.holdings).toOption.map (fun outcome => (outcome.1.status,
        succeeds (confirmFederated (moveRequest ⟨1⟩ "first" "confirm-nonce-001" 1) 101)
          outcome.2)) = some (.expired, false) := by
    decide +kernel
  cases hrun : (confirmFederated (moveRequest ⟨1⟩ "first" "confirm-nonce-001" 1) 100).run
    heldMarket.holdings with
  | error error =>
      rw [hrun] at hstatus
      cases hstatus
  | ok outcome =>
      rw [hrun] at hstatus
      obtain ⟨hexpired, hfails⟩ := Prod.mk.inj (Option.some.inj hstatus)
      refine ⟨outcome.1, outcome.2, rfl, hexpired, ?_⟩
      rintro ⟨result', after, hagain, _⟩
      unfold Library.succeeds confirmFederated at hfails
      rw [hagain] at hfails
      cases hfails

/-! ## Fencing -/

/-- The node that a federated call speaks for, and its token. -/
def Call.credentials : Call → Option (FederationNodeId × Int)
  | .reserveFederated request _ _ => some (request.sourceNodeId, request.fencingToken)
  | .confirmFederated request _ | .abortFederated request _ =>
      some (request.sourceNodeId, request.fencingToken)
  | .submitOrder _ _ | .commitMatching _ _ _ _ _ _ _ _ => none

def Holdings.nodeToken (holdings : Holdings) (id : FederationNodeId) : Option Int :=
  (holdings.federationNodes.lookup id).map FederationNodeRow.fencingToken

/-- A transition of a reserved hold comes with the newest token of its node. -/
def FederationTransition.isFenced (request : FederationTransition) (holdings : Holdings) :
    Bool :=
  (holdings.federationSagaReservations.lookup request.reservationId).all fun row =>
    row.status ≠ .reserved ∨
      (holdings.nodeToken request.sourceNodeId).all (· ≤ request.fencingToken)

/-- A repeated reservation comes with a token that its node has reached. -/
def ReserveFederated.isFenced (request : ReserveFederated) (holdings : Holdings) : Bool :=
  holdings.federationSagaReservations.rows.all fun row =>
    row.sourceNodeId ≠ request.sourceNodeId ∨ row.idempotencyKey ≠ request.idempotencyKey ∨
      (holdings.nodeToken request.sourceNodeId).any (request.fencingToken ≤ ·)

def Call.isFenced (holdings : Holdings) : Call → Bool
  | .reserveFederated request _ _ => request.isFenced holdings
  | .confirmFederated request _ | .abortFederated request _ => request.isFenced holdings
  | .submitOrder _ _ | .commitMatching _ _ _ _ _ _ _ _ => true

theorem Holdings.Advances.nodeToken {holdings holdings' : Holdings}
    (h : holdings.Advances holdings') {id : FederationNodeId} {token : Int}
    (htoken : holdings.nodeToken id = some token) :
    ∃ token', holdings'.nodeToken id = some token' ∧ token ≤ token' := by
  obtain ⟨node, hnode, rfl⟩ := Option.map_eq_some_iff.mp htoken
  obtain ⟨node', hnode', hle⟩ := h.nodes hnode
  exact ⟨_, by rw [Holdings.nodeToken, hnode']; rfl, hle⟩

/-- The node of a hold has reached the token of the hold. -/
theorem Transitioned.nodeToken {holdings holdings' : Holdings}
    {request : FederationTransition} {target : SagaStatus} {now : OffsetDateTime}
    {row : FederationSagaReservationRow} {result : FederationReservation}
    (h : Transitioned holdings holdings' request target now row result)
    (hcapacity : Capacity holdings) :
    ∃ token, holdings.nodeToken request.sourceNodeId = some token ∧
      request.fencingToken ≤ token := by
  obtain ⟨node, hnode, hle⟩ := hcapacity.nodes h.found
  rw [h.sourceNodeId] at hnode
  rw [h.fencingToken] at hle
  exact ⟨_, by rw [Holdings.nodeToken, hnode]; rfl, hle⟩

/-- A fenced transition with an older token finds its hold settled. -/
theorem Transitioned.unchanged {holdings holdings' : Holdings}
    {request : FederationTransition} {target : SagaStatus} {now : OffsetDateTime}
    {row : FederationSagaReservationRow} {result : FederationReservation}
    (h : Transitioned holdings holdings' request target now row result)
    (hfenced : request.isFenced holdings = true) {token : Int}
    (htoken : holdings.nodeToken request.sourceNodeId = some token)
    (hlt : request.fencingToken < token) :
    holdings'.federationSagaReservations = holdings.federationSagaReservations ∧
      reservedCounter holdings'.orders = reservedCounter holdings.orders := by
  rcases h.outcome with ⟨_, hcounter, _, hsagas, _⟩ | ⟨_, _, hmoved, _⟩
  · exact ⟨hsagas, hcounter⟩
  · rw [FederationTransition.isFenced, h.found, htoken] at hfenced
    simp [hmoved.reserved] at hfenced
    omega

section Fencing

variable [UuidV5] [Sha256] [Prost] [SerdeJson] [SnapshotCodec]

/-- Every call of a run is fenced where it happens. -/
def Database.isFenced (db : Database) : List Call → Bool
  | [] => true
  | call :: calls => call.isFenced db.holdings && (db.call call).isFenced calls

theorem Database.isFenced_append {db : Database} {first second : List Call} :
    db.isFenced (first ++ second) = (db.isFenced first && (db.calls first).isFenced second) := by
  induction first generalizing db with
  | nil => rfl
  | cons call calls ih => simp [Database.isFenced, Database.calls, ih, Bool.and_assoc]

/-- An accepted call leaves its node with a token that is no older. -/
theorem nodeToken_of_accepted {db : Database} (h : Capacity db.holdings) {call : Call}
    {node : FederationNodeId} {token : Int} (hcall : call.credentials = some (node, token))
    (hfenced : call.isFenced db.holdings = true)
    (haccepted : succeeds call.transaction db = true) :
    ∃ token', (db.call call).holdings.nodeToken node = some token' ∧ token ≤ token' := by
  have hspec : Ensures call.transaction (fun _ => True) db fun _ db' =>
      ∃ token', db'.holdings.nodeToken node = some token' ∧ token ≤ token' := by
    cases call with
    | submitOrder request commandId => cases hcall
    | commitMatching _ _ _ _ _ _ _ _ => cases hcall
    | reserveFederated request reservationId now =>
        cases hcall
        rw [Call.transaction, ensures_on, ensures_bind]
        refine ensures_reserveFederated.mono (fun _ _ => trivial) fun result holdings hpost => ?_
        cases hpost with
        | repeated hrow hsource hkey =>
            simp only [Call.isFenced, ReserveFederated.isFenced, List.all_eq_true] at hfenced
            have hreached := hfenced _ hrow
            simp only [hsource, hkey, ne_eq, not_true_eq_false, false_or,
              decide_eq_true_eq] at hreached
            simp only [Option.any_eq_true, decide_eq_true_eq] at hreached
            exact hreached
        | taken _ htaken =>
            obtain ⟨node, _, _, hnodes⟩ := htaken.node
            refine ⟨max node.fencingToken request.fencingToken, ?_, le_max_right _ _⟩
            change Holdings.nodeToken holdings _ = _
            rw [Holdings.nodeToken, hnodes, if_pos rfl]
            rfl
    | confirmFederated request now =>
        cases hcall
        rw [Call.transaction, ensures_on, ensures_bind]
        refine (h.ensures_transitionFederated (.inl rfl)).mono (fun _ _ => trivial) ?_
        rintro result holdings ⟨row, htransition⟩
        obtain ⟨token, htoken, hle⟩ := htransition.nodeToken h
        obtain ⟨token', htoken', hle'⟩ := htransition.advances.nodeToken htoken
        exact ⟨token', htoken', hle.trans hle'⟩
    | abortFederated request now =>
        cases hcall
        rw [Call.transaction, ensures_on, ensures_bind]
        refine (h.ensures_transitionFederated (.inr rfl)).mono (fun _ _ => trivial) ?_
        rintro result holdings ⟨row, htransition⟩
        obtain ⟨token, htoken, hle⟩ := htransition.nodeToken h
        obtain ⟨token', htoken', hle'⟩ := htransition.advances.nodeToken htoken
        exact ⟨token', htoken', hle.trans hle'⟩
  rcases committed_cases hspec with ⟨hfailed, _⟩ | ⟨_, _, hpost⟩
  · rw [haccepted] at hfailed
    cases hfailed
  · exact hpost

/-- A fenced call with an older token changes no hold and no counter. -/
theorem unchanged_of_older {db : Database} (h : Capacity db.holdings) {call : Call}
    {node : FederationNodeId} {token token' : Int}
    (hcall : call.credentials = some (node, token'))
    (hfenced : call.isFenced db.holdings = true)
    (htoken : db.holdings.nodeToken node = some token) (hlt : token' < token) :
    (db.call call).holdings.federationSagaReservations =
        db.holdings.federationSagaReservations ∧
      reservedCounter (db.call call).holdings.orders = reservedCounter db.holdings.orders := by
  have hspec : Ensures call.transaction (fun _ => True) db fun _ db' =>
      db'.holdings.federationSagaReservations = db.holdings.federationSagaReservations ∧
        reservedCounter db'.holdings.orders = reservedCounter db.holdings.orders := by
    cases call with
    | submitOrder request commandId => cases hcall
    | commitMatching _ _ _ _ _ _ _ _ => cases hcall
    | reserveFederated request reservationId now =>
        cases hcall
        rw [Call.transaction, ensures_on, ensures_bind]
        refine ensures_reserveFederated.mono (fun _ _ => trivial) fun result holdings hpost => ?_
        cases hpost with
        | repeated _ _ _ => exact ⟨rfl, rfl⟩
        | taken _ htaken =>
            obtain ⟨node, hnode, hle, _⟩ := htaken.node
            change db.holdings.federationNodes.lookup request.sourceNodeId = some node at hnode
            rw [Holdings.nodeToken, hnode] at htoken
            cases htoken
            omega
    | confirmFederated request now =>
        cases hcall
        rw [Call.transaction, ensures_on, ensures_bind]
        refine (h.ensures_transitionFederated (.inl rfl)).mono (fun _ _ => trivial) ?_
        rintro result holdings ⟨row, htransition⟩
        exact htransition.unchanged hfenced htoken hlt
    | abortFederated request now =>
        cases hcall
        rw [Call.transaction, ensures_on, ensures_bind]
        refine (h.ensures_transitionFederated (.inr rfl)).mono (fun _ _ => trivial) ?_
        rintro result holdings ⟨row, htransition⟩
        exact htransition.unchanged hfenced htoken hlt
  exact hspec.committed ⟨rfl, rfl⟩

/--
In a run of fenced calls, once a call of a node was accepted, no later call of the
node with an older token changes a hold or a counter.
-/
theorem calls_fenced {db : Database} (hunheld : Unheld db)
    (before between : List Call) (accepted later : Call)
    (hfenced : db.isFenced (before ++ accepted :: between ++ [later]) = true)
    {node : FederationNodeId} {token token' : Int}
    (hcredentials : accepted.credentials = some (node, token))
    (haccepted : succeeds accepted.transaction (db.calls before) = true)
    (hlater : later.credentials = some (node, token')) (hlt : token' < token) :
    let current := db.calls (before ++ accepted :: between)
    (current.call later).holdings.federationSagaReservations =
        current.holdings.federationSagaReservations ∧
      ∀ orderId, ((current.call later).holdings.orders.lookup orderId).map
          OrderRow.federatedReservedQuantity =
        (current.holdings.orders.lookup orderId).map OrderRow.federatedReservedQuantity := by
  intro current
  have hcurrent : current = ((db.calls before).call accepted).calls between := by
    simp [current, Database.calls, List.foldl_append]
  simp only [Database.isFenced_append, Database.isFenced, Bool.and_eq_true, and_true]
    at hfenced
  obtain ⟨⟨_, hacceptedFenced, _⟩, hlaterFenced⟩ := hfenced
  have hbefore := (hunheld.capacity.calls before).1
  obtain ⟨hafter, _⟩ := hbefore.call accepted
  obtain ⟨hcapacity, hadvances⟩ := hafter.calls between
  obtain ⟨reached, hreached, hle⟩ :=
    nodeToken_of_accepted hbefore hcredentials hacceptedFenced haccepted
  obtain ⟨reached', hreached', hle'⟩ := hadvances.nodeToken hreached
  rw [← hcurrent] at hcapacity hreached'
  obtain ⟨hsagas, hcounter⟩ :=
    unchanged_of_older hcapacity hlater hlaterFenced hreached' (by omega)
  exact ⟨hsagas, fun orderId => congrFun hcounter orderId⟩

end Fencing

/-- The node moves on to a second token and then tries the first one again. -/
theorem calls_fenced_olderReserve :
    let codec := OrderBook.documentCodec (OrderBook.new ⟨1⟩).snapshotState "new"
    let before := [Call.reserveFederated (holdRequest "first" "reserve-nonce-0001" 1) ⟨1⟩ 0]
    let accepted := Call.reserveFederated (holdRequest "second" "reserve-nonce-0002" 2) ⟨2⟩ 0
    let later := Call.reserveFederated (holdRequest "third" "reserve-nonce-0003" 1) ⟨3⟩ 0
    let current := @Database.calls UuidV5.positional ⟨id⟩ ⟨fun _ => []⟩ documentedJson codec
      (askedMarket fun _ => true) (before ++ [accepted])
    current.holdings.federationSagaReservations.rows.length = 2 ∧
      (@Database.call UuidV5.positional ⟨id⟩ ⟨fun _ => []⟩ documentedJson codec current
        later).holdings.federationSagaReservations =
        current.holdings.federationSagaReservations := by
  intro codec before accepted later current
  refine ⟨by decide +kernel, ?_⟩
  exact (@calls_fenced UuidV5.positional ⟨id⟩ ⟨fun _ => []⟩ documentedJson codec
    (askedMarket fun _ => true) (askedMarket_unheld _) before [] accepted later
    (by decide +kernel) ⟨1⟩ 2 1 rfl (by decide +kernel) rfl (by decide)).1

/-- The node moves on to a second token and then confirms the first hold with the first. -/
theorem confirm_olderToken_changes :
    let codec := OrderBook.documentCodec (OrderBook.new ⟨1⟩).snapshotState "new"
    let before := [Call.reserveFederated (holdRequest "first" "reserve-nonce-0001" 1) ⟨1⟩ 0]
    let accepted := Call.reserveFederated (holdRequest "second" "reserve-nonce-0002" 2) ⟨2⟩ 0
    let later := Call.confirmFederated (moveRequest ⟨1⟩ "first" "confirm-nonce-001" 1) 10
    let db := @Database.calls UuidV5.positional ⟨id⟩ ⟨fun _ => []⟩ documentedJson codec
      (askedMarket fun _ => true)
    accepted.credentials = some (⟨1⟩, 2) ∧ later.credentials = some (⟨1⟩, 1) ∧
      succeeds (@Call.transaction UuidV5.positional ⟨id⟩ ⟨fun _ => []⟩ documentedJson codec
        accepted) (db before) = true ∧
      (db (before ++ [accepted, later])).holdings.federationSagaReservations ≠
        (db (before ++ [accepted])).holdings.federationSagaReservations := by
  intro codec before accepted later db
  refine ⟨rfl, rfl, by decide +kernel, fun hsame => ?_⟩
  have hstatus : (db (before ++ [accepted, later])).holdings.federationSagaReservations.rows.map
      FederationSagaReservationRow.status ≠
    (db (before ++ [accepted])).holdings.federationSagaReservations.rows.map
      FederationSagaReservationRow.status := by
    decide +kernel
  exact hstatus (by rw [hsame])

end MatchPlane
