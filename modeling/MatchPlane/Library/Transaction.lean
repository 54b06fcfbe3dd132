import MatchPlane.Library.Fallible

/-!
# Transactions

A transaction passes a state along and keeps it only if it succeeds: an error
drops every change, as a rollback does.  `Ensures` bounds both outcomes at once,
and its rules follow the way transactions are put together.
-/

namespace MatchPlane.Library

abbrev Transaction (ε σ : Type) := StateT σ (Except ε)

variable {ε σ τ α β : Type}

/-- A success satisfies `post`, and an error satisfies `failure`. -/
def Ensures (x : Transaction ε σ α) (failure : ε → Prop) (state : σ)
    (post : α → σ → Prop) : Prop :=
  match x.run state with
  | .ok (value, state') => post value state'
  | .error error => failure error

/-- The value of an optional result; its absence is an error. -/
def require (error : ε) : Option α → Transaction ε σ α
  | some value => pure value
  | none => throw error

section Rules

variable {failure : ε → Prop} {state : σ} {post : α → σ → Prop}

@[simp] theorem ensures_pure (value : α) :
    Ensures (pure value : Transaction ε σ α) failure state post ↔ post value state :=
  Iff.rfl

@[simp] theorem ensures_throw (error : ε) :
    Ensures (throw error : Transaction ε σ α) failure state post ↔ failure error :=
  Iff.rfl

@[simp] theorem ensures_get {post : σ → σ → Prop} :
    Ensures (get : Transaction ε σ σ) failure state post ↔ post state state :=
  Iff.rfl

@[simp] theorem ensures_bind {x : Transaction ε σ α} {f : α → Transaction ε σ β}
    {post : β → σ → Prop} :
    Ensures (x >>= f) failure state post ↔
      Ensures x failure state fun value state' =>
        Ensures (f value) failure state' post := by
  simp only [Ensures, StateT.run_bind]
  cases x.run state with
  | error error => rfl
  | ok result => rfl

@[simp] theorem ensures_lift (x : Except ε α) :
    Ensures (liftM x : Transaction ε σ α) failure state post ↔
      match x with
      | .ok value => post value state
      | .error error => failure error := by
  cases x <;> rfl

theorem ensures_ite {c : Prop} [Decidable c] {x y : Transaction ε σ α} :
    Ensures (if c then x else y) failure state post ↔
      (c → Ensures x failure state post) ∧ (¬c → Ensures y failure state post) := by
  by_cases h : c <;> simp [h]

/-- The branch that a check throws is the only thing it adds. -/
@[simp] theorem ensures_check {c : Prop} [Decidable c] {error : ε}
    {post : PUnit → σ → Prop} :
    Ensures (if c then throw error else pure PUnit.unit : Transaction ε σ PUnit)
        failure state post ↔
      (c → failure error) ∧ (¬c → post PUnit.unit state) := by
  rw [ensures_ite, ensures_throw, ensures_pure]

@[simp] theorem ensures_require_some (error : ε) (value : α) :
    Ensures (require error (some value) : Transaction ε σ α) failure state post ↔
      post value state := Iff.rfl

@[simp] theorem ensures_require_none (error : ε) :
    Ensures (require error none : Transaction ε σ α) failure state post ↔
      failure error := Iff.rfl

theorem ensures_require {error : ε} {result : Option α} :
    Ensures (require error result : Transaction ε σ α) failure state post ↔
      (result = none → failure error) ∧ ∀ value, result = some value → post value state := by
  cases result <;> simp

theorem Ensures.mono {x : Transaction ε σ α} {failure' : ε → Prop}
    {post' : α → σ → Prop} (h : Ensures x failure state post)
    (hfailure : ∀ error, failure error → failure' error)
    (hpost : ∀ value state', post value state' → post' value state') :
    Ensures x failure' state post' := by
  unfold Ensures at h ⊢
  cases hrun : x.run state with
  | error error =>
      rw [hrun] at h
      exact hfailure error h
  | ok result =>
      rw [hrun] at h
      exact hpost result.1 result.2 h

theorem ensures_true (x : Transaction ε σ α) (state : σ) :
    Ensures x (fun _ => True) state fun _ _ => True := by
  unfold Ensures
  cases x.run state <;> trivial

theorem Ensures.and {x : Transaction ε σ α} {failure' : ε → Prop}
    {post' : α → σ → Prop} (h : Ensures x failure state post)
    (h' : Ensures x failure' state post') :
    Ensures x (fun error => failure error ∧ failure' error) state
      fun value state' => post value state' ∧ post' value state' := by
  unfold Ensures at h h' ⊢
  cases hrun : x.run state with
  | error error =>
      rw [hrun] at h h'
      exact ⟨h, h'⟩
  | ok result =>
      rw [hrun] at h h'
      exact ⟨h, h'⟩

theorem Ensures.of_ok {x : Transaction ε σ α} (h : Ensures x failure state post)
    {value : α} {state' : σ} (hrun : x.run state = .ok (value, state')) :
    post value state' := by
  rw [Ensures, hrun] at h
  exact h

theorem Ensures.of_error {x : Transaction ε σ α} (h : Ensures x failure state post)
    {error : ε} (hrun : x.run state = .error error) : failure error := by
  rw [Ensures, hrun] at h
  exact h

/-- The invariant rule of a loop; the invariant may mention the items still to come. -/
theorem Ensures.forM (inv : List β → σ → Prop) {items : List β}
    {body : β → Transaction ε σ PUnit}
    (hbody : ∀ item rest state, item :: rest <:+ items → inv (item :: rest) state →
      Ensures (body item) failure state fun _ state' => inv rest state')
    (h : inv items state) :
    Ensures (forM items body) failure state fun _ state' => inv [] state' := by
  induction items generalizing state with
  | nil => exact h
  | cons item rest ih =>
      rw [List.forM_cons, ensures_bind]
      refine (hbody item rest state (List.suffix_refl _) h).mono (fun _ h => h) ?_
      intro _ state' hrest
      exact ih (fun other later state hsuffix =>
        hbody other later state (hsuffix.trans (List.suffix_cons _ _))) hrest

/-! ## What a transaction leaves behind -/

/-- The state after a transaction; one that fails leaves the state as it was. -/
def committed (x : Transaction ε σ α) (state : σ) : σ :=
  match x.run state with
  | .ok (_, state') => state'
  | .error _ => state

def succeeds (x : Transaction ε σ α) (state : σ) : Bool := (x.run state).isOk

theorem committed_of_run {x : Transaction ε σ α} {value : α} {state' : σ}
    (h : x.run state = .ok (value, state')) : committed x state = state' := by
  unfold committed
  rw [h]

theorem result_of_run {x : Transaction ε σ α} {value : α} {state' : σ}
    (h : x.run state = .ok (value, state')) : x.run' state = .ok value := by
  change Prod.fst <$> x.run state = .ok value
  rw [h]
  rfl

/-- A transaction that fails keeps the state, and one that succeeds its postcondition. -/
theorem committed_cases {x : Transaction ε σ α} (h : Ensures x failure state post) :
    (succeeds x state = false ∧ committed x state = state) ∨
      (succeeds x state = true ∧ ∃ value, post value (committed x state)) := by
  unfold committed succeeds
  cases hrun : x.run state with
  | error error => exact .inl ⟨rfl, rfl⟩
  | ok result => exact .inr ⟨rfl, result.1, h.of_ok hrun⟩

theorem post_of_succeeds {x : Transaction ε σ α} (h : Ensures x failure state post)
    (hsucceeds : succeeds x state = true) : ∃ value, post value (committed x state) := by
  rcases committed_cases h with ⟨hfails, _⟩ | ⟨_, hpost⟩
  · rw [hsucceeds] at hfails
    cases hfails
  · exact hpost

/-- What a success establishes and a failure keeps holds either way. -/
theorem Ensures.committed {x : Transaction ε σ α} {inv : σ → Prop}
    (h : Ensures x failure state fun _ state' => inv state') (hstate : inv state) :
    inv (committed x state) := by
  rcases committed_cases h with ⟨_, hsame⟩ | ⟨_, _, hpost⟩
  · rw [hsame]
    exact hstate
  · exact hpost

/-- A transaction that cannot fail ends in a state of its postcondition. -/
theorem Ensures.exists_run {x : Transaction ε σ α} (h : Ensures x (fun _ => False) state post) :
    ∃ value state', x.run state = .ok (value, state') ∧ post value state' := by
  cases hrun : x.run state with
  | error error => exact (h.of_error hrun).elim
  | ok result => exact ⟨result.1, result.2, rfl, h.of_ok hrun⟩

theorem Ensures.succeeds {x : Transaction ε σ α}
    (h : Ensures x (fun _ => False) state post) : succeeds x state = true := by
  obtain ⟨_, _, hrun, _⟩ := h.exists_run
  unfold Library.succeeds
  rw [hrun]
  rfl

end Rules

/-! ## Transactions on a part of the state -/

/-- A component of a state that can be read and replaced. -/
structure Part (σ τ : Type) where
  get : σ → τ
  put : τ → σ → σ

/-- Runs a transaction on a component; everything else stays as it is. -/
def Part.on (part : Part σ τ) (x : Transaction ε τ α) : Transaction ε σ α := fun state =>
  match x.run (part.get state) with
  | .ok (value, component) => .ok (value, part.put component state)
  | .error error => .error error

@[simp] theorem ensures_on {part : Part σ τ} {x : Transaction ε τ α}
    {failure : ε → Prop} {state : σ} {post : α → σ → Prop} :
    Ensures (part.on x) failure state post ↔
      Ensures x failure (part.get state) fun value component =>
        post value (part.put component state) := by
  simp only [Ensures, Part.on, StateT.run]
  cases x (part.get state) with
  | error error => rfl
  | ok result => rfl

/-- A transaction whose errors are turned into those of its caller. -/
def mapError {ε' : Type} (f : ε → ε') (x : Transaction ε σ α) : Transaction ε' σ α :=
  fun state =>
    match x.run state with
    | .ok result => .ok result
    | .error error => .error (f error)

/-- Dropping the result of a transaction does not change what it leaves behind. -/
theorem committed_discard (x : Transaction ε σ α) (state : σ) :
    committed (do let _ ← x) state = committed x state := by
  unfold committed
  rw [StateT.run_bind]
  cases x.run state with
  | error error => rfl
  | ok result => rfl

theorem committed_on_discard (part : Part σ τ) (x : Transaction ε τ α) (state : σ) :
    committed (part.on do let _ ← x) state = committed (part.on x) state := by
  simp only [committed, Part.on, StateT.run, bind, StateT.bind]
  cases x (part.get state) with
  | error error => rfl
  | ok result => rfl

/-! ## What a transaction leaves alone -/

/-- A success does not change what `view` shows of the state. -/
def Keeps (view : σ → τ) (x : Transaction ε σ α) : Prop :=
  ∀ state, Ensures x (fun _ => True) state fun _ state' => view state' = view state

section Keeps

variable {view : σ → τ}

theorem Keeps.committed {x : Transaction ε σ α} (h : Keeps view x) (state : σ) :
    view (committed x state) = view state := by
  have hboth : Ensures x (fun _ => True) state fun _ state' => view state' = view state := h state
  exact hboth.committed rfl

theorem keeps_pure (value : α) : Keeps view (pure value : Transaction ε σ α) :=
  fun _ => rfl

theorem keeps_throw (error : ε) : Keeps view (throw error : Transaction ε σ α) :=
  fun _ => trivial

theorem keeps_get : Keeps view (get : Transaction ε σ σ) := fun _ => rfl

theorem keeps_lift (x : Except ε α) : Keeps view (liftM x : Transaction ε σ α) := by
  intro state
  cases x with
  | error error => trivial
  | ok value => exact rfl

theorem keeps_require (error : ε) (result : Option α) :
    Keeps view (require error result : Transaction ε σ α) := by
  intro state
  cases result with
  | none => trivial
  | some value => exact rfl

theorem Keeps.bind {x : Transaction ε σ α} {f : α → Transaction ε σ β}
    (hx : Keeps view x) (hf : ∀ value, Keeps view (f value)) : Keeps view (x >>= f) := by
  intro state
  rw [ensures_bind]
  refine (hx state).mono (fun _ h => h) fun value state' hsame => ?_
  exact (hf value state').mono (fun _ h => h) fun _ _ h => h.trans hsame

theorem Keeps.ite {c : Prop} [Decidable c] {x y : Transaction ε σ α}
    (hx : Keeps view x) (hy : Keeps view y) : Keeps view (if c then x else y) := by
  split
  · exact hx
  · exact hy

/-- A view that does not look at the component of a transaction. -/
theorem keeps_on {ω : Type} {part : Part σ ω} {x : Transaction ε ω α}
    (h : ∀ component state, view (part.put component state) = view state) :
    Keeps view (part.on x) := by
  intro state
  rw [ensures_on]
  exact (ensures_true _ _).mono (fun _ h => h) fun _ _ _ => h _ _

theorem keeps_forM {items : List β} {body : β → Transaction ε σ PUnit}
    (h : ∀ item, Keeps view (body item)) : Keeps view (forM items body) := by
  induction items with
  | nil => exact keeps_pure _
  | cons item rest ih =>
      rw [List.forM_cons]
      exact (h item).bind fun _ => ih

end Keeps

end MatchPlane.Library
