import Mathlib

/-!
# Programs over calls

A program asks its surroundings for answers, one call after the other, and ends with a
value or an error.  Between two calls anything that its contract allows may happen to the
shared state; what a program guarantees in turn is what others may rely on.
-/

namespace MatchPlane.Library

inductive Program (Call : Type) (Answer : Call → Type) (ε α : Type) where
  | done (result : Except ε α)
  | call (c : Call) (next : Answer c → Program Call Answer ε α)

namespace Program

variable {Call : Type} {Answer : Call → Type} {ε ε' α β : Type}

/-- Goes on with the value or the error of a program. -/
def handle (p : Program Call Answer ε α) (next : Except ε α → Program Call Answer ε' β) :
    Program Call Answer ε' β :=
  match p with
  | done result => next result
  | call c rest => call c fun answer => (rest answer).handle next

/-- An error skips what comes next. -/
def andThen (p : Program Call Answer ε α) (next : α → Program Call Answer ε β) :
    Program Call Answer ε β :=
  p.handle fun
    | .ok value => next value
    | .error error => done (.error error)

instance : Monad (Program Call Answer ε) where
  pure value := done (.ok value)
  bind := andThen

def raise (error : ε) : Program Call Answer ε α := done (.error error)

def ask (c : Call) : Program Call Answer ε (Answer c) := call c fun answer => done (.ok answer)

def catching (recover : ε → Program Call Answer ε α) (p : Program Call Answer ε α) :
    Program Call Answer ε α :=
  p.handle fun
    | .ok value => done (.ok value)
    | .error error => recover error

/-- The last part runs in any case; an error of its own replaces the result. -/
def eventually (last : Program Call Answer ε PUnit) (p : Program Call Answer ε α) :
    Program Call Answer ε α :=
  p.handle fun result => last.andThen fun _ => done result

end Program

/-- What a program may rely on, what it guarantees, and what holds in every state. -/
structure Contract (σ : Type) where
  rely : σ → σ → Prop
  guarantee : σ → σ → Prop
  invariant : σ → Prop
  refl : ∀ s, rely s s
  trans : ∀ {s s' s''}, rely s s' → rely s' s'' → rely s s''

namespace Contract

/-- Nobody else is there. -/
def alone (σ : Type) : Contract σ where
  rely := Eq
  guarantee := fun _ _ => True
  invariant := fun _ => True
  refl := fun _ => rfl
  trans := Eq.trans

variable {σ : Type} (contract : Contract σ)

/-- The others leave a property alone. -/
def Stable (P : σ → Prop) : Prop :=
  ∀ s s', contract.invariant s' → contract.rely s s' → P s → P s'

variable {contract} {P Q : σ → Prop}

theorem Stable.and (h : contract.Stable P) (h' : contract.Stable Q) :
    contract.Stable fun s => P s ∧ Q s :=
  fun s s' hinv hrely hboth => ⟨h s s' hinv hrely hboth.1, h' s s' hinv hrely hboth.2⟩

theorem Stable.or (h : contract.Stable P) (h' : contract.Stable Q) :
    contract.Stable fun s => P s ∨ Q s :=
  fun s s' hinv hrely heither => heither.imp (h s s' hinv hrely) (h' s s' hinv hrely)

theorem stable_const (p : Prop) : contract.Stable fun _ => p := fun _ _ _ _ h => h

theorem stable_alone (P : σ → Prop) : (alone σ).Stable P := by
  rintro s _ _ rfl h
  exact h

end Contract

namespace Program

variable {Call : Type} {Answer : Call → Type} {ε ε' α β σ κ : Type}
  (perform : κ → (c : Call) → σ → Answer c × σ) (contract : Contract σ)

/-- Whatever the others do, the program keeps its contract and ends in `post`. -/
def Holds (post : Except ε α → σ → Prop) : Program Call Answer ε α → σ → Prop
  | done result, s => post result s
  | call c next, s => ∀ s', contract.rely s s' → contract.invariant s' → ∀ choice,
      contract.invariant (perform choice c s').2 ∧
        contract.guarantee s' (perform choice c s').2 ∧
        Holds post (next (perform choice c s').1) (perform choice c s').2

/-- From every state of `pre` the program keeps its contract and ends in `post`. -/
def Spec (pre : σ → Prop) (p : Program Call Answer ε α) (post : Except ε α → σ → Prop) : Prop :=
  ∀ s, contract.invariant s → pre s → p.Holds perform contract post s

variable {perform contract} {post post' : Except ε α → σ → Prop} {s s' : σ}
  {p : Program Call Answer ε α}

theorem Holds.mono (h : p.Holds perform contract post s)
    (hinv : contract.invariant s)
    (hpost : ∀ result s, contract.invariant s → post result s → post' result s) :
    p.Holds perform contract post' s := by
  induction p generalizing s with
  | done result => exact hpost result s hinv h
  | call c next ih =>
      intro s' hrely hinv' choice
      obtain ⟨hinvariant, hguarantee, hnext⟩ := h s' hrely hinv' choice
      exact ⟨hinvariant, hguarantee, ih _ hnext hinvariant⟩

/-- What the others do does not spoil a program. -/
theorem Holds.stable (hpost : ∀ result, contract.Stable (post result))
    (h : p.Holds perform contract post s) (hrely : contract.rely s s')
    (hinv : contract.invariant s') : p.Holds perform contract post s' := by
  cases p with
  | done result => exact hpost result s s' hinv hrely h
  | call c next =>
      intro s'' hrely' hinv' choice
      exact h s'' (contract.trans hrely hrely') hinv' choice

theorem Holds.handle {next : Except ε α → Program Call Answer ε' β}
    {post : Except ε' β → σ → Prop}
    (h : p.Holds perform contract
      (fun result s => (next result).Holds perform contract post s) s) :
    (p.handle next).Holds perform contract post s := by
  induction p generalizing s with
  | done result => exact h
  | call c rest ih =>
      intro s' hrely hinv choice
      obtain ⟨hinvariant, hguarantee, hrest⟩ := h s' hrely hinv choice
      exact ⟨hinvariant, hguarantee, ih _ hrest⟩

section Specs

variable {pre pre' : σ → Prop}

theorem Spec.mono (h : Spec perform contract pre p post)
    (hpre : ∀ s, contract.invariant s → pre' s → pre s)
    (hpost : ∀ result s, contract.invariant s → post result s → post' result s) :
    Spec perform contract pre' p post' :=
  fun s hinv hs => (h s hinv (hpre s hinv hs)).mono hinv hpost

theorem spec_done {result : Except ε α} (h : ∀ s, contract.invariant s → pre s → post result s) :
    Spec perform contract pre (done result) post := h

/-- A program that goes on with the outcome of another one. -/
theorem Spec.handle {next : Except ε α → Program Call Answer ε' β}
    {post' : Except ε' β → σ → Prop} (h : Spec perform contract pre p post)
    (hnext : ∀ result, Spec perform contract (post result) (next result) post') :
    Spec perform contract pre (p.handle next) post' :=
  fun s hinv hs => Holds.handle
    ((h s hinv hs).mono hinv fun result s hinv hs => hnext result s hinv hs)

theorem Spec.andThen {next : α → Program Call Answer ε β} {post' : Except ε β → σ → Prop}
    (h : Spec perform contract pre p post)
    (hok : ∀ value, Spec perform contract (post (.ok value)) (next value) post')
    (herror : ∀ error s, contract.invariant s → post (.error error) s →
      post' (.error error) s) :
    Spec perform contract pre (p.andThen next) post' :=
  h.handle fun result => match result with
    | .ok value => hok value
    | .error error => fun s hinv hs => herror error s hinv hs

/-- A call from a stable property; one performs it in a state that still has the property. -/
theorem spec_call {c : Call} {next : Answer c → Program Call Answer ε α}
    (hstable : contract.Stable pre)
    (h : ∀ s choice, contract.invariant s → pre s →
      contract.invariant (perform choice c s).2 ∧
        contract.guarantee s (perform choice c s).2 ∧
        (next (perform choice c s).1).Holds perform contract post (perform choice c s).2) :
    Spec perform contract pre (call c next) post := by
  intro s _ hs s' hrely hinv choice
  exact h s' choice hinv (hstable s s' hinv hrely hs)

theorem Spec.or {pre' : σ → Prop} (h : Spec perform contract pre p post)
    (h' : Spec perform contract pre' p post) :
    Spec perform contract (fun s => pre s ∨ pre' s) p post :=
  fun s hinv hs => hs.elim (h s hinv) (h' s hinv)

/-- A precondition that does not depend on the state is a hypothesis. -/
theorem spec_pure {P : Prop} (h : P → Spec perform contract pre p post) :
    Spec perform contract (fun s => P ∧ pre s) p post :=
  fun s hinv hs => h hs.1 s hinv hs.2

end Specs

/-! ## Outcomes -/

section Outcomes

variable (step : (c : Call) → σ → Answer c → σ → Prop)

/-- A program that runs alone from the first state may end with a result in the second one. -/
def Ends : Program Call Answer ε α → σ → Except ε α → σ → Prop
  | done result, s, result', s' => result = result' ∧ s = s'
  | call c next, s, result', s' =>
      ∃ answer middle, step c s answer middle ∧ Ends (next answer) middle result' s'

variable {step} {s₁ s₂ : σ} {result : Except ε α} {result' : Except ε' β}

@[simp] theorem ends_done {given : Except ε α} :
    Ends step (done given) s₁ result s₂ ↔ given = result ∧ s₁ = s₂ := Iff.rfl

@[simp] theorem ends_pure {value : α} :
    Ends step (pure value : Program Call Answer ε α) s₁ result s₂ ↔
      .ok value = result ∧ s₁ = s₂ := Iff.rfl

@[simp] theorem ends_raise {error : ε} :
    Ends step (raise error : Program Call Answer ε α) s₁ result s₂ ↔
      .error error = result ∧ s₁ = s₂ := Iff.rfl

theorem ends_call {c : Call} {next : Answer c → Program Call Answer ε α} :
    Ends step (call c next) s₁ result s₂ ↔
      ∃ answer middle, step c s₁ answer middle ∧ Ends step (next answer) middle result s₂ := Iff.rfl

/-- A program and what goes on with its outcome. -/
theorem ends_handle {next : Except ε α → Program Call Answer ε' β} :
    Ends step (p.handle next) s₁ result' s₂ ↔
      ∃ outcome middle, Ends step p s₁ outcome middle ∧
        Ends step (next outcome) middle result' s₂ := by
  induction p generalizing s₁ with
  | done given =>
      constructor
      · intro h
        exact ⟨given, s₁, ⟨rfl, rfl⟩, h⟩
      · rintro ⟨outcome, middle, ⟨rfl, rfl⟩, h⟩
        exact h
  | call c rest ih =>
      constructor
      · rintro ⟨answer, middle, hstep, hrest⟩
        obtain ⟨outcome, last, hends, hnext⟩ := (ih answer).mp hrest
        exact ⟨outcome, last, ⟨answer, middle, hstep, hends⟩, hnext⟩
      · rintro ⟨outcome, last, ⟨answer, middle, hstep, hends⟩, hnext⟩
        exact ⟨answer, middle, hstep, (ih answer).mpr ⟨outcome, last, hends, hnext⟩⟩

theorem ends_bind {next : α → Program Call Answer ε β} {result' : Except ε β} :
    Ends step (p >>= next) s₁ result' s₂ ↔
      (∃ value middle, Ends step p s₁ (.ok value) middle ∧
        Ends step (next value) middle result' s₂) ∨
      ∃ error, Ends step p s₁ (.error error) s₂ ∧ result' = .error error := by
  change Ends step (p.handle _) s₁ result' s₂ ↔ _
  rw [ends_handle]
  constructor
  · rintro ⟨outcome, middle, hends, hnext⟩
    cases outcome with
    | ok value => exact .inl ⟨value, middle, hends, hnext⟩
    | error error =>
        obtain ⟨rfl, rfl⟩ := hnext
        exact .inr ⟨error, hends, rfl⟩
  · rintro (⟨value, middle, hends, hnext⟩ | ⟨error, hends, rfl⟩)
    · exact ⟨.ok value, middle, hends, hnext⟩
    · exact ⟨.error error, s₂, hends, rfl, rfl⟩

theorem ends_eventually {last : Program Call Answer ε PUnit} :
    Ends step (eventually last p) s₁ result s₂ ↔
      ∃ outcome middle, Ends step p s₁ outcome middle ∧
        ((Ends step last middle (.ok ⟨⟩) s₂ ∧ result = outcome) ∨
          ∃ error, Ends step last middle (.error error) s₂ ∧ result = .error error) := by
  rw [eventually, ends_handle]
  refine exists_congr fun outcome => exists_congr fun middle => and_congr_right fun _ => ?_
  change Ends step (last >>= fun _ => done outcome) middle result s₂ ↔ _
  rw [ends_bind]
  constructor
  · rintro (⟨_, state, hends, rfl, rfl⟩ | herror)
    · exact .inl ⟨hends, rfl⟩
    · exact .inr herror
  · rintro (⟨hends, rfl⟩ | herror)
    · exact .inl ⟨⟨⟩, s₂, hends, rfl, rfl⟩
    · exact .inr herror

theorem ends_catching {recover : ε → Program Call Answer ε α} :
    Ends step (catching recover p) s₁ result s₂ ↔
      (∃ value, Ends step p s₁ (.ok value) s₂ ∧ result = .ok value) ∨
      ∃ error middle, Ends step p s₁ (.error error) middle ∧
        Ends step (recover error) middle result s₂ := by
  rw [catching, ends_handle]
  constructor
  · rintro ⟨outcome, middle, hends, hnext⟩
    cases outcome with
    | ok value =>
        obtain ⟨rfl, rfl⟩ := hnext
        exact .inl ⟨value, hends, rfl⟩
    | error error => exact .inr ⟨error, middle, hends, hnext⟩
  · rintro (⟨value, hends, rfl⟩ | ⟨error, middle, hends, hnext⟩)
    · exact ⟨.ok value, s₂, hends, rfl, rfl⟩
    · exact ⟨.error error, middle, hends, hnext⟩

/-- Fewer answers leave fewer outcomes. -/
theorem Ends.mono {step' : (c : Call) → σ → Answer c → σ → Prop}
    (hstep : ∀ c s answer s', step c s answer s' → step' c s answer s')
    (h : Ends step p s₁ result s₂) : Ends step' p s₁ result s₂ := by
  induction p generalizing s₁ with
  | done given => exact h
  | call c next ih =>
      obtain ⟨answer, middle, hanswer, hrest⟩ := h
      exact ⟨answer, middle, hstep c s₁ answer middle hanswer, ih answer hrest⟩

end Outcomes

/-! ## The calls of a program -/

section Uses

/-- Every call that the program can make is of a kind. -/
def Uses (kind : Call → Prop) : Program Call Answer ε α → Prop
  | done _ => True
  | call c next => kind c ∧ ∀ answer, Uses kind (next answer)

variable {kind kind' : Call → Prop}

@[simp] theorem uses_done {given : Except ε α} :
    Uses kind (done given : Program Call Answer ε α) := trivial

@[simp] theorem uses_pure {value : α} : Uses kind (pure value : Program Call Answer ε α) := trivial

@[simp] theorem uses_raise {error : ε} :
    Uses kind (raise error : Program Call Answer ε α) := trivial

theorem Uses.mono (hkind : ∀ c, kind c → kind' c) (h : Uses kind p) : Uses kind' p := by
  induction p with
  | done given => trivial
  | call c next ih => exact ⟨hkind c h.1, fun answer => ih answer (h.2 answer)⟩

theorem Uses.handle {next : Except ε α → Program Call Answer ε' β} (h : Uses kind p)
    (hnext : ∀ outcome, Uses kind (next outcome)) : Uses kind (p.handle next) := by
  induction p with
  | done given => exact hnext given
  | call c rest ih => exact ⟨h.1, fun answer => ih answer (h.2 answer)⟩

theorem Uses.bind {next : α → Program Call Answer ε β} (h : Uses kind p)
    (hnext : ∀ value, Uses kind (next value)) : Uses kind (p >>= next) :=
  h.handle fun outcome => match outcome with
    | .ok value => hnext value
    | .error _ => trivial

theorem Uses.eventually {last : Program Call Answer ε PUnit} (hlast : Uses kind last)
    (h : Uses kind p) : Uses kind (eventually last p) :=
  h.handle fun _ => hlast.bind fun _ => trivial

theorem Uses.catching {recover : ε → Program Call Answer ε α}
    (hrecover : ∀ error, Uses kind (recover error)) (h : Uses kind p) :
    Uses kind (catching recover p) :=
  h.handle fun outcome => match outcome with
    | .ok _ => trivial
    | .error error => hrecover error

/-- What each call of a kind keeps, a program of such calls keeps. -/
theorem Ends.relates {step : (c : Call) → σ → Answer c → σ → Prop} {related : σ → σ → Prop}
    (hrefl : ∀ s, related s s)
    (htrans : ∀ {s s' s''}, related s s' → related s' s'' → related s s'')
    (hkind : ∀ c, kind c → ∀ s answer s', step c s answer s' → related s s')
    (huses : Uses kind p) {s₁ s₂ : σ} {result : Except ε α} (h : Ends step p s₁ result s₂) :
    related s₁ s₂ := by
  induction p generalizing s₁ with
  | done given =>
      obtain ⟨_, rfl⟩ := h
      exact hrefl s₁
  | call c next ih =>
      obtain ⟨answer, middle, hstep, hrest⟩ := h
      exact htrans (hkind c huses.1 s₁ answer middle hstep) (ih answer (huses.2 answer) hrest)

end Uses

end Program

end MatchPlane.Library
