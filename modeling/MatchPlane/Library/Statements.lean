import MatchPlane.Library.Table

/-!
# Statements with an outcome

Rules for statements whose row may be missing, and for statements that write any
number of rows: what they leave behind, whichever way they go.
-/

namespace MatchPlane.Library

variable {κ ρ ε σ α : Type}

/-- The branch of a check that fails goes no further. -/
theorem check_eq_ok_iff {β : Type} {c : Prop} [Decidable c] {error : ε} {f : β → Except ε α}
    {x : Except ε α} {value : α} :
    (if c then Except.error error >>= f else x) = .ok value ↔ ¬c ∧ x = .ok value := by
  by_cases h : c
  · simp only [h, if_true, not_true, false_and, iff_false]
    exact fun hok => nomatch hok
  · simp [h]

/-- Any failure will do. -/
abbrev whatever : ε → Prop := fun _ => True

theorem ensures_liftAny {state : σ} {x : Except ε α} {post : α → σ → Prop}
    (h : ∀ value, x = .ok value → post value state) :
    Ensures (liftM x : Transaction ε σ α) whatever state post := by
  rw [ensures_lift]
  cases x with
  | error error => trivial
  | ok value => exact h value rfl

/-- No failure will do. -/
abbrev never : ε → Prop := fun _ => False

/-- The state behind an answer is the one that is committed. -/
theorem run_of_result {state : σ} {x : Transaction ε σ α} {value : α}
    (h : x.run' state = .ok value) : x.run state = .ok (value, committed x state) := by
  change Prod.fst <$> x.run state = .ok value at h
  unfold committed
  cases hrun : x.run state with
  | error error =>
      rw [hrun] at h
      cases h
  | ok result =>
      rw [hrun] at h
      cases h
      rfl

/-- The first item of an order; among equals, the one that comes first in the list. -/
def firstBy (before : α → α → Bool) : List α → Option α
  | [] => none
  | item :: rest =>
      match firstBy before rest with
      | none => some item
      | some other => if before other item then some other else some item

theorem mem_of_firstBy {before : α → α → Bool} {items : List α} {item : α}
    (h : firstBy before items = some item) : item ∈ items := by
  induction items with
  | nil => cases h
  | cons other rest ih =>
      rw [firstBy] at h
      split at h
      · simp_all
      · rename_i best hbest
        split at h
        · cases h
          exact List.mem_cons_of_mem _ (ih hbest)
        · simp_all

theorem firstBy_eq_none_iff {before : α → α → Bool} {items : List α} :
    firstBy before items = none ↔ items = [] := by
  cases items with
  | nil => simp [firstBy]
  | cons item rest =>
      rw [firstBy]
      split
      · simp
      · split <;> simp

/-- Nothing comes before the first item of a weak order. -/
theorem not_before_of_firstBy {before : α → α → Bool}
    (hasymm : ∀ first second, before first second = true → before second first = false)
    (htrans : ∀ first second third, before first second = false →
      before second third = false → before first third = false)
    {items : List α} {item : α} (h : firstBy before items = some item) {other : α}
    (hother : other ∈ items) : before other item = false := by
  have hirrefl (item : α) : before item item = false := by
    cases hself : before item item with
    | false => rfl
    | true => exact hself.symm.trans (hasymm item item hself)
  induction items generalizing item with
  | nil => cases h
  | cons head rest ih =>
      rw [firstBy] at h
      split at h
      · rename_i hnone
        cases h
        rw [firstBy_eq_none_iff.mp hnone, List.mem_singleton] at hother
        rw [hother, hirrefl]
      · rename_i best hbest
        rw [List.mem_cons] at hother
        split at h
        · rename_i hbefore
          cases h
          rcases hother with rfl | hother
          · exact hasymm item other hbefore
          · exact ih hbest hother
        · rename_i hbefore
          rw [Bool.not_eq_true] at hbefore
          cases h
          rcases hother with rfl | hother
          · exact hirrefl other
          · exact htrans other best head (ih hbest hother) hbefore

/-- A transaction that cannot succeed leaves the state as it was. -/
theorem committed_of_fails {x : Transaction ε σ α} {state : σ}
    (h : Ensures x whatever state fun _ _ => False) : committed x state = state := by
  rcases committed_cases h with ⟨_, hsame⟩ | ⟨_, _, hfalse⟩
  · exact hsame
  · exact hfalse.elim

/-- A row of a log that has no key. -/
def push (item : α) : Transaction ε (List α) PUnit := fun items => .ok (⟨⟩, items ++ [item])

@[simp] theorem ensures_push {item : α} {items : List α} {failure : ε → Prop}
    {post : PUnit → List α → Prop} :
    Ensures (push item : Transaction ε (List α) PUnit) failure items post ↔
      post ⟨⟩ (items ++ [item]) := Iff.rfl

/-! ## Moves of a transaction -/

/-- A success gets to its state by moves of a relation. -/
def Follows (move : σ → σ → Prop) (x : Transaction ε σ α) : Prop :=
  ∀ state, Ensures x whatever state fun _ state' => Relation.ReflTransGen move state state'

section Follows

variable {move : σ → σ → Prop}

theorem Keeps.follows {x : Transaction ε σ α} (h : Keeps id x) : Follows move x := by
  intro state
  refine (h state).mono (fun _ h => h) fun _ state' hsame => ?_
  rw [id, id] at hsame
  rw [hsame]

/-- A part of a transaction goes on from what has been reached so far. -/
theorem Follows.after {x : Transaction ε σ α} {start state : σ} {post : α → σ → Prop}
    (hsofar : Relation.ReflTransGen move start state) (hx : Follows move x)
    (h : ∀ value state', Relation.ReflTransGen move start state' → post value state') :
    Ensures x whatever state post :=
  (hx state).mono (fun _ h => h) fun value state' hmoved => h value state' (hsofar.trans hmoved)

theorem Follows.bind {β : Type} {x : Transaction ε σ α} {f : α → Transaction ε σ β}
    (hx : Follows move x) (hf : ∀ value, Follows move (f value)) : Follows move (x >>= f) := by
  intro state
  rw [ensures_bind]
  refine (hx state).mono (fun _ h => h) fun value state' hmoved => ?_
  exact (hf value state').mono (fun _ h => h) fun _ _ h => hmoved.trans h

theorem Follows.ite {c : Prop} [Decidable c] {x y : Transaction ε σ α}
    (hx : Follows move x) (hy : Follows move y) : Follows move (if c then x else y) := by
  split
  · exact hx
  · exact hy

/-- A move of a component, whatever is written there. -/
theorem follows_on {τ : Type} {part : Part σ τ} {x : Transaction ε τ α}
    (h : ∀ component state, move state (part.put component state)) :
    Follows move (part.on x) := by
  intro state
  rw [ensures_on]
  exact (ensures_true _ _).mono (fun _ h => h) fun _ component _ => .single (h component state)

theorem follows_forM {β : Type} {items : List β} {body : β → Transaction ε σ PUnit}
    (h : ∀ item, Follows move (body item)) : Follows move (forM items body) := by
  induction items with
  | nil => exact fun _ => .refl
  | cons item rest ih =>
      rw [List.forM_cons]
      exact (h item).bind fun _ => ih

/-- What a success moves to is reached, and a failure moves nowhere. -/
theorem moved_of_ensures {x : Transaction ε σ α} {state : σ}
    (h : succeeds x state = true →
      Ensures x whatever state fun _ state' => Relation.ReflTransGen move state state') :
    Relation.ReflTransGen move state (committed x state) := by
  by_cases hsucceeds : succeeds x state = true
  · obtain ⟨_, hmoved⟩ := post_of_succeeds (h hsucceeds) hsucceeds
    exact hmoved
  · rcases committed_cases (ensures_true x state) with ⟨_, hsame⟩ | ⟨htrue, _⟩
    · rw [hsame]
    · exact absurd htrue hsucceeds

end Follows

namespace Table

variable [DecidableEq κ] {schema : Schema κ ρ} {t t' : Table schema}

/-- An update writes the row that it reports, or nothing at all. -/
theorem ensures_update_cases {violation : ε} {k : κ} {guard : ρ → Bool} {set : ρ → ρ}
    {failure : ε → Prop} {post : Option ρ → Table schema → Prop}
    (hset : ∀ other, schema.key (set other) = schema.key other)
    (hviolation : failure violation)
    (hmissed : (t.lookup k).filter guard = none → post none t)
    (hwritten : ∀ row t', t.lookup k = some row → guard row = true →
      Written t t' row (set row) → post (some (set row)) t') :
    Ensures (update violation k guard set) failure t post := by
  cases hmatch : (t.lookup k).filter guard with
  | none =>
      unfold Ensures
      rw [update_unmatched hmatch]
      exact hmissed hmatch
  | some row =>
      rw [Option.filter_eq_some_iff] at hmatch
      obtain ⟨hlookup, hguard⟩ := hmatch
      have hkey : schema.key row = k := key_of_lookup hlookup
      refine ensures_update_of_lookup hlookup hguard hset hviolation fun t' hafter htotal => ?_
      exact hwritten row t' hlookup hguard ⟨by rwa [hkey], by rwa [hkey], htotal⟩

/-- A row whose key is free, and that clashes with no other, can be inserted. -/
theorem ensures_insert_valid {violation : ε} {row : ρ} {failure : ε → Prop}
    {post : PUnit → Table schema → Prop} (hcheck : schema.check row = true)
    (hnew : t.lookup (schema.key row) = none)
    (hclash : ∀ other ∈ t.rows, schema.clash other row = false)
    (h : ∀ t', t'.rows = t.rows ++ [row] → post ⟨⟩ t') :
    Ensures (insert violation row) failure t post := by
  have hvalid : schema.Valid (t.rows ++ [row]) := by
    rw [lookup_eq_none_iff] at hnew
    refine ⟨?_, ?_, fun other hother => ?_⟩
    · rw [List.pairwise_append]
      exact ⟨t.valid.keys, List.pairwise_singleton _ _, fun other hother added hadded => by
        rw [List.mem_singleton.mp hadded]
        exact hnew other hother⟩
    · rw [List.pairwise_append]
      exact ⟨t.valid.unique, List.pairwise_singleton _ _, fun other hother added hadded => by
        rw [List.mem_singleton.mp hadded]
        exact hclash other hother⟩
    · rw [List.mem_append, List.mem_singleton] at hother
      rcases hother with hother | rfl
      · exact t.valid.checked other hother
      · exact hcheck
  simpa [Ensures, insert, StateT.run, hvalid] using h ⟨_, hvalid⟩ rfl

theorem ensures_updateAll_rows {violation : ε} {set : ρ → ρ} {failure : ε → Prop}
    {post : PUnit → Table schema → Prop} (hviolation : failure violation)
    (h : ∀ t', t'.rows = t.rows.map set → post ⟨⟩ t') :
    Ensures (updateAll violation set) failure t post := by
  by_cases hvalid : schema.Valid (t.rows.map set)
  · exact ensures_updateAll hvalid h
  · simpa [Ensures, updateAll, StateT.run, hvalid] using hviolation

theorem lookup_updatedAll {set : ρ → ρ} (h : t'.rows = t.rows.map set)
    (hset : ∀ row, schema.key (set row) = schema.key row) (k : κ) :
    t'.lookup k = (t.lookup k).map set := by
  apply Option.ext
  intro row
  rw [lookup_eq_some_iff, h, List.mem_map, Option.map_eq_some_iff]
  constructor
  · rintro ⟨⟨old, hold, rfl⟩, hkey⟩
    exact ⟨old, lookup_eq_some_iff.mpr ⟨hold, (hset old).symm.trans hkey⟩, rfl⟩
  · rintro ⟨old, hold, rfl⟩
    exact ⟨⟨old, mem_of_lookup hold, rfl⟩, (hset old).trans (key_of_lookup hold)⟩

section Written

variable {row row' : ρ}

theorem Written.lookup_self (h : Written t t' row row') :
    t'.lookup (schema.key row) = some row' := by
  rw [h.lookup, if_pos rfl]

theorem Written.lookup_of_ne (h : Written t t' row row') {k : κ} (hk : k ≠ schema.key row) :
    t'.lookup k = t.lookup k := by
  rw [h.lookup, if_neg hk]

/-- A row is found after a write if it is the new one, or one that was not written. -/
theorem Written.mem_cases (h : Written t t' row row') {other : ρ} (hother : other ∈ t'.rows) :
    other = row' ∨ (other ∈ t.rows ∧ schema.key other ≠ schema.key row) := by
  have hlookup := lookup_of_mem hother
  rw [h.lookup] at hlookup
  split at hlookup
  · exact .inl (Option.some.inj hlookup).symm
  · rename_i hne
    exact .inr ⟨mem_of_lookup hlookup, hne⟩

end Written

/-- The table after a row has been stored, in the place of an older one if there was one. -/
def Stored (before after : Table schema) (row : ρ) : Prop :=
  ∀ k, after.lookup k = if k = schema.key row then some row else before.lookup k

theorem stored_of_inserted {row : ρ} (h : t'.rows = t.rows ++ [row]) : Stored t t' row :=
  lookup_inserted h

theorem Written.isStored {row row' : ρ} (h : Written t t' row row')
    (hkey : schema.key row' = schema.key row) : Stored t t' row' := by
  intro k
  rw [h.lookup, hkey]

end Table

end MatchPlane.Library
