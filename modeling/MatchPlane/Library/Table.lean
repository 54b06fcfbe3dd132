import MatchPlane.Library.Transaction

/-!
# Relational tables

A table is a list of rows that satisfies its declared constraints: a key, any
further unique columns, and row checks.  Statements run as transactions on one
table and fail when their result would violate a constraint.  Every update of
this development addresses its row by the key, so it reports the row it wrote
and not a number of rows.
-/

namespace MatchPlane.Library

structure Schema (κ ρ : Type) where
  key : ρ → κ
  /-- Two rows agree on some other set of columns that is declared unique. -/
  clash : ρ → ρ → Bool
  check : ρ → Bool

variable {κ ρ ε : Type}

structure Schema.Valid (schema : Schema κ ρ) (rows : List ρ) : Prop where
  keys : rows.Pairwise fun first second => schema.key first ≠ schema.key second
  unique : rows.Pairwise fun first second => schema.clash first second = false
  checked : ∀ row ∈ rows, schema.check row = true

theorem Schema.valid_iff (schema : Schema κ ρ) (rows : List ρ) :
    schema.Valid rows ↔
      (rows.Pairwise fun first second => schema.key first ≠ schema.key second) ∧
      (rows.Pairwise fun first second => schema.clash first second = false) ∧
      ∀ row ∈ rows, schema.check row = true :=
  ⟨fun h => ⟨h.keys, h.unique, h.checked⟩, fun ⟨hkeys, hunique, hchecked⟩ =>
    ⟨hkeys, hunique, hchecked⟩⟩

instance [DecidableEq κ] (schema : Schema κ ρ) (rows : List ρ) :
    Decidable (schema.Valid rows) :=
  decidable_of_iff _ (schema.valid_iff rows).symm

structure Table (schema : Schema κ ρ) where
  rows : List ρ
  valid : schema.Valid rows

namespace Table

def empty {schema : Schema κ ρ} : Table schema := ⟨[], .nil, .nil, fun _ h => nomatch h⟩

/-- The sum of a column expression over all rows. -/
def total {schema : Schema κ ρ} (t : Table schema) (g : ρ → Int) : Int :=
  (t.rows.map g).sum

theorem total_inserted {schema : Schema κ ρ} {t t' : Table schema} {row : ρ}
    (h : t'.rows = t.rows ++ [row]) (g : ρ → Int) :
    t'.total g = t.total g + g row := by
  simp [total, h]

/-- A sum over the rows that satisfy a condition. -/
theorem total_ite {schema : Schema κ ρ} (t : Table schema) (p : ρ → Prop) [DecidablePred p]
    (g : ρ → Int) : t.total (fun row => if p row then g row else 0) =
      ((t.rows.filter fun row => p row).map g).sum := by
  unfold total
  induction t.rows with
  | nil => rfl
  | cons row rest ih =>
      by_cases h : p row
      · simp [h, ih]
      · simp [h, ih]

theorem le_total {schema : Schema κ ρ} {t : Table schema} {row : ρ} {g : ρ → Int}
    (hmem : row ∈ t.rows) (h : ∀ other ∈ t.rows, 0 ≤ g other) : g row ≤ t.total g := by
  unfold total
  generalize t.rows = rows at hmem h
  induction rows with
  | nil => cases hmem
  | cons first rest ih =>
      have hrest : 0 ≤ (rest.map g).sum := by
        apply List.sum_nonneg
        simp only [List.mem_map]
        rintro _ ⟨other, hother, rfl⟩
        exact h other (List.mem_cons_of_mem _ hother)
      have hfirst := h first List.mem_cons_self
      rw [List.map_cons, List.sum_cons]
      rcases List.mem_cons.mp hmem with rfl | hrow
      · omega
      · have := ih hrow fun other hother => h other (List.mem_cons_of_mem _ hother)
        omega

/-- Rows that agree on unique columns are the same row. -/
theorem eq_of_clash {schema : Schema κ ρ} {t : Table schema} {first second : ρ}
    (hsymm : ∀ first second, schema.clash first second = schema.clash second first)
    (hfirst : first ∈ t.rows) (hsecond : second ∈ t.rows)
    (hclash : schema.clash first second = true) : first = second := by
  have hsymmetric : Std.Symm fun first second => schema.clash first second = false :=
    ⟨fun first second h => by rwa [hsymm]⟩
  by_contra hne
  have hdistinct := t.valid.unique.forall hfirst hsecond hne
  rw [hclash] at hdistinct
  cases hdistinct

/-- Writes that leave the unique columns alone can only violate a row check. -/
theorem valid_map {schema : Schema κ ρ} {t : Table schema} {set : ρ → ρ}
    (hset : ∀ row, schema.key (set row) = schema.key row)
    (hclash : ∀ first second, schema.clash (set first) (set second) = schema.clash first second)
    (hcheck : ∀ row ∈ t.rows, schema.check (set row) = true) :
    schema.Valid (t.rows.map set) := by
  refine ⟨?_, ?_, ?_⟩
  · rw [List.pairwise_map]
    exact t.valid.keys.imp fun hne => by rwa [hset, hset]
  · rw [List.pairwise_map]
    exact t.valid.unique.imp fun hne => by rwa [hclash]
  · simp only [List.mem_map]
    rintro _ ⟨row, hrow, rfl⟩
    exact hcheck row hrow

variable [DecidableEq κ] {schema : Schema κ ρ} {t t' : Table schema}

def lookup (t : Table schema) (k : κ) : Option ρ :=
  t.rows.find? fun row => decide (schema.key row = k)

/-! ## Statements -/

def insert (violation : ε) (row : ρ) : Transaction ε (Table schema) PUnit := fun t =>
  if h : schema.Valid (t.rows ++ [row]) then .ok (⟨⟩, ⟨t.rows ++ [row], h⟩)
  else .error violation

/-- `ON CONFLICT DO NOTHING`: row checks still fail, and the flag reports an insertion. -/
def insertOrIgnore (violation : ε) (row : ρ) : Transaction ε (Table schema) Bool := fun t =>
  if schema.check row = false then .error violation
  else if h : schema.Valid (t.rows ++ [row]) then .ok (true, ⟨t.rows ++ [row], h⟩)
  else .ok (false, t)

/-- The rows with `set` applied to the row of a key that satisfies `guard`. -/
def replaced (t : Table schema) (k : κ) (guard : ρ → Bool) (set : ρ → ρ) : List ρ :=
  t.rows.map fun row => if schema.key row = k ∧ guard row = true then set row else row

/-- `UPDATE … SET … WHERE key = k AND guard RETURNING *`. -/
def update (violation : ε) (k : κ) (guard : ρ → Bool) (set : ρ → ρ) :
    Transaction ε (Table schema) (Option ρ) := fun t =>
  if h : schema.Valid (t.replaced k guard set) then
    .ok (((t.lookup k).filter guard).map set, ⟨t.replaced k guard set, h⟩)
  else .error violation

/-- An `UPDATE` that may write any number of rows. -/
def updateAll (violation : ε) (set : ρ → ρ) : Transaction ε (Table schema) PUnit := fun t =>
  if h : schema.Valid (t.rows.map set) then .ok (⟨⟩, ⟨t.rows.map set, h⟩)
  else .error violation

/-! ## Lookups -/

theorem lookup_eq_some_iff {k : κ} {row : ρ} :
    t.lookup k = some row ↔ row ∈ t.rows ∧ schema.key row = k := by
  have hkeys := t.valid.keys
  simp only [lookup]
  generalize t.rows = rows at hkeys
  induction rows with
  | nil => simp
  | cons first rest ih =>
      rw [List.pairwise_cons] at hkeys
      by_cases hfirst : schema.key first = k
      · have hnot : ¬(row ∈ rest ∧ schema.key row = k) := by
          rintro ⟨hmem, hkey⟩
          exact hkeys.1 row hmem (hfirst.trans hkey.symm)
        simp only [List.find?_cons, hfirst, decide_true, Option.some.injEq,
          List.mem_cons]
        constructor
        · rintro rfl
          exact ⟨.inl rfl, hfirst⟩
        · rintro ⟨rfl | hmem, hkey⟩
          · rfl
          · exact absurd ⟨hmem, hkey⟩ hnot
      · simp only [List.find?_cons, hfirst, decide_false, ih hkeys.2, List.mem_cons]
        constructor
        · rintro ⟨hmem, hkey⟩
          exact ⟨.inr hmem, hkey⟩
        · rintro ⟨rfl | hmem, hkey⟩
          · exact absurd hkey hfirst
          · exact ⟨hmem, hkey⟩

theorem lookup_eq_none_iff {k : κ} :
    t.lookup k = none ↔ ∀ row ∈ t.rows, schema.key row ≠ k := by
  simp [lookup]

theorem mem_of_lookup {k : κ} {row : ρ} (h : t.lookup k = some row) : row ∈ t.rows :=
  (lookup_eq_some_iff.mp h).1

theorem key_of_lookup {k : κ} {row : ρ} (h : t.lookup k = some row) :
    schema.key row = k :=
  (lookup_eq_some_iff.mp h).2

theorem lookup_of_mem {row : ρ} (h : row ∈ t.rows) :
    t.lookup (schema.key row) = some row :=
  lookup_eq_some_iff.mpr ⟨h, rfl⟩

theorem check_of_lookup {k : κ} {row : ρ} (h : t.lookup k = some row) :
    schema.check row = true :=
  t.valid.checked row (mem_of_lookup h)

/-- Tables with the same rows under every key answer lookups alike. -/
theorem lookup_congr {k : κ}
    (h : ∀ row, schema.key row = k → (row ∈ t.rows ↔ row ∈ t'.rows)) :
    t.lookup k = t'.lookup k := by
  apply Option.ext
  intro row
  rw [lookup_eq_some_iff, lookup_eq_some_iff]
  constructor
  · rintro ⟨hmem, hkey⟩
    exact ⟨(h row hkey).mp hmem, hkey⟩
  · rintro ⟨hmem, hkey⟩
    exact ⟨(h row hkey).mpr hmem, hkey⟩

/-! ## Insertions -/

theorem ensures_insert {violation : ε} {row : ρ} {failure : ε → Prop}
    {post : PUnit → Table schema → Prop} (hviolation : failure violation)
    (h : ∀ t', t'.rows = t.rows ++ [row] → post ⟨⟩ t') :
    Ensures (insert violation row) failure t post := by
  simp only [Ensures, insert, StateT.run]
  split
  · rename_i heq
    split at heq
    · cases heq
      exact h _ rfl
    · cases heq
  · rename_i heq
    split at heq
    · cases heq
    · cases heq
      exact hviolation

theorem ensures_insertOrIgnore {violation : ε} {row : ρ} {failure : ε → Prop}
    {post : Bool → Table schema → Prop} (hviolation : failure violation)
    (h : ∀ t', t'.rows = t.rows ++ [row] → post true t')
    (hignored : schema.check row = true → ¬schema.Valid (t.rows ++ [row]) →
      post false t) :
    Ensures (insertOrIgnore violation row) failure t post := by
  simp only [Ensures, insertOrIgnore, StateT.run]
  by_cases hcheck : schema.check row = false
  · simpa [hcheck] using hviolation
  · by_cases hvalid : schema.Valid (t.rows ++ [row])
    · simpa [hcheck, hvalid] using h _ rfl
    · simpa [hcheck, hvalid] using hignored (by simpa using hcheck) hvalid

/-- A row whose key is taken is ignored. -/
theorem ensures_insertOrIgnore_known {violation : ε} {row other : ρ} {failure : ε → Prop}
    {post : Bool → Table schema → Prop} (hother : t.lookup (schema.key row) = some other)
    (hcheck : schema.check row = true) (h : post false t) :
    Ensures (insertOrIgnore violation row) failure t post := by
  have hinvalid : ¬schema.Valid (t.rows ++ [row]) := by
    intro hvalid
    have hkeys := hvalid.keys
    rw [List.pairwise_append] at hkeys
    exact hkeys.2.2 other (mem_of_lookup hother) row (List.mem_singleton_self row)
      (key_of_lookup hother)
  simpa [Ensures, insertOrIgnore, StateT.run, hcheck, hinvalid] using h

/-- A row whose key is free, and that clashes with no other, is inserted. -/
theorem ensures_insertOrIgnore_new {violation : ε} {row : ρ} {failure : ε → Prop}
    {post : Bool → Table schema → Prop} (hcheck : schema.check row = true)
    (hnew : t.lookup (schema.key row) = none)
    (hclash : ∀ other ∈ t.rows, schema.clash other row = false)
    (h : ∀ t', t'.rows = t.rows ++ [row] → post true t') :
    Ensures (insertOrIgnore violation row) failure t post := by
  have hvalid : schema.Valid (t.rows ++ [row]) := by
    rw [lookup_eq_none_iff] at hnew
    refine ⟨?_, ?_, fun other hother => ?_⟩
    · rw [List.pairwise_append]
      exact ⟨t.valid.keys, List.pairwise_singleton _ _, fun other hother added hadded => by
        rw [List.mem_singleton.mp hadded]
        exact hnew other hother⟩
    · rw [List.pairwise_append]
      exact ⟨t.valid.unique, List.pairwise_singleton _ _, fun other hother added hadded => by
        rw [List.mem_singleton.mp hadded]
        exact hclash other hother⟩
    · rw [List.mem_append, List.mem_singleton] at hother
      rcases hother with hother | rfl
      · exact t.valid.checked other hother
      · exact hcheck
  simpa [Ensures, insertOrIgnore, StateT.run, hcheck, hvalid] using h _ rfl

section Inserted

variable {row : ρ} (h : t'.rows = t.rows ++ [row])

include h

theorem lookup_inserted_none : t.lookup (schema.key row) = none := by
  rw [lookup_eq_none_iff]
  intro other hother
  have hkeys := t'.valid.keys
  rw [h, List.pairwise_append] at hkeys
  exact hkeys.2.2 other hother row (List.mem_singleton_self row)

theorem lookup_inserted (k : κ) :
    t'.lookup k = if k = schema.key row then some row else t.lookup k := by
  split
  · rename_i hk
    rw [hk]
    exact lookup_of_mem (by simp [h])
  · rename_i hk
    apply lookup_congr
    intro other hkey
    have hne : other ≠ row := by
      rintro rfl
      exact hk hkey.symm
    simp [h, hne]

theorem lookup_inserted_of_some {k : κ} {other : ρ} (hother : t.lookup k = some other) :
    t'.lookup k = some other := by
  rw [lookup_inserted h, if_neg, hother]
  rintro rfl
  rw [lookup_inserted_none h] at hother
  cases hother

end Inserted

/-! ## Updates -/

theorem ensures_update {violation : ε} {k : κ} {guard : ρ → Bool} {set : ρ → ρ}
    {failure : ε → Prop} {post : Option ρ → Table schema → Prop}
    (hviolation : failure violation)
    (h : ∀ t', t'.rows = t.replaced k guard set →
      post (((t.lookup k).filter guard).map set) t') :
    Ensures (update violation k guard set) failure t post := by
  simp only [Ensures, update, StateT.run]
  by_cases hvalid : schema.Valid (t.replaced k guard set)
  · simpa [hvalid] using h ⟨_, hvalid⟩ rfl
  · simpa [hvalid] using hviolation

section Replaced

variable {k : κ} {guard : ρ → Bool} {set : ρ → ρ}

theorem mem_replaced {row : ρ} :
    row ∈ t.replaced k guard set ↔ ∃ old ∈ t.rows,
      (schema.key old = k ∧ guard old = true ∧ row = set old) ∨
        (¬(schema.key old = k ∧ guard old = true) ∧ row = old) := by
  simp only [replaced, List.mem_map]
  refine exists_congr fun old => and_congr_right fun _ => ?_
  by_cases h : schema.key old = k ∧ guard old = true
  · rw [if_pos h]
    constructor
    · rintro rfl
      exact .inl ⟨h.1, h.2, rfl⟩
    · rintro (⟨_, _, rfl⟩ | ⟨hnot, _⟩)
      · rfl
      · exact absurd h hnot
  · rw [if_neg h]
    constructor
    · rintro rfl
      exact .inr ⟨h, rfl⟩
    · rintro (⟨hkey, hguard, _⟩ | ⟨_, rfl⟩)
      · exact absurd ⟨hkey, hguard⟩ h
      · rfl

/-- A statement that matches no row leaves the rows as they are. -/
theorem replaced_of_unmatched (h : (t.lookup k).filter guard = none) :
    t.replaced k guard set = t.rows := by
  have hid : ∀ row ∈ t.rows,
      (if schema.key row = k ∧ guard row = true then set row else row) = row := by
    intro row hmem
    apply if_neg
    rintro ⟨hkey, hguard⟩
    rw [lookup_eq_some_iff.mpr ⟨hmem, hkey⟩] at h
    simp [hguard] at h
  simpa [replaced] using List.map_congr_left hid

theorem update_unmatched {violation : ε} (h : (t.lookup k).filter guard = none) :
    (update violation k guard set).run t = .ok (none, t) := by
  simp [update, StateT.run, h, replaced_of_unmatched h, t.valid]

theorem lookup_replaced (h : t'.rows = t.replaced k guard set)
    (hset : ∀ row, schema.key (set row) = schema.key row) (k' : κ) :
    t'.lookup k' = if k' = k then
      (t.lookup k).map fun row => if guard row = true then set row else row
    else t.lookup k' := by
  apply Option.ext
  intro row
  rw [lookup_eq_some_iff, h, mem_replaced]
  by_cases hk : k' = k
  · subst hk
    simp only [if_true, Option.map_eq_some_iff]
    constructor
    · rintro ⟨⟨old, hmem, ⟨hkey, hguard, rfl⟩ | ⟨hnot, rfl⟩⟩, hrow⟩
      · exact ⟨old, lookup_eq_some_iff.mpr ⟨hmem, hkey⟩, if_pos hguard⟩
      · refine ⟨row, lookup_eq_some_iff.mpr ⟨hmem, hrow⟩, if_neg fun hguard => ?_⟩
        exact hnot ⟨hrow, hguard⟩
    · rintro ⟨old, hlookup, rfl⟩
      obtain ⟨hmem, hkey⟩ := lookup_eq_some_iff.mp hlookup
      by_cases hguard : guard old = true
      · rw [if_pos hguard]
        exact ⟨⟨old, hmem, .inl ⟨hkey, hguard, rfl⟩⟩, (hset old).trans hkey⟩
      · rw [if_neg hguard]
        exact ⟨⟨old, hmem, .inr ⟨fun h => hguard h.2, rfl⟩⟩, hkey⟩
  · rw [if_neg hk, lookup_eq_some_iff]
    constructor
    · rintro ⟨⟨old, hmem, ⟨hkey, _, rfl⟩ | ⟨_, rfl⟩⟩, hrow⟩
      · exact absurd (hrow.symm.trans ((hset old).trans hkey)) hk
      · exact ⟨hmem, hrow⟩
    · rintro ⟨hmem, hkey⟩
      refine ⟨⟨row, hmem, .inr ⟨?_, rfl⟩⟩, hkey⟩
      rintro ⟨hsame, _⟩
      exact hk (hkey.symm.trans hsame)

theorem total_replaced (h : t'.rows = t.replaced k guard set) {row : ρ}
    (hlookup : t.lookup k = some row) (hguard : guard row = true) (g : ρ → Int) :
    t'.total g = t.total g - g row + g (set row) := by
  obtain ⟨hmem, hkey⟩ := lookup_eq_some_iff.mp hlookup
  have hkeys := t.valid.keys
  rw [total, total, h, replaced]
  generalize t.rows = rows at hmem hkeys
  clear h hlookup
  induction rows with
  | nil => cases hmem
  | cons first rest ih =>
      rw [List.pairwise_cons] at hkeys
      by_cases hfirst : first = row
      · subst hfirst
        -- No later row has the key, so the rest of the sum is unchanged.
        have hrest : rest.map (fun other => if schema.key other = k ∧ guard other = true
            then set other else other) = rest := by
          refine (List.map_congr_left fun other hother => ?_).trans (List.map_id' rest)
          refine if_neg fun hsame => hkeys.1 other hother ?_
          rw [hkey, hsame.1]
        simp only [List.map_cons, hkey, hguard, and_self, if_true, hrest, List.sum_cons]
        omega
      · have hrow : row ∈ rest := by
          rcases List.mem_cons.mp hmem with heq | hrow
          · exact absurd heq.symm hfirst
          · exact hrow
        have hne : ¬(schema.key first = k ∧ guard first = true) := by
          rintro ⟨hsame, _⟩
          exact hkeys.1 row hrow (hsame.trans hkey.symm)
        have htail := ih hrow hkeys.2
        simp only [List.map_cons, if_neg hne, List.sum_cons] at htail ⊢
        omega

/-- An update right after an insertion that only the new row matches. -/
theorem replaced_inserted {row : ρ} (h : t'.rows = t.rows ++ [row])
    (hkey : schema.key row = k) (hguard : guard row = true) :
    t'.replaced k guard set = t.rows ++ [set row] := by
  have hnone := lookup_inserted_none h
  rw [hkey] at hnone
  have hold : t.rows.map (fun other => if schema.key other = k ∧ guard other = true
      then set other else other) = t.rows := by
    refine (List.map_congr_left fun other hother => ?_).trans (List.map_id' _)
    exact if_neg fun hsame => lookup_eq_none_iff.mp hnone other hother hsame.1
  rw [replaced, h, List.map_append, hold]
  simp [hkey, hguard]

end Replaced

/-- An update whose row is known to match writes that row and no other. -/
theorem ensures_update_of_lookup {violation : ε} {k : κ} {guard : ρ → Bool}
    {set : ρ → ρ} {failure : ε → Prop} {post : Option ρ → Table schema → Prop} {row : ρ}
    (hlookup : t.lookup k = some row) (hguard : guard row = true)
    (hset : ∀ other, schema.key (set other) = schema.key other)
    (hviolation : failure violation)
    (h : ∀ t' : Table schema,
      (∀ k', t'.lookup k' = if k' = k then some (set row) else t.lookup k') →
      (∀ g, t'.total g = t.total g - g row + g (set row)) → post (some (set row)) t') :
    Ensures (update violation k guard set) failure t post := by
  refine ensures_update hviolation fun t' hrows => ?_
  have hresult : ((t.lookup k).filter guard).map set = some (set row) := by
    simp [hlookup, hguard]
  rw [hresult]
  refine h t' (fun k' => ?_) (total_replaced hrows hlookup hguard)
  rw [lookup_replaced hrows hset, hlookup]
  simp [hguard]

/-- One row became another one under the same key, and no other row changed. -/
structure Written (before after : Table schema) (row row' : ρ) : Prop where
  stored : before.lookup (schema.key row) = some row
  lookup : ∀ k, after.lookup k = if k = schema.key row then some row' else before.lookup k
  total : ∀ g, after.total g = before.total g - g row + g row'

theorem ensures_update_written {violation : ε} {k : κ} {set : ρ → ρ} {failure : ε → Prop}
    {post : Option ρ → Table schema → Prop} {row : ρ} (hlookup : t.lookup k = some row)
    (hset : ∀ other, schema.key (set other) = schema.key other)
    (hviolation : failure violation)
    (h : ∀ t', Written t t' row (set row) → post (some (set row)) t') :
    Ensures (update violation k (fun _ => true) set) failure t post := by
  have hkey : schema.key row = k := key_of_lookup hlookup
  refine ensures_update_of_lookup hlookup rfl hset hviolation fun t' hafter htotal => ?_
  exact h t' ⟨by rwa [hkey], by rwa [hkey], htotal⟩

theorem ensures_updateAll {violation : ε} {set : ρ → ρ} {failure : ε → Prop}
    {post : PUnit → Table schema → Prop} (hvalid : schema.Valid (t.rows.map set))
    (h : ∀ t', t'.rows = t.rows.map set → post ⟨⟩ t') :
    Ensures (updateAll violation set) failure t post := by
  simpa [Ensures, updateAll, StateT.run, hvalid] using h ⟨_, hvalid⟩ rfl

theorem valid_replaced {k : κ} {guard : ρ → Bool} {set : ρ → ρ}
    (hset : ∀ row, schema.key (set row) = schema.key row)
    (hclash : ∀ first second, schema.clash (set first) second = schema.clash first second ∧
      schema.clash first (set second) = schema.clash first second)
    (hcheck : ∀ row, t.lookup k = some row → guard row = true →
      schema.check (set row) = true) : schema.Valid (t.replaced k guard set) := by
  refine valid_map (fun row => ?_) (fun first second => ?_) fun row hrow => ?_
  · split
    · exact hset row
    · rfl
  · split <;> split <;> simp [hclash]
  · split
    · rename_i hmatch
      exact hcheck row (lookup_eq_some_iff.mpr ⟨hrow, hmatch.1⟩) hmatch.2
    · exact t.valid.checked row hrow

/-- An update of a known row that keeps the constraints does not fail. -/
theorem ensures_update_valid {violation : ε} {k : κ} {guard : ρ → Bool}
    {set : ρ → ρ} {failure : ε → Prop} {post : Option ρ → Table schema → Prop} {row : ρ}
    (hlookup : t.lookup k = some row) (hguard : guard row = true)
    (hset : ∀ other, schema.key (set other) = schema.key other)
    (hclash : ∀ first second, schema.clash (set first) second = schema.clash first second ∧
      schema.clash first (set second) = schema.clash first second)
    (hcheck : schema.check (set row) = true)
    (h : ∀ t' : Table schema,
      (∀ k', t'.lookup k' = if k' = k then some (set row) else t.lookup k') →
      (∀ g, t'.total g = t.total g - g row + g (set row)) → post (some (set row)) t') :
    Ensures (update violation k guard set) failure t post := by
  have hvalid : schema.Valid (t.replaced k guard set) := by
    refine valid_replaced hset hclash fun other hother _ => ?_
    rw [hlookup, Option.some.injEq] at hother
    rwa [← hother]
  have hensures : Ensures (update violation k guard set) (fun _ => True) t post :=
    ensures_update_of_lookup hlookup hguard hset trivial h
  unfold Ensures update at hensures ⊢
  simp only [StateT.run, dif_pos hvalid] at hensures ⊢
  exact hensures

end Table

end MatchPlane.Library
