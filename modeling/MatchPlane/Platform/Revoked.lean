import MatchPlane.Platform.Closed
import MatchPlane.Platform.Routing

/-!
# Revocation

A revocation takes the next version of the slug for the registration that it disables.  It
fails if a package has taken this version before; otherwise it goes through, and nothing
brings the binding back.
-/

namespace MatchPlane.Platform

open MatchPlane.Library

/-! ## Rows that are written in place -/

section Rows

variable {κ ρ ε : Type} [DecidableEq κ] {schema : Schema κ ρ} {t t' : Table schema} {k : κ}
  {guard : ρ → Bool} {set : ρ → ρ} {row : ρ}

/-- An update that keeps the constraints does not fail. -/
theorem ensures_update_of_valid {violation : ε} {failure : ε → Prop}
    {post : Option ρ → Table schema → Prop} (hlookup : t.lookup k = some row)
    (hguard : guard row = true) (hset : ∀ other, schema.key (set other) = schema.key other)
    (hvalid : schema.Valid (t.replaced k guard set))
    (h : ∀ t', Table.Written t t' row (set row) → post (some (set row)) t') :
    Ensures (Table.update violation k guard set) failure t post := by
  have hensures : Ensures (Table.update violation k guard set) whatever t post := by
    refine Table.ensures_update_cases hset trivial (fun hnone => ?_)
      fun other t' hother _ hwritten => ?_
    · rw [hlookup, Option.filter_eq_none_iff] at hnone
      exact absurd hguard (hnone row rfl)
    · cases hlookup.symm.trans hother
      exact h t' hwritten
  unfold Ensures Table.update at hensures ⊢
  simp only [StateT.run, dif_pos hvalid] at hensures ⊢
  exact hensures

theorem ensures_update_of_invalid {violation : ε}
    {post : Option ρ → Table schema → Prop} (hvalid : ¬schema.Valid (t.replaced k guard set)) :
    Ensures (Table.update violation k guard set) whatever t post := by
  simp [Ensures, Table.update, StateT.run, hvalid, whatever]

/-- A write that only removes clashes keeps the constraints. -/
theorem valid_replaced_of_clash (hset : ∀ other, schema.key (set other) = schema.key other)
    (hclash : ∀ first ∈ t.rows, ∀ second ∈ t.rows, schema.key first ≠ schema.key second →
      schema.clash (if schema.key first = k ∧ guard first = true then set first else first)
        (if schema.key second = k ∧ guard second = true then set second else second) = true →
      schema.clash first second = true)
    (hcheck : ∀ other, t.lookup k = some other → guard other = true →
      schema.check (set other) = true) : schema.Valid (t.replaced k guard set) := by
  have hkey (other : ρ) : schema.key
      (if schema.key other = k ∧ guard other = true then set other else other) =
        schema.key other := by
    split
    · exact hset other
    · rfl
  refine ⟨?_, ?_, fun other hother => ?_⟩
  · rw [Table.replaced, List.pairwise_map]
    exact t.valid.keys.imp fun hne => by rwa [hkey, hkey]
  · rw [Table.replaced, List.pairwise_map]
    refine (List.pairwise_and_iff.mpr ⟨t.valid.keys, t.valid.unique⟩).imp_of_mem
      fun {first second} hfirst hsecond hdistinct => ?_
    by_contra hne
    rw [Bool.not_eq_false] at hne
    have hold := hclash first hfirst second hsecond hdistinct.1 hne
    rw [hdistinct.2] at hold
    cases hold
  · rw [Table.replaced, List.mem_map] at hother
    obtain ⟨old, hold, rfl⟩ := hother
    split
    · rename_i hmatch
      exact hcheck old (Table.lookup_eq_some_iff.mpr ⟨hold, hmatch.1⟩) hmatch.2
    · exact t.valid.checked old hold

theorem lookup_filtered {keep : ρ → Bool} (hrows : t'.rows = t.rows.filter keep) (k : κ) :
    t'.lookup k = (t.lookup k).filter keep := by
  apply Option.ext
  intro other
  rw [Table.lookup_eq_some_iff, hrows, List.mem_filter, Option.filter_eq_some_iff,
    Table.lookup_eq_some_iff]
  grind

/-- A search does not miss what it would not find. -/
theorem find_filtered {keep found : ρ → Bool} {rows : List ρ}
    (h : ∀ row ∈ rows, found row = true → keep row = true) :
    (rows.filter keep).find? found = rows.find? found := by
  induction rows with
  | nil => rfl
  | cons row rows ih =>
      have hrest := ih fun other hother => h other (List.mem_cons_of_mem _ hother)
      by_cases hfound : found row = true
      · simp [h row List.mem_cons_self hfound, hfound]
      · by_cases hkeep : keep row = true
        · simp [hkeep, hfound, hrest]
        · simp [hkeep, hfound, hrest]

end Rows

/-! ## Whether a revocation goes through -/

/-- A package of the slug has taken the version that the registration of the binding needs
to be disabled. -/
def Blocked (db : PlatformDatabase) (binding : Binding) : Prop :=
  ∃ registration ∈ db.registrations.rows, binding.registrationId = some registration.id ∧
    registration.state = .active ∧ ∃ other ∈ db.registrations.rows,
      other.line = registration.line ∧ other.version = registration.version + 1

/-- Only the organization and the error of a revoked binding may change. -/
def IsRevoked (db : PlatformDatabase) (binding : Binding) : Prop :=
  ∃ row, db.bindings.lookup binding.id = some row ∧ row.status = .revoked ∧
    row.registrationId = binding.registrationId

section Possible

variable {db : PlatformDatabase} {storeId : StoreId} {binding : Binding}

theorem valid_revoked (hbinding : db.bindings.lookup binding.id = some binding)
    (guard : Binding → Bool) :
    bindings.Valid (db.bindings.replaced binding.id guard Binding.revoke) := by
  refine valid_replaced_of_clash (fun _ => rfl) (fun first _ second _ _ => ?_)
    fun other hother _ => ?_
  · split <;> split <;> simp only [bindings, Binding.revoke, decide_eq_true_eq] <;> grind
  · cases hbinding.symm.trans hother
    have hcheck := db.bindings.valid.checked binding (Table.mem_of_lookup hbinding)
    simp only [bindings, Binding.revoke, decide_eq_true_eq] at hcheck ⊢
    exact ⟨hcheck.1, hcheck.2.1, hcheck.2.2.1, hcheck.2.2.2.1, hcheck.2.2.2.2.1, by decide +kernel⟩

theorem clash_comm (first second : Registration) :
    registrations.clash first second = registrations.clash second first := by
  simp only [registrations]
  grind

/-- A registration that is revoked clashes with the next version of its slug only. -/
theorem clash_revoke_iff {registration other : Registration}
    (hrow : registration ∈ db.registrations.rows) (hother : other ∈ db.registrations.rows)
    (hid : other.id ≠ registration.id) :
    registrations.clash registration.revoke other = true ↔
      other.line = registration.line ∧ other.version = registration.version + 1 := by
  have hdistinct : registrations.clash registration other = false := by
    by_contra hclash
    rw [Bool.not_eq_false] at hclash
    exact hid (congrArg _ (Table.eq_of_clash clash_comm hrow hother hclash).symm)
  simp only [registrations, decide_eq_false_iff_not, not_or] at hdistinct
  simp only [registrations, Registration.revoke, Registration.line, decide_eq_true_eq,
    Prod.mk.injEq]
  constructor
  · rintro (⟨htenant, hslug, hversion⟩ | hpackage | hbound)
    · exact ⟨⟨htenant.symm, hslug.symm⟩, hversion.symm⟩
    · exact absurd hpackage hdistinct.2.1
    · exact absurd hbound hdistinct.2.2
  · rintro ⟨⟨htenant, hslug⟩, hversion⟩
    exact .inl ⟨htenant.symm, hslug.symm, hversion.symm⟩

theorem valid_disabled_iff {registration : Registration} {guard : Registration → Bool}
    (hrow : registration ∈ db.registrations.rows) (hguard : guard registration = true) :
    registrations.Valid (db.registrations.replaced registration.id guard Registration.revoke) ↔
      ∀ other ∈ db.registrations.rows,
        ¬(other.line = registration.line ∧ other.version = registration.version + 1) := by
  constructor
  · intro hvalid other hother hnext
    have hid : other.id ≠ registration.id := by
      intro hid
      rw [eq_of_same_key hother hrow hid] at hnext
      omega
    have hrevoked : registration.revoke ∈
        db.registrations.replaced registration.id guard Registration.revoke :=
      List.mem_map.mpr ⟨registration, hrow, if_pos ⟨rfl, hguard⟩⟩
    have hkept : other ∈ db.registrations.replaced registration.id guard Registration.revoke :=
      List.mem_map.mpr ⟨other, hother, if_neg fun hmatch => hid hmatch.1⟩
    have hsame := Table.eq_of_clash (t := ⟨_, hvalid⟩) clash_comm hrevoked hkept
      ((clash_revoke_iff hrow hother hid).mpr hnext)
    exact hid (congrArg Registration.id hsame).symm
  · intro hfree
    have hself {other : Registration} (hother : other ∈ db.registrations.rows)
        (hkey : registrations.key other = registration.id) : other = registration :=
      eq_of_same_key hother hrow hkey
    refine valid_replaced_of_clash (fun _ => rfl)
      (fun first hfirst second hsecond hkeys hclash => ?_) fun other hother _ => ?_
    · split at hclash
      · rename_i hmatch
        cases hself hfirst hmatch.1
        split at hclash
        · rename_i hmatch'
          exact absurd hmatch'.1.symm hkeys
        · exact absurd ((clash_revoke_iff hrow hsecond fun hid => hkeys hid.symm).mp hclash)
            (hfree second hsecond)
      · split at hclash
        · rename_i hmatch'
          cases hself hsecond hmatch'.1
          rw [clash_comm] at hclash
          exact absurd ((clash_revoke_iff hrow hfirst hkeys).mp hclash) (hfree first hfirst)
        · exact hclash
    · have hcheck := db.registrations.valid.checked other (Table.mem_of_lookup hother)
      simp only [registrations, Registration.revoke, decide_eq_true_eq] at hcheck ⊢
      grind

variable [Jsonb]

/-- The binding itself can always be revoked. -/
theorem ensures_revoked (h : Consistent db)
    (hbinding : db.bindings.lookup binding.id = some binding) {guard : Binding → Bool}
    (hguard : guard binding = true) :
    Ensures (updateBinding storeId binding.id guard Binding.revoke) (fun _ => False) db
      fun _ _ => True := by
  unfold updateBinding
  have hmatch : (db.bindings.lookup binding.id).filter guard = some binding := by
    simp [hbinding, hguard]
  rw [ensures_bind, ensures_get, hmatch]
  dsimp only
  rw [ensures_bind, ensures_on]
  refine ensures_update_of_valid hbinding hguard (fun _ => rfl) (valid_revoked hbinding guard)
    fun bindings' hwritten => ?_
  have hrefers : ∀ store ∈ db.stores.rows, store.federationBindingId = some binding.id →
      store.refersTo binding.revoke = true := by
    intro store hstore hid
    obtain ⟨other, hother, hscope, horganization⟩ := (h.pointed store hstore).bound _ hid
    cases hbinding.symm.trans hother
    rw [Store.refersTo, decide_eq_true_eq]
    exact ⟨hscope.symm, horganization.symm⟩
  rw [ensures_ite]
  refine ⟨fun hforeign => ?_, fun _ => ?_⟩
  · obtain ⟨store, hstore, hboth⟩ := List.any_eq_true.mp hforeign
    rw [decide_eq_true_eq] at hboth
    exact absurd (hrefers store hstore hboth.1) hboth.2
  · have hinactive : binding.revoke.status ≠ .active := fun hactive => by cases hactive
    rw [ensures_bind]
    exact (ensures_reconcile (h.toScoped.writeBinding hwritten hrefers)
      fun hactive => absurd hactive hinactive).mono (fun _ h => h) fun _ _ _ => trivial

/-- What is left to do once the binding is revoked. -/
theorem ensures_revokeBinding_of (h : Consistent db)
    (hbinding : db.bindings.lookup binding.id = some binding)
    (hstatus : binding.status ≠ .revoked) {failure : PlatformError → Prop}
    {post : Binding → PlatformDatabase → Prop}
    (hrest : ∀ db', Consistent db' → db'.registrations = db.registrations →
      IsRevoked db' binding → Ensures (match binding.registrationId with
        | none => pure binding.revoke
        | some registrationId => do
            let _ ← updateRegistration storeId registrationId (fun row => row.state = .active)
              Registration.revoke
            pure binding.revoke : Tx Binding) failure db' post) :
    Ensures (revokeBinding storeId binding.id binding.tenantId) failure db post := by
  unfold revokeBinding
  rw [ensures_bind]
  have hguard : (decide (binding.tenantId = binding.tenantId ∧ binding.status ≠ .revoked)) =
      true := by simp [hstatus]
  have hrevoked : Ensures (updateBinding storeId binding.id
      (fun row => row.tenantId = binding.tenantId ∧ row.status ≠ .revoked) Binding.revoke)
      whatever db fun result db' => result = some binding.revoke ∧ Consistent db' ∧
        db'.registrations = db.registrations ∧ IsRevoked db' binding := by
    refine ensures_updateBinding h ⟨fun _ => rfl, fun _ => rfl⟩ (fun hmissed => ?_) ?_
    · rw [hbinding, Option.filter_eq_none_iff] at hmissed
      exact absurd hguard (hmissed binding rfl)
    · intro old bindings' db' hlookup _ hwritten hreconciled hconsistent
      cases hbinding.symm.trans hlookup
      refine ⟨rfl, hconsistent, hreconciled.records.1, binding.revoke, ?_, rfl, rfl⟩
      rw [hreconciled.records.2]
      exact hwritten.lookup_self
  refine ((ensures_revoked h hbinding hguard).and hrevoked).mono (fun _ h => h.1.elim) ?_
  rintro _ db' ⟨_, rfl, hconsistent, hregistrations, hisrevoked⟩
  rw [ensures_bind, ensures_require_some]
  exact hrest db' hconsistent hregistrations hisrevoked

theorem ensures_revokeBinding_possible (h : Consistent db)
    (hbinding : db.bindings.lookup binding.id = some binding)
    (hstatus : binding.status ≠ .revoked) (hfree : ¬Blocked db binding) :
    Ensures (revokeBinding storeId binding.id binding.tenantId) (fun _ => False) db
      fun _ _ => True := by
  refine ensures_revokeBinding_of h hbinding hstatus fun db' hconsistent hregistrations _ => ?_
  cases hid : binding.registrationId with
  | none => trivial
  | some registrationId =>
      dsimp only
      rw [ensures_bind]
      unfold updateRegistration
      rw [ensures_bind, ensures_get]
      cases hmatch : (db'.registrations.lookup registrationId).filter
          fun row => row.state = .active with
      | none => trivial
      | some registration =>
          obtain ⟨hlookup, hactive⟩ := Option.filter_eq_some_iff.mp hmatch
          cases Table.key_of_lookup hlookup
          dsimp only
          rw [ensures_bind, ensures_on]
          have hrow : registration ∈ db'.registrations.rows := Table.mem_of_lookup hlookup
          have hvalid : registrations.Valid (db'.registrations.replaced registration.id
              (fun row => row.state = .active) Registration.revoke) := by
            refine (valid_disabled_iff hrow hactive).mpr fun other hother hnext => hfree ?_
            rw [hregistrations] at hrow hother
            exact ⟨registration, hrow, hid, of_decide_eq_true hactive, other, hother, hnext⟩
          refine ensures_update_of_valid hlookup hactive (fun _ => rfl) hvalid
            fun registrations' hwritten => ?_
          have hinactive : registration.revoke.state ≠ .active := fun hstate => by cases hstate
          rw [ensures_bind]
          have hscoped := hconsistent.toScoped.writeRegistration hwritten rfl rfl
          exact (ensures_projectStoreRegistration hscoped
            fun hstate => absurd hstate hinactive).mono (fun _ h => h) fun _ _ _ => trivial

theorem ensures_revokeBinding_blocked (h : Consistent db)
    (hbinding : db.bindings.lookup binding.id = some binding)
    (hstatus : binding.status ≠ .revoked) (hblocked : Blocked db binding) :
    Ensures (revokeBinding storeId binding.id binding.tenantId) whatever db
      fun _ _ => False := by
  obtain ⟨registration, hrow, hid, hstate, other, hother, hnext⟩ := hblocked
  refine ensures_revokeBinding_of h hbinding hstatus fun db' _ hregistrations _ => ?_
  rw [← hregistrations] at hrow hother
  have hactive : (decide (registration.state = .active)) = true := decide_eq_true hstate
  have hlookup : db'.registrations.lookup registration.id = some registration :=
    Table.lookup_of_mem hrow
  rw [hid]
  dsimp only
  rw [ensures_bind]
  unfold updateRegistration
  have hmatch : (db'.registrations.lookup registration.id).filter
      (fun row => row.state = .active) = some registration := by
    simp [hlookup, hstate]
  rw [ensures_bind, ensures_get, hmatch]
  dsimp only
  rw [ensures_bind, ensures_on]
  refine ensures_update_of_invalid fun hvalid => ?_
  exact (valid_disabled_iff hrow hactive).mp hvalid other hother hnext

theorem accepts_revokeBinding_iff (h : Consistent db) (hbinding : binding ∈ db.bindings.rows)
    (hstatus : binding.status ≠ .revoked) :
    db.accepts (.revokeBinding storeId binding.id binding.tenantId) = true ↔
      ¬Blocked db binding := by
  have hlookup : db.bindings.lookup binding.id = some binding := Table.lookup_of_mem hbinding
  unfold PlatformDatabase.accepts
  rw [PlatformDatabase.transaction]
  constructor
  · intro haccepted hblocked
    have hfails : Ensures (do let _ ← revokeBinding storeId binding.id binding.tenantId : Tx PUnit)
        whatever db fun _ _ => False :=
      ensures_discard (ensures_revokeBinding_blocked h hlookup hstatus hblocked)
    obtain ⟨_, hfalse⟩ := post_of_succeeds hfails haccepted
    exact hfalse
  · intro hfree
    have hgoes : Ensures (do let _ ← revokeBinding storeId binding.id binding.tenantId : Tx PUnit)
        (fun _ => False) db fun _ _ => True := by
      rw [ensures_bind]
      exact (ensures_revokeBinding_possible h hlookup hstatus hfree).mono (fun _ h => h)
        fun _ _ _ => trivial
    exact hgoes.succeeds

end Possible

/-! ## What a revocation leaves -/

section Final

variable {db db' : PlatformDatabase} {action : PlatformAction} {binding : Binding}

theorem IsRevoked.write {old new : Binding} {bindings' : Table bindings}
    (h : IsRevoked db binding) (hwritten : Table.Written db.bindings bindings' old new)
    (hnew : old.status = .revoked →
      new.status = .revoked ∧ new.registrationId = old.registrationId) :
    ∃ row, bindings'.lookup binding.id = some row ∧ row.status = .revoked ∧
      row.registrationId = binding.registrationId := by
  obtain ⟨row, hlookup, hstatus, hregistration⟩ := h
  by_cases hid : binding.id = old.id
  · rw [hid] at hlookup ⊢
    cases hwritten.stored.symm.trans hlookup
    exact ⟨new, hwritten.lookup_self, (hnew hstatus).1, (hnew hstatus).2.trans hregistration⟩
  · exact ⟨row, (hwritten.lookup_of_ne hid).trans hlookup, hstatus, hregistration⟩

/-- No move brings a revoked binding back. -/
theorem IsRevoked.move [Jsonb] (h : IsRevoked db binding) (hmove : PlatformMove db action db') :
    IsRevoked db' binding := by
  unfold IsRevoked
  cases hmove with
  | aside _ _ _ _ hbindings =>
      rw [hbindings]
      exact h
  | enrolled _ _ _ _ _ _ _ _ _ _ _ hrows =>
      obtain ⟨row, hlookup, hrevoked⟩ := h
      exact ⟨row, Table.lookup_inserted_of_some hrows hlookup, hrevoked⟩
  | linked _ _ _ _ _ _ hwritten hreconciled =>
      rw [hreconciled.records.2]
      exact h.write hwritten fun hstatus => ⟨hstatus, rfl⟩
  | probed _ _ _ _ _ hstatus hwritten hreconciled =>
      rw [hreconciled.records.2]
      exact h.write hwritten fun hrevoked => absurd hrevoked hstatus
  | promoted _ _ _ _ _ _ _ hstatus _ _ hwritten hreconciled =>
      rw [hreconciled.records.2]
      refine h.write hwritten fun hrevoked => ?_
      simp [BindingStatus.isPromotable, hrevoked] at hstatus
  | federated _ _ _ _ _ _ _ _ hstatus _ _ hreprojected hwritten hreconciled =>
      rw [hreprojected.records.2] at hwritten
      rw [hreconciled.records.2]
      refine h.write hwritten fun hrevoked => ?_
      simp [BindingStatus.isPromotable, hrevoked] at hstatus
  | revoked _ _ _ _ _ _ hwritten hreconciled =>
      rw [hreconciled.records.2]
      exact h.write hwritten fun _ => ⟨rfl, rfl⟩
  | disabled _ _ _ _ _ _ _ _ _ _ hwritten hreconciled _ hreprojected =>
      rw [hreprojected.records.2, hreconciled.records.2]
      exact h.write hwritten fun _ => ⟨rfl, rfl⟩
  | activated _ _ _ _ _ _ _ _ _ _ _ _ _ _ _ hreprojected =>
      rw [hreprojected.records.2]
      exact h
  | registered => exact h
  | claimed => exact h
  | built => exact h
  | failed => exact h
  | renewed => exact h
  | changed => exact h
  | profiled => exact h
  | opened => exact h

theorem PlatformDatabase.Reachable.isRevoked [Jsonb] (h : db.Reachable)
    (hrevoked : IsRevoked db binding) (actions : List PlatformAction) :
    IsRevoked (db.run actions) binding := by
  induction actions generalizing db with
  | nil => exact hrevoked
  | cons action actions ih =>
      refine ih (h.step action) ?_
      rcases db.step_cases h.consistent action with ⟨_, hsame⟩ | ⟨_, hmoved⟩
      · rwa [hsame]
      · exact hrevoked.move hmoved.2

/-- An accepted revocation has revoked the binding. -/
theorem isRevoked_of_accepts [Jsonb] (h : Consistent db) {storeId : StoreId}
    (hbinding : db.bindings.lookup binding.id = some binding)
    (hstatus : binding.status ≠ .revoked)
    (haccepted : db.accepts (.revokeBinding storeId binding.id binding.tenantId) = true) :
    IsRevoked (db.step (.revokeBinding storeId binding.id binding.tenantId)) binding := by
  have hensures : Ensures (PlatformDatabase.transaction
      (.revokeBinding storeId binding.id binding.tenantId)) whatever db fun _ db' =>
        IsRevoked db' binding := by
    rw [PlatformDatabase.transaction]
    refine ensures_discard (ensures_revokeBinding_of h hbinding hstatus
      fun db' hconsistent _ hrevoked => ?_)
    cases binding.registrationId with
    | none => exact hrevoked
    | some registrationId =>
        dsimp only
        rw [ensures_bind]
        refine ensures_updateRegistration hconsistent keepsPlace_revoke (fun _ => hrevoked) ?_
        intro old registrations' db'' _ _ _ hreprojected _
        obtain ⟨row, hrow, hrest⟩ := hrevoked
        exact ⟨row, by rw [hreprojected.records.2]; exact hrow, hrest⟩
  obtain ⟨_, hrevoked⟩ := post_of_succeeds hensures haccepted
  exact hrevoked

end Final

/-! ## Queries -/

/-- The database without a binding. -/
def PlatformDatabase.withoutBinding (db : PlatformDatabase) (id : BindingId) :
    PlatformDatabase :=
  { db with
    bindings :=
      { rows := db.bindings.rows.filter fun row => row.id ≠ id
        valid := ⟨db.bindings.valid.keys.filter _, db.bindings.valid.unique.filter _,
          fun row hrow => db.bindings.valid.checked row (List.mem_filter.mp hrow).1⟩ } }

section Queries

variable {db : PlatformDatabase} {id : BindingId} {row : Binding}

theorem find_withoutBinding (hrow : db.bindings.lookup id = some row)
    (hstatus : row.status = .revoked) {found : Binding → Bool}
    (hfound : ∀ binding, found binding = true → binding.status = .active) :
    (db.withoutBinding id).bindings.rows.find? found = db.bindings.rows.find? found := by
  refine find_filtered fun binding hbinding hmatch => decide_eq_true fun hid => ?_
  have hkey : row.id = id := Table.key_of_lookup hrow
  rw [eq_of_same_key hbinding (Table.mem_of_lookup hrow) (hid.trans hkey.symm)] at hmatch
  rw [hfound row hmatch] at hstatus
  cases hstatus

theorem activeBinding_withoutBinding (hrow : db.bindings.lookup id = some row)
    (hstatus : row.status = .revoked) :
    (db.withoutBinding id).activeBinding = db.activeBinding := by
  funext registration
  refine find_withoutBinding hrow hstatus fun binding hmatch => ?_
  rw [decide_eq_true_eq] at hmatch
  exact hmatch.2

theorem routedBinding_withoutBinding (hrow : db.bindings.lookup id = some row)
    (hstatus : row.status = .revoked) :
    (db.withoutBinding id).routedBinding = db.routedBinding := by
  funext store registration
  unfold PlatformDatabase.routedBinding
  cases store.federationBindingId with
  | none => rfl
  | some other =>
      have hlookup : (db.withoutBinding id).bindings.lookup other =
          (db.bindings.lookup other).filter fun row => row.id ≠ id := lookup_filtered rfl other
      rw [Option.bind_some, Option.bind_some, hlookup, Option.filter_filter]
      cases hother : db.bindings.lookup other with
      | none => rfl
      | some binding =>
          by_cases hid : binding.id = id
          · have hkey : binding.id = other := Table.key_of_lookup hother
            rw [← hkey, hid, hrow, Option.some.injEq] at hother
            subst hother
            simp [Option.filter, hstatus]
          · simp [Option.filter, hid]

theorem descend_withoutBinding (tenantId : TenantId) (depth : Nat) (node : TreeNode) :
    (db.withoutBinding id).descend tenantId depth node = db.descend tenantId depth node := by
  induction depth generalizing node with
  | zero => rfl
  | succ depth ih =>
      simp only [PlatformDatabase.descend, ih]
      rfl

theorem isBelow_withoutBinding (ancestor : OrganizationId) (depth : Nat) :
    (db.withoutBinding id).isBelow ancestor depth = db.isBelow ancestor depth := by
  induction depth with
  | zero => rfl
  | succ depth ih =>
      funext other
      simp only [PlatformDatabase.isBelow, ih]
      rfl

variable [Jsonb]

theorem readActiveStoreRoutes_withoutBinding (hrow : db.bindings.lookup id = some row)
    (hstatus : row.status = .revoked) (tenantId : TenantId) (viewer : Viewer) :
    (db.withoutBinding id).readActiveStoreRoutes tenantId viewer =
      db.readActiveStoreRoutes tenantId viewer := by
  have hrouted : (db.withoutBinding id).isRouted tenantId viewer = db.isRouted tenantId viewer := by
    funext store
    simp only [PlatformDatabase.isRouted, routedBinding_withoutBinding hrow hstatus]
    rfl
  have hroute (store : Store) (path : String) :
      (db.withoutBinding id).storeRoute store path = db.storeRoute store path := by
    simp only [PlatformDatabase.storeRoute, routedBinding_withoutBinding hrow hstatus]
    rfl
  simp only [PlatformDatabase.readActiveStoreRoutes, hrouted, hroute]
  rfl

theorem readActiveDirectChildRoutes_withoutBinding (hrow : db.bindings.lookup id = some row)
    (hstatus : row.status = .revoked) (platformPath : String) (tenantId : TenantId)
    (viewer : Viewer) :
    (db.withoutBinding id).readActiveDirectChildRoutes platformPath tenantId viewer =
      db.readActiveDirectChildRoutes platformPath tenantId viewer := by
  have htree : (db.withoutBinding id).platformTree tenantId = db.platformTree tenantId := by
    simp only [PlatformDatabase.platformTree, descend_withoutBinding]
    rfl
  have hvisible (registration : Registration) (organization : Organization) :
      (db.withoutBinding id).isVisible viewer registration organization =
        db.isVisible viewer registration organization := by
    simp only [PlatformDatabase.isVisible, activeBinding_withoutBinding hrow hstatus,
      isBelow_withoutBinding]
  have hroute (registration : Registration) :
      (db.withoutBinding id).registrationRoute platformPath registration =
        db.registrationRoute platformPath registration := by
    simp only [PlatformDatabase.registrationRoute, activeBinding_withoutBinding hrow hstatus]
  simp only [PlatformDatabase.readActiveDirectChildRoutes, htree, hvisible, hroute,
    readActiveStoreRoutes_withoutBinding hrow hstatus]
  rfl

omit [Jsonb] in
theorem resolveSubplatformMcpEndpoint_withoutBinding
    (hrow : db.bindings.lookup id = some row) (hstatus : row.status = .revoked)
    (environment : EndpointEnvironment) (serverKey : String) :
    resolveSubplatformMcpEndpoint environment (db.withoutBinding id) serverKey =
      resolveSubplatformMcpEndpoint environment db serverKey := by
  have hfind (tenantId : TenantId) : ((db.withoutBinding id).bindings.rows.find? fun binding =>
      binding.tenantId = tenantId ∧ binding.mcpServerKey = serverKey ∧
        binding.status = .active) = db.bindings.rows.find? fun binding =>
          binding.tenantId = tenantId ∧ binding.mcpServerKey = serverKey ∧
            binding.status = .active := by
    refine find_withoutBinding hrow hstatus fun binding hmatch => ?_
    rw [decide_eq_true_eq] at hmatch
    exact hmatch.2.2
  simp only [resolveSubplatformMcpEndpoint, hfind]

end Queries

/-! ## Revocations -/

variable [Jsonb]

/-- The binding is revoked for good, and nothing uses its row. -/
structure RevokedForGood (db : PlatformDatabase) (binding : Binding) : Prop where
  revoked : ∃ row, db.bindings.lookup binding.id = some row ∧ row.status = .revoked
  retired : ∀ row ∈ db.registrations.rows, row.federationBindingId = some binding.id ∨
    binding.registrationId = some row.id → row.state ≠ .active
  suspended : ∀ store ∈ db.stores.rows, store.federationBindingId = some binding.id ∨
    (binding.registrationId.isSome ∧ store.currentRegistrationId = binding.registrationId) →
      store.status ≠ .active
  unrouted : ∀ platformPath tenantId viewer,
    (db.withoutBinding binding.id).readActiveDirectChildRoutes platformPath tenantId viewer =
      db.readActiveDirectChildRoutes platformPath tenantId viewer
  unresolved : ∀ environment serverKey,
    resolveSubplatformMcpEndpoint environment (db.withoutBinding binding.id) serverKey =
      resolveSubplatformMcpEndpoint environment db serverKey

/-- The binding can be revoked, and stays revoked in every later state. -/
def RevocationSound (db : PlatformDatabase) (binding : Binding) : Prop :=
  ∀ storeId, db.accepts (.revokeBinding storeId binding.id binding.tenantId) = true ∧
    ∀ actions, RevokedForGood
      ((db.step (.revokeBinding storeId binding.id binding.tenantId)).run actions) binding

theorem PlatformDatabase.Reachable.revokedForGood {db : PlatformDatabase} {binding : Binding}
    (h : db.Reachable) (hrevoked : IsRevoked db binding) : RevokedForGood db binding := by
  obtain ⟨row, hrow, hstatus, hregistration⟩ := hrevoked
  have hmem := Table.mem_of_lookup hrow
  have hid : row.id = binding.id := Table.key_of_lookup hrow
  have hretired : ∀ registration ∈ db.registrations.rows,
      registration.federationBindingId = some binding.id ∨
        binding.registrationId = some registration.id → registration.state ≠ .active := by
    rintro registration hmember (hbound | hown)
    · exact h.numbered.revoked row hmem hstatus registration hmember (by rw [hid]; exact hbound)
    · obtain ⟨other, hother, hback⟩ :=
        h.numbered.registered row hmem registration.id (hregistration.trans hown)
      have hlookup : db.registrations.lookup registration.id = some registration :=
        Table.lookup_of_mem hmember
      cases hlookup.symm.trans hother
      exact h.numbered.revoked row hmem hstatus registration hmember hback
  refine ⟨⟨row, hrow, hstatus⟩, hretired, fun store hstore hpoints hactive => ?_, ?_, ?_⟩
  · have hlive := h.consistent.live store hstore hactive
    rcases hpoints with hbound | ⟨hsome, hcurrent⟩
    · obtain ⟨other, hother, hotherstatus⟩ := hlive.binding binding.id hbound
      cases hrow.symm.trans hother
      rw [hstatus] at hotherstatus
      cases hotherstatus
    · obtain ⟨registrationId, hsome⟩ := Option.isSome_iff_exists.mp hsome
      obtain ⟨registration, hlookup, hstate⟩ :=
        hlive.registration registrationId (hcurrent.trans hsome)
      have hkey : registration.id = registrationId := Table.key_of_lookup hlookup
      exact hretired registration (Table.mem_of_lookup hlookup) (.inr (by rw [hsome, hkey]))
        hstate
  · exact readActiveDirectChildRoutes_withoutBinding hrow hstatus
  · exact resolveSubplatformMcpEndpoint_withoutBinding hrow hstatus

/-- A binding can be revoked for good unless a package has taken the next version. -/
theorem revocation_sound_iff (db : PlatformDatabase) (h : db.Reachable) (binding : Binding)
    (hbinding : binding ∈ db.bindings.rows) (hstatus : binding.status ≠ .revoked) :
    RevocationSound db binding ↔ ¬Blocked db binding := by
  constructor
  · intro hsound
    exact (accepts_revokeBinding_iff h.consistent hbinding hstatus).mp (hsound ⟨0⟩).1
  · intro hfree storeId
    have haccepted : db.accepts (.revokeBinding storeId binding.id binding.tenantId) = true :=
      (accepts_revokeBinding_iff h.consistent hbinding hstatus).mpr hfree
    have hlookup : db.bindings.lookup binding.id = some binding := Table.lookup_of_mem hbinding
    have hrevoked := isRevoked_of_accepts h.consistent hlookup hstatus haccepted
    have hstep := h.step (.revokeBinding storeId binding.id binding.tenantId)
    exact ⟨haccepted, fun actions =>
      (hstep.run actions).revokedForGood (hstep.isRevoked hrevoked actions)⟩

/-- The binding of the shop on its node. -/
def shopBinding : Binding :=
  shopActivation.promote ⟨1⟩ (@Enrollment.row plainJsonb shopEnrollment ⟨1⟩ shopInvite)

/-- The market with the shop on its node. -/
def enrolledMarket : PlatformDatabase := @PlatformDatabase.run plainJsonb shopMarket enrollShop

/-- A package of the shop has been registered as well. -/
def contestedMarket : PlatformDatabase :=
  @PlatformDatabase.run plainJsonb shopMarket
    (enrollShop ++ [.register ⟨2⟩ (shopRequest ⟨2⟩ "b")])

omit [Jsonb] in
theorem shop_revocable : @RevocationSound plainJsonb enrolledMarket shopBinding := by
  have hreachable : @PlatformDatabase.Reachable plainJsonb enrolledMarket :=
    ⟨shopMarket, _, shopMarket_initial, rfl⟩
  have hbinding : shopBinding ∈ enrolledMarket.bindings.rows := by decide +kernel
  refine (@revocation_sound_iff plainJsonb enrolledMarket hreachable shopBinding hbinding ?_).mpr ?_
  · exact fun hstatus => by cases hstatus
  · have honly : enrolledMarket.registrations.rows.all (·.version = 1) = true := by decide +kernel
    rintro ⟨registration, hrow, _, _, other, hother, _, hversion⟩
    have hfirst := List.all_eq_true.mp honly registration hrow
    have hsecond := List.all_eq_true.mp honly other hother
    rw [decide_eq_true_eq] at hfirst hsecond
    omega

omit [Jsonb] in
/-- Once a package of the slug is registered, the node cannot be revoked. -/
theorem contested_revocation_fails :
    @PlatformDatabase.Reachable plainJsonb contestedMarket ∧
      shopBinding ∈ contestedMarket.bindings.rows ∧ shopBinding.status ≠ .revoked ∧
      ¬@RevocationSound plainJsonb contestedMarket shopBinding := by
  refine ⟨⟨shopMarket, _, shopMarket_initial, rfl⟩, by decide +kernel,
    (fun hstatus => by cases hstatus), fun hsound => ?_⟩
  have hrefused : @PlatformDatabase.accepts plainJsonb contestedMarket
      (.revokeBinding ⟨1⟩ shopBinding.id shopBinding.tenantId) = false := by decide +kernel
  rw [(hsound ⟨1⟩).1] at hrefused
  cases hrefused

end MatchPlane.Platform
