import MatchPlane.Platform.Moves

/-!
# Releases of a slug

A tenant has at most one binding for a slug, so at most one remote registration: it takes
the first version, and gives it up only when its binding is revoked.  With the check of
the newest version, each slug keeps at most one active registration.
-/

namespace MatchPlane.Platform

open MatchPlane.Library

/-- Remote registrations and their bindings name each other, and the first version of a
slug stays taken. -/
structure Placed (db : PlatformDatabase) : Prop where
  /-- A slug is enrolled once. -/
  enrolled : ∀ first ∈ db.bindings.rows, ∀ second ∈ db.bindings.rows,
    first.line = second.line → first = second
  remote : ∀ row ∈ db.registrations.rows, ∀ id, row.federationBindingId = some id →
    ∃ binding, db.bindings.lookup id = some binding ∧ binding.scope = row.scope ∧
      binding.registrationId = some row.id
  registered : ∀ binding ∈ db.bindings.rows, ∀ id, binding.registrationId = some id →
    ∃ row, db.registrations.lookup id = some row ∧ row.federationBindingId = some binding.id
  /-- The first version is taken, unless the remote node that had it is revoked. -/
  started : ∀ row ∈ db.registrations.rows,
    (∃ first ∈ db.registrations.rows, first.line = row.line ∧ first.version = 1) ∨
      ∃ binding ∈ db.bindings.rows, binding.line = row.line ∧ binding.status = .revoked
  unbuilt : ∀ row ∈ db.registrations.rows, row.sourceKind = .remote →
    row.state = .active ∨ row.state = .disabled

structure Numbered (db : PlatformDatabase) : Prop extends Placed db where
  single : ∀ first ∈ db.registrations.rows, ∀ second ∈ db.registrations.rows,
    first.line = second.line → first.state = .active → second.state = .active → first = second
  revoked : ∀ binding ∈ db.bindings.rows, binding.status = .revoked →
    ∀ row ∈ db.registrations.rows, row.federationBindingId = some binding.id →
      row.state ≠ .active

section Lines

theorem line_of_scope {first second : Registration} (h : first.scope = second.scope) :
    first.line = second.line := by
  simp only [Registration.scope, Prod.mk.injEq] at h
  rw [Registration.line, Registration.line, h.1, h.2.2]

theorem line_of_binding {binding : Binding} {row : Registration}
    (h : binding.scope = row.scope) : binding.line = row.line := by
  simp only [Binding.scope, Registration.scope, Prod.mk.injEq] at h
  rw [Binding.line, Registration.line, h.1, h.2.2]

theorem Binding.line_of_scope {first second : Binding} (h : first.scope = second.scope) :
    first.line = second.line := by
  simp only [Binding.scope, Prod.mk.injEq] at h
  rw [Binding.line, Binding.line, h.1, h.2.2]

end Lines

section Rows

variable {κ ρ : Type} [DecidableEq κ] {schema : Schema κ ρ} {t t' : Table schema}

/-- A row that a write of one row has left in the table. -/
theorem mem_of_written {old new row : ρ} (hwritten : Table.Written t t' old new)
    (hrow : row ∈ t.rows) (hne : schema.key row ≠ schema.key old) : row ∈ t'.rows :=
  Table.mem_of_lookup ((hwritten.lookup_of_ne hne).trans (Table.lookup_of_mem hrow))

theorem eq_of_same_key {first second : ρ} (hfirst : first ∈ t.rows) (hsecond : second ∈ t.rows)
    (hkey : schema.key first = schema.key second) : first = second := by
  have hlookup := Table.lookup_of_mem hfirst
  rw [hkey, Table.lookup_of_mem hsecond] at hlookup
  exact (Option.some.inj hlookup).symm

end Rows

section Preserved

variable {db db' : PlatformDatabase}

theorem Numbered.of_same (h : Numbered db) (hregistrations : db'.registrations = db.registrations)
    (hbindings : db'.bindings = db.bindings) : Numbered db' := by
  obtain ⟨⟨henrolled, hremote, hregistered, hstarted, hunbuilt⟩, hsingle, hrevoked⟩ := h
  rw [← hregistrations, ← hbindings] at *
  exact ⟨⟨henrolled, hremote, hregistered, hstarted, hunbuilt⟩, hsingle, hrevoked⟩

/-- A write of a binding that keeps its scope and its registration. -/
theorem Placed.writeBinding (h : Placed db) {old new : Binding} {bindings' : Table bindings}
    (hwritten : Table.Written db.bindings bindings' old new) (hid : new.id = old.id)
    (hscope : new.scope = old.scope) (hregistration : new.registrationId = old.registrationId)
    (hkept : old.status = .revoked → new.status = .revoked) :
    Placed { db with bindings := bindings' } := by
  have hold : old ∈ db.bindings.rows := Table.mem_of_lookup hwritten.stored
  have hline : new.line = old.line := Binding.line_of_scope hscope
  refine ⟨fun first hfirst second hsecond hsame => ?_, fun row hrow id hrowid => ?_,
    fun binding hbinding id hbound => ?_, fun row hrow => ?_, h.unbuilt⟩
  · rcases hwritten.mem_cases hfirst with rfl | ⟨hfirst, hfirstne⟩
    · rcases hwritten.mem_cases hsecond with rfl | ⟨hsecond, hsecondne⟩
      · rfl
      · rw [h.enrolled old hold second hsecond (hline.symm.trans hsame)] at hsecondne
        exact absurd rfl hsecondne
    · rcases hwritten.mem_cases hsecond with rfl | ⟨hsecond, _⟩
      · rw [h.enrolled first hfirst old hold (hsame.trans hline)] at hfirstne
        exact absurd rfl hfirstne
      · exact h.enrolled first hfirst second hsecond hsame
  · obtain ⟨binding, hlookup, hplace, hback⟩ := h.remote row hrow id hrowid
    by_cases hsame : id = old.id
    · subst hsame
      cases hwritten.stored.symm.trans hlookup
      exact ⟨new, hwritten.lookup_self, hscope.trans hplace, hregistration.trans hback⟩
    · exact ⟨binding, (hwritten.lookup_of_ne hsame).trans hlookup, hplace, hback⟩
  · rcases hwritten.mem_cases hbinding with rfl | ⟨hbinding, _⟩
    · rw [hid]
      exact h.registered old hold id (hregistration.symm.trans hbound)
    · exact h.registered binding hbinding id hbound
  · rcases h.started row hrow with hfirst | ⟨binding, hbinding, hplace, hstatus⟩
    · exact .inl hfirst
    · refine .inr ?_
      by_cases hsame : binding.id = old.id
      · cases eq_of_same_key hbinding hold hsame
        exact ⟨new, Table.mem_of_lookup hwritten.lookup_self, hline.trans hplace, hkept hstatus⟩
      · exact ⟨binding, mem_of_written hwritten hbinding hsame, hplace, hstatus⟩

/-- A write of a binding that keeps its scope and its registration, which is inactive if
the binding is revoked now. -/
theorem Numbered.writeBinding (h : Numbered db) {old new : Binding} {bindings' : Table bindings}
    (hwritten : Table.Written db.bindings bindings' old new) (hid : new.id = old.id)
    (hscope : new.scope = old.scope) (hregistration : new.registrationId = old.registrationId)
    (hkept : old.status = .revoked → new.status = .revoked)
    (hnew : new.status = .revoked → ∀ row ∈ db.registrations.rows,
      row.federationBindingId = some old.id → row.state ≠ .active) :
    Numbered { db with bindings := bindings' } := by
  refine ⟨h.toPlaced.writeBinding hwritten hid hscope hregistration hkept, h.single,
    fun binding hbinding hstatus => ?_⟩
  rcases hwritten.mem_cases hbinding with rfl | ⟨hbinding, _⟩
  · rw [hid]
    exact hnew hstatus
  · exact h.revoked binding hbinding hstatus

/-- A write of a registration that keeps its place; its version may change once the remote
node of the slug is revoked. -/
theorem Placed.writeRegistration (h : Placed db) {old new : Registration}
    {registrations' : Table registrations}
    (hwritten : Table.Written db.registrations registrations' old new) (hid : new.id = old.id)
    (hscope : new.scope = old.scope)
    (hbinding : new.federationBindingId = old.federationBindingId)
    (hversion : new.version = old.version ∨
      ∃ binding ∈ db.bindings.rows, binding.line = old.line ∧ binding.status = .revoked)
    (hunbuilt : new.sourceKind = .remote → new.state = .active ∨ new.state = .disabled) :
    Placed { db with registrations := registrations' } := by
  have hmem : old ∈ db.registrations.rows := Table.mem_of_lookup hwritten.stored
  have hnew : new ∈ registrations'.rows := Table.mem_of_lookup hwritten.lookup_self
  have hline : new.line = old.line := line_of_scope hscope
  refine ⟨h.enrolled, fun row hrow id hrowid => ?_, fun binding hmember id hbound => ?_,
    fun row hrow => ?_, fun row hrow hremote => ?_⟩
  · rcases hwritten.mem_cases hrow with rfl | ⟨hrow, _⟩
    · rw [hid, hscope]
      exact h.remote old hmem id (hbinding.symm.trans hrowid)
    · exact h.remote row hrow id hrowid
  · obtain ⟨row, hlookup, hback⟩ := h.registered binding hmember id hbound
    by_cases hsame : id = old.id
    · subst hsame
      cases hwritten.stored.symm.trans hlookup
      exact ⟨new, hwritten.lookup_self, hbinding.trans hback⟩
    · exact ⟨row, (hwritten.lookup_of_ne hsame).trans hlookup, hback⟩
  · have hstarted : ∀ other ∈ db.registrations.rows, other.line = row.line →
        (∃ first ∈ registrations'.rows, first.line = row.line ∧ first.version = 1) ∨
          ∃ binding ∈ db.bindings.rows, binding.line = row.line ∧ binding.status = .revoked := by
      intro other hother hotherline
      rcases h.started other hother with ⟨first, hfirst, hplace, hone⟩ | hrevoked
      · by_cases hsame : first.id = old.id
        · cases eq_of_same_key hfirst hmem hsame
          rw [hotherline] at hplace
          rcases hversion with hversion | hrevoked
          · exact .inl ⟨new, hnew, hline.trans hplace, hversion.trans hone⟩
          · rw [hplace] at hrevoked
            exact .inr hrevoked
        · exact .inl ⟨first, mem_of_written hwritten hfirst hsame, hplace.trans hotherline, hone⟩
      · rw [hotherline] at hrevoked
        exact .inr hrevoked
    rcases hwritten.mem_cases hrow with rfl | ⟨hrow, _⟩
    · exact hstarted old hmem hline.symm
    · exact hstarted row hrow rfl
  · rcases hwritten.mem_cases hrow with rfl | ⟨hrow, _⟩
    · exact hunbuilt hremote
    · exact h.unbuilt row hrow hremote

/-- A write of a registration that is neither active before nor after it. -/
theorem Numbered.writeRegistration (h : Numbered db) {old new : Registration}
    {registrations' : Table registrations}
    (hwritten : Table.Written db.registrations registrations' old new) (hid : new.id = old.id)
    (hscope : new.scope = old.scope)
    (hbinding : new.federationBindingId = old.federationBindingId)
    (hkind : new.sourceKind = old.sourceKind) (hversion : new.version = old.version)
    (hold : old.state ≠ .active ∧ old.state ≠ .disabled) (hnew : new.state ≠ .active) :
    Numbered { db with registrations := registrations' } := by
  have hmem : old ∈ db.registrations.rows := Table.mem_of_lookup hwritten.stored
  refine ⟨h.toPlaced.writeRegistration hwritten hid hscope hbinding (.inl hversion)
    (fun hremote => ?_), fun first hfirst second hsecond hsame hfirstactive hsecondactive => ?_,
    fun binding hmember hstatus row hrow hrowid => ?_⟩
  · rcases h.unbuilt old hmem (hkind.symm.trans hremote) with hstate | hstate
    · exact absurd hstate hold.1
    · exact absurd hstate hold.2
  · rcases hwritten.mem_cases hfirst with rfl | ⟨hfirst, _⟩
    · exact absurd hfirstactive hnew
    · rcases hwritten.mem_cases hsecond with rfl | ⟨hsecond, _⟩
      · exact absurd hsecondactive hnew
      · exact h.single first hfirst second hsecond hsame hfirstactive hsecondactive
  · rcases hwritten.mem_cases hrow with rfl | ⟨hrow, _⟩
    · exact hnew
    · exact h.revoked binding hmember hstatus row hrow hrowid

/-- Registrations are disabled in place. -/
theorem Placed.disableRegistrations (h : Placed db) {selects : Registration → Bool}
    {registrations' : Table registrations}
    (hrows : registrations'.rows = db.registrations.rows.map
      fun row => if selects row then row.disable else row) :
    Placed { db with registrations := registrations' } := by
  have hlookup := Table.lookup_updatedAll hrows (by intro row; split <;> rfl)
  have hmem : ∀ row ∈ registrations'.rows, ∃ old ∈ db.registrations.rows,
      row = if selects old then old.disable else old := by
    intro row hrow
    rw [hrows, List.mem_map] at hrow
    obtain ⟨old, hold, rfl⟩ := hrow
    exact ⟨old, hold, rfl⟩
  have hkept (row : Registration) : (if selects row then row.disable else row).id = row.id ∧
      (if selects row then row.disable else row).scope = row.scope ∧
      (if selects row then row.disable else row).version = row.version ∧
      (if selects row then row.disable else row).sourceKind = row.sourceKind ∧
      (if selects row then row.disable else row).federationBindingId =
        row.federationBindingId := by
    split <;> exact ⟨rfl, rfl, rfl, rfl, rfl⟩
  refine ⟨h.enrolled, fun row hrow id hrowid => ?_, fun binding hmember id hbound => ?_,
    fun row hrow => ?_, fun row hrow hremote => ?_⟩
  · obtain ⟨old, hold, rfl⟩ := hmem row hrow
    obtain ⟨hid, hscope, _, _, hbinding⟩ := hkept old
    rw [hid, hscope]
    exact h.remote old hold id (hbinding.symm.trans hrowid)
  · obtain ⟨row, hrow, hback⟩ := h.registered binding hmember id hbound
    refine ⟨_, (hlookup id).trans (congrArg (Option.map _) hrow), ?_⟩
    exact (hkept row).2.2.2.2.trans hback
  · obtain ⟨old, hold, rfl⟩ := hmem row hrow
    rw [line_of_scope (hkept old).2.1]
    rcases h.started old hold with ⟨first, hfirst, hplace, hone⟩ | hrevoked
    · refine .inl ⟨_, ?_, (line_of_scope (hkept first).2.1).trans hplace,
        (hkept first).2.2.1.trans hone⟩
      change _ ∈ registrations'.rows
      rw [hrows]
      exact List.mem_map_of_mem hfirst
    · exact .inr hrevoked
  · obtain ⟨old, hold, rfl⟩ := hmem row hrow
    have hunbuilt := h.unbuilt old hold ((hkept old).2.2.2.1.symm.trans hremote)
    split
    · exact .inr rfl
    · exact hunbuilt

end Preserved

section Moves

variable [Jsonb] {db db' : PlatformDatabase}

omit [Jsonb] in
/-- The registration that a binding is promoted on is its own one already. -/
theorem Placed.registrationId_of_remoteRelease (h : Placed db) (hconsistent : Consistent db)
    {binding : Binding} (hbinding : db.bindings.lookup binding.id = some binding)
    {existing : Registration} (hexisting : db.remoteRelease binding = some existing) :
    binding.registrationId = some existing.id := by
  have hmem := List.mem_filter.mp (mem_of_firstBy hexisting)
  rw [decide_eq_true_eq] at hmem
  obtain ⟨hrow, hown | ⟨hline, hkind⟩⟩ := hmem
  · obtain ⟨other, hother, _, hback⟩ := h.remote existing hrow binding.id hown
    cases hbinding.symm.trans hother
    exact hback
  · obtain ⟨id, hid⟩ := Option.isSome_iff_exists.mp ((hconsistent.remote existing hrow).mp hkind)
    obtain ⟨other, hother, hplace, hback⟩ := h.remote existing hrow id hid
    rw [h.enrolled binding (Table.mem_of_lookup hbinding) other (Table.mem_of_lookup hother)
      (hline.symm.trans (line_of_binding hplace).symm)]
    exact hback

theorem Numbered.enroll (h : Numbered db) {bindingId : BindingId} {enrollment : Enrollment}
    {invite : Invite} {bindings' : Table bindings}
    (hfree : ∀ binding ∈ db.bindings.rows,
      enrollment.isDuplicate invite.tenantId binding = false)
    (hrows : bindings'.rows = db.bindings.rows ++ [enrollment.row bindingId invite]) :
    Numbered { db with bindings := bindings' } := by
  have hcases : ∀ binding ∈ bindings'.rows,
      binding ∈ db.bindings.rows ∨ binding = enrollment.row bindingId invite := by
    intro binding hbinding
    rw [hrows, List.mem_append, List.mem_singleton] at hbinding
    exact hbinding
  have hunused : ∀ binding ∈ db.bindings.rows,
      binding.line ≠ (enrollment.row bindingId invite).line := by
    intro binding hbinding hline
    have hduplicate := hfree binding hbinding
    obtain ⟨htenant, hslug⟩ := Prod.mk.inj hline
    simp [Enrollment.isDuplicate, htenant, hslug, Enrollment.row] at hduplicate
  refine ⟨⟨fun first hfirst second hsecond hsame => ?_, fun row hrow id hid => ?_,
    fun binding hbinding id hbound => ?_, fun row hrow => ?_, h.unbuilt⟩, h.single,
    fun binding hbinding hstatus => ?_⟩
  · rcases hcases first hfirst with hfirst | rfl
    · rcases hcases second hsecond with hsecond | rfl
      · exact h.enrolled first hfirst second hsecond hsame
      · exact absurd hsame (hunused first hfirst)
    · rcases hcases second hsecond with hsecond | rfl
      · exact absurd hsame.symm (hunused second hsecond)
      · rfl
  · obtain ⟨binding, hbinding, hplace⟩ := h.remote row hrow id hid
    exact ⟨binding, Table.lookup_inserted_of_some hrows hbinding, hplace⟩
  · rcases hcases binding hbinding with hbinding | rfl
    · exact h.registered binding hbinding id hbound
    · cases hbound
  · rcases h.started row hrow with hfirst | ⟨binding, hbinding, hplace⟩
    · exact .inl hfirst
    · refine .inr ⟨binding, ?_, hplace⟩
      change binding ∈ bindings'.rows
      simp [hrows, hbinding]
  · rcases hcases binding hbinding with hbinding | rfl
    · exact h.revoked binding hbinding hstatus
    · cases hstatus

/-- The first registration of a binding takes the first version of its slug. -/
theorem Numbered.federate (h : Numbered db)
    {activation : BindingActivation} {old : Binding} {registrations' : Table registrations}
    {bindings' : Table bindings} (hstatus : old.status.isPromotable = true)
    (hnew : db.remoteRelease old = none)
    (hrows : registrations'.rows = db.registrations.rows ++ [activation.row old])
    (hwritten : Table.Written db.bindings bindings' old
      (activation.promote activation.registrationId old)) :
    Numbered { db with registrations := registrations', bindings := bindings' } := by
  have hold : old ∈ db.bindings.rows := Table.mem_of_lookup hwritten.stored
  have hunrevoked : old.status ≠ .revoked := by
    intro hrevoked
    simp [BindingStatus.isPromotable, hrevoked] at hstatus
  have hrow : activation.row old ∈ registrations'.rows := by simp [hrows]
  have hkept : ∀ row ∈ db.registrations.rows, row ∈ registrations'.rows := by
    intro row hmem
    simp [hrows, hmem]
  have hcases : ∀ row ∈ registrations'.rows,
      row ∈ db.registrations.rows ∨ row = activation.row old := by
    intro row hmem
    rw [hrows, List.mem_append, List.mem_singleton] at hmem
    exact hmem
  have hunowned : ∀ row ∈ db.registrations.rows, row.federationBindingId ≠ some old.id := by
    intro row hmem hown
    have hnone := List.filter_eq_nil_iff.mp (firstBy_eq_none_iff.mp hnew) row hmem
    simp [hown] at hnone
  have hrevoked : ∀ binding ∈ db.bindings.rows, binding.status = .revoked →
      binding ∈ bindings'.rows := by
    intro binding hbinding hbindingstatus
    refine mem_of_written hwritten hbinding fun hsame => ?_
    rw [eq_of_same_key hbinding hold hsame] at hbindingstatus
    exact hunrevoked hbindingstatus
  have hfirst : ∀ row ∈ db.registrations.rows, row.line ≠ old.line := by
    intro row hmem hline
    rcases h.started row hmem with ⟨first, hfirst, hplace, hone⟩ | ⟨binding, hbinding, hplace, hstate⟩
    · have hsame := Table.eq_of_clash (fun first second => ?_) (hkept first hfirst) hrow ?_
      · have hnone := Table.lookup_eq_none_iff.mp (Table.lookup_inserted_none hrows) first hfirst
        rw [hsame] at hnone
        exact hnone rfl
      · simp only [registrations]
        grind
      · obtain ⟨htenant, hslug⟩ := Prod.mk.inj (hplace.trans hline)
        simp [registrations, htenant, hslug, hone, BindingActivation.row]
    · rw [h.enrolled binding hbinding old hold (hplace.trans hline)] at hstate
      exact hunrevoked hstate
  refine ⟨⟨fun first hfirst second hsecond hsame => ?_, fun row hmem id hid => ?_,
    fun binding hbinding id hbound => ?_, fun row hmem => ?_, fun row hmem hremote => ?_⟩,
    fun first hmemfirst second hmemsecond hsame hfirstactive hsecondactive => ?_,
    fun binding hbinding hbindingstatus row hmem hrowid => ?_⟩
  · rcases hwritten.mem_cases hfirst with rfl | ⟨hfirst, hfirstne⟩
    · rcases hwritten.mem_cases hsecond with rfl | ⟨hsecond, hsecondne⟩
      · rfl
      · rw [h.enrolled old hold second hsecond hsame] at hsecondne
        exact absurd rfl hsecondne
    · rcases hwritten.mem_cases hsecond with rfl | ⟨hsecond, _⟩
      · rw [h.enrolled first hfirst old hold hsame] at hfirstne
        exact absurd rfl hfirstne
      · exact h.enrolled first hfirst second hsecond hsame
  · rcases hcases row hmem with hmem | rfl
    · obtain ⟨binding, hbinding, hplace⟩ := h.remote row hmem id hid
      refine ⟨binding, (hwritten.lookup_of_ne ?_).trans hbinding, hplace⟩
      rintro rfl
      exact hunowned row hmem hid
    · cases hid
      exact ⟨_, hwritten.lookup_self, rfl, rfl⟩
  · rcases hwritten.mem_cases hbinding with rfl | ⟨hbinding, _⟩
    · cases hbound
      exact ⟨_, Table.lookup_of_mem hrow, rfl⟩
    · obtain ⟨row, hlookup, hback⟩ := h.registered binding hbinding id hbound
      exact ⟨row, Table.lookup_inserted_of_some hrows hlookup, hback⟩
  · rcases hcases row hmem with hmem | rfl
    · rcases h.started row hmem with ⟨first, hfirst, hplace⟩ | ⟨binding, hbinding, hplace, hstate⟩
      · exact .inl ⟨first, hkept first hfirst, hplace⟩
      · exact .inr ⟨binding, hrevoked binding hbinding hstate, hplace, hstate⟩
    · exact .inl ⟨_, hrow, rfl, rfl⟩
  · rcases hcases row hmem with hmem | rfl
    · exact h.unbuilt row hmem hremote
    · exact .inl rfl
  · rcases hcases first hmemfirst with hmemfirst | rfl
    · rcases hcases second hmemsecond with hmemsecond | rfl
      · exact h.single first hmemfirst second hmemsecond hsame hfirstactive hsecondactive
      · exact absurd hsame (hfirst first hmemfirst)
    · rcases hcases second hmemsecond with hmemsecond | rfl
      · exact absurd hsame.symm (hfirst second hmemsecond)
      · rfl
  · rcases hwritten.mem_cases hbinding with rfl | ⟨hbinding, hne⟩
    · cases hbindingstatus
    · rcases hcases row hmem with hmem | rfl
      · exact h.revoked binding hbinding hbindingstatus row hmem hrowid
      · exact absurd (Option.some.inj hrowid).symm hne

omit [Jsonb] in
/-- The next version of a slug with no releases is the first one. -/
theorem nextVersion_eq_one {line : TenantId × String}
    (h : ∀ row ∈ db.registrations.rows, row.line ≠ line) : db.nextVersion line = 1 := by
  have hnone : db.registrations.rows.filter (fun row => row.line = line) = [] := by
    simpa using h
  simp [PlatformDatabase.nextVersion, hnone]

theorem Numbered.register (h : Numbered db) {request : RegistrationRequest}
    {registrations' : Table registrations} (hkind : request.sourceKind ≠ .remote)
    (hrows : registrations'.rows = db.registrations.rows ++
      [request.row (db.nextVersion (request.tenantId, request.slug))]) :
    Numbered { db with registrations := registrations' } := by
  have hcases : ∀ row ∈ registrations'.rows, row ∈ db.registrations.rows ∨
      row = request.row (db.nextVersion (request.tenantId, request.slug)) := by
    intro row hmem
    rw [hrows, List.mem_append, List.mem_singleton] at hmem
    exact hmem
  have hkept : ∀ row ∈ db.registrations.rows, row ∈ registrations'.rows := by
    intro row hmem
    simp [hrows, hmem]
  have hstarted : ∀ row ∈ db.registrations.rows,
      (∃ first ∈ registrations'.rows, first.line = row.line ∧ first.version = 1) ∨
        ∃ binding ∈ db.bindings.rows, binding.line = row.line ∧ binding.status = .revoked := by
    intro row hmem
    rcases h.started row hmem with ⟨first, hfirst, hplace⟩ | hrevoked
    · exact .inl ⟨first, hkept first hfirst, hplace⟩
    · exact .inr hrevoked
  refine ⟨⟨h.enrolled, fun row hmem id hid => ?_, fun binding hbinding id hbound => ?_,
    fun row hmem => ?_, fun row hmem hremote => ?_⟩,
    fun first hfirst second hsecond hsame hfirstactive hsecondactive => ?_,
    fun binding hbinding hstatus row hmem hrowid => ?_⟩
  · rcases hcases row hmem with hmem | rfl
    · exact h.remote row hmem id hid
    · cases hid
  · obtain ⟨row, hlookup, hback⟩ := h.registered binding hbinding id hbound
    exact ⟨row, Table.lookup_inserted_of_some hrows hlookup, hback⟩
  · rcases hcases row hmem with hmem | rfl
    · exact hstarted row hmem
    · by_cases hfirst : ∃ other ∈ db.registrations.rows,
          other.line = (request.tenantId, request.slug)
      · obtain ⟨other, hother, hline⟩ := hfirst
        have hotherstarted := hstarted other hother
        rw [hline] at hotherstarted
        exact hotherstarted
      · simp only [not_exists, not_and] at hfirst
        exact .inl ⟨_, hmem, rfl, nextVersion_eq_one hfirst⟩
  · rcases hcases row hmem with hmem | rfl
    · exact h.unbuilt row hmem hremote
    · exact absurd hremote hkind
  · rcases hcases first hfirst with hfirst | rfl
    · rcases hcases second hsecond with hsecond | rfl
      · exact h.single first hfirst second hsecond hsame hfirstactive hsecondactive
      · cases hsecondactive
    · cases hfirstactive
  · rcases hcases row hmem with hmem | rfl
    · exact h.revoked binding hbinding hstatus row hmem hrowid
    · cases hrowid

omit [Jsonb] in
/-- The binding is revoked together with its registration. -/
theorem Numbered.revoke (h : Numbered db) {old : Binding} {registration : Registration}
    {bindings' : Table bindings} {registrations' : Table registrations}
    (hid : old.registrationId = some registration.id)
    (hwritten : Table.Written db.bindings bindings' old old.revoke)
    (hdisabled : Table.Written db.registrations registrations' registration registration.revoke) :
    Numbered { db with bindings := bindings', registrations := registrations' } := by
  have hmem : old ∈ db.bindings.rows := Table.mem_of_lookup hwritten.stored
  have howned : registration.federationBindingId = some old.id := by
    obtain ⟨row, hrow, hback⟩ := h.registered old hmem registration.id hid
    cases hdisabled.stored.symm.trans hrow
    exact hback
  have hline : old.line = registration.line := by
    obtain ⟨binding, hbinding, hplace, _⟩ := h.remote registration
      (Table.mem_of_lookup hdisabled.stored) old.id howned
    cases hwritten.stored.symm.trans hbinding
    exact line_of_binding hplace
  have hplaced : Placed { db with bindings := bindings' } :=
    h.toPlaced.writeBinding hwritten rfl rfl rfl fun _ => rfl
  refine ⟨hplaced.writeRegistration hdisabled rfl rfl rfl
    (.inr ⟨old.revoke, Table.mem_of_lookup hwritten.lookup_self, hline, rfl⟩)
    (fun _ => .inr rfl), fun first hfirst second hsecond hsame hfirstactive hsecondactive => ?_,
    fun binding hbinding hstatus row hrow hrowid hactive => ?_⟩
  · rcases hdisabled.mem_cases hfirst with rfl | ⟨hfirst, _⟩
    · cases hfirstactive
    · rcases hdisabled.mem_cases hsecond with rfl | ⟨hsecond, _⟩
      · cases hsecondactive
      · exact h.single first hfirst second hsecond hsame hfirstactive hsecondactive
  · rcases hdisabled.mem_cases hrow with rfl | ⟨hrow, hne⟩
    · cases hactive
    · rcases hwritten.mem_cases hbinding with rfl | ⟨hbinding, _⟩
      · obtain ⟨other, hother, _, hback⟩ := h.remote row hrow old.id hrowid
        cases hwritten.stored.symm.trans hother
        exact hne (Option.some.inj (hback.symm.trans hid))
      · exact h.revoked binding hbinding hstatus row hrow hrowid hactive

omit [Jsonb] in
theorem version_le_of_activeRelease {line : TenantId × String} {active row : Registration}
    (hactive : db.activeRelease line = some active) (hrow : row ∈ db.registrations.rows)
    (hline : row.line = line) (hstate : row.state = .active) : row.version ≤ active.version := by
  have hmem : row ∈ db.registrations.rows.filter fun row =>
      row.line = line ∧ row.state = .active := by simp [hrow, hline, hstate]
  have hfirst := not_before_of_firstBy (by simp; omega) (by simp; omega) hactive hmem
  simpa using hfirst

omit [Jsonb] in
/-- The releases that an activation leaves active are not older than its target. -/
theorem Numbered.activate (h : Numbered db) (hconsistent : Consistent db) {target : Registration}
    {request : ActivationRequest} {registrations' registrations'' : Table registrations}
    (haccepts : request.accepts target.version target = true)
    (hnewest : ∀ active, db.activeRelease target.line = some active →
      active.version < target.version)
    (hwritten : Table.Written db.registrations registrations' target target.activate)
    (hrows : registrations''.rows = registrations'.rows.map fun row =>
      if target.activate.isOlder row then row.disable else row) :
    Numbered { db with registrations := registrations'' } := by
  have hmem : target ∈ db.registrations.rows := Table.mem_of_lookup hwritten.stored
  have hactivatable : target.state.isActivatable = true := by
    simp only [ActivationRequest.accepts, decide_eq_true_eq] at haccepts
    exact haccepts.1
  have hpackage : target.sourceKind ≠ .remote := by
    intro hremote
    rcases h.unbuilt target hmem hremote with hstate | hstate <;>
      simp [hstate, RegistrationState.isActivatable] at hactivatable
  have hplaced : Placed { db with registrations := registrations' } :=
    h.toPlaced.writeRegistration hwritten rfl rfl rfl (.inl rfl) fun hremote =>
      absurd hremote hpackage
  -- An active row of the result is the target, or was active and is not older.
  have hback : ∀ row ∈ registrations''.rows, row.state = .active → row = target.activate ∨
      (row ∈ db.registrations.rows ∧ row.line ≠ target.line) := by
    intro row hrow hactive
    rw [hrows, List.mem_map] at hrow
    obtain ⟨old, hold, rfl⟩ := hrow
    by_cases holder : target.activate.isOlder old = true
    · rw [if_pos holder] at hactive
      cases hactive
    · rw [if_neg holder] at hactive ⊢
      rcases hwritten.mem_cases hold with rfl | ⟨hold, hne⟩
      · exact .inl rfl
      · refine .inr ⟨hold, fun hline => holder (isOlder_iff.mpr ⟨hline, hne, hactive, ?_⟩)⟩
        cases hrelease : db.activeRelease target.line with
        | none =>
            have hnone := List.filter_eq_nil_iff.mp (firstBy_eq_none_iff.mp hrelease) old hold
            simp [hline, hactive] at hnone
        | some active =>
            exact Nat.lt_of_le_of_lt (version_le_of_activeRelease hrelease hold hline hactive)
              (hnewest active hrelease)
  refine ⟨hplaced.disableRegistrations hrows,
    fun first hfirst second hsecond hsame hfirstactive hsecondactive => ?_,
    fun binding hbinding hstatus row hrow hrowid hactive => ?_⟩
  · rcases hback first hfirst hfirstactive with rfl | ⟨hfirst, hfirstline⟩
    · rcases hback second hsecond hsecondactive with rfl | ⟨_, hsecondline⟩
      · rfl
      · exact absurd hsame.symm hsecondline
    · rcases hback second hsecond hsecondactive with rfl | ⟨hsecond, _⟩
      · exact absurd hsame hfirstline
      · exact h.single first hfirst second hsecond hsame hfirstactive hsecondactive
  · rcases hback row hrow hactive with rfl | ⟨hrow, _⟩
    · exact hpackage ((hconsistent.remote target hmem).mpr (Option.isSome_iff_exists.mpr
        ⟨_, hrowid⟩))
    · exact h.revoked binding hbinding hstatus row hrow hrowid hactive

/-- Moves keep the releases numbered. -/
theorem Numbered.move (h : Numbered db) (hconsistent : Consistent db) {action : PlatformAction}
    (hmove : PlatformMove db action db') : Numbered db' := by
  cases hmove with
  | aside _ _ _ hregistrations hbindings => exact h.of_same hregistrations hbindings
  | enrolled _ bindingId _ _ _ _ _ _ _ _ hfree hrows =>
      exact (h.enroll hfree hrows).of_same rfl rfl
  | linked _ _ old _ _ _ hwritten hreconciled =>
      have hbindings := h.writeBinding hwritten rfl rfl rfl (fun hstatus => hstatus)
        (h.revoked old (Table.mem_of_lookup hwritten.stored))
      exact hbindings.of_same hreconciled.records.1 hreconciled.records.2
  | probed _ probe old _ _ hstatus hwritten hreconciled =>
      have hbindings := h.writeBinding hwritten rfl rfl rfl
        (fun hrevoked => absurd hrevoked hstatus) fun hrevoked => by
          unfold Probe.record at hrevoked
          dsimp only at hrevoked
          split at hrevoked <;> cases hrevoked
      exact hbindings.of_same hreconciled.records.1 hreconciled.records.2
  | promoted _ _ old existing _ _ _ hstatus hexisting _ hwritten hreconciled =>
      have hown := h.toPlaced.registrationId_of_remoteRelease hconsistent hwritten.stored hexisting
      have hbindings := h.writeBinding hwritten rfl rfl hown.symm
        (fun hrevoked => by simp [BindingStatus.isPromotable, hrevoked] at hstatus)
        fun hrevoked => by cases hrevoked
      exact hbindings.of_same hreconciled.records.1 hreconciled.records.2
  | federated _ _ old _ _ _ _ _ hstatus hnew hrows hreprojected hwritten hreconciled =>
      rw [hreprojected.records.2] at hwritten
      refine (h.federate hstatus hnew hrows hwritten).of_same ?_ ?_
      · exact hreconciled.records.1.trans hreprojected.records.1
      · exact hreconciled.records.2
  | revoked _ old _ _ _ hregistration hwritten hreconciled =>
      have hbindings := h.writeBinding hwritten rfl rfl rfl (fun _ => rfl)
        fun _ row hrow hrowid => by
          obtain ⟨binding, hbinding, _, hback⟩ := h.remote row hrow old.id hrowid
          cases hwritten.stored.symm.trans hbinding
          exact hregistration row.id hback row (Table.lookup_of_mem hrow)
      exact hbindings.of_same hreconciled.records.1 hreconciled.records.2
  | disabled _ _ _ _ _ _ _ _ hid _ hwritten hreconciled hdisabled hreprojected =>
      rw [hreconciled.records.1] at hdisabled
      refine (h.revoke hid hwritten hdisabled).of_same hreprojected.records.1 ?_
      exact hreprojected.records.2.trans hreconciled.records.2
  | registered _ _ _ _ hkind _ hrows => exact (h.register hkind hrows).of_same rfl rfl
  | claimed _ claim old _ hclaimable hwritten =>
      have hstate := (isClaimable_iff.mp hclaimable).2.2
      refine h.writeRegistration hwritten rfl rfl rfl rfl rfl ?_ (fun hactive => by cases hactive)
      rcases hstate with hstate | ⟨hstate, _⟩ <;> simp [hstate]
  | built _ request old _ _ haccepts hwritten =>
      have hstate := (BuilderRequest.accepts_iff.mp haccepts).1
      simp only [List.mem_cons, List.not_mem_nil, or_false] at hstate
      refine h.writeRegistration hwritten rfl rfl rfl rfl rfl ?_ ?_
      · rcases hstate with hstate | hstate | hstate <;> simp [hstate]
      · rcases hstate with hstate | hstate | hstate <;> simp [BuilderRequest.attach, hstate]
  | failed _ _ _ _ old _ _ hstate _ hwritten =>
      refine h.writeRegistration hwritten rfl rfl rfl rfl rfl (by simp [hstate]) ?_
      unfold BuildFailure.record
      dsimp only
      split <;> exact fun hactive => by cases hactive
  | renewed => exact h.of_same rfl rfl
  | activated _ _ _ _ target _ _ _ _ _ _ _ haccepts hnewest hwritten hreprojected hrows =>
      rw [hreprojected.records.1] at hrows
      exact (h.activate hconsistent haccepts hnewest hwritten hrows).of_same rfl
        hreprojected.records.2
  | changed => exact h.of_same rfl rfl
  | profiled => exact h.of_same rfl rfl
  | opened => exact h.of_same rfl rfl

omit [Jsonb] in
theorem PlatformDatabase.Initial.numbered (h : db.Initial) : Numbered db := by
  refine ⟨⟨?_, ?_, ?_, ?_, ?_⟩, ?_, ?_⟩ <;> simp [h.bindings, h.registrations]

theorem PlatformDatabase.Reachable.numbered (h : db.Reachable) : Numbered db :=
  h.of_moves Numbered (fun _ hstart => hstart.numbered) fun _ _ _ hconsistent hmove hnumbered =>
    hnumbered.move hconsistent hmove

end Moves

end MatchPlane.Platform
