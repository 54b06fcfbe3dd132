import Mathlib
import MatchPlane.Library.Fallible
import MatchPlane.Library.JsonText

/-!
# Canonical texts of JSON values

The text of a value whose objects are written in the order of their keys.  It determines the
value up to the order of the fields of its objects, and up to what numbers are printed as.
-/

namespace MatchPlane.Library

/-! ## The order of the keys -/

/-- `left <= right` of two strings: the first units that differ decide. -/
def keyLe (left right : CodeUnits) : Bool := left.map UInt16.toNat ≤ right.map UInt16.toNat

def sortByKey {α : Type} (fields : List (CodeUnits × α)) : List (CodeUnits × α) :=
  fields.mergeSort fun first second => keyLe first.1 second.1

theorem keyLe_trans {first second third : CodeUnits} (h : keyLe first second = true)
    (h' : keyLe second third = true) : keyLe first third = true := by
  simp only [keyLe, decide_eq_true_eq] at h h' ⊢
  exact le_trans h h'

theorem keyLe_total (first second : CodeUnits) :
    (keyLe first second || keyLe second first) = true := by
  simp only [keyLe, Bool.or_eq_true, decide_eq_true_eq]
  exact le_total _ _

theorem keyLe_antisymm {first second : CodeUnits} (h : keyLe first second = true)
    (h' : keyLe second first = true) : first = second := by
  simp only [keyLe, decide_eq_true_eq] at h h'
  exact List.map_injective_iff.mpr (fun a b => UInt16.toNat_inj.mp) (le_antisymm h h')

section Sorting

variable {α β : Type} {fields others : List (CodeUnits × α)}

theorem sortByKey_perm (fields : List (CodeUnits × α)) : (sortByKey fields).Perm fields :=
  List.mergeSort_perm fields _

theorem pairwise_sortByKey (fields : List (CodeUnits × α)) :
    (sortByKey fields).Pairwise fun first second => keyLe first.1 second.1 = true := by
  apply List.pairwise_mergeSort
  · intro first second third
    exact keyLe_trans
  · intro first second
    exact keyLe_total first.1 second.1

/-- The order of fields with different keys does not matter. -/
theorem sortByKey_eq_iff (h : (fields.map Prod.fst).Nodup) :
    sortByKey fields = sortByKey others ↔ fields.Perm others := by
  constructor
  · intro hsame
    have hperm := sortByKey_perm others
    rw [← hsame] at hperm
    exact (sortByKey_perm fields).symm.trans hperm
  · intro hperm
    have hsorted : (sortByKey fields).Perm (sortByKey others) :=
      (sortByKey_perm fields).trans (hperm.trans (sortByKey_perm others).symm)
    refine hsorted.eq_of_pairwise ?_ (pairwise_sortByKey fields) (pairwise_sortByKey others)
    intro first second hfirst hsecond hle hge
    have hmem : first ∈ fields := (sortByKey_perm fields).mem_iff.mp hfirst
    have hmem' : second ∈ fields :=
      (sortByKey_perm fields).mem_iff.mp (hsorted.mem_iff.mpr hsecond)
    exact List.inj_on_of_nodup_map h hmem hmem' (keyLe_antisymm hle hge)

/-- Two objects are the same when each field of the first one is one of the second, and the
keys of the second are keys of the first. -/
theorem sortByKey_eq_iff_subset (h : (fields.map Prod.fst).Nodup)
    (h' : (others.map Prod.fst).Nodup) :
    sortByKey fields = sortByKey others ↔
      (∀ key, key ∈ fields.map Prod.fst ↔ key ∈ others.map Prod.fst) ∧
        ∀ field ∈ fields, field ∈ others := by
  rw [sortByKey_eq_iff h]
  constructor
  · intro hperm
    exact ⟨fun key => (hperm.map Prod.fst).mem_iff, fun field => hperm.mem_iff.mp⟩
  · rintro ⟨hkeys, hsubset⟩
    rw [List.perm_ext_iff_of_nodup h.of_map h'.of_map]
    refine fun field => ⟨hsubset field, fun hfield => ?_⟩
    obtain ⟨same, hsame, hkey⟩ := List.mem_map.mp
      ((hkeys field.1).mpr (List.mem_map_of_mem hfield))
    rwa [← List.inj_on_of_nodup_map h' (hsubset same hsame) hfield hkey]

theorem sortByKey_map (f : CodeUnits → α → β) (fields : List (CodeUnits × α)) :
    (sortByKey fields).map (fun field => (field.1, f field.1 field.2)) =
      sortByKey (fields.map fun field => (field.1, f field.1 field.2)) :=
  List.map_mergeSort fun _ _ _ _ => rfl

end Sorting

/-! ## Values up to what is printed -/

/-- What is printed of a number: there is one zero, and a number that is not finite is null. -/
def JsNumber.normal : JsNumber → JsValue
  | finite value => .number (.finite value)
  | negativeZero => .number (.finite 0)
  | infinite _ => .null
  | nan => .null

mutual

/-- The value that is printed, with the fields of objects in the order of their keys. -/
def JsValue.normal : JsValue → JsValue
  | .undefined => .undefined
  | .null => .null
  | .bool value => .bool value
  | .number value => value.normal
  | .string value => .string value
  | .array elements => .array (normalElements elements)
  | .object fields => .object (sortByKey (normalFields fields))

def normalElements : List JsValue → List JsValue
  | [] => []
  | element :: rest => element.normal :: normalElements rest

def normalFields : List (CodeUnits × JsValue) → List (CodeUnits × JsValue)
  | [] => []
  | (key, value) :: rest => (key, value.normal) :: normalFields rest

end

mutual

/-- A value without undefined parts whose objects have each key once, and whose numbers are
of a kind. -/
def JsValue.IsTree (kind : JsNumber → Prop) : JsValue → Prop
  | .undefined => False
  | .null => True
  | .bool _ => True
  | .number value => kind value
  | .string _ => True
  | .array elements => AreTrees kind elements
  | .object fields => (fields.map Prod.fst).Nodup ∧ FieldsAreTrees kind fields

def AreTrees (kind : JsNumber → Prop) : List JsValue → Prop
  | [] => True
  | element :: rest => element.IsTree kind ∧ AreTrees kind rest

def FieldsAreTrees (kind : JsNumber → Prop) : List (CodeUnits × JsValue) → Prop
  | [] => True
  | (_, value) :: rest => value.IsTree kind ∧ FieldsAreTrees kind rest

end

theorem isUndefined_normal {value : JsValue} (h : value ≠ .undefined) :
    value.normal.isUndefined = false := by
  cases value with
  | undefined => exact absurd rfl h
  | number number => cases number <;> rfl
  | _ => rfl

theorem normalElements_eq (elements : List JsValue) :
    normalElements elements = elements.map JsValue.normal := by
  induction elements with
  | nil => rfl
  | cons element rest ih => rw [normalElements, ih, List.map_cons]

theorem normalFields_eq (fields : List (CodeUnits × JsValue)) :
    normalFields fields = fields.map fun field => (field.1, field.2.normal) := by
  induction fields with
  | nil => rfl
  | cons field rest ih => rw [normalFields, ih, List.map_cons]

theorem keys_normalFields (fields : List (CodeUnits × JsValue)) :
    (normalFields fields).map Prod.fst = fields.map Prod.fst := by
  rw [normalFields_eq, List.map_map]
  rfl

theorem fieldsAreJson_iff {fields : List (CodeUnits × JsValue)} :
    FieldsAreJson fields ↔ ∀ field ∈ fields, field.2.IsJson := by
  induction fields with
  | nil => simp [FieldsAreJson]
  | cons field rest ih => simp only [FieldsAreJson, ih, List.forall_mem_cons]

theorem fieldsAreTrees_iff {kind : JsNumber → Prop} {fields : List (CodeUnits × JsValue)} :
    FieldsAreTrees kind fields ↔ ∀ field ∈ fields, field.2.IsTree kind := by
  induction fields with
  | nil => simp [FieldsAreTrees]
  | cons field rest ih => simp only [FieldsAreTrees, ih, List.forall_mem_cons]

mutual

theorem isJson_normal {kind : JsNumber → Prop} : ∀ {value : JsValue}, value.IsTree kind →
    value.normal.IsJson
  | .null, _ => trivial
  | .bool _, _ => trivial
  | .number (.finite fraction), _ => ⟨fraction, rfl⟩
  | .number .negativeZero, _ => ⟨0, rfl⟩
  | .number (.infinite _), _ => trivial
  | .number .nan, _ => trivial
  | .string _, _ => trivial
  | .array _, h => areJson_normal h
  | .object fields, ⟨hkeys, hfields⟩ => by
      have hperm := sortByKey_perm (normalFields fields)
      refine ⟨?_, ?_⟩
      · rw [(hperm.map Prod.fst).nodup_iff, keys_normalFields]
        exact hkeys
      · rw [fieldsAreJson_iff]
        intro field hfield
        exact fieldsAreJson_iff.mp (fieldsAreJson_normal hfields) field (hperm.mem_iff.mp hfield)

theorem areJson_normal {kind : JsNumber → Prop} : ∀ {elements : List JsValue},
    AreTrees kind elements → AreJson (normalElements elements)
  | [], _ => trivial
  | _ :: _, ⟨helement, hrest⟩ => ⟨isJson_normal helement, areJson_normal hrest⟩

theorem fieldsAreJson_normal {kind : JsNumber → Prop} : ∀ {fields : List (CodeUnits × JsValue)},
    FieldsAreTrees kind fields → FieldsAreJson (normalFields fields)
  | [], _ => trivial
  | (_, _) :: _, ⟨hvalue, hrest⟩ => ⟨isJson_normal hvalue, fieldsAreJson_normal hrest⟩

end

theorem JsNumber.isJson_normal (number : JsNumber) : number.normal.IsJson := by
  cases number with
  | finite value => exact ⟨value, rfl⟩
  | negativeZero => exact ⟨0, rfl⟩
  | infinite negative => trivial
  | nan => trivial

mutual

theorem isTree_mono {kind kind' : JsNumber → Prop} (hkind : ∀ number, kind number → kind' number) :
    ∀ {value : JsValue}, value.IsTree kind → value.IsTree kind'
  | .null, _ => trivial
  | .bool _, _ => trivial
  | .number number, h => hkind number h
  | .string _, _ => trivial
  | .array _, h => areTrees_mono hkind h
  | .object _, ⟨hkeys, hfields⟩ => ⟨hkeys, fieldsAreTrees_mono hkind hfields⟩

theorem areTrees_mono {kind kind' : JsNumber → Prop} (hkind : ∀ number, kind number → kind' number) :
    ∀ {elements : List JsValue}, AreTrees kind elements → AreTrees kind' elements
  | [], _ => trivial
  | _ :: _, ⟨helement, hrest⟩ => ⟨isTree_mono hkind helement, areTrees_mono hkind hrest⟩

theorem fieldsAreTrees_mono {kind kind' : JsNumber → Prop}
    (hkind : ∀ number, kind number → kind' number) :
    ∀ {fields : List (CodeUnits × JsValue)}, FieldsAreTrees kind fields →
      FieldsAreTrees kind' fields
  | [], _ => trivial
  | (_, _) :: _, ⟨hvalue, hrest⟩ => ⟨isTree_mono hkind hvalue, fieldsAreTrees_mono hkind hrest⟩

end

/-- A field of an object that is a tree. -/
theorem isTree_get {kind : JsNumber → Prop} {value : JsValue} (h : value.IsTree kind)
    {key : CodeUnits} (hdefined : (value.get key).isUndefined = false) :
    (value.get key).IsTree kind := by
  cases value with
  | object fields =>
      cases hlookup : fields.lookup key with
      | none => simp [JsValue.get, hlookup, JsValue.isUndefined] at hdefined
      | some found =>
          have hmem := mem_of_lookup_eq_some hlookup
          simpa [JsValue.get, hlookup] using fieldsAreTrees_iff.mp h.2 _ hmem
  | _ => cases hdefined

/-! ## Equality up to the order of fields -/

section Same

variable [NumberText]

/-- A null, or a number that is printed as the text. -/
def PrintsAs (text : CodeUnits) : JsValue → Prop
  | .null => text = nullText
  | .number value => text = value.text
  | _ => False

mutual

/-- Equal values, with objects as maps without an order, and numbers as they are printed. -/
def Same : JsValue → JsValue → Prop
  | .undefined, other => other = .undefined
  | .null, other => PrintsAs nullText other
  | .bool value, other => other = .bool value
  | .number value, other => PrintsAs value.text other
  | .string value, other => other = .string value
  | .array elements, other => ∃ others, other = .array others ∧ SameElements elements others
  | .object fields, other => ∃ others, other = .object others ∧
      (∀ key, key ∈ fields.map Prod.fst ↔ key ∈ others.map Prod.fst) ∧ SameFields fields others

def SameElements : List JsValue → List JsValue → Prop
  | [], others => others = []
  | element :: rest, others =>
      ∃ other tail, others = other :: tail ∧ Same element other ∧ SameElements rest tail

/-- Each field has a counterpart. -/
def SameFields : List (CodeUnits × JsValue) → List (CodeUnits × JsValue) → Prop
  | [], _ => True
  | (key, value) :: rest, others =>
      (∃ other, (key, other) ∈ others ∧ Same value other) ∧ SameFields rest others

end

/-- Two values of JSON with one text are equal. -/
theorem text_inj {value other : JsValue} (h : value.IsJson) (h' : other.IsJson) :
    value.text = other.text ↔ value = other := by
  constructor
  · intro htext
    have hread := parseJson_text h
    rw [htext, parseJson_text h'] at hread
    exact (Option.some.inj hread).symm
  · rintro rfl
    rfl

theorem JsNumber.text_normal (number : JsNumber) : number.normal.text = number.text := by
  cases number <;> rfl

omit [NumberText] in
theorem JsNumber.normal_scalar (number : JsNumber) :
    number.normal = .null ∨ ∃ other, number.normal = .number other := by
  cases number with
  | finite value => exact .inr ⟨_, rfl⟩
  | negativeZero => exact .inr ⟨_, rfl⟩
  | infinite negative => exact .inl rfl
  | nan => exact .inl rfl

/-- A null or a number is the same as what is printed as it. -/
theorem normal_eq_iff_printsAs {value other : JsValue} (hvalue : value.IsJson)
    (hscalar : value = .null ∨ ∃ number, value = .number number) :
    value = other.normal ↔ PrintsAs value.text other := by
  have hne : ∀ different : JsValue, (different ≠ .null ∧ ∀ number, different ≠ .number number) →
      value ≠ different := by
    rintro different ⟨hnull, hnumber⟩ rfl
    rcases hscalar with rfl | ⟨number, rfl⟩
    · exact hnull rfl
    · exact hnumber number rfl
  cases other with
  | null =>
      change value = .null ↔ value.text = JsValue.null.text
      exact (text_inj hvalue (show JsValue.null.IsJson from trivial)).symm
  | number number =>
      change value = number.normal ↔ value.text = number.text
      rw [← number.text_normal]
      exact (text_inj hvalue number.isJson_normal).symm
  | _ =>
      simp only [JsValue.normal, PrintsAs, iff_false]
      exact hne _ (by simp)

theorem sameFields_iff {fields others : List (CodeUnits × JsValue)} :
    SameFields fields others ↔
      ∀ field ∈ fields, ∃ other, (field.1, other) ∈ others ∧ Same field.2 other := by
  induction fields with
  | nil => simp [SameFields]
  | cons field rest ih => simp only [SameFields, ih, List.forall_mem_cons]

/-- The fields of one key, in two objects that are the same. -/
theorem Same.field {fields others : List (CodeUnits × JsValue)} {value other : JsValue}
    (key : CodeUnits) (h : Same (.object fields) (.object others))
    (hkeys : (others.map Prod.fst).Nodup) (hmem : (key, value) ∈ fields)
    (hotherMem : (key, other) ∈ others) : Same value other := by
  obtain ⟨_, hothers, _, hfields⟩ := h
  obtain rfl := JsValue.object.inj hothers
  obtain ⟨found, hfound, hsame⟩ := sameFields_iff.mp hfields _ hmem
  have hfield : (key, found) = (key, other) :=
    List.inj_on_of_nodup_map hkeys hfound hotherMem rfl
  rwa [← (Prod.mk.inj hfield).2]

/-- The texts of one key. -/
theorem Same.text {fields others : List (CodeUnits × JsValue)} {text otherText : CodeUnits}
    (key : CodeUnits) (h : Same (.object fields) (.object others))
    (hkeys : (others.map Prod.fst).Nodup) (hmem : (key, .string text) ∈ fields)
    (hotherMem : (key, .string otherText) ∈ others) : text = otherText :=
  (JsValue.string.inj (h.field key hkeys hmem hotherMem)).symm

mutual

theorem normal_eq_iff : ∀ {value other : JsValue} {kind : JsNumber → Prop}, value.IsTree kind →
    other.IsTree kind → (value.normal = other.normal ↔ Same value other)
  | .null, _, _, _, _ => normal_eq_iff_printsAs trivial (.inl rfl)
  | .number number, _, _, _, _ => by
      change number.normal = _ ↔ PrintsAs number.text _
      rw [← number.text_normal]
      exact normal_eq_iff_printsAs number.isJson_normal number.normal_scalar
  | .bool value, other, _, _, _ => by
      cases other with
      | number number =>
          rcases number.normal_scalar with h | ⟨_, h⟩ <;> simp [JsValue.normal, Same, h]
      | _ => simp [JsValue.normal, Same, eq_comm]
  | .string value, other, _, _, _ => by
      cases other with
      | number number =>
          rcases number.normal_scalar with h | ⟨_, h⟩ <;> simp [JsValue.normal, Same, h]
      | _ => simp [JsValue.normal, Same, eq_comm]
  | .array elements, other, _, h, h' => by
      cases other with
      | number number =>
          rcases number.normal_scalar with h | ⟨_, h⟩ <;> simp [JsValue.normal, Same, h]
      | array others => simpa [JsValue.normal, Same] using normalElements_eq_iff h h'
      | _ => simp [JsValue.normal, Same]
  | .object fields, other, _, ⟨hkeys, hfields⟩, h' => by
      cases other with
      | number number =>
          rcases number.normal_scalar with h | ⟨_, h⟩ <;> simp [JsValue.normal, Same, h]
      | object others =>
          rw [← keys_normalFields] at hkeys
          have hothers : ((normalFields others).map Prod.fst).Nodup := by
            rw [keys_normalFields]
            exact h'.1
          simp only [JsValue.normal, Same, JsValue.object.injEq, exists_eq_left']
          rw [sortByKey_eq_iff_subset hkeys hothers, keys_normalFields, keys_normalFields,
            normalFields_subset_iff hfields h'.2]
      | _ => simp [JsValue.normal, Same]

theorem normalElements_eq_iff : ∀ {elements others : List JsValue} {kind : JsNumber → Prop},
    AreTrees kind elements → AreTrees kind others →
      (normalElements elements = normalElements others ↔ SameElements elements others)
  | [], others, _, _, _ => by
      cases others <;> simp [normalElements, SameElements]
  | element :: rest, others, _, ⟨helement, hrest⟩, h' => by
      cases others with
      | nil => simp [normalElements, SameElements]
      | cons other tail =>
          simp only [normalElements, SameElements, List.cons.injEq]
          rw [normal_eq_iff helement h'.1, normalElements_eq_iff hrest h'.2]
          simp

theorem normalFields_subset_iff : ∀ {fields others : List (CodeUnits × JsValue)}
    {kind : JsNumber → Prop}, FieldsAreTrees kind fields → FieldsAreTrees kind others →
      ((∀ field ∈ normalFields fields, field ∈ normalFields others) ↔ SameFields fields others)
  | [], _, _, _, _ => by simp [normalFields, SameFields]
  | (key, value) :: rest, others, kind, ⟨hvalue, hrest⟩, h' => by
      simp only [normalFields, SameFields, List.forall_mem_cons]
      rw [normalFields_subset_iff hrest h', normalFields_eq others, List.mem_map]
      refine and_congr_left fun _ => ?_
      constructor
      · rintro ⟨⟨key', other⟩, hmem, hsame⟩
        obtain ⟨rfl, hnormal⟩ := Prod.mk.inj hsame
        have hother := fieldsAreTrees_iff.mp h' _ hmem
        exact ⟨other, hmem, (normal_eq_iff hvalue hother).mp hnormal.symm⟩
      · rintro ⟨other, hmem, hsame⟩
        have hother := fieldsAreTrees_iff.mp h' _ hmem
        exact ⟨(key, other), hmem, by rw [(normal_eq_iff hvalue hother).mpr hsame]⟩

end

end Same

/-! ## The text -/

section Text

variable {ε : Type} (number : JsNumber → Except ε CodeUnits) (unsupported : ε)

/-- A field as it is written. -/
def fieldText (field : CodeUnits × Except ε CodeUnits) : Except ε CodeUnits :=
  field.2.map fun text => quote field.1 ++ 58 :: text

mutual

/-- The text of a value with the fields of objects in the order of their keys; the first thing
that cannot be written is thrown. -/
def canonicalText : JsValue → Except ε CodeUnits
  | .undefined => .error unsupported
  | .null => .ok nullText
  | .bool value => .ok (boolText value)
  | .number value => number value
  | .string value => .ok (quote value)
  | .array elements => do
      let parts ← canonicalElements elements
      pure (91 :: (joinParts parts ++ [93]))
  | .object fields => do
      let parts ← (sortByKey (canonicalFields fields)).mapM fieldText
      pure (123 :: (joinParts parts ++ [125]))

def canonicalElements : List JsValue → Except ε (List CodeUnits)
  | [] => .ok []
  | element :: rest => do
      let text ← canonicalText element
      let texts ← canonicalElements rest
      pure (text :: texts)

def canonicalFields : List (CodeUnits × JsValue) → List (CodeUnits × Except ε CodeUnits)
  | [] => []
  | (key, value) :: rest => (key, canonicalText value) :: canonicalFields rest

end

theorem canonicalFields_eq (fields : List (CodeUnits × JsValue)) :
    canonicalFields number unsupported fields =
      fields.map fun field => (field.1, canonicalText number unsupported field.2) := by
  induction fields with
  | nil => rfl
  | cons field rest ih => rw [canonicalFields, ih, List.map_cons]

theorem canonicalText_object (fields : List (CodeUnits × JsValue)) :
    canonicalText number unsupported (.object fields) =
      ((sortByKey fields).mapM fun field =>
        fieldText (field.1, canonicalText number unsupported field.2)) >>= fun parts =>
          pure (123 :: (joinParts parts ++ [125])) := by
  rw [canonicalText, canonicalFields_eq, ← sortByKey_map fun _ value =>
    canonicalText number unsupported value, List.mapM_map]
  rfl

variable {number unsupported}

/-- Fields whose values can be written can be written. -/
theorem mapM_fieldText_succeeds {fields : List (CodeUnits × JsValue)}
    (h : ∀ field ∈ fields, ∃ text, canonicalText number unsupported field.2 = .ok text) :
    ∃ parts, (fields.mapM fun field =>
      fieldText (field.1, canonicalText number unsupported field.2)) = .ok parts := by
  induction fields with
  | nil => exact ⟨[], rfl⟩
  | cons field rest ih =>
      rw [List.forall_mem_cons] at h
      obtain ⟨text, htext⟩ := h.1
      obtain ⟨parts, hparts⟩ := ih h.2
      refine ⟨(quote field.1 ++ 58 :: text) :: parts, ?_⟩
      rw [List.mapM_cons, hparts, fieldText, htext]
      rfl

mutual

/-- A tree of numbers that can be written can be written. -/
theorem canonicalText_succeeds : ∀ {value : JsValue},
    value.IsTree (fun value => ∃ text, number value = .ok text) →
      ∃ text, canonicalText number unsupported value = .ok text
  | .null, _ => ⟨_, rfl⟩
  | .bool _, _ => ⟨_, rfl⟩
  | .number _, h => h
  | .string _, _ => ⟨_, rfl⟩
  | .array _, h => by
      obtain ⟨parts, hparts⟩ := canonicalElements_succeeds h
      exact ⟨_, (bind_eq_ok_iff ..).mpr ⟨parts, hparts, rfl⟩⟩
  | .object fields, ⟨_, hfields⟩ => by
      obtain ⟨parts, hparts⟩ := mapM_fieldText_succeeds fun field hfield =>
        canonicalFields_succeed hfields field ((sortByKey_perm fields).mem_iff.mp hfield)
      rw [canonicalText_object]
      exact ⟨_, (bind_eq_ok_iff ..).mpr ⟨parts, hparts, rfl⟩⟩

theorem canonicalElements_succeeds : ∀ {elements : List JsValue},
    AreTrees (fun value => ∃ text, number value = .ok text) elements →
      ∃ texts, canonicalElements number unsupported elements = .ok texts
  | [], _ => ⟨[], rfl⟩
  | _ :: _, ⟨helement, hrest⟩ => by
      obtain ⟨text, htext⟩ := canonicalText_succeeds helement
      obtain ⟨texts, htexts⟩ := canonicalElements_succeeds hrest
      exact ⟨_, (bind_eq_ok_iff ..).mpr ⟨text, htext, (bind_eq_ok_iff ..).mpr ⟨texts, htexts, rfl⟩⟩⟩

theorem canonicalFields_succeed : ∀ {fields : List (CodeUnits × JsValue)},
    FieldsAreTrees (fun value => ∃ text, number value = .ok text) fields →
      ∀ field ∈ fields, ∃ text, canonicalText number unsupported field.2 = .ok text
  | (_, _) :: _, ⟨hvalue, _⟩, _, .head _ => canonicalText_succeeds hvalue
  | (_, _) :: _, ⟨_, hrest⟩, field, .tail _ hfield => canonicalFields_succeed hrest field hfield

end

section Sound

variable [NumberText]

/-- The fields are written as `JSON.stringify` writes the values that are printed. -/
theorem mapM_fieldText {fields : List (CodeUnits × JsValue)} {parts : List CodeUnits}
    (hfields : ∀ field ∈ fields, ∀ text, canonicalText number unsupported field.2 = .ok text →
      text = field.2.normal.text)
    (h : (fields.mapM fun field =>
      fieldText (field.1, canonicalText number unsupported field.2)) = .ok parts) :
    parts = fieldTexts (fields.map fun field => (field.1, field.2.normal)) := by
  induction fields generalizing parts with
  | nil =>
      cases h
      rfl
  | cons field rest ih =>
      rw [List.forall_mem_cons] at hfields
      rw [List.mapM_cons] at h
      cases htext : canonicalText number unsupported field.2 with
      | error error =>
          simp [fieldText, htext, Except.map, bind, Except.bind] at h
      | ok text =>
          have hdefined : field.2.normal.isUndefined = false := by
            refine isUndefined_normal ?_
            rintro hundefined
            rw [hundefined, canonicalText] at htext
            cases htext
          have hfirst : fieldText (field.1, canonicalText number unsupported field.2) =
              .ok (quote field.1 ++ 58 :: text) := by
            rw [htext]
            rfl
          rw [hfirst] at h
          obtain ⟨written, hwritten, hrest⟩ := (bind_eq_ok_iff ..).mp h
          obtain rfl := Except.ok.inj hwritten
          obtain ⟨texts, htexts, hparts⟩ := (bind_eq_ok_iff ..).mp hrest
          obtain rfl := Except.ok.inj hparts
          rw [List.map_cons, fieldTexts, hdefined, ih hfields.2 htexts, hfields.1 text htext]
          rfl

mutual

/-- What is written is the text of the value that is printed. -/
theorem canonicalText_sound
    (hnumber : ∀ value text, number value = .ok text → text = value.text) :
    ∀ {value : JsValue} {text : CodeUnits}, canonicalText number unsupported value = .ok text →
      text = value.normal.text
  | .undefined, _, h => by cases h
  | .null, _, h => by
      cases h
      rfl
  | .bool _, _, h => by
      cases h
      rfl
  | .number value, text, h => by
      rw [JsValue.normal, value.text_normal]
      exact hnumber value text h
  | .string _, _, h => by
      cases h
      rfl
  | .array elements, text, h => by
      obtain ⟨parts, hparts, htext⟩ := (bind_eq_ok_iff ..).mp h
      obtain rfl := Except.ok.inj htext
      rw [canonicalElements_sound hnumber hparts]
      rfl
  | .object fields, text, h => by
      rw [canonicalText_object] at h
      obtain ⟨parts, hparts, htext⟩ := (bind_eq_ok_iff ..).mp h
      obtain rfl := Except.ok.inj htext
      have hfields := mapM_fieldText (fun field hfield text htext =>
        canonicalFields_sound hnumber field ((sortByKey_perm fields).mem_iff.mp hfield) htext)
        hparts
      rw [hfields, JsValue.normal, normalFields_eq,
        ← sortByKey_map fun _ (value : JsValue) => value.normal]
      rfl

theorem canonicalElements_sound
    (hnumber : ∀ value text, number value = .ok text → text = value.text) :
    ∀ {elements : List JsValue} {texts : List CodeUnits},
      canonicalElements number unsupported elements = .ok texts →
        texts = elementTexts (normalElements elements)
  | [], _, h => by
      cases h
      rfl
  | element :: rest, texts, h => by
      obtain ⟨text, htext, hrest⟩ := (bind_eq_ok_iff ..).mp h
      obtain ⟨others, hothers, htexts⟩ := (bind_eq_ok_iff ..).mp hrest
      obtain rfl := Except.ok.inj htexts
      rw [canonicalText_sound hnumber htext, canonicalElements_sound hnumber hothers]
      rfl

theorem canonicalFields_sound
    (hnumber : ∀ value text, number value = .ok text → text = value.text) :
    ∀ {fields : List (CodeUnits × JsValue)}, ∀ field ∈ fields, ∀ {text : CodeUnits},
      canonicalText number unsupported field.2 = .ok text → text = field.2.normal.text
  | (_, _) :: _, _, .head _, _, htext => canonicalText_sound hnumber htext
  | (_, _) :: _, field, .tail _ hfield, _, htext =>
      canonicalFields_sound hnumber field hfield htext

end

/-- The texts of two trees are equal exactly when the trees are the same. -/
theorem canonicalText_eq_iff {kind : JsNumber → Prop} {value other : JsValue}
    {text otherText : CodeUnits}
    (hnumber : ∀ value text, number value = .ok text → text = value.text)
    (hvalue : value.IsTree kind) (hother : other.IsTree kind)
    (htext : canonicalText number unsupported value = .ok text)
    (hotherText : canonicalText number unsupported other = .ok otherText) :
    text = otherText ↔ Same value other := by
  rw [canonicalText_sound hnumber htext, canonicalText_sound hnumber hotherText,
    text_inj (isJson_normal hvalue) (isJson_normal hother)]
  exact normal_eq_iff hvalue hother

theorem wellFormed_canonicalText {value : JsValue} {text : CodeUnits}
    (hnumber : ∀ value text, number value = .ok text → text = value.text)
    (htext : canonicalText number unsupported value = .ok text) : WellFormed text := by
  rw [canonicalText_sound hnumber htext]
  exact wellFormed_text _

end Sound

end Text

end MatchPlane.Library
