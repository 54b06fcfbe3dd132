import Mathlib

/-!
# Ordered maps over a linear order

Lookup and iteration of `Std.ExtTreeMap` restated for keys of a Mathlib linear
order, so that the comparison function disappears from every later statement.
-/

namespace MatchPlane.Library

open Std (ExtTreeMap)

instance lawfulEqOrd {κ : Type*} [LinearOrder κ] : Std.LawfulEqOrd κ where
  compare_self := compare_eq_iff_eq.mpr rfl
  eq_of_compare := compare_eq_iff_eq.mp

namespace OrderedMap

variable {κ α β : Type*} [LinearOrder κ] {m : ExtTreeMap κ α}

@[simp] theorem lookup_empty (k : κ) : (∅ : ExtTreeMap κ α)[k]? = none :=
  ExtTreeMap.getElem?_empty

theorem lookup_insert (k k' : κ) (v : α) :
    (m.insert k v)[k']? = if k' = k then some v else m[k']? := by
  rw [ExtTreeMap.getElem?_insert]
  simp only [compare_eq_iff_eq, @eq_comm κ k k']

theorem lookup_erase (k k' : κ) :
    (m.erase k)[k']? = if k' = k then none else m[k']? := by
  rw [ExtTreeMap.getElem?_erase]
  simp only [compare_eq_iff_eq, @eq_comm κ k k']

theorem lookup_alter (k k' : κ) (f : Option α → Option α) :
    (m.alter k f)[k']? = if k' = k then f m[k]? else m[k']? := by
  rw [ExtTreeMap.getElem?_alter]
  simp only [compare_eq_iff_eq, @eq_comm κ k k']

@[simp] theorem lookup_insert_self (k : κ) (v : α) : (m.insert k v)[k]? = some v := by
  rw [lookup_insert, if_pos rfl]

theorem lookup_insert_of_ne {k k' : κ} (v : α) (h : k' ≠ k) :
    (m.insert k v)[k']? = m[k']? := by
  rw [lookup_insert, if_neg h]

theorem mem_iff_lookup {k : κ} : k ∈ m ↔ ∃ v, m[k]? = some v := by
  rw [ExtTreeMap.mem_iff_isSome_getElem?, Option.isSome_iff_exists]

theorem not_mem_iff_lookup {k : κ} : k ∉ m ↔ m[k]? = none := by
  rw [mem_iff_lookup, Option.eq_none_iff_forall_ne_some, not_exists]

theorem mem_toList {k : κ} {v : α} : (k, v) ∈ m.toList ↔ m[k]? = some v :=
  ExtTreeMap.mem_toList_iff_getElem?_eq_some

/-- Iteration visits keys in strictly increasing order. -/
theorem toList_pairwise (m : ExtTreeMap κ α) :
    m.toList.Pairwise fun first second => first.1 < second.1 :=
  (ExtTreeMap.ordered_keys_toList (t := m)).imp fun h =>
    compare_lt_iff_lt.mp h

theorem toList_nodup (m : ExtTreeMap κ α) : m.toList.Nodup :=
  (toList_pairwise m).imp fun h heq => absurd (congrArg Prod.fst heq) h.ne

/-- Two maps with the same lookups are the same map. -/
theorem ext {m m' : ExtTreeMap κ α} (h : ∀ k : κ, m[k]? = m'[k]?) : m = m' :=
  ExtTreeMap.ext_getElem? h

theorem insert_eq_alter {k : κ} {v : α} {f : Option α → Option α}
    (h : f m[k]? = some v) : m.insert k v = m.alter k f := by
  apply ext
  intro k'
  simp only [lookup_insert, lookup_alter, h]

theorem erase_insert_eq_alter {k : κ} {f : Option α → Option α} (v : α)
    (h : f m[k]? = none) : (m.insert k v).erase k = m.alter k f := by
  apply ext
  intro k'
  simp only [lookup_insert, lookup_erase, lookup_alter, h]
  split <;> rfl

end OrderedMap

end MatchPlane.Library
