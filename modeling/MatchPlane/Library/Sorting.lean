import Mathlib

/-!
# Sorted lists

Facts about lists that are sorted by a relation: cutting at a threshold, and
the uniqueness of the sorted arrangement of a duplicate-free list.
-/

namespace MatchPlane.Library.Sorting

variable {α : Type*}

/-- Stopping at the first failure is filtering when failures persist. -/
theorem takeWhile_eq_filter {p : α → Bool} {list : List α}
    (h : list.Pairwise fun first second => p second = true → p first = true) :
    list.takeWhile p = list.filter p := by
  induction list with
  | nil => rfl
  | cons head tail ih =>
      obtain ⟨hhead, htail⟩ := List.pairwise_cons.mp h
      cases hp : p head with
      | true => simp [hp, ih htail]
      | false =>
          have hnone : tail.filter p = [] := by
            rw [List.filter_eq_nil_iff]
            intro other hother hpother
            rw [hhead other hother hpother] at hp
            cases hp
          simp [hp, hnone]

/-- A strictly sorted list is what sorting any list with the same elements gives. -/
theorem eq_mergeSort {r : α → α → Prop} {le : α → α → Bool} {list other : List α}
    (hsorted : list.Pairwise r) (hnodup : list.Nodup) (hother : other.Nodup)
    (hmem : ∀ a, a ∈ list ↔ a ∈ other)
    (htrans : ∀ a b c, le a b = true → le b c = true → le a c = true)
    (htotal : ∀ a b, (le a b || le b a) = true)
    (hle : ∀ a b, r a b → le a b = true) (hlt : ∀ a b, r a b → le b a = false) :
    list = other.mergeSort le := by
  have hperm : list.Perm (other.mergeSort le) :=
    ((List.perm_ext_iff_of_nodup hnodup hother).mpr hmem).trans
      (List.mergeSort_perm other le).symm
  have hleft : list.Pairwise fun a b => le a b = true := hsorted.imp fun hr => hle _ _ hr
  have hright : (other.mergeSort le).Pairwise fun a b => le a b = true :=
    List.pairwise_mergeSort htrans htotal other
  refine hperm.eq_of_pairwise ?_ hleft hright
  intro a b ha hb hab hba
  by_contra hne
  -- Whichever of the two comes first in the list is strictly below the other.
  have hsymm : Std.Symm fun a b => r a b ∨ r b a := ⟨fun _ _ h => h.symm⟩
  have heither : list.Pairwise fun a b => r a b ∨ r b a := hsorted.imp Or.inl
  obtain hr | hr := heither.forall ha (hperm.mem_iff.mpr hb) hne
  · rw [hlt a b hr] at hba
    cases hba
  · rw [hlt b a hr] at hab
    cases hab

end MatchPlane.Library.Sorting
