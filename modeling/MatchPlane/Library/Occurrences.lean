import Mathlib

/-!
# First occurrences

A list without the elements that it has had before, in the order of their first occurrences.
-/

namespace MatchPlane.Library

variable {α : Type} [BEq α] [LawfulBEq α] {elements : List α} {element : α}

theorem nodup_eraseDups (elements : List α) : elements.eraseDups.Nodup := by
  cases elements with
  | nil => simp
  | cons element rest =>
      rw [List.eraseDups_cons, List.nodup_cons]
      constructor
      · rw [List.mem_eraseDups]
        simp
      · exact nodup_eraseDups _
termination_by elements.length
decreasing_by
  have hfewer := List.length_filter_le (fun other => !other == element) rest
  simp only [List.length_cons]
  omega

theorem eraseDups_of_nodup (h : elements.Nodup) : elements.eraseDups = elements := by
  induction elements with
  | nil => rfl
  | cons element rest ih =>
      rw [List.nodup_cons] at h
      rw [List.eraseDups_cons, List.filter_eq_self.mpr, ih h.2]
      intro other hother
      simp only [Bool.not_eq_true', beq_eq_false_iff_ne]
      rintro rfl
      exact h.1 hother

/-- An element that has occurred before is left out. -/
theorem eraseDups_concat_of_mem (h : element ∈ elements) :
    (elements ++ [element]).eraseDups = elements.eraseDups := by
  rw [List.eraseDups_append]
  simp [List.removeAll, h]

theorem eraseDups_concat_of_not_mem (h : element ∉ elements) :
    (elements ++ [element]).eraseDups = elements.eraseDups ++ [element] := by
  rw [List.eraseDups_append]
  simp [List.removeAll, h, List.eraseDups_cons]

/-- More elements change nothing before them. -/
theorem eraseDups_prefix (elements more : List α) :
    elements.eraseDups <+: (elements ++ more).eraseDups := by
  rw [List.eraseDups_append]
  exact List.prefix_append _ _

end MatchPlane.Library
