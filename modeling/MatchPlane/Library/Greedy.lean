import Mathlib

/-!
# Greedy allocation

A demand is served by a list of sources in order, each giving as much as it can
until the demand is met.  Amounts are integers; capacities are positive where a
result needs it.
-/

namespace MatchPlane.Library.Greedy

variable {α : Type*} (capacity : α → Int)

/-- The sources used and what each one gives. -/
def fills : Int → List α → List (α × Int)
  | _, [] => []
  | demand, source :: sources =>
      if demand = 0 then []
      else (source, min demand (capacity source)) ::
        fills (demand - min demand (capacity source)) sources

def total (allocation : List (α × Int)) : Int := (allocation.map Prod.snd).sum

@[simp] theorem total_nil : total ([] : List (α × Int)) = 0 := rfl

@[simp] theorem total_cons (entry : α × Int) (allocation : List (α × Int)) :
    total (entry :: allocation) = entry.2 + total allocation := by
  simp [total]

@[simp] theorem fills_zero (sources : List α) : fills capacity 0 sources = [] := by
  cases sources <;> simp [fills]

theorem fills_append (demand : Int) (first second : List α) :
    fills capacity demand (first ++ second) =
      fills capacity demand first ++
        fills capacity (demand - total (fills capacity demand first)) second := by
  induction first generalizing demand with
  | nil => simp [fills]
  | cons source sources ih =>
      by_cases hzero : demand = 0
      · subst hzero
        simp
      · simp only [List.cons_append, fills, if_neg hzero, ih, total_cons, sub_sub]

/-- The sources used are an initial segment of the sources offered. -/
theorem fills_prefix (demand : Int) (sources : List α) :
    (fills capacity demand sources).map Prod.fst <+: sources := by
  induction sources generalizing demand with
  | nil => simp [fills]
  | cons source sources ih =>
      by_cases hzero : demand = 0
      · simp [hzero]
      · simp only [fills, if_neg hzero, List.map_cons, List.cons_prefix_cons, true_and]
        exact ih _

theorem fills_le_capacity {demand : Int} {sources : List α} {entry : α × Int}
    (h : entry ∈ fills capacity demand sources) : entry.2 ≤ capacity entry.1 := by
  induction sources generalizing demand with
  | nil => simp [fills] at h
  | cons source sources ih =>
      by_cases hzero : demand = 0
      · simp [hzero] at h
      · simp only [fills, if_neg hzero, List.mem_cons] at h
        rcases h with rfl | h
        · exact min_le_right _ _
        · exact ih h

section Positive

variable {capacity} {demand : Int} {sources : List α}
  (hdemand : 0 ≤ demand) (hcapacity : ∀ source ∈ sources, 0 < capacity source)

include hdemand hcapacity

theorem fills_positive {entry : α × Int}
    (h : entry ∈ fills capacity demand sources) : 0 < entry.2 := by
  induction sources generalizing demand with
  | nil => simp [fills] at h
  | cons source sources ih =>
      by_cases hzero : demand = 0
      · simp [hzero] at h
      · have hsource := hcapacity source List.mem_cons_self
        simp only [fills, if_neg hzero, List.mem_cons] at h
        rcases h with rfl | h
        · simp only [lt_min_iff]
          exact ⟨by omega, hsource⟩
        · exact ih (by omega) (fun other hother =>
            hcapacity other (List.mem_cons_of_mem _ hother)) h

theorem total_fills_le : total (fills capacity demand sources) ≤ demand := by
  induction sources generalizing demand with
  | nil => simpa [fills] using hdemand
  | cons source sources ih =>
      by_cases hzero : demand = 0
      · simp [hzero]
      · simp only [fills, if_neg hzero, total_cons]
        have htail : total (fills capacity (demand - min demand (capacity source))
            sources) ≤ demand - min demand (capacity source) :=
          ih (by omega) fun other hother =>
            hcapacity other (List.mem_cons_of_mem _ hother)
        omega

/-- A demand that is not met has drained every source. -/
theorem fills_of_unmet (h : total (fills capacity demand sources) < demand) :
    fills capacity demand sources =
      sources.map fun source => (source, capacity source) := by
  induction sources generalizing demand with
  | nil => simp [fills]
  | cons source sources ih =>
      by_cases hzero : demand = 0
      · subst hzero
        simp at h
      · simp only [fills, if_neg hzero, total_cons] at h
        simp only [fills, if_neg hzero, List.map_cons]
        have hrest := fun other hother =>
          hcapacity other (List.mem_cons_of_mem source hother)
        have htail : fills capacity (demand - min demand (capacity source)) sources =
            sources.map fun source => (source, capacity source) :=
          ih (by omega) hrest (by omega)
        have hmin : min demand (capacity source) = capacity source := by
          rcases le_total demand (capacity source) with hcase | hcase
          · rw [min_eq_left hcase, sub_self] at h
            simp at h
          · exact min_eq_right hcase
        rw [htail, hmin]

/-- Only the last source used can keep some of its capacity. -/
theorem fills_full_of_append {before : List (α × Int)} {last : α × Int}
    (h : fills capacity demand sources = before ++ [last]) :
    ∀ entry ∈ before, entry.2 = capacity entry.1 := by
  induction sources generalizing demand before with
  | nil => simp [fills] at h
  | cons source sources ih =>
      by_cases hzero : demand = 0
      · subst hzero
        simp at h
      · simp only [fills, if_neg hzero] at h
        cases before with
        | nil => simp
        | cons entry before =>
            simp only [List.cons_append, List.cons.injEq] at h
            obtain ⟨rfl, htail⟩ := h
            have hmin : min demand (capacity source) = capacity source := by
              rcases le_total demand (capacity source) with hcase | hcase
              · rw [min_eq_left hcase, sub_self, fills_zero] at htail
                simp at htail
              · exact min_eq_right hcase
            intro other hother
            rcases List.mem_cons.mp hother with rfl | hother
            · exact hmin
            · exact ih (by omega) (fun other hother =>
                hcapacity other (List.mem_cons_of_mem _ hother)) htail other hother

end Positive

end MatchPlane.Library.Greedy
