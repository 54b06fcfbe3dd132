import Mathlib

/-!
# Joined names and values

Names and values are joined into one text with two separators and without escaping.
The text determines the pairs as long as no name has the sign that ends a name and no
value the sign that ends a pair.
-/

namespace MatchPlane.Library

variable {α : Type*} {assign separator : α}

/-- A name and its value. -/
def joinPair (assign : α) (pair : List α × List α) : List α := pair.1 ++ assign :: pair.2

/-- All pairs, one after the other. -/
def joinPairs (assign separator : α) (pairs : List (List α × List α)) : List α :=
  [separator].intercalate (pairs.map (joinPair assign))

/-- What follows the value of a pair. -/
def afterValue (assign separator : α) : List (List α × List α) → List α
  | [] => []
  | pair :: rest => separator :: joinPairs assign separator (pair :: rest)

/-- No name ends early and no value does. -/
def Separable (assign separator : α) (pair : List α × List α) : Prop :=
  assign ∉ pair.1 ∧ separator ∉ pair.2

theorem joinPairs_cons (pair : List α × List α) (rest : List (List α × List α)) :
    joinPairs assign separator (pair :: rest) =
      pair.1 ++ assign :: (pair.2 ++ afterValue assign separator rest) := by
  cases rest with
  | nil => simp [joinPairs, joinPair, afterValue]
  | cons other rest => simp [joinPairs, joinPair, afterValue]

/-- The first separator of a text is where two readings of it agree. -/
theorem append_cons_injective {first second rest rest' : List α} (hfirst : assign ∉ first)
    (hsecond : assign ∉ second) (h : first ++ assign :: rest = second ++ assign :: rest') :
    first = second ∧ rest = rest' := by
  induction first generalizing second with
  | nil =>
      cases second with
      | nil => exact ⟨rfl, (List.cons.inj h).2⟩
      | cons sign _ =>
          have hsame := (List.cons.inj h).1
          exact absurd (hsame ▸ List.mem_cons_self) hsecond
  | cons sign first ih =>
      cases second with
      | nil =>
          have hsame := (List.cons.inj h).1
          exact absurd (hsame ▸ List.mem_cons_self) hfirst
      | cons other second =>
          obtain ⟨hsign, htail⟩ := List.cons.inj h
          obtain ⟨hfound, hrest⟩ := ih (fun hmem => hfirst (List.mem_cons_of_mem _ hmem))
            (fun hmem => hsecond (List.mem_cons_of_mem _ hmem)) htail
          exact ⟨by rw [hsign, hfound], hrest⟩

theorem value_injective {value other : List α} {rest rest' : List (List α × List α)}
    (hvalue : separator ∉ value) (hother : separator ∉ other)
    (h : value ++ afterValue assign separator rest = other ++ afterValue assign separator rest') :
    value = other ∧ joinPairs assign separator rest = joinPairs assign separator rest' := by
  cases rest with
  | nil =>
      cases rest' with
      | nil => exact ⟨by simpa [afterValue] using h, rfl⟩
      | cons pair rest' =>
          have hmem : separator ∈ value := by
            rw [afterValue, List.append_nil] at h
            rw [h, afterValue]
            simp
          exact absurd hmem hvalue
  | cons pair rest =>
      cases rest' with
      | nil =>
          have hmem : separator ∈ other := by
            rw [afterValue, afterValue, List.append_nil] at h
            rw [← h]
            simp
          exact absurd hmem hother
      | cons pair' rest' =>
          exact append_cons_injective hvalue hother h

/-- The text determines the pairs. -/
theorem joinPairs_injective {pairs others : List (List α × List α)}
    (hpairs : ∀ pair ∈ pairs, Separable assign separator pair)
    (hothers : ∀ pair ∈ others, Separable assign separator pair)
    (h : joinPairs assign separator pairs = joinPairs assign separator others) :
    pairs = others := by
  induction pairs generalizing others with
  | nil =>
      cases others with
      | nil => rfl
      | cons other rest =>
          rw [joinPairs_cons] at h
          simp [joinPairs] at h
  | cons pair rest ih =>
      cases others with
      | nil =>
          rw [joinPairs_cons] at h
          simp [joinPairs] at h
      | cons other rest' =>
          have hpair := hpairs pair List.mem_cons_self
          have hother := hothers other List.mem_cons_self
          rw [joinPairs_cons, joinPairs_cons] at h
          obtain ⟨hname, h⟩ := append_cons_injective hpair.1 hother.1 h
          obtain ⟨hvalue, hrest⟩ := value_injective hpair.2 hother.2 h
          have htail := ih (fun found hfound => hpairs found (List.mem_cons_of_mem _ hfound))
            (fun found hfound => hothers found (List.mem_cons_of_mem _ hfound)) hrest
          rw [Prod.ext hname hvalue, htail]

end MatchPlane.Library
