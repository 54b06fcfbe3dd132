import Mathlib

/-!
# Runs of a machine with outputs

A deterministic machine consumes inputs one by one and appends what each step
puts out to a history.  The one rule for whole runs carries a property of the
current state together with the history so far.
-/

namespace MatchPlane.Library

variable {σ ι ο : Type*} (step : σ → ι → σ × List ο)

/-- The state reached from `state` and everything put out on the way. -/
def run : σ → List ι → σ × List ο
  | state, [] => (state, [])
  | state, input :: inputs =>
      ((run (step state input).1 inputs).1,
        (step state input).2 ++ (run (step state input).1 inputs).2)

theorem run_append (state : σ) (first second : List ι) :
    run step state (first ++ second) =
      ((run step (run step state first).1 second).1,
        (run step state first).2 ++ (run step (run step state first).1 second).2) := by
  induction first generalizing state with
  | nil => simp [run]
  | cons input inputs ih => simp [run, ih]

theorem run_snoc (state : σ) (inputs : List ι) (input : ι) :
    run step state (inputs ++ [input]) =
      ((step (run step state inputs).1 input).1,
        (run step state inputs).2 ++ (step (run step state inputs).1 input).2) := by
  simp [run_append, run]

/-- What each step preserves, of the state and the history, holds along every run. -/
theorem run_invariant {P : σ → List ο → Prop} {inputs : List ι}
    (hstep : ∀ input ∈ inputs, ∀ state history, P state history →
      P (step state input).1 (history ++ (step state input).2))
    {state : σ} (h : P state []) :
    P (run step state inputs).1 (run step state inputs).2 := by
  -- The induction needs the history made before the remaining inputs.
  have hfrom : ∀ history, P state history →
      P (run step state inputs).1 (history ++ (run step state inputs).2) := by
    clear h
    induction inputs generalizing state with
    | nil =>
        intro history h
        simpa [run] using h
    | cons input inputs ih =>
        intro history h
        have hnext := hstep input List.mem_cons_self state history h
        have hrest := ih (fun other hother =>
          hstep other (List.mem_cons_of_mem _ hother)) _ hnext
        simpa [run] using hrest
  exact hfrom [] h

end MatchPlane.Library
