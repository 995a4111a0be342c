import Mathlib.Data.List.Basic

/-!
# Machines driven by events

A step function takes a state and an event to the next state, and a run is a list of events.  Any
prefix of a run is a run, so what is proved of the state after every run holds in every reachable
state.

`run_invariant` is the only induction: an invariant that every admissible event keeps.
-/

namespace Library

namespace Events

variable {σ ε : Type}

/-- The state after a run. -/
def run (step : σ → ε → σ) (s : σ) (events : List ε) : σ := events.foldl step s

/-- Every event of the run is admissible in the state it happens in. -/
def Along (step : σ → ε → σ) (Adm : σ → ε → Prop) : σ → List ε → Prop
  | _, [] => True
  | s, e :: events => Adm s e ∧ Along step Adm (step s e) events

variable {step : σ → ε → σ} {Adm : σ → ε → Prop}

lemma run_append (step : σ → ε → σ) (s : σ) (events later : List ε) :
    run step s (events ++ later) = run step (run step s events) later := by
  rw [run, run, run, List.foldl_append]

lemma along_true (s : σ) (events : List ε) : Along step (fun _ _ => True) s events := by
  induction events generalizing s with
  | nil => trivial
  | cons e events ih => exact ⟨trivial, ih _⟩

/-- **The invariant rule.** -/
theorem run_invariant {I : σ → Prop} (hstep : ∀ s e, I s → Adm s e → I (step s e)) {s : σ}
    (hs : I s) {events : List ε} (hadm : Along step Adm s events) : I (run step s events) := by
  induction events generalizing s with
  | nil => exact hs
  | cons e events ih => exact ih (hstep s e hs hadm.1) hadm.2

/-- Admissibility of a run can be computed, so that a witness can be evaluated. -/
instance decidableAlong [hdec : ∀ s e, Decidable (Adm s e)] (events : List ε) :
    ∀ s, Decidable (Along step Adm s events) :=
  match events with
  | [] => fun _ => isTrue trivial
  | e :: events => fun s => @instDecidableAnd _ _ (hdec s e) (decidableAlong events (step s e))

end Events

end Library
