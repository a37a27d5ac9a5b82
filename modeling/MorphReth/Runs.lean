import Mathlib.Logic.Basic

set_option autoImplicit false

namespace MorphReth

section Runs

variable {σ ε : Type}

-- Runs of a deterministic machine driven by a list of events, and the runs in
-- which every event is allowed in the state it meets.
def runSteps (step : σ → ε → σ) (start : σ) : List ε → σ
  | [] => start
  | event :: rest => runSteps step (step start event) rest

def EachAllowed (step : σ → ε → σ) (allowed : σ → ε → Prop) (start : σ) : List ε → Prop
  | [] => True
  | event :: rest => allowed start event ∧ EachAllowed step allowed (step start event) rest

variable (step : σ → ε → σ) (allowed : σ → ε → Prop)

theorem run_invariant (invariant : σ → Prop)
    (preserved : ∀ state event, invariant state → allowed state event → invariant (step state event)) (start : σ) (events : List ε)
    (initial : invariant start) (legal : EachAllowed step allowed start events) : invariant (runSteps step start events) := by
  induction events generalizing start with
  | nil => exact initial
  | cons event rest ih => exact ih (step start event) (preserved start event initial legal.1) legal.2

theorem each_allowed_of_all (accepts : ε → Prop) (start : σ) (events : List ε) (all : ∀ event ∈ events, accepts event) :
    EachAllowed step (fun _ event => accepts event) start events := by
  induction events generalizing start with
  | nil => trivial
  | cons event rest ih =>
      rw [List.forall_mem_cons] at all
      exact ⟨all.1, ih (step start event) all.2⟩

instance eachAllowedDecidable [∀ state event, Decidable (allowed state event)] (start : σ) :
    (events : List ε) → Decidable (EachAllowed step allowed start events)
  | [] => isTrue trivial
  | event :: rest =>
      have := eachAllowedDecidable (step start event) rest
      inferInstanceAs (Decidable (allowed start event ∧ EachAllowed step allowed (step start event) rest))

end Runs

end MorphReth
