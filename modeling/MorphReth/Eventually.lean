import Mathlib.Logic.Function.Iterate
import Mathlib.Data.Nat.Init

set_option autoImplicit false

namespace MorphReth

section Eventually

variable {σ : Type} (next : σ → σ) (goal : σ → Prop)

-- Running a deterministic machine from a state meets the goal.
def Eventually (state : σ) : Prop :=
  ∃ steps, goal (next^[steps] state)

theorem eventually_now (state : σ) (met : goal state) : Eventually next goal state :=
  ⟨0, met⟩

theorem eventually_step (state : σ) (later : Eventually next goal (next state)) : Eventually next goal state := by
  obtain ⟨steps, met⟩ := later
  exact ⟨steps + 1, met⟩

theorem eventually_mono (weaker : σ → Prop) (implies : ∀ state, goal state → weaker state) (state : σ)
    (reached : Eventually next goal state) : Eventually next weaker state := by
  obtain ⟨steps, met⟩ := reached
  exact ⟨steps, implies _ met⟩

-- A loop: while its invariant holds, a step ends it or lowers the measure.
theorem eventually_by_measure (invariant : σ → Prop) (measure : σ → Nat)
    (progress : ∀ state, invariant state → Eventually next goal (next state) ∨
      invariant (next state) ∧ measure (next state) < measure state)
    (state : σ) (initial : invariant state) : Eventually next goal state := by
  induction bound : measure state using Nat.strongRecOn generalizing state with
  | ind size ih =>
      apply eventually_step
      rcases progress state initial with reached | ⟨kept, smaller⟩
      · exact reached
      · exact ih (measure (next state)) (bound ▸ smaller) (next state) kept rfl

end Eventually

section Schedules

variable {σ ε : Type}

def stateAt (step : σ → ε → σ) (start : σ) (schedule : Nat → ε) : Nat → σ
  | 0 => start
  | time + 1 => step (stateAt step start schedule time) (schedule time)

def LeadsTo (trace : Nat → σ) (early late : σ → Prop) : Prop :=
  ∀ time, early (trace time) → ∃ later, time ≤ later ∧ late (trace later)

variable {trace : Nat → σ} {early middle late : σ → Prop}

theorem leads_to_of_imp (implies : ∀ state, early state → late state) : LeadsTo trace early late :=
  fun time holds => ⟨time, Nat.le_refl _, implies _ holds⟩

theorem leads_to_trans (first : LeadsTo trace early middle) (second : LeadsTo trace middle late) : LeadsTo trace early late := by
  intro time holds
  obtain ⟨between, order, reached⟩ := first time holds
  obtain ⟨later, order', met⟩ := second between reached
  exact ⟨later, Nat.le_trans order order', met⟩

theorem leads_to_mono {stronger weaker : σ → Prop} (given : ∀ state, stronger state → early state) (leads : LeadsTo trace early late)
    (implies : ∀ state, late state → weaker state) : LeadsTo trace stronger weaker := by
  intro time holds
  obtain ⟨later, order, met⟩ := leads time (given _ holds)
  exact ⟨later, order, implies _ met⟩

theorem leads_to_or {other : σ → Prop} (first : LeadsTo trace early late) (second : LeadsTo trace other late) :
    LeadsTo trace (fun state => early state ∨ other state) late :=
  fun time holds => holds.elim (first time) (second time)

theorem persists_or_leaves (persists : ∀ time, early (trace time) → early (trace (time + 1)) ∨ late (trace (time + 1))) (time between : Nat)
    (order : time ≤ between) (holds : early (trace time)) : early (trace between) ∨ ∃ left, time ≤ left ∧ late (trace left) := by
  induction between, order using Nat.le_induction with
  | base => exact .inl holds
  | succ between after ih =>
      rcases ih with still | gone
      · exact (persists between still).imp id (fun left => ⟨between + 1, Nat.le_succ_of_le after, left⟩)
      · exact .inr gone

-- What persists until it is left meets anything that comes about meanwhile.
theorem leads_to_meeting (other : σ → Prop) (persists : ∀ time, early (trace time) → early (trace (time + 1)) ∨ late (trace (time + 1)))
    (comes : ∀ time, ∃ later, time ≤ later ∧ other (trace later)) :
    LeadsTo trace early (fun state => late state ∨ early state ∧ other state) := by
  intro time holds
  obtain ⟨later, order, arrived⟩ := comes time
  rcases persists_or_leaves persists time later order holds with still | ⟨left, after, met⟩
  · exact ⟨later, order, .inr ⟨still, arrived⟩⟩
  · exact ⟨left, after, .inl met⟩

end Schedules

section Fairness

variable {σ ε : Type} (step : σ → ε → σ) (start : σ) (schedule : Nat → ε) (turn : ε → Prop) (allowed : ε → Prop) (early late : σ → Prop)

-- A condition that only a fair event ends, and that this event turns into
-- another one.
theorem leads_to_fair (only : ∀ time, allowed (schedule time)) (fair : ∀ time, ∃ later, time ≤ later ∧ turn (schedule later))
    (waits : ∀ state event, early state → allowed event → ¬turn event → early (step state event))
    (moves : ∀ state event, early state → allowed event → turn event → late (step state event)) :
    LeadsTo (stateAt step start schedule) early late := by
  intro time holds
  obtain ⟨later, order, taken⟩ := fair time
  have persists : ∀ time, early (stateAt step start schedule time) →
      early (stateAt step start schedule (time + 1)) ∨ late (stateAt step start schedule (time + 1)) := by
    intro time holds
    by_cases moved : turn (schedule time)
    · exact .inr (moves _ _ holds (only time) moved)
    · exact .inl (waits _ _ holds (only time) moved)
  rcases persists_or_leaves persists time later order holds with still | gone
  · exact ⟨later + 1, Nat.le_succ_of_le order, moves _ _ still (only later) taken⟩
  · exact gone

end Fairness

end MorphReth
