import Mathlib.Data.Nat.Dist

set_option autoImplicit false

namespace MorphReth.Ramp

-- One move toward a target by at most delta, and the sequence of such moves
-- when the allowance depends on where one stands.
def stepToward (delta target current : Nat) : Nat :=
  max (current - delta) (min (current + delta) target)

def ramp (delta : Nat → Nat) (target start : Nat) : Nat → Nat
  | 0 => start
  | count + 1 => stepToward (delta (ramp delta target start count)) target (ramp delta target start count)

theorem step_between (delta target current : Nat) :
    min current target ≤ stepToward delta target current ∧ stepToward delta target current ≤ max current target := by
  rw [stepToward]
  omega

theorem step_distance (delta target current : Nat) :
    Nat.dist (stepToward delta target current) target = Nat.dist current target - delta := by
  simp only [stepToward, Nat.dist]
  omega

theorem step_near (delta target current : Nat) : Nat.dist (stepToward delta target current) current ≤ delta := by
  simp only [stepToward, Nat.dist]
  omega

section Ramp

variable (delta : Nat → Nat) (target start : Nat)

theorem ramp_between (count : Nat) :
    min start target ≤ ramp delta target start count ∧ ramp delta target start count ≤ max start target := by
  induction count with
  | zero => exact ⟨Nat.min_le_left _ _, Nat.le_max_left _ _⟩
  | succ count ih =>
      have next := step_between (delta (ramp delta target start count)) target (ramp delta target start count)
      rw [ramp]
      omega

theorem ramp_distance (positive : ∀ current, min start target ≤ current → 1 ≤ delta current) (count : Nat) :
    Nat.dist (ramp delta target start count) target ≤ Nat.dist start target - count := by
  induction count with
  | zero => exact Nat.le_refl _
  | succ count ih =>
      have moved := positive _ (ramp_between delta target start count).1
      rw [ramp, step_distance]
      omega

theorem ramp_reaches (positive : ∀ current, min start target ≤ current → 1 ≤ delta current) (count : Nat)
    (enough : Nat.dist start target ≤ count) : ramp delta target start count = target := by
  apply Nat.eq_of_dist_eq_zero
  have := ramp_distance delta target start positive count
  omega

end Ramp

end MorphReth.Ramp
