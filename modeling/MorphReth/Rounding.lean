import Mathlib.Algebra.Order.Floor.Div

set_option autoImplicit false

namespace MorphReth

-- A charge rounded up with the numerator it overcharged, and a later refund
-- that adds this credit back before rounding down.
structure RoundedUp (numerator divisor charge credit : Nat) : Prop where
  exactly : charge * divisor = numerator + credit
  small : credit < divisor

theorem rounded_up_div (numerator divisor : Nat) (positive : 0 < divisor) :
    RoundedUp numerator divisor (if numerator % divisor = 0 then numerator / divisor else numerator / divisor + 1)
      (if numerator % divisor = 0 then 0 else divisor - numerator % divisor) := by
  have split := Nat.div_add_mod numerator divisor
  have bound := Nat.mod_lt numerator positive
  by_cases whole : numerator % divisor = 0
  · rw [if_pos whole, if_pos whole]
    refine ⟨?_, positive⟩
    rw [Nat.mul_comm]
    omega
  · rw [if_neg whole, if_neg whole]
    refine ⟨?_, by omega⟩
    rw [Nat.add_mul, Nat.mul_comm]
    omega

theorem refund_le_charge (numerator refunded divisor charge credit : Nat) (rounded : RoundedUp numerator divisor charge credit)
    (less : refunded ≤ numerator) : (refunded + credit) / divisor ≤ charge := by
  have positive : 0 < divisor := Nat.lt_of_le_of_lt (Nat.zero_le credit) rounded.small
  have bound : refunded + credit ≤ charge * divisor := by
    rw [rounded.exactly]
    omega
  calc (refunded + credit) / divisor ≤ charge * divisor / divisor := Nat.div_le_div_right bound
    _ = charge := Nat.mul_div_cancel charge positive

-- A charge fits a budget when its numerator does.
theorem charge_le_iff (numerator divisor charge credit budget : Nat) (rounded : RoundedUp numerator divisor charge credit) :
    charge ≤ budget ↔ numerator ≤ budget * divisor := by
  have exactly := rounded.exactly
  have small := rounded.small
  constructor
  · intro within
    have scaled := Nat.mul_le_mul_right divisor within
    omega
  · intro within
    have below : charge * divisor < (budget + 1) * divisor := by
      rw [Nat.add_mul, Nat.one_mul]
      omega
    exact Nat.le_of_lt_succ (Nat.lt_of_mul_lt_mul_right below)

theorem charge_mono (smaller larger divisor smallCharge largeCharge smallCredit largeCredit : Nat)
    (small : RoundedUp smaller divisor smallCharge smallCredit) (large : RoundedUp larger divisor largeCharge largeCredit)
    (less : smaller ≤ larger) : smallCharge ≤ largeCharge := by
  have covered := (charge_le_iff larger divisor largeCharge largeCredit largeCharge large).mp (Nat.le_refl _)
  exact (charge_le_iff smaller divisor smallCharge smallCredit largeCharge small).mpr (Nat.le_trans less covered)

-- The two roundings telescope to a single ceiling of the difference.
theorem charge_sub_refund (numerator refunded divisor charge credit : Nat) (rounded : RoundedUp numerator divisor charge credit)
    (less : refunded ≤ numerator) : charge - (refunded + credit) / divisor = (numerator - refunded) ⌈/⌉ divisor := by
  have positive : 0 < divisor := Nat.lt_of_le_of_lt (Nat.zero_le credit) rounded.small
  have bounded := refund_le_charge numerator refunded divisor charge credit rounded less
  have below := Nat.div_mul_le_self (refunded + credit) divisor
  have above := Nat.lt_div_mul_add positive (a := refunded + credit)
  have scaled : (charge - (refunded + credit) / divisor) * divisor = charge * divisor - (refunded + credit) / divisor * divisor :=
    Nat.sub_mul _ _ _
  have exactly := rounded.exactly
  rw [Nat.ceilDiv_eq_add_pred_div]
  symm
  apply Nat.div_eq_of_lt_le
  · rw [scaled]
    omega
  · rw [Nat.add_mul, scaled]
    omega

end MorphReth
