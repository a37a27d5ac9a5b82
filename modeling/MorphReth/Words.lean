import Mathlib.Algebra.Group.Nat.Defs
import Mathlib.Data.Nat.Basic

set_option autoImplicit false

namespace MorphReth

abbrev Address := BitVec 160

abbrev B256 := BitVec 256

abbrev U256 := BitVec 256

abbrev U128 := BitVec 128

abbrev U64 := BitVec 64

abbrev U16 := BitVec 16

section Words

variable {width : Nat}

def maxWord (width : Nat) : BitVec width :=
  BitVec.allOnes width

def checkedAdd (left right : BitVec width) : Option (BitVec width) :=
  if left.toNat + right.toNat < 2 ^ width then some (left + right) else none

def checkedSub (left right : BitVec width) : Option (BitVec width) :=
  if right.toNat ≤ left.toNat then some (left - right) else none

def checkedMul (left right : BitVec width) : Option (BitVec width) :=
  if left.toNat * right.toNat < 2 ^ width then some (left * right) else none

def saturatingAdd (left right : BitVec width) : BitVec width :=
  if left.toNat + right.toNat < 2 ^ width then left + right else maxWord width

def saturatingSub (left right : BitVec width) : BitVec width :=
  if right.toNat ≤ left.toNat then left - right else 0

def saturatingMul (left right : BitVec width) : BitVec width :=
  if left.toNat * right.toNat < 2 ^ width then left * right else maxWord width

theorem max_word_nat (width : Nat) : (maxWord width).toNat = 2 ^ width - 1 := by
  rw [maxWord, BitVec.toNat_allOnes]

theorem checked_add_some (left right sum : BitVec width) (added : checkedAdd left right = some sum) :
    sum.toNat = left.toNat + right.toNat := by
  rw [checkedAdd] at added
  split at added
  · next fits =>
      cases added
      rw [BitVec.toNat_add, Nat.mod_eq_of_lt fits]
  · cases added

theorem checked_sub_some (left right difference : BitVec width) (subtracted : checkedSub left right = some difference) :
    difference.toNat + right.toNat = left.toNat := by
  rw [checkedSub] at subtracted
  split at subtracted
  · next enough =>
      cases subtracted
      rw [BitVec.toNat_sub_of_le (BitVec.le_def.mpr enough)]
      omega
  · cases subtracted

theorem checked_mul_some (left right product : BitVec width) (multiplied : checkedMul left right = some product) :
    product.toNat = left.toNat * right.toNat := by
  rw [checkedMul] at multiplied
  split at multiplied
  · next fits =>
      cases multiplied
      rw [BitVec.toNat_mul, Nat.mod_eq_of_lt fits]
  · cases multiplied

theorem saturating_add_nat (left right : BitVec width) :
    (saturatingAdd left right).toNat = min (left.toNat + right.toNat) (2 ^ width - 1) := by
  have positive := Nat.two_pow_pos width
  rw [saturatingAdd]
  split
  · next fits =>
      rw [BitVec.toNat_add, Nat.mod_eq_of_lt fits]
      omega
  · rw [max_word_nat]
    omega

theorem saturating_sub_nat (left right : BitVec width) : (saturatingSub left right).toNat = left.toNat - right.toNat := by
  rw [saturatingSub]
  split
  · next enough => rw [BitVec.toNat_sub_of_le (BitVec.le_def.mpr enough)]
  · next short =>
      change (BitVec.ofNat width 0).toNat = _
      rw [BitVec.toNat_zero]
      omega

theorem saturating_mul_nat (left right : BitVec width) :
    (saturatingMul left right).toNat = min (left.toNat * right.toNat) (2 ^ width - 1) := by
  have positive := Nat.two_pow_pos width
  rw [saturatingMul]
  split
  · next fits =>
      rw [BitVec.toNat_mul, Nat.mod_eq_of_lt fits]
      omega
  · rw [max_word_nat]
    omega

end Words

section Clamps

variable (left right limit : Nat)

-- A saturated intermediate value is not seen behind a later saturation.
theorem clamp_add : min (min left limit + min right limit) limit = min (left + right) limit := by
  omega

theorem clamp_mul : min (min left limit * right) limit = min (left * right) limit := by
  cases right with
  | zero => simp
  | succ factor =>
      rcases Nat.le_total left limit with small | large
      · rw [Nat.min_eq_left small]
      · have least : limit ≤ limit * (factor + 1) := Nat.le_mul_of_pos_right limit (Nat.succ_pos factor)
        rw [Nat.min_eq_right large, Nat.min_eq_right least, Nat.min_eq_right (Nat.le_trans least (Nat.mul_le_mul_right _ large))]

-- Nor is it seen behind a division and a cap that the limit exceeds.
theorem clamp_div (cap divisor : Nat) (covered : cap ≤ limit / divisor) :
    min (min left limit / divisor) cap = min (left / divisor) cap := by
  rcases Nat.le_total left limit with small | large
  · rw [Nat.min_eq_left small]
  · rw [Nat.min_eq_right large, Nat.min_eq_right covered, Nat.min_eq_right (Nat.le_trans covered (Nat.div_le_div_right large))]

end Clamps

end MorphReth
