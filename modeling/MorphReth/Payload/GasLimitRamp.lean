import MorphReth.Ramp
import MorphReth.Payload.Builder

set_option autoImplicit false

namespace MorphReth.Payload

open Consensus

def raisedTarget (desired : U64) : U64 :=
  if minimumGasLimit ≤ desired then desired else minimumGasLimit

-- The header limits of a chain whose blocks are all built without an override,
-- from the parent on.
def headerGasLimits (config : MorphBuilderConfig) (parent : U64) : Nat → U64
  | 0 => parent
  | count + 1 => config.nextHeaderGasLimit (headerGasLimits config parent count) none

def PassesMaximum (limit : U64) : Prop :=
  ∀ consensus now (sealed : SealedHeader), sealed.header.gasLimit = limit →
    ∀ reported, validateHeader consensus now sealed ≠ .error (.headerGasLimitExceedsMax reported)

structure RampHolds (config : MorphBuilderConfig) (parent : U64) : Prop where
  accepted : ∀ count (header previous : MorphHeader), header.gasLimit = headerGasLimits config parent (count + 1) →
    previous.gasLimit = headerGasLimits config parent count → validateAgainstParentGasLimit header previous = .ok ()
  maximum : ∀ count, PassesMaximum (headerGasLimits config parent (count + 1))
  approaches : ∀ desired, config.desiredGasLimit = some desired → ∀ count,
    Nat.dist (headerGasLimits config parent (count + 1)).toNat (raisedTarget desired).toNat ≤
      Nat.dist (headerGasLimits config parent count).toNat (raisedTarget desired).toNat
  reaches : ∀ desired, config.desiredGasLimit = some desired → desired ≤ maxGasLimit →
    ∃ count, ∀ later, count ≤ later → headerGasLimits config parent later = raisedTarget desired

section Checks

theorem passes_maximum_iff (limit : U64) : PassesMaximum limit ↔ limit ≤ maxGasLimit := by
  constructor
  · intro passes
    by_contra above
    apply passes sampleConsensus 10 ⟨{ sampleHeader 1 0 0 with gasLimit := limit }, 0⟩ rfl limit
    have exceeds : limit > maxGasLimit := BitVec.not_le.mp above
    simp [validateHeader, bind_error, sampleHeader, sampleConsensus, sampleSpec, exceeds]
  · intro within consensus now sealed same reported rejected
    have fits : ¬sealed.header.gasLimit > maxGasLimit := by
      rw [same]
      exact BitVec.not_lt.mpr within
    simp only [validateHeader, bind_error, reject_if_error, reject_if_ok, reduceCtorEq, and_false, false_or, fits, false_and] at rejected
    obtain ⟨_, _, _, _, _, _, _, _, _, _, _, _, _, _, _, _, baseFee⟩ := rejected
    cases fee : sealed.header.baseFeePerGas with
    | none => simp [fee] at baseFee
    | some found => simp [fee] at baseFee

structure InRange (limit : U64) : Prop where
  low : 5000 ≤ limit.toNat
  high : limit.toNat ≤ 9223372036854775807

theorem in_range_iff (limit : U64) : InRange limit ↔ minimumGasLimit ≤ limit ∧ limit ≤ maxGasLimit := by
  have minimum : minimumGasLimit.toNat = 5000 := by decide
  have maximum : maxGasLimit.toNat = 9223372036854775807 := by decide
  rw [BitVec.le_def, BitVec.le_def, minimum, maximum]
  exact ⟨fun range => ⟨range.low, range.high⟩, fun range => ⟨range.1, range.2⟩⟩

def allowance (limit : Nat) : Nat := limit / 1024 - 1

theorem next_limit_nat (parent target : U64) (range : InRange parent) :
    (calculateBlockGasLimit parent target).toNat = Ramp.stepToward (allowance parent.toNat) target.toNat parent.toNat := by
  have low := range.low
  have high := range.high
  have delta : (saturatingSub (parent / gasLimitBoundDivisor) 1).toNat = allowance parent.toNat := by
    rw [saturating_sub_nat, BitVec.toNat_udiv]
    rfl
  have small : allowance parent.toNat ≤ parent.toNat := by
    rw [allowance]
    omega
  have less : (parent - saturatingSub (parent / gasLimitBoundDivisor) 1).toNat = parent.toNat - allowance parent.toNat := by
    rw [BitVec.toNat_sub_of_le (BitVec.le_def.mpr (by rw [delta]; exact small)), delta]
  have more : (parent + saturatingSub (parent / gasLimitBoundDivisor) 1).toNat = parent.toNat + allowance parent.toNat := by
    rw [BitVec.toNat_add, delta, Nat.mod_eq_of_lt (by omega)]
  simp only [calculateBlockGasLimit, Ramp.stepToward, BitVec.lt_def, less, more]
  split
  · rw [less]
    omega
  · split
    · rw [more]
      omega
    · omega

theorem raised_target_nat (desired : U64) : (raisedTarget desired).toNat = max desired.toNat 5000 := by
  have minimum : minimumGasLimit.toNat = 5000 := by decide
  rw [raisedTarget]
  split
  · next above =>
      rw [BitVec.le_def, minimum] at above
      omega
  · next below =>
      rw [BitVec.le_def, minimum] at below
      omega

-- A limit passes against its parent exactly when it moved by less than the
-- bound and stays above the floor.
theorem gas_limit_accepted (header previous : MorphHeader)
    (near : Nat.dist header.gasLimit.toNat previous.gasLimit.toNat < previous.gasLimit.toNat / 1024) (low : 5000 ≤ header.gasLimit.toNat) :
    validateAgainstParentGasLimit header previous = .ok () := by
  have moved : (absDiff header.gasLimit previous.gasLimit).toNat = Nat.dist header.gasLimit.toNat previous.gasLimit.toNat := by
    simp only [absDiff, Nat.dist, BitVec.lt_def]
    split
    · next less =>
        rw [BitVec.toNat_sub_of_le (BitVec.le_def.mpr less.le)]
        omega
    · next more =>
        rw [BitVec.toNat_sub_of_le (BitVec.le_def.mpr (by omega))]
        omega
  have bound : (previous.gasLimit / gasLimitBoundDivisor).toNat = previous.gasLimit.toNat / 1024 := by
    rw [BitVec.toNat_udiv]
    rfl
  have minimum : minimumGasLimit.toNat = 5000 := by decide
  simp only [validateAgainstParentGasLimit, bind_ok, reject_if_ok, BitVec.le_def, BitVec.lt_def, moved, bound, minimum]
  exact ⟨(), by omega, by omega⟩

end Checks

section Sequence

variable (config : MorphBuilderConfig) (desired parent : U64)

theorem allowance_positive (range : InRange parent) (current : Nat) (above : min parent.toNat (raisedTarget desired).toNat ≤ current) :
    1 ≤ allowance current := by
  have low := range.low
  rw [raised_target_nat] at above
  rw [allowance]
  omega

variable (configured : config.desiredGasLimit = some desired) (range : InRange parent)

include configured range

-- The words follow the ramp over the naturals for as long as nothing has passed
-- the maximum, so that no sum wraps.
theorem limits_follow (count : Nat)
    (bounded : ∀ earlier, earlier < count → (headerGasLimits config parent earlier).toNat ≤ maxGasLimit.toNat) :
    (headerGasLimits config parent count).toNat = Ramp.ramp allowance (raisedTarget desired).toNat parent.toNat count := by
  induction count with
  | zero => rfl
  | succ count ih =>
      have follows := ih (fun earlier before => bounded earlier (Nat.lt_succ_of_lt before))
      have between := Ramp.ramp_between allowance (raisedTarget desired).toNat parent.toNat count
      have target := raised_target_nat desired
      have low := range.low
      have inRange : InRange (headerGasLimits config parent count) := by
        refine ⟨?_, bounded count (Nat.lt_succ_self count)⟩
        rw [follows]
        omega
      have next : headerGasLimits config parent (count + 1) =
          calculateBlockGasLimit (headerGasLimits config parent count) (raisedTarget desired) := by
        simp only [headerGasLimits, MorphBuilderConfig.nextHeaderGasLimit, configured, raisedTarget]
      rw [next, next_limit_nat _ _ inRange, Ramp.ramp, follows]

theorem limits_bounded (within : desired ≤ maxGasLimit) (count : Nat) :
    (headerGasLimits config parent count).toNat ≤ maxGasLimit.toNat := by
  induction count using Nat.strong_induction_on with
  | _ count ih =>
      have between := Ramp.ramp_between allowance (raisedTarget desired).toNat parent.toNat count
      have target := raised_target_nat desired
      have maximum : maxGasLimit.toNat = 9223372036854775807 := by decide
      have high := range.high
      rw [BitVec.le_def, maximum] at within
      rw [limits_follow config desired parent configured range count ih, maximum]
      omega

theorem ramp_holds_within (within : desired ≤ maxGasLimit) : RampHolds config parent := by
  have bounded := limits_bounded config desired parent configured range within
  have follows : ∀ count, (headerGasLimits config parent count).toNat = Ramp.ramp allowance (raisedTarget desired).toNat parent.toNat count :=
    fun count => limits_follow config desired parent configured range count (fun earlier _ => bounded earlier)
  have above : ∀ count, 5000 ≤ (headerGasLimits config parent count).toNat := by
    intro count
    have between := Ramp.ramp_between allowance (raisedTarget desired).toNat parent.toNat count
    have target := raised_target_nat desired
    have low := range.low
    rw [follows]
    omega
  have sameTarget : ∀ other, config.desiredGasLimit = some other → other = desired := by
    intro other chosen
    exact Option.some.inj (chosen.symm.trans configured)
  refine ⟨?_, ?_, ?_, ?_⟩
  · intro count header previous headerLimit previousLimit
    have near := Ramp.step_near (allowance (headerGasLimits config parent count).toNat) (raisedTarget desired).toNat
      (headerGasLimits config parent count).toNat
    have low := above count
    apply gas_limit_accepted
    · rw [headerLimit, previousLimit, follows (count + 1), Ramp.ramp, ← follows count]
      have room : allowance (headerGasLimits config parent count).toNat < (headerGasLimits config parent count).toNat / 1024 := by
        rw [allowance]
        omega
      exact Nat.lt_of_le_of_lt near room
    · rw [headerLimit]
      exact above (count + 1)
  · intro count
    exact (passes_maximum_iff _).mpr (BitVec.le_def.mpr (bounded (count + 1)))
  · intro other chosen count
    rw [sameTarget other chosen, follows (count + 1), Ramp.ramp, Ramp.step_distance, ← follows count]
    exact Nat.sub_le _ _
  · intro other chosen _
    refine ⟨Nat.dist parent.toNat (raisedTarget desired).toNat, fun later enough => ?_⟩
    apply BitVec.eq_of_toNat_eq
    rw [sameTarget other chosen, follows later]
    exact Ramp.ramp_reaches allowance _ _ (allowance_positive desired parent range) later enough

-- A target above the maximum is approached all the same, so that some header
-- on the way passes the maximum.
theorem ramp_overshoots (beyond : ¬desired ≤ maxGasLimit) : ∃ count, ¬PassesMaximum (headerGasLimits config parent (count + 1)) := by
  by_contra everyPasses
  simp only [not_exists, not_not] at everyPasses
  have bounded : ∀ count, (headerGasLimits config parent count).toNat ≤ maxGasLimit.toNat := by
    intro count
    cases count with
    | zero => exact range.high
    | succ count => exact BitVec.le_def.mp ((passes_maximum_iff _).mp (everyPasses count))
  have reached := Ramp.ramp_reaches allowance _ _ (allowance_positive desired parent range) _ (Nat.le_refl _)
  rw [← limits_follow config desired parent configured range _ (fun earlier _ => bounded earlier), raised_target_nat] at reached
  have last := bounded (Nat.dist parent.toNat (raisedTarget desired).toNat)
  rw [BitVec.le_def] at beyond
  rw [raised_target_nat] at last
  omega

end Sequence

-- The floor is kept by raising the target; nothing lowers a target above the
-- ceiling.
theorem gas_limit_ramp_accepted (config : MorphBuilderConfig) (desired parent : U64) (configured : config.desiredGasLimit = some desired)
    (low : minimumGasLimit ≤ parent) (high : parent ≤ maxGasLimit) : RampHolds config parent ↔ desired ≤ maxGasLimit := by
  have range := (in_range_iff parent).mpr ⟨low, high⟩
  constructor
  · intro holds
    by_contra beyond
    obtain ⟨count, rejected⟩ := ramp_overshoots config desired parent configured range beyond
    exact rejected (holds.maximum count)
  · intro within
    exact ramp_holds_within config desired parent configured range within

theorem gas_limit_ramp_accepted_sample :
    minimumGasLimit ≤ (30000000 : U64) ∧ (30000000 : U64) ≤ maxGasLimit ∧
      (RampHolds ⟨none, 1, none, some 60000000⟩ 30000000 ↔ (60000000 : U64) ≤ maxGasLimit) :=
  ⟨by decide, by decide, gas_limit_ramp_accepted ⟨none, 1, none, some 60000000⟩ 60000000 30000000 rfl (by decide) (by decide)⟩

theorem gas_limit_ramp_exceeds_maximum :
    minimumGasLimit ≤ maxGasLimit ∧ headerGasLimits ⟨none, 1, none, some 0xffffffffffffffff⟩ maxGasLimit 1 = 0x801ffffffffffffd ∧
      ¬RampHolds ⟨none, 1, none, some 0xffffffffffffffff⟩ maxGasLimit := by
  have next : headerGasLimits ⟨none, 1, none, some 0xffffffffffffffff⟩ maxGasLimit 1 = 0x801ffffffffffffd := by decide
  refine ⟨by decide, next, ?_⟩
  intro holds
  have passes := (passes_maximum_iff _).mp (holds.maximum 0)
  rw [next] at passes
  exact absurd passes (by decide)

end MorphReth.Payload
