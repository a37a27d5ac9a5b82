import MorphReth.Fee.L1BlockInfo

set_option autoImplicit false

namespace MorphReth.Fee

open Rlp Consensus L1BlockInfo

-- The L1 data fee over unbounded integers.
def calldataGas (input : Bytes) : Nat :=
  (input.map (fun byte => if byte = 0 then 4 else 16)).sum

def oracleValue (storage : Storage) (slot : U256) : Nat :=
  (storage l1GasPriceOracleAddress slot).toNat

def trueL1Fee (storage : Storage) (hardfork : MorphHardfork) (input : Bytes) : Nat :=
  if hardfork.isCurie = false then
    (calldataGas input + oracleValue storage gpoOverheadSlot + 64) * oracleValue storage gpoL1BaseFeeSlot * oracleValue storage gpoScalarSlot /
      1000000000
  else
    (oracleValue storage gpoCommitScalarSlot * oracleValue storage gpoL1BaseFeeSlot +
        input.length * oracleValue storage gpoL1BlobBaseFeeSlot * oracleValue storage gpoBlobScalarSlot) / 1000000000

-- A slice has a machine word for its length. Before Curie the calldata gas is
-- summed in such a word as well.
def LengthFits (hardfork : MorphHardfork) (input : Bytes) : Prop :=
  input.length < 2 ^ 64 ∧ (hardfork.isCurie = false → input.length < 2 ^ 60)

def OracleAtMost (left right : Storage) : Prop :=
  ∀ slot ∈ [gpoL1BaseFeeSlot, gpoOverheadSlot, gpoScalarSlot, gpoL1BlobBaseFeeSlot, gpoCommitScalarSlot, gpoBlobScalarSlot],
    oracleValue left slot ≤ oracleValue right slot

def fetchedL1Fee (storage : Storage) (hardfork : MorphHardfork) (input : Bytes) : Nat :=
  ((tryFetch storage hardfork).calculateTxL1Cost input hardfork).toNat

theorem calldata_gas_append (input more : Bytes) : calldataGas (input ++ more) = calldataGas input + calldataGas more := by
  rw [calldataGas, List.map_append, List.sum_append, ← calldataGas, ← calldataGas]

theorem calldata_cost_exact (input : Bytes) (fits : input.length < 2 ^ 60) : (calldataCost input).toNat = calldataGas input := by
  have folded : ∀ (rest : Bytes) (start : U64), start.toNat + 16 * rest.length < 2 ^ 64 →
      (rest.foldl (fun cost byte => cost + if byte = 0 then zeroByteCost else nonZeroByteCost) start).toNat = start.toNat + calldataGas rest := by
    intro rest
    induction rest with
    | nil => exact fun _ _ => rfl
    | cons byte rest ih =>
        intro start below
        rw [List.length_cons] at below
        have cost : (if byte = 0 then zeroByteCost else nonZeroByteCost).toNat = if byte = 0 then 4 else 16 := by
          split <;> rfl
        have atMost : (if byte = 0 then 4 else 16) ≤ 16 := by split <;> decide
        have added : (start + if byte = 0 then zeroByteCost else nonZeroByteCost).toNat = start.toNat + if byte = 0 then 4 else 16 := by
          rw [BitVec.toNat_add, cost, Nat.mod_eq_of_lt (by omega)]
        rw [List.foldl_cons, ih _ (by rw [added]; omega), added, calldataGas, calldataGas, List.map_cons, List.sum_cons, Nat.add_assoc]
  rw [calldataCost, folded input 0 (by change 0 + _ < _; omega)]
  exact Nat.zero_add _

theorem capped_nat (fee : U256) : (if fee ≤ l1FeeCap then fee else l1FeeCap).toNat = min fee.toNat (2 ^ 64 - 1) := by
  have cap : l1FeeCap.toNat = 2 ^ 64 - 1 := by decide
  rw [← cap]
  split
  · next within => exact (Nat.min_eq_left (BitVec.le_def.mp within)).symm
  · next beyond => exact (Nat.min_eq_right (Nat.le_of_not_le (fun within => beyond (BitVec.le_def.mpr within)))).symm

theorem capped_cost_nat (info : L1BlockInfo) (input : Bytes) (hardfork : MorphHardfork) (cost : Nat)
    (computed : (if hardfork.isCurie = false then info.calculateTxL1CostPreCurie input hardfork
      else info.calculateTxL1CostCurie input hardfork).toNat =
      min cost (2 ^ 256 - 1) / 1000000000) : (info.calculateTxL1Cost input hardfork).toNat = min (2 ^ 64 - 1) (cost / 1000000000) := by
  rw [calculateTxL1Cost, capped_nat, computed, clamp_div cost (2 ^ 256 - 1) (2 ^ 64 - 1) 1000000000 (by decide), Nat.min_comm]

theorem fetched_pre_curie (storage : Storage) (hardfork : MorphHardfork) (input : Bytes) (early : hardfork.isCurie = false)
    (fits : input.length < 2 ^ 60) : fetchedL1Fee storage hardfork input = min (2 ^ 64 - 1) (trueL1Fee storage hardfork input) := by
  rw [fetchedL1Fee, trueL1Fee, if_pos early]
  apply capped_cost_nat
  have gas : ((tryFetch storage hardfork).dataGas input hardfork).toNat =
      min (calldataGas input + oracleValue storage gpoOverheadSlot + 64) (2 ^ 256 - 1) := by
    have cost : ((calldataCost input).setWidth 256).toNat = calldataGas input := by
      rw [BitVec.toNat_setWidth_of_le (by decide), calldata_cost_exact input fits]
    have extra : txL1CommitExtraCost.toNat = 64 := rfl
    rw [dataGas, if_pos early, saturating_add_nat, saturating_add_nat, cost, extra, tryFetch, if_pos early, ← oracleValue]
    omega
  rw [if_pos early, calculateTxL1CostPreCurie, BitVec.toNat_udiv, saturating_mul_nat, saturating_mul_nat, gas, clamp_mul, Nat.mul_assoc, clamp_mul,
    ← Nat.mul_assoc, tryFetch, if_pos early, ← oracleValue, ← oracleValue]
  rfl

theorem fetched_curie (storage : Storage) (hardfork : MorphHardfork) (input : Bytes) (later : ¬hardfork.isCurie = false)
    (fits : input.length < 2 ^ 64) : fetchedL1Fee storage hardfork input = min (2 ^ 64 - 1) (trueL1Fee storage hardfork input) := by
  rw [fetchedL1Fee, trueL1Fee, if_neg later]
  apply capped_cost_nat
  have gas : ((tryFetch storage hardfork).dataGas input hardfork).toNat =
      min (input.length * oracleValue storage gpoL1BlobBaseFeeSlot * oracleValue storage gpoBlobScalarSlot) (2 ^ 256 - 1) := by
    have length : (BitVec.ofNat 256 input.length).toNat = input.length := Nat.mod_eq_of_lt (by omega)
    rw [dataGas, if_neg later, saturating_mul_nat, saturating_mul_nat, length, clamp_mul, tryFetch, if_neg later, ← oracleValue, ← oracleValue]
  rw [if_neg later, calculateTxL1CostCurie, BitVec.toNat_udiv, saturating_add_nat, gas, tryFetch, if_neg later, saturating_mul_nat, ← oracleValue,
    ← oracleValue, clamp_add]
  rfl

theorem fetched_fee (storage : Storage) (hardfork : MorphHardfork) (input : Bytes) (fits : LengthFits hardfork input) :
    fetchedL1Fee storage hardfork input = min (2 ^ 64 - 1) (trueL1Fee storage hardfork input) := by
  by_cases early : hardfork.isCurie = false
  · exact fetched_pre_curie storage hardfork input early (fits.2 early)
  · exact fetched_curie storage hardfork input early fits.1

theorem true_fee_mono (left right : Storage) (hardfork : MorphHardfork) (input longer : Bytes) (oracle : OracleAtMost left right)
    (length : input.length ≤ longer.length) (gas : calldataGas input ≤ calldataGas longer) :
    trueL1Fee left hardfork input ≤ trueL1Fee right hardfork longer := by
  have baseFee := oracle gpoL1BaseFeeSlot (by simp)
  have overhead := oracle gpoOverheadSlot (by simp)
  have scalar := oracle gpoScalarSlot (by simp)
  have blobBaseFee := oracle gpoL1BlobBaseFeeSlot (by simp)
  have commitScalar := oracle gpoCommitScalarSlot (by simp)
  have blobScalar := oracle gpoBlobScalarSlot (by simp)
  rw [trueL1Fee, trueL1Fee]
  split
  · gcongr
  · gcongr

theorem l1_fee_is_capped_true_fee (storage : Storage) (hardfork : MorphHardfork) (input : Bytes) (fits : LengthFits hardfork input) :
    fetchedL1Fee storage hardfork input = min (2 ^ 64 - 1) (trueL1Fee storage hardfork input) ∧
      ∀ other more, OracleAtMost storage other → LengthFits hardfork (input ++ more) →
        fetchedL1Fee storage hardfork input ≤ fetchedL1Fee other hardfork (input ++ more) := by
  refine ⟨fetched_fee storage hardfork input fits, fun other more oracle longer => ?_⟩
  rw [fetched_fee storage hardfork input fits, fetched_fee other hardfork (input ++ more) longer]
  have mono := true_fee_mono storage other hardfork input (input ++ more) oracle (by simp) (by simp [calldata_gas_append])
  omega

theorem l1_fee_is_capped_true_fee_sample :
    fetchedL1Fee (fun _ _ => maxWord 256) .bernoulli [0, 1] = min (2 ^ 64 - 1) (trueL1Fee (fun _ _ => maxWord 256) .bernoulli [0, 1]) ∧
      ∀ other more, OracleAtMost (fun _ _ => maxWord 256) other → LengthFits .bernoulli ([0, 1] ++ more) →
        fetchedL1Fee (fun _ _ => maxWord 256) .bernoulli [0, 1] ≤ fetchedL1Fee other .bernoulli ([0, 1] ++ more) :=
  l1_fee_is_capped_true_fee (fun _ _ => maxWord 256) .bernoulli [0, 1] ⟨by decide, fun _ => by decide⟩

-- One wei for each unit of calldata gas.
def unitOracle : Storage :=
  fun _ slot => if slot = gpoL1BaseFeeSlot then txL1FeePrecision else if slot = gpoScalarSlot then 1 else 0

theorem calldata_cost_of_ones (count : Nat) : calldataCost (List.replicate count 1) = BitVec.ofNat 64 (16 * count) := by
  rw [calldataCost]
  induction count with
  | zero => rfl
  | succ count ih =>
      rw [List.replicate_succ', List.foldl_append, ih, Nat.mul_succ, BitVec.ofNat_add]
      rfl

-- The sum of the calldata gas wraps around for a transaction of 2^60 bytes
-- before Curie, and only the extra cost is left.
theorem long_calldata_undercharged :
    fetchedL1Fee unitOracle .bernoulli (List.replicate (2 ^ 60) 1) = 64 ∧
      min (2 ^ 64 - 1) (trueL1Fee unitOracle .bernoulli (List.replicate (2 ^ 60) 1)) = 2 ^ 64 - 1 := by
  have early : MorphHardfork.isCurie .bernoulli = false := rfl
  have gas : calldataGas (List.replicate (2 ^ 60) 1) = 16 * 2 ^ 60 := by
    rw [calldataGas, List.map_replicate, List.sum_replicate]
    rfl
  constructor
  · rw [fetchedL1Fee, calculateTxL1Cost, if_pos early, calculateTxL1CostPreCurie, dataGas, if_pos early, calldata_cost_of_ones]
    decide +kernel
  · rw [trueL1Fee, if_pos early, gas]
    decide +kernel

end MorphReth.Fee
