import MorphReth.Fee.Hooks
import MorphReth.Fee.Settlement

set_option autoImplicit false

namespace MorphReth.Fee

open Rlp Consensus Transaction

theorem effective_at_most_cap (tx : MorphTxEnv) (baseFee : U128) : (tx.effectiveGasPrice baseFee).toNat ≤ tx.gasPrice.toNat := by
  rw [MorphTxEnv.effectiveGasPrice]
  split
  · exact Nat.le_refl _
  · split
    · exact Nat.le_refl _
    · dsimp only
      split
      · exact Nat.le_refl _
      · next above => exact Nat.le_of_lt (BitVec.lt_def.mp (BitVec.not_le.mp above))

theorem gas_at_effective_fits (tx : MorphTxEnv) (baseFee : U128) (fits : tx.gasLimit.toNat * tx.gasPrice.toNat < 2 ^ 128) :
    tx.gasLimit.toNat * (tx.effectiveGasPrice baseFee).toNat < 2 ^ 128 :=
  Nat.lt_of_le_of_lt (Nat.mul_le_mul_left _ (effective_at_most_cap tx baseFee)) fits

variable (ctx : HandlerContext)

theorem max_spending_ok (l1DataFee spending : U256) (computed : maxSpending ctx l1DataFee = .ok spending) :
    ctx.tx.gasLimit.toNat * ctx.tx.gasPrice.toNat < 2 ^ 128 ∧
      spending.toNat = ctx.tx.gasLimit.toNat * ctx.tx.gasPrice.toNat + ctx.tx.value.toNat + l1DataFee.toNat := by
  rw [maxSpending] at computed
  split at computed
  · cases computed
  · next maxGas multiplied =>
      split at computed
      · cases computed
      · next withValue addedValue =>
          split at computed
          · cases computed
          · next total addedFee =>
              cases computed
              have product := checked_mul_some _ _ _ multiplied
              rw [BitVec.toNat_setWidth_of_le (by decide), MorphTxEnv.maxFeePerGas] at product
              have sum := checked_add_some _ _ _ addedValue
              rw [BitVec.toNat_setWidth_of_le (by decide)] at sum
              have total := checked_add_some _ _ _ addedFee
              have bound := maxGas.isLt
              omega

theorem max_spending_fits (l1DataFee : U256) (gasFits : ctx.tx.gasLimit.toNat * ctx.tx.gasPrice.toNat < 2 ^ 128)
    (fits : ctx.tx.gasLimit.toNat * ctx.tx.gasPrice.toNat + ctx.tx.value.toNat + l1DataFee.toNat < 2 ^ 256) :
    ∃ spending, maxSpending ctx l1DataFee = .ok spending := by
  rw [maxSpending]
  split
  · next overflow =>
      simp only [checkedMul, BitVec.toNat_setWidth_of_le (by decide : 64 ≤ 128), MorphTxEnv.maxFeePerGas, if_pos gasFits] at overflow
      cases overflow
  · next maxGas multiplied =>
      have product := checked_mul_some _ _ _ multiplied
      rw [BitVec.toNat_setWidth_of_le (by decide), MorphTxEnv.maxFeePerGas] at product
      split
      · next overflow =>
          simp only [checkedAdd, BitVec.toNat_setWidth_of_le (by decide : 128 ≤ 256)] at overflow
          rw [if_pos (by omega)] at overflow
          cases overflow
      · next withValue addedValue =>
          have sum := checked_add_some _ _ _ addedValue
          rw [BitVec.toNat_setWidth_of_le (by decide)] at sum
          split
          · next overflow =>
              rw [checkedAdd, if_pos (by omega)] at overflow
              cases overflow
          · next total _ => exact ⟨total, rfl⟩

theorem effective_spending_ok (tx : MorphTxEnv) (baseFee : U128) (spending : U256)
    (computed : tx.effectiveBalanceSpending baseFee = .ok spending) :
    spending.toNat = tx.gasLimit.toNat * (tx.effectiveGasPrice baseFee).toNat + tx.value.toNat := by
  rw [MorphTxEnv.effectiveBalanceSpending] at computed
  split at computed
  · cases computed
  · next gasCost multiplied =>
      split at computed
      · cases computed
      · next total added =>
          cases computed
          have product := checked_mul_some _ _ _ multiplied
          rw [BitVec.toNat_setWidth_of_le (by decide)] at product
          have sum := checked_add_some _ _ _ added
          rw [BitVec.toNat_setWidth_of_le (by decide)] at sum
          omega

theorem effective_spending_fits (tx : MorphTxEnv) (baseFee : U128)
    (gasFits : tx.gasLimit.toNat * (tx.effectiveGasPrice baseFee).toNat < 2 ^ 128)
    (fits : tx.gasLimit.toNat * (tx.effectiveGasPrice baseFee).toNat + tx.value.toNat < 2 ^ 256) :
    ∃ spending, tx.effectiveBalanceSpending baseFee = .ok spending := by
  rw [MorphTxEnv.effectiveBalanceSpending]
  split
  · next overflow =>
      simp only [checkedMul, BitVec.toNat_setWidth_of_le (by decide : 64 ≤ 128), if_pos gasFits] at overflow
      cases overflow
  · next gasCost multiplied =>
      have product := checked_mul_some _ _ _ multiplied
      rw [BitVec.toNat_setWidth_of_le (by decide)] at product
      split
      · next overflow =>
          simp only [checkedAdd, BitVec.toNat_setWidth_of_le (by decide : 128 ≤ 256)] at overflow
          rw [if_pos (by omega)] at overflow
          cases overflow
      · next total _ => exact ⟨total, rfl⟩

-- The check at the fee cap leaves room for the deduction at the effective
-- price, so neither the sum nor the difference saturates.
structure CallerCharged (ctx : HandlerContext) (l1DataFee : U256) (before after : Nat) : Prop where
  exactly : after + ctx.tx.gasLimit.toNat * ctx.effectiveGasPrice.toNat + l1DataFee.toNat = before
  keepsValue : ctx.tx.value.toNat ≤ after
  gasFits : ctx.tx.gasLimit.toNat * ctx.tx.gasPrice.toNat < 2 ^ 128

theorem caller_fee_exact (charging : ctx.isFeeChargeDisabled = false) (checking : ctx.isBalanceCheckDisabled = false)
    (balance l1DataFee newBalance : U256) (accepted : calculateCallerFeeWithL1Cost ctx balance l1DataFee = .ok newBalance) :
    CallerCharged ctx l1DataFee balance.toNat newBalance.toNat := by
  simp only [calculateCallerFeeWithL1Cost, charging, checking, Bool.false_eq_true, if_false, if_true, false_and, bind_ok,
    checkMaxSpending, reject_if_ok] at accepted
  obtain ⟨_, ⟨maximum, bounded, covered⟩, spending, spent, result⟩ := accepted
  cases result
  obtain ⟨gasFits, maximumNat⟩ := max_spending_ok ctx l1DataFee maximum bounded
  have spendingNat := effective_spending_ok ctx.tx ctx.baseFee spending spent
  have cheaper := Nat.mul_le_mul_left ctx.tx.gasLimit.toNat (effective_at_most_cap ctx.tx ctx.baseFee)
  have enough := BitVec.le_def.mp (BitVec.not_lt.mp covered)
  have balanceBound := balance.isLt
  have gasSpending : (spending - ctx.tx.value).toNat = ctx.tx.gasLimit.toNat * (ctx.tx.effectiveGasPrice ctx.baseFee).toNat := by
    rw [BitVec.toNat_sub_of_le (BitVec.le_def.mpr (by omega))]
    omega
  have deduction := saturating_add_nat (spending - ctx.tx.value) l1DataFee
  have after := saturating_sub_nat balance (saturatingAdd (spending - ctx.tx.value) l1DataFee)
  refine ⟨?_, ?_, gasFits⟩
  · rw [HandlerContext.effectiveGasPrice]
    omega
  · omega

variable (journal : Journal)

theorem incr_balance_other (account other : Address) (amount : U256) (different : other ≠ account) :
    (journal.incrBalance account amount).balance other = journal.balance other := by
  rw [Journal.incrBalance]
  split
  · rfl
  · exact if_neg different

theorem incr_balance_fits (account : Address) (amount : U256) (fits : (journal.balance account).toNat + amount.toNat < 2 ^ 256) :
    ((journal.incrBalance account amount).balance account).toNat = (journal.balance account).toNat + amount.toNat := by
  rw [Journal.incrBalance, checkedAdd, if_pos fits]
  simp only [Journal.setBalance, if_true, BitVec.toNat_add, Nat.mod_eq_of_lt fits]

theorem incr_balance_zero (account : Address) : (journal.incrBalance account 0).balance = journal.balance := by
  funext other
  by_cases same : other = account
  · subst same
    apply BitVec.eq_of_toNat_eq
    rw [incr_balance_fits journal other 0 (journal.balance other).isLt]
    rfl
  · exact incr_balance_other journal account other 0 same

theorem bump_call_nonce_balance (ctx : FeeContext) (journal : Journal) : (bumpCallNonce ctx journal).balance = journal.balance := by
  rw [bumpCallNonce]
  split
  · rfl
  · rfl

section GasUnits

variable (limit : U64) (outcome : GasOutcome limit)

theorem refunded_word_nat : outcome.gas.refundedWord.toNat = outcome.gas.refunded.toNat := by
  have within := outcome.within
  have bound := limit.isLt
  rw [Gas.refundedWord, BitVec.toNat_ofNat, Nat.mod_eq_of_lt (by omega)]

theorem unused_gas_nat : (outcome.gas.remaining + outcome.gas.refundedWord).toNat = returnedGas outcome.gas := by
  have within := outcome.within
  have bound := limit.isLt
  rw [BitVec.toNat_add, refunded_word_nat, Nat.mod_eq_of_lt (by omega), returnedGas]

theorem used_gas_nat : (outcome.gas.used limit).toNat + returnedGas outcome.gas = limit.toNat := by
  have within := outcome.within
  rw [Gas.used, saturating_sub_nat, saturating_sub_nat, refunded_word_nat, returnedGas]
  omega

end GasUnits

def reimbursement (ctx : HandlerContext) (gas : Gas) : U256 :=
  (saturatingMul ctx.effectiveGasPrice ((gas.remaining + gas.refundedWord).setWidth 128)).setWidth 256

def reward (ctx : HandlerContext) (gas : Gas) (l1DataFee : U256) : U256 :=
  saturatingAdd (saturatingMul (ctx.effectiveGasPrice.setWidth 256) ((gas.used ctx.tx.gasLimit).setWidth 256)) l1DataFee

-- A transaction that pays in ETH: the hooks take their standard branches.
structure PaysEth (tx : MorphTxEnv) : Prop where
  notL1Msg : tx.isL1Msg = false
  notToken : tx.paysInToken = false

section Hooks

variable (ctx : HandlerContext) (eth : PaysEth ctx.tx)

include eth

theorem deduct_eth_fee_ok (evm deducted : MorphEvm) (deduction : validateAgainstStateAndDeductCaller ctx evm = .ok deducted) :
    ∃ newBalance, calculateCallerFeeWithL1Cost ctx (evm.journal.balance ctx.tx.caller) (ctx.l1DataFee evm.journal) = .ok newBalance ∧
      deducted.cachedL1DataFee = ctx.l1DataFee evm.journal ∧
      deducted.journal.balance = (evm.journal.setBalance ctx.tx.caller newBalance).balance := by
  simp only [validateAgainstStateAndDeductCaller, eth.notL1Msg, eth.notToken, Bool.false_eq_true, if_false, validateAndDeductEthFee,
    bind_ok, map_error_ok] at deduction
  obtain ⟨_, _, newBalance, computed, result⟩ := deduction
  cases result
  exact ⟨newBalance, computed, rfl, bump_call_nonce_balance _ _⟩

theorem settle_gas_eth (evm : MorphEvm) (gas : Gas) :
    ∃ settled, settleGas ctx evm gas = .ok settled ∧
      settled.journal = (evm.journal.incrBalance ctx.tx.caller (reimbursement ctx gas)).incrBalance ctx.beneficiary
        (reward ctx gas evm.cachedL1DataFee) := by
  refine ⟨rewardBeneficiary ctx (reimburseCallerEth ctx evm gas) gas, ?_, ?_⟩
  · simp [settleGas, reimburseCaller, eth.notL1Msg, eth.notToken, bind, Except.bind]
  · simp [rewardBeneficiary, reimburseCallerEth, eth.notL1Msg, eth.notToken, reimbursement, reward]

end Hooks

theorem reimbursement_nat (outcome : GasOutcome ctx.tx.gasLimit) (gasFits : ctx.tx.gasLimit.toNat * ctx.tx.gasPrice.toNat < 2 ^ 128) :
    (reimbursement ctx outcome.gas).toNat = ctx.effectiveGasPrice.toNat * returnedGas outcome.gas := by
  have fits : ctx.tx.gasLimit.toNat * ctx.effectiveGasPrice.toNat < 2 ^ 128 := gas_at_effective_fits ctx.tx ctx.baseFee gasFits
  have less : ctx.effectiveGasPrice.toNat * returnedGas outcome.gas ≤ ctx.effectiveGasPrice.toNat * ctx.tx.gasLimit.toNat :=
    Nat.mul_le_mul_left _ outcome.within
  rw [Nat.mul_comm] at fits
  rw [reimbursement, BitVec.toNat_setWidth_of_le (by decide), saturating_mul_nat, BitVec.toNat_setWidth_of_le (by decide), unused_gas_nat]
  omega

theorem reward_nat (outcome : GasOutcome ctx.tx.gasLimit) (l1DataFee : U256)
    (fits : ctx.effectiveGasPrice.toNat * (outcome.gas.used ctx.tx.gasLimit).toNat + l1DataFee.toNat < 2 ^ 256) :
    (reward ctx outcome.gas l1DataFee).toNat =
      ctx.effectiveGasPrice.toNat * (outcome.gas.used ctx.tx.gasLimit).toNat + l1DataFee.toNat := by
  rw [reward, saturating_add_nat, saturating_mul_nat, BitVec.toNat_setWidth_of_le (by decide), BitVec.toNat_setWidth_of_le (by decide)]
  omega

-- What the transaction costs its caller.
def ethFee (ctx : HandlerContext) (evm : MorphEvm) (gas : Gas) : Nat :=
  ctx.effectiveGasPrice.toNat * (gas.used ctx.tx.gasLimit).toNat + (ctx.l1DataFee evm.journal).toNat

-- The main frame is free to leave any journal. Each hook's own effect is the
-- difference it makes, so the four balances of an account are compared: before
-- and after the deduction, and before and after the settlement.
theorem eth_fee_conserved (ctx : HandlerContext) (eth : PaysEth ctx.tx) (charging : ctx.isFeeChargeDisabled = false)
    (checking : ctx.isBalanceCheckDisabled = false) (apart : ctx.tx.caller ≠ ctx.beneficiary) (start deducted : MorphEvm)
    (deduction : validateAgainstStateAndDeductCaller ctx start = .ok deducted) (executed : Journal) (outcome : GasOutcome ctx.tx.gasLimit)
    (refundFits : (executed.balance ctx.tx.caller).toNat + ctx.effectiveGasPrice.toNat * returnedGas outcome.gas < 2 ^ 256)
    (rewardFits : (executed.balance ctx.beneficiary).toNat + ethFee ctx start outcome.gas < 2 ^ 256) :
    (deducted.journal.balance ctx.tx.caller).toNat + ctx.tx.gasLimit.toNat * ctx.effectiveGasPrice.toNat +
        (ctx.l1DataFee start.journal).toNat = (start.journal.balance ctx.tx.caller).toNat ∧
      ctx.tx.value.toNat ≤ (deducted.journal.balance ctx.tx.caller).toNat ∧
      ∃ settled, settleGas ctx { deducted with journal := executed } outcome.gas = .ok settled ∧
        (start.journal.balance ctx.tx.caller).toNat + (executed.balance ctx.tx.caller).toNat =
          (deducted.journal.balance ctx.tx.caller).toNat + (settled.journal.balance ctx.tx.caller).toNat + ethFee ctx start outcome.gas ∧
        (start.journal.balance ctx.beneficiary).toNat + (executed.balance ctx.beneficiary).toNat + ethFee ctx start outcome.gas =
          (deducted.journal.balance ctx.beneficiary).toNat + (settled.journal.balance ctx.beneficiary).toNat := by
  obtain ⟨newBalance, computed, cached, balances⟩ := deduct_eth_fee_ok ctx eth start deducted deduction
  have charged := caller_fee_exact ctx charging checking _ _ newBalance computed
  have caller : deducted.journal.balance ctx.tx.caller = newBalance := by rw [balances]; exact if_pos rfl
  have beneficiary : deducted.journal.balance ctx.beneficiary = start.journal.balance ctx.beneficiary := by
    rw [balances]
    exact if_neg (Ne.symm apart)
  rw [caller, beneficiary]
  refine ⟨charged.exactly, charged.keepsValue, ?_⟩
  obtain ⟨settled, settlement, journal⟩ := settle_gas_eth ctx eth { deducted with journal := executed } outcome.gas
  refine ⟨settled, settlement, ?_⟩
  have refund := reimbursement_nat ctx outcome charged.gasFits
  have rewarded := reward_nat ctx outcome (ctx.l1DataFee start.journal) (by rw [ethFee] at rewardFits; omega)
  have units := used_gas_nat ctx.tx.gasLimit outcome
  have product : ctx.tx.gasLimit.toNat * ctx.effectiveGasPrice.toNat =
      ctx.effectiveGasPrice.toNat * (outcome.gas.used ctx.tx.gasLimit).toNat + ctx.effectiveGasPrice.toNat * returnedGas outcome.gas := by
    rw [← Nat.mul_add, units, Nat.mul_comm]
  have exactly := charged.exactly
  simp only [cached] at journal
  rw [journal]
  refine ⟨?_, ?_⟩
  · rw [incr_balance_other _ _ _ _ apart, incr_balance_fits _ _ _ (by rw [refund]; exact refundFits), refund, ethFee]
    omega
  · have untouched : ((executed.incrBalance ctx.tx.caller (reimbursement ctx outcome.gas)).balance ctx.beneficiary) =
        executed.balance ctx.beneficiary :=
      incr_balance_other _ _ _ _ (Ne.symm apart)
    rw [incr_balance_fits _ _ _ (by rw [untouched, rewarded]; exact rewardFits), untouched, rewarded, ethFee]
    omega

def sampleEthTx : MorphTxEnv where
  txType := 0x02
  caller := 0xA1
  isCall := true
  value := 1000
  nonce := 3
  gasLimit := 100000
  gasPrice := 50
  gasPriorityFee := some 5
  rlpBytes := some [1, 2, 3]
  feeTokenId := none
  feeLimit := none

def sampleEthContext : HandlerContext where
  keccak256 _ := 0
  tx := sampleEthTx
  beneficiary := 0xB2
  basefee := 10
  hardfork := .celadon
  isFeeChargeDisabled := false
  isBalanceCheckDisabled := false
  isEip3607Disabled := false
  isNonceCheckDisabled := false
  callerHasCode := false
  evmCallBalanceOf _ _ _ := .error .tokenBalanceQueryFailed
  transferErc20WithEvm journal _ _ _ _ _ := (.error .tokenBalanceQueryFailed, journal)

-- The oracle charges 7 wei for every transaction.
def sampleEthJournal : Journal where
  storage _ slot := if slot = gpoL1BaseFeeSlot then 1000000000 else if slot = gpoCommitScalarSlot then 7 else 0
  balance account := if account = 0xA1 then 6000000 else 0
  nonce _ := 3

def sampleEthStart : MorphEvm := resetCaches ⟨sampleEthJournal, none, 0, 0, 0⟩

def sampleEthDeducted : MorphEvm :=
  { sampleEthStart with
    journal := bumpCallNonce sampleEthContext.feeContext (sampleEthJournal.setBalance 0xA1 4499993)
    cachedL1DataFee := 7 }

def sampleOutcome : GasOutcome 100000 := ⟨⟨40000, 1000⟩, by decide, by decide⟩

theorem sample_eth_deduction : validateAgainstStateAndDeductCaller sampleEthContext sampleEthStart = .ok sampleEthDeducted := by
  rfl

theorem eth_fee_conserved_sample :
    validateAgainstStateAndDeductCaller sampleEthContext sampleEthStart = .ok sampleEthDeducted ∧
      (sampleEthDeducted.journal.balance 0xA1).toNat + 100000 * 15 + 7 = 6000000 ∧ 1000 ≤ (sampleEthDeducted.journal.balance 0xA1).toNat ∧
      ∃ settled, settleGas sampleEthContext sampleEthDeducted sampleOutcome.gas = .ok settled ∧
        6000000 + 4499993 = 4499993 + (settled.journal.balance 0xA1).toNat + (15 * 59000 + 7) ∧
        0 + 0 + (15 * 59000 + 7) = 0 + (settled.journal.balance 0xB2).toNat :=
  ⟨sample_eth_deduction, eth_fee_conserved sampleEthContext ⟨rfl, rfl⟩ rfl rfl (by decide) sampleEthStart sampleEthDeducted sample_eth_deduction
    sampleEthDeducted.journal sampleOutcome (by decide) (by decide)⟩

theorem free_reimbursement (free : ctx.effectiveGasPrice = 0) (gas : Gas) : reimbursement ctx gas = 0 := by
  apply BitVec.eq_of_toNat_eq
  rw [reimbursement, BitVec.toNat_setWidth_of_le (by decide), saturating_mul_nat, free]
  simp

theorem free_reward (free : ctx.effectiveGasPrice = 0) (gas : Gas) (l1DataFee : U256) : reward ctx gas l1DataFee = l1DataFee := by
  have bound := l1DataFee.isLt
  apply BitVec.eq_of_toNat_eq
  rw [reward, saturating_add_nat, saturating_mul_nat, BitVec.toNat_setWidth_of_le (by decide), free]
  simp only [BitVec.ofNat_eq_ofNat, BitVec.toNat_ofNat, Nat.zero_mod, Nat.zero_mul, Nat.zero_min, Nat.zero_add]
  omega

theorem set_same_balance (account : Address) : (journal.setBalance account (journal.balance account)).balance = journal.balance := by
  funext other
  simp only [Journal.setBalance]
  split
  · next same => rw [same]
  · rfl

-- A credit leaves the account as it was when it is nothing or when it is
-- dropped.
theorem incr_balance_kept (account : Address) (amount : U256) :
    (journal.incrBalance account amount).balance account = journal.balance account ↔
      amount = 0 ∨ 2 ^ 256 ≤ (journal.balance account).toNat + amount.toNat := by
  by_cases fits : (journal.balance account).toNat + amount.toNat < 2 ^ 256
  · have credited := incr_balance_fits journal account amount fits
    constructor
    · intro same
      rw [same] at credited
      exact .inl (BitVec.eq_of_toNat_eq (by simp; omega))
    · rintro (nothing | overflow)
      · rw [nothing, incr_balance_zero]
      · omega
  · rw [Journal.incrBalance, checkedAdd, if_neg fits]
    exact ⟨fun _ => .inr (Nat.le_of_not_lt fits), fun _ => rfl⟩

-- The reward hook pays out the cached L1 data fee without asking whether the
-- deduction hook charged it.
theorem simulation_keeps_balances (ctx : HandlerContext) (eth : PaysEth ctx.tx) (simulated : ctx.isFeeChargeDisabled = true)
    (free : ctx.effectiveGasPrice = 0) (start deducted : MorphEvm)
    (deduction : validateAgainstStateAndDeductCaller ctx start = .ok deducted) (executed : Journal) (gas : Gas) :
    deducted.journal.balance = start.journal.balance ∧
      ∃ settled, settleGas ctx { deducted with journal := executed } gas = .ok settled ∧
        (∀ account, account ≠ ctx.beneficiary → settled.journal.balance account = executed.balance account) ∧
        (settled.journal.balance ctx.beneficiary = executed.balance ctx.beneficiary ↔
          ctx.l1DataFee start.journal = 0 ∨
            2 ^ 256 ≤ (executed.balance ctx.beneficiary).toNat + (ctx.l1DataFee start.journal).toNat) := by
  obtain ⟨newBalance, computed, cached, balances⟩ := deduct_eth_fee_ok ctx eth start deducted deduction
  obtain ⟨settled, settlement, journal⟩ := settle_gas_eth ctx eth { deducted with journal := executed } gas
  simp only [cached] at journal
  rw [free_reimbursement ctx free, free_reward ctx free] at journal
  have reimbursed := incr_balance_zero executed ctx.tx.caller
  refine ⟨?_, settled, settlement, ?_, ?_⟩
  · rw [calculateCallerFeeWithL1Cost, if_pos simulated] at computed
    cases computed
    rw [balances, set_same_balance]
  · intro account other
    rw [journal, incr_balance_other _ _ _ _ other, reimbursed]
  · have kept := incr_balance_kept (executed.incrBalance ctx.tx.caller 0) ctx.beneficiary (ctx.l1DataFee start.journal)
    rwa [reimbursed, ← journal] at kept

-- A call of a simulated bundle: no price and no base fee.
def sampleSimulation : HandlerContext :=
  { sampleEthContext with
    tx := { sampleEthTx with gasPrice := 0, gasPriorityFee := none }
    basefee := 0
    isFeeChargeDisabled := true }

def sampleSimulated (journal : Journal) (l1DataFee : U256) : MorphEvm :=
  { resetCaches ⟨journal, none, 0, 0, 0⟩ with
    journal := bumpCallNonce sampleSimulation.feeContext (journal.setBalance 0xA1 (journal.balance 0xA1))
    cachedL1DataFee := l1DataFee }

-- The 7 wei are not kept from the beneficiary; without an L1 data fee nothing
-- moves.
theorem simulation_keeps_balances_sample :
    (∃ settled, settleGas sampleSimulation { sampleSimulated sampleEthJournal 7 with journal := sampleEthJournal } sampleOutcome.gas = .ok settled ∧
        settled.journal.balance 0xA1 = 6000000 ∧ settled.journal.balance 0xB2 ≠ sampleEthJournal.balance 0xB2) ∧
      ∃ settled, settleGas sampleSimulation { sampleSimulated { sampleEthJournal with storage := fun _ _ => 0 } 0 with journal := sampleEthJournal }
        sampleOutcome.gas = .ok settled ∧ settled.journal.balance 0xB2 = sampleEthJournal.balance 0xB2 := by
  obtain ⟨_, paid, payment, others, changed⟩ := simulation_keeps_balances sampleSimulation ⟨rfl, rfl⟩ rfl rfl sampleEthStart
    (sampleSimulated sampleEthJournal 7) rfl sampleEthJournal sampleOutcome.gas
  obtain ⟨_, settled, settlement, _, kept⟩ := simulation_keeps_balances sampleSimulation ⟨rfl, rfl⟩ rfl rfl
    ⟨{ sampleEthJournal with storage := fun _ _ => 0 }, none, 0, 0, 0⟩ _ rfl sampleEthJournal sampleOutcome.gas
  refine ⟨⟨paid, payment, others 0xA1 (by decide), fun same => ?_⟩, settled, settlement, kept.mpr (.inl rfl)⟩
  rcases changed.mp same with nothing | overflow
  · exact absurd nothing (by decide)
  · exact absurd overflow (by decide)

-- The caller keeps its balance and the beneficiary receives the 7 wei.
theorem simulation_pays_l1_fee :
    ¬∀ (ctx : HandlerContext), PaysEth ctx.tx → ctx.isFeeChargeDisabled = true → ctx.effectiveGasPrice = 0 →
        ∀ start deducted, validateAgainstStateAndDeductCaller ctx start = .ok deducted → ∀ executed gas settled,
          settleGas ctx { deducted with journal := executed } gas = .ok settled →
            settled.journal.balance ctx.beneficiary = executed.balance ctx.beneficiary := by
  intro keeps
  have kept := keeps sampleSimulation ⟨rfl, rfl⟩ rfl rfl sampleEthStart (sampleSimulated sampleEthJournal 7) rfl sampleEthJournal
    sampleOutcome.gas _ rfl
  exact absurd kept (by decide)

end MorphReth.Fee
