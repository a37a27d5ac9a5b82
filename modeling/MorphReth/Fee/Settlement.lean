import MorphReth.Rounding
import MorphReth.Fee.Handler

set_option autoImplicit false

namespace MorphReth.Fee

open Rlp

-- What ensure_usable leaves of a registry entry's configuration.
structure Usable (info : TokenFeeInfo) : Prop where
  priced : info.priceRatio ≠ 0
  scaled : info.scale ≠ 0

section Conversion

variable (info : TokenFeeInfo) (usable : Usable info)

include usable

theorem amount_with_credit_eq (ethAmount : U256) :
    info.ethToTokenAmountWithCredit ethAmount =
      if saturatingMul ethAmount info.scale % info.priceRatio = 0 then (saturatingMul ethAmount info.scale / info.priceRatio, 0)
      else (saturatingAdd (saturatingMul ethAmount info.scale / info.priceRatio) 1,
        info.priceRatio - saturatingMul ethAmount info.scale % info.priceRatio) := by
  rw [TokenFeeInfo.ethToTokenAmountWithCredit, if_neg (not_or.mpr ⟨usable.priced, usable.scaled⟩)]

theorem ratio_positive : 0 < info.priceRatio.toNat := by
  have nonzero : info.priceRatio.toNat ≠ 0 := fun zero => usable.priced (BitVec.eq_of_toNat_eq zero)
  omega

-- Adding one to a quotient with a remainder never saturates, since then the
-- divisor is at least two.
theorem quotient_round_up (numerator : U256) (inexact : numerator.toNat % info.priceRatio.toNat ≠ 0) :
    (saturatingAdd (numerator / info.priceRatio) 1).toNat = numerator.toNat / info.priceRatio.toNat + 1 := by
  have small : numerator.toNat / info.priceRatio.toNat ≤ numerator.toNat / 2 := by
    apply Nat.div_le_div_left _ (by omega)
    by_contra below
    interval_cases h : info.priceRatio.toNat
    · exact usable.priced (BitVec.eq_of_toNat_eq h)
    · exact inexact (Nat.mod_one _)
  have bound := numerator.isLt
  rw [saturating_add_nat, BitVec.toNat_udiv]
  change min (numerator.toNat / info.priceRatio.toNat + 1) _ = _
  omega

theorem amount_with_credit_rounds_up (ethAmount : U256) :
    RoundedUp (saturatingMul ethAmount info.scale).toNat info.priceRatio.toNat
      (info.ethToTokenAmountWithCredit ethAmount).1.toNat (info.ethToTokenAmountWithCredit ethAmount).2.toNat := by
  have rounded := rounded_up_div (saturatingMul ethAmount info.scale).toNat info.priceRatio.toNat (ratio_positive info usable)
  have remainder : (saturatingMul ethAmount info.scale % info.priceRatio = 0) ↔
      (saturatingMul ethAmount info.scale).toNat % info.priceRatio.toNat = 0 := by
    rw [← BitVec.toNat_umod]
    exact BitVec.toNat_inj.symm
  rw [amount_with_credit_eq info usable]
  by_cases whole : (saturatingMul ethAmount info.scale).toNat % info.priceRatio.toNat = 0
  · rw [if_pos whole, if_pos whole] at rounded
    rw [if_pos (remainder.mpr whole), BitVec.toNat_udiv]
    exact rounded
  · rw [if_neg whole, if_neg whole] at rounded
    have bound := Nat.mod_lt (saturatingMul ethAmount info.scale).toNat (ratio_positive info usable)
    rw [if_neg (fun zero => whole (remainder.mp zero)), quotient_round_up info usable _ whole,
      BitVec.toNat_sub_of_le (BitVec.le_def.mpr (by rw [BitVec.toNat_umod]; omega)), BitVec.toNat_umod]
    exact rounded

theorem amount_floor_nat (ethAmount credit : U256) :
    (info.ethToTokenAmountFloor ethAmount credit).toNat =
      min ((saturatingMul ethAmount info.scale).toNat + credit.toNat) (2 ^ 256 - 1) / info.priceRatio.toNat := by
  rw [TokenFeeInfo.ethToTokenAmountFloor, if_neg (not_or.mpr ⟨usable.priced, usable.scaled⟩),
    BitVec.toNat_udiv, saturating_add_nat]

end Conversion

-- The amount leaves one balance slot and arrives in the other, and no other
-- slot of any account is touched.
structure Moved (token : Address) (fromSlot toSlot : U256) (amount : Nat) (before after : Storage) : Prop where
  debited : (after token fromSlot).toNat + amount = (before token fromSlot).toNat
  credited : (after token toSlot).toNat = (before token toSlot).toNat + amount
  others : ∀ account slot, ¬(account = token ∧ (slot = fromSlot ∨ slot = toSlot)) → after account slot = before account slot

theorem moved_nothing (token : Address) (fromSlot toSlot : U256) (storage : Storage) : Moved token fromSlot toSlot 0 storage storage :=
  ⟨rfl, rfl, fun _ _ _ => rfl⟩

theorem sstore_read (journal : Journal) (account address : Address) (slot key value : U256) :
    (journal.sstore account slot value).storage address key = if address = account ∧ key = slot then value else journal.storage address key :=
  rfl

section Transfer

variable (keccak256 : Bytes → U256) (journal : Journal) (source target token : Address) (amount balanceSlot : U256)

theorem transfer_with_slot_moves (after : Journal)
    (distinct : computeMappingSlotForAddress keccak256 balanceSlot source ≠ computeMappingSlotForAddress keccak256 balanceSlot target)
    (transferred : transferErc20WithSlot keccak256 journal source target token amount balanceSlot = .ok after) :
    Moved token (computeMappingSlotForAddress keccak256 balanceSlot source) (computeMappingSlotForAddress keccak256 balanceSlot target)
      amount.toNat journal.storage after.storage := by
  simp only [transferErc20WithSlot, if_neg distinct] at transferred
  split at transferred
  · cases transferred
  · next newFromBalance subtracted =>
      split at transferred
      · cases transferred
      · next newToBalance added =>
          cases transferred
          refine ⟨?_, ?_, ?_⟩
          · rw [sstore_read, if_neg (fun both => distinct both.2), sstore_read, if_pos ⟨rfl, rfl⟩]
            exact checked_sub_some _ _ _ subtracted
          · rw [sstore_read, if_pos ⟨rfl, rfl⟩]
            exact checked_add_some _ _ _ added
          · intro account slot outside
            rw [sstore_read, if_neg (fun both => outside ⟨both.1, .inr both.2⟩), sstore_read,
              if_neg (fun both => outside ⟨both.1, .inl both.2⟩)]

theorem transfer_with_slot_succeeds
    (enough : amount.toNat ≤ (journal.storage token (computeMappingSlotForAddress keccak256 balanceSlot source)).toNat)
    (fits : (journal.storage token (computeMappingSlotForAddress keccak256 balanceSlot target)).toNat + amount.toNat < 2 ^ 256) :
    ∃ after, transferErc20WithSlot keccak256 journal source target token amount balanceSlot = .ok after := by
  simp only [transferErc20WithSlot, checkedSub, if_pos enough, checkedAdd, if_pos fits]
  split
  · exact ⟨journal, rfl⟩
  · exact ⟨_, rfl⟩

end Transfer

variable (ctx : FeeContext)

theorem bump_call_nonce_storage (journal : Journal) : (bumpCallNonce ctx journal).storage = journal.storage := by
  rw [bumpCallNonce]
  split
  · rfl
  · rfl

theorem ensure_usable_ok (entry accepted : TokenRegistryEntry) (tokenId : U16) (checked : entry.ensureUsable tokenId = .ok accepted)
    (caller : Address) (balance : U256) : accepted = entry ∧ Usable (entry.intoFeeInfo caller balance) := by
  rw [TokenRegistryEntry.ensureUsable] at checked
  split at checked
  · cases checked
  · split at checked
    · cases checked
    · next configured =>
        cases checked
        exact ⟨rfl, ⟨fun zero => configured (.inl zero), fun zero => configured (.inr zero)⟩⟩

-- The fee information of a slot-mode token, read before anything is charged.
def slotFeeInfo (ctx : FeeContext) (journal : Journal) (entry : TokenRegistryEntry) (balanceSlot : U256) : TokenFeeInfo :=
  entry.intoFeeInfo ctx.tx.caller (readBalanceFromStorage ctx.keccak256 journal.storage entry.tokenAddress ctx.tx.caller balanceSlot)

def callerSlot (ctx : FeeContext) (balanceSlot : U256) : U256 :=
  computeMappingSlotForAddress ctx.keccak256 balanceSlot ctx.tx.caller

def beneficiarySlot (ctx : FeeContext) (balanceSlot : U256) : U256 :=
  computeMappingSlotForAddress ctx.keccak256 balanceSlot ctx.beneficiary

def prepaidFee (ctx : FeeContext) (journal : Journal) (info : TokenFeeInfo) : U256 × U256 :=
  info.ethToTokenAmountWithCredit (totalEthFee ctx (ctx.l1DataFee journal))

structure Deducted (ctx : FeeContext) (info : TokenFeeInfo) (balanceSlot : U256) (start deducted : MorphEvm) : Prop where
  usable : Usable info
  cached : deducted.cachedTokenFeeInfo = some info
  credit : deducted.cachedAltFeeRoundingCredit = (prepaidFee ctx start.journal info).2
  moved : Moved info.tokenAddress (callerSlot ctx balanceSlot) (beneficiarySlot ctx balanceSlot)
    (prepaidFee ctx start.journal info).1.toNat start.journal.storage deducted.journal.storage

theorem pay_token_fee_moves (evm paid : MorphEvm) (info : TokenFeeInfo) (amount balanceSlot : U256)
    (slotMode : info.balanceSlot = some balanceSlot) (distinct : callerSlot ctx balanceSlot ≠ beneficiarySlot ctx balanceSlot)
    (payed : payTokenFee ctx evm info amount = .ok paid) :
    Moved info.tokenAddress (callerSlot ctx balanceSlot) (beneficiarySlot ctx balanceSlot) amount.toNat
      evm.journal.storage paid.journal.storage := by
  rw [payTokenFee] at payed
  by_cases zero : amount = 0
  · rw [if_pos zero] at payed
    cases payed
    rw [zero]
    exact moved_nothing _ _ _ _
  · rw [if_neg zero, slotMode] at payed
    obtain ⟨after, transferred, result⟩ := (bind_ok _ _ _).mp payed
    cases result
    exact transfer_with_slot_moves _ _ _ _ _ _ _ after distinct transferred

theorem deduct_token_fee_moves (start deducted : MorphEvm) (tokenId : U16) (entry : TokenRegistryEntry) (balanceSlot : U256)
    (enabled : ctx.isFeeChargeDisabled = false) (registered : readRegistryEntry ctx.keccak256 start.journal.storage tokenId = some entry)
    (slotMode : entry.balanceSlot = some balanceSlot) (distinct : callerSlot ctx balanceSlot ≠ beneficiarySlot ctx balanceSlot)
    (deduction : validateAndDeductTokenFee ctx start tokenId = .ok deducted) :
    Deducted ctx (slotFeeInfo ctx start.journal entry balanceSlot) balanceSlot start deducted := by
  simp only [validateAndDeductTokenFee, bind_ok, enabled, Bool.false_eq_true, if_false] at deduction
  obtain ⟨_, _, _, _, _, _, accepted, loaded, info, priced, _, _, paid, payment, result⟩ := deduction
  simp only [loadRegistryEntry, registered] at loaded
  obtain ⟨rfl, usable⟩ := ensure_usable_ok entry accepted tokenId loaded ctx.tx.caller
    (readBalanceFromStorage ctx.keccak256 start.journal.storage entry.tokenAddress ctx.tx.caller balanceSlot)
  simp only [loadTokenFeeInfo, slotMode] at priced
  cases priced
  cases result
  refine ⟨usable, rfl, rfl, ?_⟩
  change Moved _ _ _ _ _ (bumpCallNonce ctx paid.journal).storage
  rw [bump_call_nonce_storage]
  exact pay_token_fee_moves ctx start paid _ _ balanceSlot slotMode distinct payment

def refundAmount (ctx : FeeContext) (gas : Gas) (info : TokenFeeInfo) (credit : U256) : U256 :=
  info.ethToTokenAmountFloor (reimburseEth ctx gas) credit

def returnedGas (gas : Gas) : Nat :=
  gas.remaining.toNat + gas.refunded.toNat

-- The credit alone is less than one token unit.
theorem refund_amount_of_no_gas (gas : Gas) (info : TokenFeeInfo) (credit : U256) (usable : Usable info)
    (small : credit.toNat < info.priceRatio.toNat) (nothing : reimburseEth ctx gas = 0) : refundAmount ctx gas info credit = 0 := by
  apply BitVec.eq_of_toNat_eq
  have bound := credit.isLt
  rw [refundAmount, amount_floor_nat info usable, nothing, saturating_mul_nat]
  change min (min (0 * _) _ + credit.toNat) _ / info.priceRatio.toNat = 0
  apply Nat.div_eq_of_lt
  omega

theorem reimburse_token_fee_moves (executed : MorphEvm) (gas : Gas) (info : TokenFeeInfo) (balanceSlot : U256)
    (celadon : ctx.isCeladon = true) (usable : Usable info) (slotMode : info.balanceSlot = some balanceSlot)
    (distinct : callerSlot ctx balanceSlot ≠ beneficiarySlot ctx balanceSlot) (cached : executed.cachedTokenFeeInfo = some info)
    (small : executed.cachedAltFeeRoundingCredit.toNat < info.priceRatio.toNat)
    (enough : (refundAmount ctx gas info executed.cachedAltFeeRoundingCredit).toNat ≤
      (executed.journal.storage info.tokenAddress (beneficiarySlot ctx balanceSlot)).toNat)
    (fits : (executed.journal.storage info.tokenAddress (callerSlot ctx balanceSlot)).toNat +
      (refundAmount ctx gas info executed.cachedAltFeeRoundingCredit).toNat < 2 ^ 256) :
    ∃ settled, reimburseCallerTokenFee ctx executed gas = .ok settled ∧
      Moved info.tokenAddress (beneficiarySlot ctx balanceSlot) (callerSlot ctx balanceSlot)
        (refundAmount ctx gas info executed.cachedAltFeeRoundingCredit).toNat executed.journal.storage settled.journal.storage := by
  simp only [reimburseCallerTokenFee, cached, celadon, if_true]
  change ∃ settled, (if reimburseEth ctx gas = 0 then _
    else if refundAmount ctx gas info executed.cachedAltFeeRoundingCredit = 0 then _ else _) = _ ∧ _
  by_cases nothing : reimburseEth ctx gas = 0
  · rw [if_pos nothing, refund_amount_of_no_gas ctx gas info _ usable small nothing]
    exact ⟨executed, rfl, moved_nothing _ _ _ _⟩
  · rw [if_neg nothing]
    by_cases zero : refundAmount ctx gas info executed.cachedAltFeeRoundingCredit = 0
    · rw [if_pos zero, zero]
      exact ⟨executed, rfl, moved_nothing _ _ _ _⟩
    · rw [if_neg zero]
      obtain ⟨after, transferred⟩ := transfer_with_slot_succeeds ctx.keccak256 executed.journal ctx.beneficiary ctx.tx.caller
        info.tokenAddress (refundAmount ctx gas info executed.cachedAltFeeRoundingCredit) balanceSlot enough fits
      have moved := transfer_with_slot_moves _ _ _ _ _ _ _ after distinct.symm transferred
      rw [refundAmount] at transferred
      refine ⟨_, rfl, ?_⟩
      simp only [refundToken, slotMode, transferred]
      exact moved

theorem reimburse_eth_nat (gas : Gas) (within : returnedGas gas ≤ ctx.tx.gasLimit.toNat) :
    (reimburseEth ctx gas).toNat = min (ctx.tx.effectiveGasPrice.toNat * returnedGas gas) (2 ^ 128 - 1) := by
  have limit := ctx.tx.gasLimit.isLt
  have counter : (BitVec.ofNat 64 (max gas.refunded 0).toNat).toNat = gas.refunded.toNat := by
    rw [BitVec.toNat_ofNat, Nat.mod_eq_of_lt]
    · omega
    · rw [returnedGas] at within
      omega
  have sum : (saturatingAdd gas.remaining (BitVec.ofNat 64 (max gas.refunded 0).toNat)).toNat = returnedGas gas := by
    rw [saturating_add_nat, counter, ← returnedGas]
    omega
  have bound : returnedGas gas < 2 ^ 128 := by omega
  rw [reimburseEth, BitVec.toNat_setWidth, saturating_mul_nat, BitVec.toNat_setWidth, sum, Nat.mod_eq_of_lt bound]
  apply Nat.mod_eq_of_lt
  omega

-- A 64-bit gas limit times a 128-bit price fits, so only the sum can saturate.
theorem total_eth_fee_nat (l1DataFee : U256) :
    (totalEthFee ctx l1DataFee).toNat = min (ctx.tx.effectiveGasPrice.toNat * ctx.tx.gasLimit.toNat + l1DataFee.toNat) (2 ^ 256 - 1) := by
  have limit := ctx.tx.gasLimit.isLt
  have price := ctx.tx.effectiveGasPrice.isLt
  have product : ctx.tx.effectiveGasPrice.toNat * ctx.tx.gasLimit.toNat < 2 ^ 128 * 2 ^ 64 := Nat.mul_lt_mul'' price limit
  rw [totalEthFee, saturating_add_nat, saturating_mul_nat, BitVec.toNat_setWidth, BitVec.toNat_setWidth,
    Nat.mod_eq_of_lt (by omega), Nat.mod_eq_of_lt (by omega), Nat.mul_comm]
  omega

theorem refund_numerator_le (gas : Gas) (l1DataFee scale : U256) (within : returnedGas gas ≤ ctx.tx.gasLimit.toNat) :
    (saturatingMul (reimburseEth ctx gas) scale).toNat ≤ (saturatingMul (totalEthFee ctx l1DataFee) scale).toNat := by
  have product := Nat.mul_le_mul_left ctx.tx.effectiveGasPrice.toNat within
  have less : (reimburseEth ctx gas).toNat ≤ (totalEthFee ctx l1DataFee).toNat := by
    rw [reimburse_eth_nat ctx gas within, total_eth_fee_nat]
    omega
  have scaled := Nat.mul_le_mul_right scale.toNat less
  rw [saturating_mul_nat, saturating_mul_nat]
  omega

theorem refund_at_most_prepaid (journal : Journal) (gas : Gas) (info : TokenFeeInfo) (usable : Usable info)
    (within : returnedGas gas ≤ ctx.tx.gasLimit.toNat) :
    (refundAmount ctx gas info (prepaidFee ctx journal info).2).toNat ≤ (prepaidFee ctx journal info).1.toNat := by
  have rounded := amount_with_credit_rounds_up info usable (totalEthFee ctx (ctx.l1DataFee journal))
  have less := refund_numerator_le ctx gas (ctx.l1DataFee journal) info.scale within
  rw [refundAmount, amount_floor_nat info usable]
  calc _ ≤ ((saturatingMul (reimburseEth ctx gas) info.scale).toNat + (prepaidFee ctx journal info).2.toNat) / info.priceRatio.toNat :=
        Nat.div_le_div_right (Nat.min_le_left _ _)
    _ ≤ (prepaidFee ctx journal info).1.toNat := refund_le_charge _ _ _ _ _ rounded less

def callerBalance (ctx : FeeContext) (entry : TokenRegistryEntry) (balanceSlot : U256) (evm : MorphEvm) : Nat :=
  (evm.journal.storage entry.tokenAddress (callerSlot ctx balanceSlot)).toNat

def beneficiaryBalance (ctx : FeeContext) (entry : TokenRegistryEntry) (balanceSlot : U256) (evm : MorphEvm) : Nat :=
  (evm.journal.storage entry.tokenAddress (beneficiarySlot ctx balanceSlot)).toNat

-- One transaction paid in a slot-mode token under Celadon: the deduction, a
-- main execution free to do anything but write the two balance slots, and the
-- gas it returns. Distinct addresses have distinct balance slots.
structure TokenFeeTransaction (ctx : FeeContext) (tokenId : U16) (gas : Gas) (entry : TokenRegistryEntry) (balanceSlot : U256)
    (start deducted executed : MorphEvm) : Prop where
  celadon : ctx.isCeladon = true
  enabled : ctx.isFeeChargeDisabled = false
  registered : readRegistryEntry ctx.keccak256 start.journal.storage tokenId = some entry
  slotMode : entry.balanceSlot = some balanceSlot
  distinct : callerSlot ctx balanceSlot ≠ beneficiarySlot ctx balanceSlot
  deduction : validateAndDeductTokenFee ctx start tokenId = .ok deducted
  infoKept : executed.cachedTokenFeeInfo = deducted.cachedTokenFeeInfo
  creditKept : executed.cachedAltFeeRoundingCredit = deducted.cachedAltFeeRoundingCredit
  callerKept : callerBalance ctx entry balanceSlot executed = callerBalance ctx entry balanceSlot deducted
  beneficiaryKept : beneficiaryBalance ctx entry balanceSlot executed = beneficiaryBalance ctx entry balanceSlot deducted
  within : returnedGas gas ≤ ctx.tx.gasLimit.toNat

-- No saturating operation of the deduction or the refund saturates.
structure Unsaturated (ctx : FeeContext) (gas : Gas) (entry : TokenRegistryEntry) (start deducted : MorphEvm) : Prop where
  total : ctx.tx.effectiveGasPrice.toNat * ctx.tx.gasLimit.toNat + (ctx.l1DataFee start.journal).toNat < 2 ^ 256
  charge : (ctx.tx.effectiveGasPrice.toNat * ctx.tx.gasLimit.toNat + (ctx.l1DataFee start.journal).toNat) * entry.scale.toNat < 2 ^ 256
  refundEth : ctx.tx.effectiveGasPrice.toNat * returnedGas gas < 2 ^ 128
  refund : ctx.tx.effectiveGasPrice.toNat * returnedGas gas * entry.scale.toNat + deducted.cachedAltFeeRoundingCredit.toNat < 2 ^ 256

def gasUsed (ctx : FeeContext) (gas : Gas) : Nat :=
  ctx.tx.gasLimit.toNat - returnedGas gas

def netFee (ctx : FeeContext) (gas : Gas) (entry : TokenRegistryEntry) (start : MorphEvm) : Nat :=
  ((ctx.tx.effectiveGasPrice.toNat * gasUsed ctx gas + (ctx.l1DataFee start.journal).toNat) * entry.scale.toNat) ⌈/⌉ entry.priceRatio.toNat

section Settlement

variable (ctx : FeeContext) (tokenId : U16) (gas : Gas) (entry : TokenRegistryEntry) (balanceSlot : U256)
variable (start deducted executed : MorphEvm)

theorem prepaid_minus_refund (usable : Usable (slotFeeInfo ctx start.journal entry balanceSlot))
    (within : returnedGas gas ≤ ctx.tx.gasLimit.toNat) (unsaturated : Unsaturated ctx gas entry start deducted)
    (credit : deducted.cachedAltFeeRoundingCredit = (prepaidFee ctx start.journal (slotFeeInfo ctx start.journal entry balanceSlot)).2) :
    (prepaidFee ctx start.journal (slotFeeInfo ctx start.journal entry balanceSlot)).1.toNat -
      (refundAmount ctx gas (slotFeeInfo ctx start.journal entry balanceSlot) deducted.cachedAltFeeRoundingCredit).toNat =
        netFee ctx gas entry start := by
  have rounded := amount_with_credit_rounds_up _ usable (totalEthFee ctx (ctx.l1DataFee start.journal))
  have less := refund_numerator_le ctx gas (ctx.l1DataFee start.journal) entry.scale within
  have prepaid : (saturatingMul (totalEthFee ctx (ctx.l1DataFee start.journal)) entry.scale).toNat =
      (ctx.tx.effectiveGasPrice.toNat * ctx.tx.gasLimit.toNat + (ctx.l1DataFee start.journal).toNat) * entry.scale.toNat := by
    have total := total_eth_fee_nat ctx (ctx.l1DataFee start.journal)
    rw [Nat.min_eq_left (Nat.le_sub_one_of_lt unsaturated.total)] at total
    rw [saturating_mul_nat, total, Nat.min_eq_left (Nat.le_sub_one_of_lt unsaturated.charge)]
  have refunded : (saturatingMul (reimburseEth ctx gas) entry.scale).toNat =
      ctx.tx.effectiveGasPrice.toNat * returnedGas gas * entry.scale.toNat := by
    have eth := reimburse_eth_nat ctx gas within
    rw [Nat.min_eq_left (Nat.le_sub_one_of_lt unsaturated.refundEth)] at eth
    rw [saturating_mul_nat, eth, Nat.min_eq_left (Nat.le_sub_one_of_lt (Nat.lt_of_le_of_lt (Nat.le_add_right _ _) unsaturated.refund))]
  have fits := unsaturated.refund
  have telescoped := charge_sub_refund _ _ _ _ _ rounded less
  rw [refundAmount, amount_floor_nat _ usable, credit]
  change (prepaidFee ctx start.journal _).1.toNat - min ((saturatingMul (reimburseEth ctx gas) entry.scale).toNat + _) _ / _ = _
  rw [Nat.min_eq_left (by rw [refunded, ← credit]; omega)]
  refine telescoped.trans ?_
  change ((saturatingMul (totalEthFee ctx (ctx.l1DataFee start.journal)) entry.scale).toNat - _) ⌈/⌉ _ = _
  rw [prepaid, refunded, ← Nat.sub_mul, netFee, gasUsed, Nat.mul_sub]
  have product := Nat.mul_le_mul_left ctx.tx.effectiveGasPrice.toNat within
  rw [Nat.sub_add_comm product]
  rfl

theorem celadon_settlement_exact (transaction : TokenFeeTransaction ctx tokenId gas entry balanceSlot start deducted executed) :
    ∃ settled, reimburseCallerTokenFee ctx executed gas = .ok settled ∧
      (∃ charged refunded, refunded ≤ charged ∧
        callerBalance ctx entry balanceSlot deducted + charged = callerBalance ctx entry balanceSlot start ∧
        callerBalance ctx entry balanceSlot settled = callerBalance ctx entry balanceSlot executed + refunded) ∧
      (Unsaturated ctx gas entry start deducted →
        callerBalance ctx entry balanceSlot settled + netFee ctx gas entry start =
          callerBalance ctx entry balanceSlot start ∧
        beneficiaryBalance ctx entry balanceSlot settled = beneficiaryBalance ctx entry balanceSlot start + netFee ctx gas entry start) ∧
      ∀ account slot, ¬(account = entry.tokenAddress ∧ (slot = callerSlot ctx balanceSlot ∨ slot = beneficiarySlot ctx balanceSlot)) →
        deducted.journal.storage account slot = start.journal.storage account slot ∧
        settled.journal.storage account slot = executed.journal.storage account slot := by
  have charge := deduct_token_fee_moves ctx start deducted tokenId entry balanceSlot transaction.enabled transaction.registered
    transaction.slotMode transaction.distinct transaction.deduction
  have credit := transaction.creditKept.trans charge.credit
  have bounded := refund_at_most_prepaid ctx start.journal gas _ charge.usable transaction.within
  rw [← credit] at bounded
  have debited : callerBalance ctx entry balanceSlot deducted + _ = callerBalance ctx entry balanceSlot start := charge.moved.debited
  have credited : beneficiaryBalance ctx entry balanceSlot deducted = beneficiaryBalance ctx entry balanceSlot start + _ := charge.moved.credited
  have callerBound : callerBalance ctx entry balanceSlot start < 2 ^ 256 := BitVec.isLt _
  have callerKept := transaction.callerKept
  have beneficiaryKept := transaction.beneficiaryKept
  -- The recipient still holds the charge and the caller had room for it, so
  -- both checks of the refund's transfer pass.
  have enough : _ ≤ beneficiaryBalance ctx entry balanceSlot executed :=
    Nat.le_trans bounded (by rw [beneficiaryKept, credited]; exact Nat.le_add_left _ _)
  have fits := Nat.lt_of_le_of_lt (Nat.add_le_add_left bounded (callerBalance ctx entry balanceSlot deducted)) (debited ▸ callerBound)
  rw [← callerKept] at fits
  obtain ⟨settled, reimbursed, refund⟩ := reimburse_token_fee_moves ctx executed gas (slotFeeInfo ctx start.journal entry balanceSlot)
    balanceSlot transaction.celadon charge.usable transaction.slotMode transaction.distinct (transaction.infoKept.trans charge.cached)
    (by rw [credit]; exact (amount_with_credit_rounds_up _ charge.usable _).small) enough fits
  refine ⟨settled, reimbursed, ⟨_, _, bounded, debited, refund.credited⟩, ?_, ?_⟩
  · intro unsaturated
    have net := prepaid_minus_refund ctx gas entry balanceSlot start deducted charge.usable transaction.within unsaturated charge.credit
    have returned : callerBalance ctx entry balanceSlot settled = callerBalance ctx entry balanceSlot executed + _ := refund.credited
    have released : beneficiaryBalance ctx entry balanceSlot settled + _ = beneficiaryBalance ctx entry balanceSlot executed := refund.debited
    rw [← transaction.creditKept] at net
    omega
  · intro account slot outside
    exact ⟨charge.moved.others account slot outside, refund.others account slot (fun inside => outside ⟨inside.1, inside.2.symm⟩)⟩

end Settlement

section Sample

-- A stand-in digest that keeps the sample's few keys apart.
def sampleDigest (bytes : Bytes) : U256 :=
  bytes.foldl (fun digest byte => (digest + byte.toBitVec.setWidth 256) * 31) 0

def sampleBalanceSlot : U256 := 0

def sampleContext : FeeContext where
  keccak256 := sampleDigest
  tx := { caller := 1, isCall := true, value := 0, nonce := 0, gasLimit := 10, feeLimit := none, effectiveGasPrice := 3 }
  beneficiary := 2
  isFeeChargeDisabled := false
  isCeladon := true
  l1DataFee := fun _ => 1
  validateAccountNonceAndCode := fun _ => .ok ()
  evmCallBalanceOf := fun _ _ _ => .error .tokenBalanceQueryFailed
  transferErc20WithEvm := fun journal _ _ _ _ _ => (.error (.tokenTransferFailed "no frame"), journal)

def sampleTokenIdBytes : Bytes :=
  List.replicate 30 0 ++ toFixedBytes (1 : U16)

def sampleEntry : TokenRegistryEntry where
  tokenAddress := 7
  isActive := true
  decimals := 0
  priceRatio := 3
  scale := 1
  balanceSlot := some sampleBalanceSlot

def sampleStorage : Storage := fun account slot =>
  if account = l2TokenRegistryAddress then
    let base := computeMappingSlot sampleDigest tokenRegistrySlot sampleTokenIdBytes
    if slot = base then 7
    else if slot = base + 1 ∨ slot = base + 2 ∨ slot = base + 3 then 1
    else if slot = computeMappingSlot sampleDigest priceRatioSlot sampleTokenIdBytes then 3
    else 0
  else if account = 7 ∧ slot = callerSlot sampleContext sampleBalanceSlot then 100 else 0

def sampleStart : MorphEvm where
  journal := { storage := sampleStorage, balance := fun _ => 0, nonce := fun _ => 0 }
  cachedTokenFeeInfo := none
  cachedAltFeeRoundingCredit := 0
  cachedL1DataFee := 0
  preFeeRefund := 0

def sampleGas : Gas := { remaining := 3, refunded := 1 }

def sampleDeducted : MorphEvm :=
  (validateAndDeductTokenFee sampleContext sampleStart 1).toOption.getD sampleStart

theorem sample_deduction : validateAndDeductTokenFee sampleContext sampleStart 1 = .ok sampleDeducted := by
  have accepted : (validateAndDeductTokenFee sampleContext sampleStart 1).toBool = true := by decide +kernel
  rw [sampleDeducted]
  cases result : validateAndDeductTokenFee sampleContext sampleStart 1 with
  | error error =>
      rw [result] at accepted
      cases accepted
  | ok deducted => rfl

theorem celadon_settlement_exact_sample :
    ∃ settled, reimburseCallerTokenFee sampleContext sampleDeducted sampleGas = .ok settled ∧
      netFee sampleContext sampleGas sampleEntry sampleStart = 7 ∧
      callerBalance sampleContext sampleEntry sampleBalanceSlot settled + 7 = 100 ∧
      beneficiaryBalance sampleContext sampleEntry sampleBalanceSlot settled = 7 := by
  have fee : netFee sampleContext sampleGas sampleEntry sampleStart = 7 := by decide +kernel
  have before : callerBalance sampleContext sampleEntry sampleBalanceSlot sampleStart = 100 := by decide +kernel
  have empty : beneficiaryBalance sampleContext sampleEntry sampleBalanceSlot sampleStart = 0 := by decide +kernel
  obtain ⟨settled, reimbursed, _, exactly, _⟩ :=
    celadon_settlement_exact sampleContext 1 sampleGas sampleEntry sampleBalanceSlot sampleStart sampleDeducted sampleDeducted
      ⟨rfl, rfl, by decide +kernel, rfl, by decide +kernel, sample_deduction, rfl, rfl, rfl, rfl, by decide⟩
  obtain ⟨caller, beneficiary⟩ := exactly ⟨by decide, by decide, by decide, by decide +kernel⟩
  rw [fee, before] at caller
  rw [fee, empty] at beneficiary
  exact ⟨settled, reimbursed, fee, caller, beneficiary⟩

end Sample

end MorphReth.Fee
