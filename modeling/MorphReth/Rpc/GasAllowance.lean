import MorphReth.Fee.Settlement

set_option autoImplicit false

namespace MorphReth.Rpc

open Fee

inductive MorphEthApiError where
  | insufficientFundsForTransfer
  | insufficientFundsForL1Fee
  | invalidFeeToken
  deriving DecidableEq, Repr

def saturatingDivU128 (dividend : U256) (divisor : U128) : U64 :=
  if divisor = 0 then 0
  else
    let quotient := dividend / divisor.setWidth 256
    if (maxWord 64).setWidth 256 < quotient then maxWord 64 else quotient.setWidth 64

def gasAllowanceFromBalance (balance : U256) (gasPrice : U128) : U64 :=
  if gasPrice = 0 then maxWord 64 else saturatingDivU128 balance gasPrice

-- Rounds down, against the charge, which rounds up.
def tokenAmountToEth (tokenAmount : U256) (info : TokenFeeInfo) : Option U256 :=
  if info.priceRatio = 0 ∨ info.scale = 0 then none else some (saturatingMul tokenAmount info.priceRatio / info.scale)

def gasAllowanceFromTokenLimit (limitToken l1Fee : U256) (info : TokenFeeInfo) (gasPrice : U128) : Except MorphEthApiError U64 :=
  let l1FeeInToken := info.ethToTokenAmount l1Fee
  if limitToken ≤ l1FeeInToken then .error .insufficientFundsForL1Fee
  else
    let availableToken := limitToken - l1FeeInToken
    match tokenAmountToEth availableToken info with
    | none => .error .invalidFeeToken
    | some availableEth => .ok (gasAllowanceFromBalance availableEth gasPrice)

-- A fee limit of zero is no limit. In call mode the balance is not known here,
-- so that only the gas cap of the RPC server bounds the allowance from above.
def tokenGasAllowance (ethBalance value : U256) (info : TokenFeeInfo) (l1Fee : U256) (feeLimit : Option U256) (gasPrice : U128) (gasCap : U64) :
    Except MorphEthApiError U64 :=
  if info.isActive = false ∨ info.priceRatio = 0 ∨ info.scale = 0 then .error .invalidFeeToken
  else if ethBalance < value then .error .insufficientFundsForTransfer
  else
    match info.balanceSlot, feeLimit.filter (fun limit => limit ≠ 0) with
    | some _, some limit => gasAllowanceFromTokenLimit (if info.balance ≤ limit then info.balance else limit) l1Fee info gasPrice
    | some _, none => gasAllowanceFromTokenLimit info.balance l1Fee info gasPrice
    | none, some limit => (gasAllowanceFromTokenLimit limit l1Fee info gasPrice).map
        (fun allowance => if allowance ≤ gasCap then allowance else gasCap)
    | none, none => .ok gasCap

-- The fee that execution converts for a gas limit and an effective gas price.
def feeForGas (gas : U64) (gasPrice : U128) (l1Fee : U256) : U256 :=
  saturatingAdd (saturatingMul (gas.setWidth 256) (gasPrice.setWidth 256)) l1Fee

theorem fee_for_gas_nat (gas : U64) (gasPrice : U128) (l1Fee : U256) :
    (feeForGas gas gasPrice l1Fee).toNat = min (gas.toNat * gasPrice.toNat + l1Fee.toNat) (2 ^ 256 - 1) := by
  have product : gas.toNat * gasPrice.toNat < 2 ^ 64 * 2 ^ 128 := Nat.mul_lt_mul'' gas.isLt gasPrice.isLt
  rw [feeForGas, saturating_add_nat, saturating_mul_nat, BitVec.toNat_setWidth_of_le (by decide), BitVec.toNat_setWidth_of_le (by decide)]
  omega

-- Gas up to the quotient costs at most the balance.
theorem allowance_covers (balance : U256) (gasPrice : U128) (gas : U64) (within : gas ≤ gasAllowanceFromBalance balance gasPrice) :
    gas.toNat * gasPrice.toNat ≤ balance.toNat := by
  rw [gasAllowanceFromBalance] at within
  split at within
  · next free => simp [free]
  · next priced =>
      have price : (gasPrice.setWidth 256).toNat = gasPrice.toNat := BitVec.toNat_setWidth_of_le (by decide)
      have quotient : gas.toNat ≤ balance.toNat / gasPrice.toNat := by
        rw [← price, ← BitVec.toNat_udiv]
        simp only [saturatingDivU128, if_neg priced] at within
        have low := gas.isLt
        split at within
        · next beyond =>
            have above := BitVec.lt_def.mp beyond
            rw [BitVec.toNat_setWidth_of_le (by decide), max_word_nat] at above
            omega
        · have below := BitVec.le_def.mp within
          rw [BitVec.toNat_setWidth] at below
          exact Nat.le_trans below (Nat.mod_le _ _)
      exact Nat.le_trans (Nat.mul_le_mul_right _ quotient) (Nat.div_mul_le_self _ _)

section Conversion

variable (info : TokenFeeInfo) (usable : Usable info)

include usable

theorem charge_within_iff (ethAmount : U256) (budget : Nat) :
    (info.ethToTokenAmount ethAmount).toNat ≤ budget ↔ min (ethAmount.toNat * info.scale.toNat) (2 ^ 256 - 1) ≤ budget * info.priceRatio.toNat := by
  rw [← saturating_mul_nat]
  exact charge_le_iff _ _ _ _ budget (amount_with_credit_rounds_up info usable ethAmount)

theorem amount_to_eth_nat (tokenAmount eth : U256) (converted : tokenAmountToEth tokenAmount info = some eth) :
    eth.toNat = min (tokenAmount.toNat * info.priceRatio.toNat) (2 ^ 256 - 1) / info.scale.toNat := by
  rw [tokenAmountToEth, if_neg (not_or.mpr ⟨usable.priced, usable.scaled⟩)] at converted
  cases converted
  rw [BitVec.toNat_udiv, saturating_mul_nat]

-- The numerator of the sum stays within the two budgets: a saturated L1 part
-- already asks for as much as any sum can.
theorem limit_settles (limit l1Fee : U256) (gasPrice : U128) (allowance gas : U64)
    (allowed : gasAllowanceFromTokenLimit limit l1Fee info gasPrice = .ok allowance) (within : gas ≤ allowance) :
    (info.ethToTokenAmount (feeForGas gas gasPrice l1Fee)).toNat ≤ limit.toNat := by
  simp only [gasAllowanceFromTokenLimit] at allowed
  split at allowed
  · cases allowed
  · next covered =>
      have l1Covered := Nat.le_of_lt (BitVec.lt_def.mp (BitVec.not_le.mp covered))
      split at allowed
      · cases allowed
      · next eth converted =>
          cases allowed
          have l2Fee := allowance_covers eth gasPrice gas within
          have l1Charge := (charge_within_iff info usable l1Fee _).mp (Nat.le_refl (info.ethToTokenAmount l1Fee).toNat)
          have budget : eth.toNat * info.scale.toNat ≤ (limit.toNat - (info.ethToTokenAmount l1Fee).toNat) * info.priceRatio.toNat := by
            rw [amount_to_eth_nat info usable _ eth converted, BitVec.toNat_sub_of_le (BitVec.le_def.mpr l1Covered)]
            exact Nat.le_trans (Nat.div_mul_le_self _ _) (Nat.min_le_left _ _)
          rw [charge_within_iff info usable, fee_for_gas_nat]
          calc min (min (gas.toNat * gasPrice.toNat + l1Fee.toNat) (2 ^ 256 - 1) * info.scale.toNat) (2 ^ 256 - 1)
              = min (gas.toNat * gasPrice.toNat * info.scale.toNat + l1Fee.toNat * info.scale.toNat) (2 ^ 256 - 1) := by
                rw [clamp_mul, Nat.add_mul]
            _ ≤ gas.toNat * gasPrice.toNat * info.scale.toNat + min (l1Fee.toNat * info.scale.toNat) (2 ^ 256 - 1) := by omega
            _ ≤ eth.toNat * info.scale.toNat + (info.ethToTokenAmount l1Fee).toNat * info.priceRatio.toNat :=
                Nat.add_le_add (Nat.mul_le_mul_right _ l2Fee) l1Charge
            _ ≤ (limit.toNat - (info.ethToTokenAmount l1Fee).toNat) * info.priceRatio.toNat +
                  (info.ethToTokenAmount l1Fee).toNat * info.priceRatio.toNat := Nat.add_le_add_right budget _
            _ = limit.toNat * info.priceRatio.toNat := by rw [← Nat.add_mul, Nat.sub_add_cancel l1Covered]

end Conversion

theorem allowance_usable (ethBalance value : U256) (info : TokenFeeInfo) (l1Fee : U256) (feeLimit : Option U256) (gasPrice : U128)
    (gasCap allowance : U64) (allowed : tokenGasAllowance ethBalance value info l1Fee feeLimit gasPrice gasCap = .ok allowance) :
    Usable info := by
  rw [tokenGasAllowance] at allowed
  split at allowed
  · cases allowed
  · next usable =>
      rw [not_or, not_or] at usable
      exact ⟨usable.2.1, usable.2.2⟩

-- In slot mode the cap is the limit that execution checks the charge against.
theorem slot_mode_limit (ethBalance value : U256) (info : TokenFeeInfo) (l1Fee : U256) (feeLimit : Option U256) (gasPrice : U128)
    (gasCap allowance : U64) (allowed : tokenGasAllowance ethBalance value info l1Fee feeLimit gasPrice gasCap = .ok allowance)
    (slotMode : info.balanceSlot.isSome) :
    gasAllowanceFromTokenLimit (info.effectiveFeeLimit (feeLimit.getD 0)) l1Fee info gasPrice = .ok allowance := by
  obtain ⟨slot, present⟩ := Option.isSome_iff_exists.mp slotMode
  rw [tokenGasAllowance] at allowed
  split at allowed
  · cases allowed
  · split at allowed
    · cases allowed
    · rw [present] at allowed
      cases feeLimit with
      | none => exact allowed
      | some limit =>
          rw [Option.getD_some, TokenFeeInfo.effectiveFeeLimit]
          by_cases zero : limit = 0
          · rw [if_pos zero]
            rwa [Option.filter_some_neg (by simpa using zero)] at allowed
          · rw [if_neg zero]
            rwa [Option.filter_some_pos (by simpa using zero)] at allowed

-- Every gas amount up to the allowance can be paid for from the balance and
-- the fee limit.
def AllowanceSettles (info : TokenFeeInfo) : Prop :=
  ∀ ethBalance value l1Fee feeLimit gasPrice gasCap allowance,
    tokenGasAllowance ethBalance value info l1Fee feeLimit gasPrice gasCap = .ok allowance → info.balanceSlot.isSome →
    ∀ gas ≤ allowance, (info.ethToTokenAmount (feeForGas gas gasPrice l1Fee)).toNat ≤ (info.effectiveFeeLimit (feeLimit.getD 0)).toNat

-- Among the amounts whose conversion does not saturate.
def LargestEthFor (info : TokenFeeInfo) (tokenAmount eth : U256) : Prop :=
  (eth.toNat * info.scale.toNat < 2 ^ 256 ∧ (info.ethToTokenAmount eth).toNat ≤ tokenAmount.toNat) ∧
    ∀ other : U256, other.toNat * info.scale.toNat < 2 ^ 256 → (info.ethToTokenAmount other).toNat ≤ tokenAmount.toNat → other.toNat ≤ eth.toNat

theorem allowance_settles (info : TokenFeeInfo) : AllowanceSettles info := by
  intro ethBalance value l1Fee feeLimit gasPrice gasCap allowance allowed slotMode gas within
  exact limit_settles info (allowance_usable _ _ _ _ _ _ _ _ allowed) _ l1Fee gasPrice allowance gas
    (slot_mode_limit _ _ _ _ _ _ _ _ allowed slotMode) within

theorem amount_to_eth_usable (info : TokenFeeInfo) (tokenAmount : U256) : (tokenAmountToEth tokenAmount info).isSome ↔ Usable info := by
  rw [tokenAmountToEth]
  by_cases unusable : info.priceRatio = 0 ∨ info.scale = 0
  · rw [if_pos unusable]
    exact ⟨fun impossible => (by cases impossible), fun usable => absurd unusable (not_or.mpr ⟨usable.priced, usable.scaled⟩)⟩
  · rw [if_neg unusable]
    exact ⟨fun _ => ⟨(not_or.mp unusable).1, (not_or.mp unusable).2⟩, fun _ => rfl⟩

theorem amount_to_eth_largest (info : TokenFeeInfo) (tokenAmount eth : U256) (converted : tokenAmountToEth tokenAmount info = some eth)
    (fits : tokenAmount.toNat * info.priceRatio.toNat < 2 ^ 256) : LargestEthFor info tokenAmount eth := by
  have usable := (amount_to_eth_usable info tokenAmount).mp (converted ▸ rfl)
  have scaled : 0 < info.scale.toNat := Nat.pos_of_ne_zero (fun zero => usable.scaled (BitVec.eq_of_toNat_eq zero))
  have exactly : eth.toNat = tokenAmount.toNat * info.priceRatio.toNat / info.scale.toNat := by
    rw [amount_to_eth_nat info usable tokenAmount eth converted, Nat.min_eq_left (by omega)]
  have below : eth.toNat * info.scale.toNat ≤ tokenAmount.toNat * info.priceRatio.toNat := by
    rw [exactly]
    exact Nat.div_mul_le_self _ _
  refine ⟨⟨Nat.lt_of_le_of_lt below fits, ?_⟩, fun other unsaturated charged => ?_⟩
  · rw [charge_within_iff info usable]
    exact Nat.le_trans (Nat.min_le_left _ _) below
  · rw [charge_within_iff info usable, Nat.min_eq_left (by omega)] at charged
    rw [exactly, Nat.le_div_iff_mul_le scaled]
    exact charged

theorem token_allowance_settles (info : TokenFeeInfo) :
    AllowanceSettles info ∧ (∀ tokenAmount, (tokenAmountToEth tokenAmount info).isSome ↔ Usable info) ∧
      ∀ tokenAmount eth, tokenAmountToEth tokenAmount info = some eth → tokenAmount.toNat * info.priceRatio.toNat < 2 ^ 256 →
        LargestEthFor info tokenAmount eth :=
  ⟨allowance_settles info, amount_to_eth_usable info, amount_to_eth_largest info⟩

-- Seven tokens for three wei: 100 tokens less 24 for the L1 fee leave 32 wei.
theorem token_allowance_settles_sample :
    tokenGasAllowance 5 5 ⟨1, true, 18, 3, 7, 2, 100, some 0⟩ 10 (some 0) 4 0 = .ok 8 ∧
      (TokenFeeInfo.ethToTokenAmount ⟨1, true, 18, 3, 7, 2, 100, some 0⟩ (feeForGas 8 4 10)).toNat ≤ 100 ∧
      tokenAmountToEth 76 ⟨1, true, 18, 3, 7, 2, 100, some 0⟩ = some 32 ∧ LargestEthFor ⟨1, true, 18, 3, 7, 2, 100, some 0⟩ 76 32 := by
  obtain ⟨settles, _, largest⟩ := token_allowance_settles ⟨1, true, 18, 3, 7, 2, 100, some 0⟩
  have allowed : tokenGasAllowance 5 5 ⟨1, true, 18, 3, 7, 2, 100, some 0⟩ 10 (some 0) 4 0 = .ok 8 := by decide
  have converted : tokenAmountToEth 76 ⟨1, true, 18, 3, 7, 2, 100, some 0⟩ = some 32 := by decide
  exact ⟨allowed, settles 5 5 10 (some 0) 4 0 8 allowed rfl 8 (by decide), converted, largest 76 32 converted (by decide)⟩

end MorphReth.Rpc
