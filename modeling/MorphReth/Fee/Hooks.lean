import MorphReth.Fee.Handler
import MorphReth.Fee.L1BlockInfo
import MorphReth.Transaction.Envelope

set_option autoImplicit false

namespace MorphReth.Fee

open Rlp Consensus Transaction

def legacyTxTypeId : UInt8 := 0x00

def eip2930TxTypeId : UInt8 := 0x01

-- The fields of revm's transaction environment that the fee hooks read, with
-- Morph's own. Blob transactions do not exist here, so the blob half of the
-- balance spending is left out.
structure MorphTxEnv where
  txType : UInt8
  caller : Address
  isCall : Bool
  value : U256
  nonce : U64
  gasLimit : U64
  gasPrice : U128
  gasPriorityFee : Option U128
  rlpBytes : Option Bytes
  feeTokenId : Option U16
  feeLimit : Option U256
  deriving DecidableEq, Repr

namespace MorphTxEnv

def isL1Msg (tx : MorphTxEnv) : Bool := tx.txType == l1TxTypeId

def isMorphTx (tx : MorphTxEnv) : Bool := tx.txType == morphTxTypeId

def maxFeePerGas (tx : MorphTxEnv) : U128 := tx.gasPrice

-- From EIP-1559 on the gas price is the cap.
def effectiveGasPrice (tx : MorphTxEnv) (baseFee : U128) : U128 :=
  if tx.txType = legacyTxTypeId ∨ tx.txType = eip2930TxTypeId then tx.gasPrice
  else match tx.gasPriorityFee with
    | none => tx.gasPrice
    | some priorityFee =>
        let price := saturatingAdd baseFee priorityFee
        if tx.gasPrice ≤ price then tx.gasPrice else price

def effectiveBalanceSpending (tx : MorphTxEnv) (baseFee : U128) : Except InvalidTransaction U256 :=
  match checkedMul (tx.gasLimit.setWidth 128) (tx.effectiveGasPrice baseFee) with
  | none => .error .overflowPaymentInTransaction
  | some gasCost => match checkedAdd (gasCost.setWidth 256) tx.value with
      | none => .error .overflowPaymentInTransaction
      | some spending => .ok spending

def paysInToken (tx : MorphTxEnv) : Bool := tx.isMorphTx && decide (0 < tx.feeTokenId.getD 0)

end MorphTxEnv

-- The block and configuration values around one transaction.
structure HandlerContext where
  keccak256 : Bytes → U256
  tx : MorphTxEnv
  beneficiary : Address
  basefee : U64
  hardfork : MorphHardfork
  isFeeChargeDisabled : Bool
  isBalanceCheckDisabled : Bool
  isEip3607Disabled : Bool
  isNonceCheckDisabled : Bool
  callerHasCode : Bool -- other than an EIP-7702 delegation
  evmCallBalanceOf : Journal → Address → Address → Except MorphInvalidTransaction U256
  transferErc20WithEvm : Journal → Address → Address → Address → U256 → Option U256 → Except MorphInvalidTransaction Int × Journal

def validateAccountNonceAndCode (ctx : HandlerContext) (journal : Journal) : Except InvalidTransaction Unit := do
  rejectIf (ctx.isEip3607Disabled = false ∧ ctx.callerHasCode = true) .rejectCallerWithCode
  let state := journal.nonce ctx.tx.caller
  rejectIf (ctx.isNonceCheckDisabled = false ∧ ctx.tx.nonce > state) (.nonceTooHigh ctx.tx.nonce state)
  rejectIf (ctx.isNonceCheckDisabled = false ∧ ctx.tx.nonce < state) (.nonceTooLow ctx.tx.nonce state)

namespace HandlerContext

def baseFee (ctx : HandlerContext) : U128 := ctx.basefee.setWidth 128

def effectiveGasPrice (ctx : HandlerContext) : U128 := ctx.tx.effectiveGasPrice ctx.baseFee

def l1DataFee (ctx : HandlerContext) (journal : Journal) : U256 :=
  (L1BlockInfo.tryFetch journal.storage ctx.hardfork).calculateTxL1Cost (ctx.tx.rlpBytes.getD []) ctx.hardfork

def feeContext (ctx : HandlerContext) : FeeContext where
  keccak256 := ctx.keccak256
  tx := ⟨ctx.tx.caller, ctx.tx.isCall, ctx.tx.value, ctx.tx.nonce, ctx.tx.gasLimit, ctx.tx.feeLimit, ctx.effectiveGasPrice⟩
  beneficiary := ctx.beneficiary
  isFeeChargeDisabled := ctx.isFeeChargeDisabled
  isCeladon := ctx.hardfork.isCeladon
  l1DataFee := ctx.l1DataFee
  validateAccountNonceAndCode := validateAccountNonceAndCode ctx
  evmCallBalanceOf := ctx.evmCallBalanceOf
  transferErc20WithEvm := ctx.transferErc20WithEvm

end HandlerContext

def Journal.setBalance (journal : Journal) (account : Address) (balance : U256) : Journal :=
  { journal with balance := fun address => if address = account then balance else journal.balance address }

-- An increment that would overflow is dropped.
def Journal.incrBalance (journal : Journal) (account : Address) (amount : U256) : Journal :=
  match checkedAdd (journal.balance account) amount with
  | none => journal
  | some balance => journal.setBalance account balance

-- The worst case at the fee cap that the balance has to cover.
def maxSpending (ctx : HandlerContext) (l1DataFee : U256) : Except InvalidTransaction U256 :=
  match checkedMul (ctx.tx.gasLimit.setWidth 128) ctx.tx.maxFeePerGas with
  | none => .error .overflowPaymentInTransaction
  | some maxGasSpending => match checkedAdd (maxGasSpending.setWidth 256) ctx.tx.value with
      | none => .error .overflowPaymentInTransaction
      | some spending => match checkedAdd spending l1DataFee with
          | none => .error .overflowPaymentInTransaction
          | some maxSpending => .ok maxSpending

def checkMaxSpending (ctx : HandlerContext) (balance l1DataFee : U256) : Except InvalidTransaction Unit := do
  let spending ← maxSpending ctx l1DataFee
  rejectIf (balance < spending) (.lackOfFundForMaxFee spending balance)

def calculateCallerFeeWithL1Cost (ctx : HandlerContext) (balance l1DataFee : U256) : Except InvalidTransaction U256 := do
  if ctx.isFeeChargeDisabled then .ok balance
  else
    if ctx.isBalanceCheckDisabled = false then checkMaxSpending ctx balance l1DataFee
    let spending ← ctx.tx.effectiveBalanceSpending ctx.baseFee
    let gasBalanceSpending := spending - ctx.tx.value
    let totalFeeDeduction := saturatingAdd gasBalanceSpending l1DataFee
    let newBalance := saturatingSub balance totalFeeDeduction
    .ok (if ctx.isBalanceCheckDisabled ∧ newBalance < ctx.tx.value then ctx.tx.value else newBalance)

-- The L1 data fee is cached before anything can fail or be switched off.
def validateAndDeductEthFee (ctx : HandlerContext) (evm : MorphEvm) : Except MorphInvalidTransaction MorphEvm := do
  let l1DataFee := ctx.l1DataFee evm.journal
  (validateAccountNonceAndCode ctx evm.journal).mapError .ethInvalidTransaction
  let newBalance ← (calculateCallerFeeWithL1Cost ctx (evm.journal.balance ctx.tx.caller) l1DataFee).mapError .ethInvalidTransaction
  let charged := evm.journal.setBalance ctx.tx.caller newBalance
  .ok { evm with journal := bumpCallNonce ctx.feeContext charged, cachedL1DataFee := l1DataFee }

def resetCaches (evm : MorphEvm) : MorphEvm where
  journal := evm.journal
  cachedTokenFeeInfo := none
  cachedAltFeeRoundingCredit := 0
  cachedL1DataFee := 0
  preFeeRefund := 0

def validateAgainstStateAndDeductCaller (ctx : HandlerContext) (evm : MorphEvm) : Except MorphInvalidTransaction MorphEvm :=
  let fresh := resetCaches evm
  if ctx.tx.isL1Msg then .ok { fresh with journal := bumpCallNonce ctx.feeContext fresh.journal }
  else if ctx.tx.paysInToken then validateAndDeductTokenFee ctx.feeContext fresh (ctx.tx.feeTokenId.getD 0)
  else validateAndDeductEthFee ctx fresh

-- What the main frame and the refund hook leave of the gas limit.
structure GasOutcome (limit : U64) where
  gas : Gas
  refund : 0 ≤ gas.refunded
  within : gas.remaining.toNat + gas.refunded.toNat ≤ limit.toNat

namespace Gas

def refundedWord (gas : Gas) : U64 := BitVec.ofNat 64 gas.refunded.toNat

def used (gas : Gas) (limit : U64) : U64 :=
  saturatingSub (saturatingSub limit gas.remaining) gas.refundedWord

def recordRefund (gas : Gas) (refund : Int) : Gas := { gas with refunded := gas.refunded + refund }

-- All hardforks are past London: at most a fifth of what was spent comes back.
def setFinalRefund (gas : Gas) (limit : U64) : Gas :=
  { gas with refunded := min (BitVec.ofInt 64 gas.refunded).toNat ((saturatingSub limit gas.remaining).toNat / 5) }

end Gas

-- What the frame that paid the fee earned is part of the transaction's refund.
def refund (ctx : HandlerContext) (evm : MorphEvm) (gas : Gas) (eip7702Refund : Int) : Gas :=
  if ctx.tx.isL1Msg then { gas with refunded := 0 }
  else ((gas.recordRefund evm.preFeeRefund).recordRefund eip7702Refund).setFinalRefund ctx.tx.gasLimit

-- revm's own reimbursement of the unused gas.
def reimburseCallerEth (ctx : HandlerContext) (evm : MorphEvm) (gas : Gas) : MorphEvm :=
  let amount : U128 := saturatingMul ctx.effectiveGasPrice ((gas.remaining + gas.refundedWord).setWidth 128)
  { evm with journal := evm.journal.incrBalance ctx.tx.caller (amount.setWidth 256) }

-- Without cached fee information nothing was charged, as in a simulation.
def reimburseCaller (ctx : HandlerContext) (evm : MorphEvm) (gas : Gas) : Except MorphInvalidTransaction MorphEvm :=
  if ctx.tx.isL1Msg then .ok evm
  else if ctx.tx.paysInToken then
    if evm.cachedTokenFeeInfo.isNone then .ok evm else reimburseCallerTokenFee ctx.feeContext evm gas
  else .ok (reimburseCallerEth ctx evm gas)

def rewardBeneficiary (ctx : HandlerContext) (evm : MorphEvm) (gas : Gas) : MorphEvm :=
  if ctx.tx.isL1Msg ∨ ctx.tx.paysInToken then evm
  else
    let executionFee := saturatingMul (ctx.effectiveGasPrice.setWidth 256) ((gas.used ctx.tx.gasLimit).setWidth 256)
    { evm with journal := evm.journal.incrBalance ctx.beneficiary (saturatingAdd executionFee evm.cachedL1DataFee) }

-- The hooks after the refund, in revm's order; the calldata gas floor is
-- disabled.
def settleGas (ctx : HandlerContext) (evm : MorphEvm) (gas : Gas) : Except MorphInvalidTransaction MorphEvm := do
  let reimbursed ← reimburseCaller ctx evm gas
  .ok (rewardBeneficiary ctx reimbursed gas)

end MorphReth.Fee
