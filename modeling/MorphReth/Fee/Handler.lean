import MorphReth.Checks
import MorphReth.Fee.TokenFee

set_option autoImplicit false

namespace MorphReth.Fee

open Rlp

structure Journal where
  storage : Storage
  balance : Address → U256
  nonce : Address → U64

structure TxEnv where
  caller : Address
  isCall : Bool
  value : U256
  nonce : U64
  gasLimit : U64
  feeLimit : Option U256
  effectiveGasPrice : U128 -- at the block's base fee

structure Gas where
  remaining : U64
  refunded : Int

-- The surroundings of one transaction: block and configuration values, the L1
-- data fee as a function of the state read, revm's nonce and code check, and
-- the internal frames a token without a known balance slot is paid through.
-- The journal is empty when the fee is deducted, so reads of the database and
-- of the journal agree there and one storage stands for both.
structure FeeContext where
  keccak256 : Bytes → U256
  tx : TxEnv
  beneficiary : Address
  isFeeChargeDisabled : Bool
  isCeladon : Bool
  l1DataFee : Journal → U256
  validateAccountNonceAndCode : Journal → Except InvalidTransaction Unit
  evmCallBalanceOf : Journal → Address → Address → Except MorphInvalidTransaction U256
  transferErc20WithEvm : Journal → Address → Address → Address → U256 → Option U256 → Except MorphInvalidTransaction Int × Journal

structure MorphEvm where
  journal : Journal
  cachedTokenFeeInfo : Option TokenFeeInfo
  cachedAltFeeRoundingCredit : U256
  cachedL1DataFee : U256
  preFeeRefund : Int

def Journal.sstore (journal : Journal) (account : Address) (slot value : U256) : Journal :=
  { journal with storage := fun address key => if address = account ∧ key = slot then value else journal.storage address key }

def Journal.bumpNonce (journal : Journal) (account : Address) : Journal :=
  { journal with nonce := fun address => if address = account then journal.nonce address + 1 else journal.nonce address }

-- Both balances are checked before either is written; a failed transfer leaves
-- the journal at its checkpoint.
def transferErc20WithSlot (keccak256 : Bytes → U256) (journal : Journal) (source target token : Address)
    (tokenAmount tokenBalanceSlot : U256) : Except MorphInvalidTransaction Journal :=
  let fromStorageSlot := computeMappingSlotForAddress keccak256 tokenBalanceSlot source
  let fromBalance := journal.storage token fromStorageSlot
  match checkedSub fromBalance tokenAmount with
  | none => .error (.insufficientTokenBalance tokenAmount fromBalance)
  | some newFromBalance =>
      let toStorageSlot := computeMappingSlotForAddress keccak256 tokenBalanceSlot target
      if fromStorageSlot = toStorageSlot then .ok journal
      else
        let toBalance := journal.storage token toStorageSlot
        match checkedAdd toBalance tokenAmount with
        | none => .error (.tokenTransferFailed "recipient token balance overflow")
        | some newToBalance => .ok ((journal.sstore token fromStorageSlot newFromBalance).sstore token toStorageSlot newToBalance)

def loadTokenFeeInfo (ctx : FeeContext) (journal : Journal) (entry : TokenRegistryEntry) : Except MorphInvalidTransaction TokenFeeInfo :=
  match entry.balanceSlot with
  | some slot =>
      .ok (entry.intoFeeInfo ctx.tx.caller (readBalanceFromStorage ctx.keccak256 journal.storage entry.tokenAddress ctx.tx.caller slot))
  | none => do
      let balance ← ctx.evmCallBalanceOf journal entry.tokenAddress ctx.tx.caller
      .ok (entry.intoFeeInfo ctx.tx.caller balance)

def checkTxValue (ctx : FeeContext) (journal : Journal) : Except MorphInvalidTransaction Unit :=
  rejectIf (ctx.isFeeChargeDisabled = false ∧ ctx.tx.value ≠ 0 ∧ journal.balance ctx.tx.caller < ctx.tx.value)
    (.ethInvalidTransaction (.lackOfFundForMaxFee ctx.tx.value (journal.balance ctx.tx.caller)))

def loadRegistryEntry (ctx : FeeContext) (journal : Journal) (tokenId : U16) : Except MorphInvalidTransaction TokenRegistryEntry :=
  match readRegistryEntry ctx.keccak256 journal.storage tokenId with
  | none => .error (.tokenNotRegistered tokenId)
  | some entry => entry.ensureUsable tokenId

def bumpCallNonce (ctx : FeeContext) (journal : Journal) : Journal :=
  if ctx.tx.isCall then journal.bumpNonce ctx.tx.caller else journal

def totalEthFee (ctx : FeeContext) (l1DataFee : U256) : U256 :=
  let l2GasFee : U256 := saturatingMul (ctx.tx.gasLimit.setWidth 256) (ctx.tx.effectiveGasPrice.setWidth 256)
  saturatingAdd l2GasFee l1DataFee

-- A zero fee moves nothing in either mode. Only the call mode runs a frame
-- whose refund counter is carried into the transaction.
def payTokenFee (ctx : FeeContext) (evm : MorphEvm) (info : TokenFeeInfo) (amount : U256) : Except MorphInvalidTransaction MorphEvm :=
  if amount = 0 then .ok evm
  else match info.balanceSlot with
    | some balanceSlot => do
        let after ← transferErc20WithSlot ctx.keccak256 evm.journal ctx.tx.caller ctx.beneficiary info.tokenAddress amount balanceSlot
        .ok { evm with journal := after }
    | none => do
        let called := ctx.transferErc20WithEvm evm.journal ctx.tx.caller ctx.beneficiary info.tokenAddress amount (some info.balance)
        let refund ← called.1
        .ok { evm with journal := called.2, preFeeRefund := refund }

def validateAndDeductTokenFee (ctx : FeeContext) (evm : MorphEvm) (tokenId : U16) : Except MorphInvalidTransaction MorphEvm := do
  rejectIf (tokenId = 0) .tokenIdZeroNotSupported
  (ctx.validateAccountNonceAndCode evm.journal).mapError .ethInvalidTransaction
  checkTxValue ctx evm.journal
  let entry ← loadRegistryEntry ctx evm.journal tokenId
  if ctx.isFeeChargeDisabled then .ok { evm with journal := bumpCallNonce ctx evm.journal }
  else
    let info ← loadTokenFeeInfo ctx evm.journal entry
    let l1DataFee := ctx.l1DataFee evm.journal
    let charge := info.ethToTokenAmountWithCredit (totalEthFee ctx l1DataFee)
    let feeLimit := info.effectiveFeeLimit (ctx.tx.feeLimit.getD 0)
    rejectIf (feeLimit < charge.1) (.insufficientTokenBalance charge.1 feeLimit)
    let paid ← payTokenFee ctx evm info charge.1
    .ok {
      journal := bumpCallNonce ctx paid.journal
      cachedTokenFeeInfo := some info
      cachedAltFeeRoundingCredit := charge.2
      cachedL1DataFee := l1DataFee
      preFeeRefund := paid.preFeeRefund }

def reimburseEth (ctx : FeeContext) (gas : Gas) : U256 :=
  let refunded : U64 := BitVec.ofNat 64 (max gas.refunded 0).toNat
  (saturatingMul ctx.tx.effectiveGasPrice ((saturatingAdd gas.remaining refunded).setWidth 128)).setWidth 256

-- A refund the token rejects is logged and the transaction goes on, in call
-- mode with whatever the token wrote.
def refundToken (ctx : FeeContext) (journal : Journal) (info : TokenFeeInfo) (amount : U256) : Journal :=
  match info.balanceSlot with
  | some balanceSlot =>
      match transferErc20WithSlot ctx.keccak256 journal ctx.beneficiary ctx.tx.caller info.tokenAddress amount balanceSlot with
      | .ok after => after
      | .error _ => journal
  | none => (ctx.transferErc20WithEvm journal ctx.beneficiary ctx.tx.caller info.tokenAddress amount none).2

def reimburseCallerTokenFee (ctx : FeeContext) (evm : MorphEvm) (gas : Gas) : Except MorphInvalidTransaction MorphEvm :=
  let refund := reimburseEth ctx gas
  if refund = 0 then .ok evm
  else match evm.cachedTokenFeeInfo with
    | none => .error (.tokenTransferFailed "cached_token_fee_info not set by validate_and_deduct_token_fee")
    | some info =>
        let amount :=
          if ctx.isCeladon then info.ethToTokenAmountFloor refund evm.cachedAltFeeRoundingCredit
          else info.ethToTokenAmount refund
        if amount = 0 then .ok evm
        else .ok { evm with journal := refundToken ctx evm.journal info amount }

end MorphReth.Fee
