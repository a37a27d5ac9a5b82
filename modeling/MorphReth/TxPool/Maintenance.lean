import MorphReth.Grouping
import MorphReth.RollingBudget
import MorphReth.TxPool.Admission
import Mathlib.Data.List.Sort

set_option autoImplicit false

namespace MorphReth.TxPool

open Rlp Consensus Transaction Fee

structure PooledTransaction where
  hash : B256
  sender : Address
  transaction : MorphTxEnvelope

-- A pooled transaction of type 0x7F.
structure PooledMorphTx where
  hash : B256
  sender : Address
  tx : TxMorph
  signature : Signature
  deriving DecidableEq, Repr

namespace PooledMorphTx

def consensusTx (pooled : PooledMorphTx) : MorphTxEnvelope := .morph pooled.tx pooled.signature

def encoded2718 (pooled : PooledMorphTx) : Bytes := pooled.consensusTx.encode2718

end PooledMorphTx

def PooledTransaction.asMorphTx (pooled : PooledTransaction) : Option PooledMorphTx :=
  match pooled.transaction with
  | .morph tx signature => some ⟨pooled.hash, pooled.sender, tx, signature⟩
  | _ => none

structure Tip where
  gasLimit : U64
  hardfork : MorphHardfork

-- The state of the tip: what admission reads, and the account of a sender.
structure StateProvider extends PoolDb where
  basic : Address → Except String (Option U256)

structure SenderBudget where
  ethBalance : U256
  tokenBalances : U16 → Option U256

def consumeEthBudget (budget : SenderBudget) (txValue : U256) (gasLimit : U64) (maxFeePerGas : U128) (l1DataFee : U256) : Bool × SenderBudget :=
  let gasFee := saturatingMul (gasLimit.setWidth 256) (maxFeePerGas.setWidth 256)
  let totalEthCost := saturatingAdd (saturatingAdd gasFee l1DataFee) txValue
  if totalEthCost > budget.ethBalance then (false, budget)
  else (true, { budget with ethBalance := saturatingSub budget.ethBalance totalEthCost })

-- The first transaction with a token brings the token's balance in.
def consumeTokenBudget (budget : SenderBudget) (txValue : U256) (tokenId : Option U16) (feeLimit : Option U256) (requiredTokenAmount : U256)
    (stateTokenBalance : Option U256) : Bool × SenderBudget :=
  match tokenId, feeLimit with
  | some tokenId, some feeLimit =>
      let tokenBudget := (budget.tokenBalances tokenId).getD (stateTokenBalance.getD 0)
      let entered : SenderBudget := { budget with tokenBalances := Function.update budget.tokenBalances tokenId (some tokenBudget) }
      let effectiveLimit := if feeLimit = 0 ∨ feeLimit > tokenBudget then tokenBudget else feeLimit
      if effectiveLimit < requiredTokenAmount ∨ txValue > budget.ethBalance then (false, entered)
      else (true,
        { ethBalance := saturatingSub budget.ethBalance txValue
          tokenBalances := Function.update entered.tokenBalances tokenId (some (saturatingSub tokenBudget requiredTokenAmount)) })
  | _, _ => (false, budget)

def exceedsBlockGasLimit (txGasLimit blockGasLimit : U64) : Bool := txGasLimit > blockGasLimit

section Pass

variable (tip : Tip) (state : StateProvider)

def l1DataFee (pooled : PooledMorphTx) : U256 :=
  (L1BlockInfo.tryFetch state.storage tip.hardfork).calculateTxL1Cost pooled.encoded2718 tip.hardfork

def validationInput (sender : Address) (budget : SenderBudget) (pooled : PooledMorphTx) : MorphTxValidationInput where
  consensusTx := pooled.consensusTx
  sender := sender
  ethBalance := budget.ethBalance
  l1DataFee := l1DataFee tip state pooled
  hardfork := tip.hardfork

def consumeBudget (budget : SenderBudget) (pooled : PooledMorphTx) (validation : MorphTxValidationResult) : Bool × SenderBudget :=
  if validation.usesTokenFee then
    consumeTokenBudget budget pooled.tx.value (some pooled.tx.feeTokenId) (some pooled.tx.feeLimit) validation.requiredTokenAmount
      (validation.tokenInfo.map (·.balance))
  else consumeEthBudget budget pooled.tx.value pooled.tx.gasLimit pooled.tx.maxFeePerGas (l1DataFee tip state pooled)

-- One turn of the loop over a sender's transactions: the budget after it, or
-- nothing when the transaction is to be removed.
def revalidate (sender : Address) (budget : SenderBudget) (pooled : PooledMorphTx) : Option SenderBudget :=
  if exceedsBlockGasLimit pooled.tx.gasLimit tip.gasLimit then none
  else match validateMorphTx state.toPoolDb (validationInput tip state sender budget pooled) with
    | .error _ => none
    | .ok validation =>
        let (affordable, after) := consumeBudget tip state budget pooled validation
        if affordable then some after else none

def nonceOrdered (senderTxs : List PooledMorphTx) : List PooledMorphTx :=
  senderTxs.insertionSort (fun left right => left.tx.nonce.toNat ≤ right.tx.nonce.toNat)

-- The marks of one sender. A sender whose account cannot be read is skipped.
def revalidateSender (sender : Address) (senderTxs : List PooledMorphTx) : List B256 :=
  match state.basic sender with
  | .error _ => []
  | .ok account =>
      ((firstRefused (revalidate tip state sender) ⟨account.getD 0, fun _ => none⟩ (nonceOrdered senderTxs)).map (·.hash)).toList

-- The transactions to remove after a new tip; nothing when its state cannot be
-- read.
def maintainMorphPool (stateByBlockHash : Except String StateProvider) (pending queued : List PooledTransaction) : List B256 :=
  let morphTxs := (pending ++ queued).filterMap PooledTransaction.asMorphTx
  if morphTxs.isEmpty then []
  else match stateByBlockHash with
    | .error _ => []
    | .ok state => (groupItems PooledMorphTx.sender morphTxs).flatMap (fun group => revalidateSender tip state group.1 group.2)

end Pass

end MorphReth.TxPool
