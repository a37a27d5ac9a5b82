import MorphReth.Consensus.PostExecution
import MorphReth.Evm.Block
import MorphReth.Fee.TokenFee

set_option autoImplicit false

namespace MorphReth.Evm

open Rlp Transaction Consensus Receipts
open Fee (TokenFeeInfo)

structure ExecutionResult where
  isSuccess : Bool
  gasUsed : U64
  logs : List Log
  deriving DecidableEq, Repr

structure MorphTxResult (State : Type) where
  result : ExecutionResult
  state : State
  l1Fee : U256
  preFeeLogs : List Log
  postFeeLogs : List Log
  cachedTokenFeeInfo : Option TokenFeeInfo

structure MorphReceiptTxFields where
  version : UInt8
  feeTokenId : U16
  feeRate : Option U256
  tokenScale : Option U256
  feeLimit : U256
  reference : Option B256
  memo : Option Bytes
  deriving DecidableEq, Repr

structure MorphReceiptBuilderCtx where
  tx : MorphTxEnvelope
  result : ExecutionResult
  cumulativeGasUsed : U64
  l1Fee : U256
  morphTxFields : Option MorphReceiptTxFields
  preFeeLogs : List Log
  postFeeLogs : List Log

def withL1Fee (inner : Receipt) (l1Fee : U256) : MorphTransactionReceipt :=
  { MorphTransactionReceipt.new inner with l1Fee := l1Fee }

def withMorphTxV1 (inner : Receipt) (l1Fee : U256) (fields : MorphReceiptTxFields) : MorphTransactionReceipt where
  inner := inner
  l1Fee := l1Fee
  version := some fields.version
  feeTokenId := some fields.feeTokenId
  feeRate := fields.feeRate
  tokenScale := fields.tokenScale
  feeLimit := some fields.feeLimit
  reference := fields.reference
  memo := fields.memo

def buildReceipt (ctx : MorphReceiptBuilderCtx) : MorphReceipt :=
  let inner : Receipt :=
    ⟨.eip658 ctx.result.isSuccess, ctx.cumulativeGasUsed, ctx.preFeeLogs ++ ctx.result.logs ++ ctx.postFeeLogs⟩
  match ctx.tx with
  | .legacy _ => .legacy (withL1Fee inner ctx.l1Fee)
  | .eip2930 _ => .eip2930 (withL1Fee inner ctx.l1Fee)
  | .eip1559 _ => .eip1559 (withL1Fee inner ctx.l1Fee)
  | .eip7702 _ => .eip7702 (withL1Fee inner ctx.l1Fee)
  | .l1Msg _ => .l1Msg inner
  | .morph _ _ =>
      match ctx.morphTxFields with
      | some fields => .morph (withMorphTxV1 inner ctx.l1Fee fields)
      | none => .morph (withL1Fee inner ctx.l1Fee)

-- The node's EVM with the database reads and the hashes around it.
structure MorphEvm (State : Type) where
  chainSpec : EvmChainSpec
  ethereumTx : EthereumTx
  transact : EvmEnv → State → Recovered → Except EvmError (MorphTxResult State)
  gasUsedWithin : ∀ env state recovered output, transact env state recovered = .ok output →
    output.result.gasUsed.toNat ≤ (ethereumTx.gasLimitOf recovered.tx).toNat
  loadStorageOnly : State → U16 → Address → Except String (Option TokenFeeInfo)
  emptyOmmerRootHash : B256
  hashing : ReceiptHashing
  hashHeader : Consensus.Header → B256

namespace MorphEvm

variable {State : Type} (evm : MorphEvm State)

-- A token that is not registered leaves the receipt without its fields.
def getMorphTxFields (db : State) (cachedTokenFeeInfo : Option TokenFeeInfo) (tx : MorphTxEnvelope) (sender : Address) :
    Except String (Option MorphReceiptTxFields) :=
  match tx with
  | .morph tx _ =>
      if tx.feeTokenId = 0 then .ok (some ⟨tx.version, 0, none, none, tx.feeLimit, tx.reference, tx.memo⟩)
      else do
        let tokenInfo ←
          match cachedTokenFeeInfo with
          | some info => .ok (some info)
          | none => evm.loadStorageOnly db tx.feeTokenId sender
        .ok (tokenInfo.map (fun info =>
          ⟨tx.version, tx.feeTokenId, some info.priceRatio, some info.scale, tx.feeLimit, tx.reference, tx.memo⟩))
  | _ => .ok none

-- The fields are read before the transaction's changes are committed, and a
-- failed read is only logged.
def receiptOf (db : State) (recovered : Recovered) (output : MorphTxResult State) (cumulativeGasUsed : U64) : MorphReceipt :=
  buildReceipt {
    tx := recovered.tx
    result := output.result
    cumulativeGasUsed := cumulativeGasUsed
    l1Fee := output.l1Fee
    morphTxFields := (evm.getMorphTxFields db output.cachedTokenFeeInfo recovered.tx recovered.signer).toOption.join
    preFeeLogs := output.preFeeLogs
    postFeeLogs := output.postFeeLogs }

def transactForBlock (env : EvmEnv) (db : State) (recovered : Recovered) : Except EvmError (TxResult State MorphReceipt) :=
  (evm.transact env db recovered).map (fun output => ⟨output.result.gasUsed, evm.receiptOf db recovered output, output.state⟩)

theorem transact_for_block_ok (env : EvmEnv) (db : State) (recovered : Recovered) (result : TxResult State MorphReceipt)
    (ran : evm.transactForBlock env db recovered = .ok result) :
    ∃ output, evm.transact env db recovered = .ok output ∧
      result = ⟨output.result.gasUsed, evm.receiptOf db recovered output, output.state⟩ := by
  rw [transactForBlock] at ran
  cases outcome : evm.transact env db recovered with
  | error error => rw [outcome] at ran; cases ran
  | ok output =>
      rw [outcome] at ran
      cases ran
      exact ⟨output, rfl, rfl⟩

def config : MorphEvmConfig State MorphReceipt where
  chainSpec := evm.chainSpec
  ethereumTx := evm.ethereumTx
  transact := evm.transactForBlock
  gasUsedWithin env state recovered result ran := by
    obtain ⟨output, transacted, rfl⟩ := evm.transact_for_block_ok env state recovered result ran
    exact evm.gasUsedWithin env state recovered output transacted
  emptyOmmerRootHash := evm.emptyOmmerRootHash
  orderedTrieRoot := evm.hashing.orderedTrieRoot
  calculateReceiptRootNoMemo := evm.hashing.receiptRootNoMemo
  logsBloom receipts := evm.hashing.logsBloom (receipts.flatMap (fun receipt => receipt.asReceipt.logs))
  hashHeader := evm.hashHeader

end MorphEvm

-- Whatever the type, the receipt keeps the status, the gas and all logs in the
-- order in which they were emitted.
theorem build_receipt_inner (ctx : MorphReceiptBuilderCtx) :
    (buildReceipt ctx).asReceipt =
      ⟨.eip658 ctx.result.isSuccess, ctx.cumulativeGasUsed, ctx.preFeeLogs ++ ctx.result.logs ++ ctx.postFeeLogs⟩ := by
  cases tx : ctx.tx with
  | morph morphTx signature =>
      cases fields : ctx.morphTxFields with
      | none => simp [buildReceipt, tx, fields, MorphReceipt.asReceipt, withL1Fee, MorphTransactionReceipt.new]
      | some found => simp [buildReceipt, tx, fields, MorphReceipt.asReceipt, withMorphTxV1]
  | legacy | eip2930 | eip1559 | eip7702 | l1Msg =>
      simp [buildReceipt, tx, MorphReceipt.asReceipt, withL1Fee, MorphTransactionReceipt.new]

end MorphReth.Evm
