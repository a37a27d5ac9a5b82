import MorphReth.Checks
import MorphReth.Consensus.HashBinding
import MorphReth.Evm.Config
import MorphReth.Transaction.EnvelopeWire

set_option autoImplicit false

namespace MorphReth.Evm

open Rlp Transaction Consensus

inductive EvmError where
  | invalidTx (message : String) (isNonceTooLow : Bool)
  | fatal (message : String)
  deriving DecidableEq, Repr

inductive BlockExecutionError where
  | invalidTx (message : String) (isNonceTooLow : Bool)
  | validation (message : String)
  | internal (message : String)
  -- transaction gas limit exceeds block available gas
  | exceedsAvailableGas (gasLimit available : U64)
  deriving DecidableEq, Repr

def BlockExecutionError.evm : EvmError → BlockExecutionError
  | .invalidTx message isNonceTooLow => .invalidTx message isNonceTooLow
  | .fatal message => .internal message

-- The receipt still lacks the block's cumulative gas.
structure TxResult (State Receipt : Type) where
  gasUsed : U64
  receipt : U64 → Receipt
  state : State

-- The chain specification, the EVM as a function of environment, state and
-- transaction, and the hashes and roots of the assembled block.
structure MorphEvmConfig (State Receipt : Type) where
  chainSpec : EvmChainSpec
  ethereumTx : EthereumTx
  transact : EvmEnv → State → Recovered → Except EvmError (TxResult State Receipt)
  gasUsedWithin : ∀ env state recovered result, transact env state recovered = .ok result →
    result.gasUsed.toNat ≤ (ethereumTx.gasLimitOf recovered.tx).toNat
  emptyOmmerRootHash : B256
  orderedTrieRoot : List Bytes → B256
  calculateReceiptRootNoMemo : List Receipt → B256
  logsBloom : List Receipt → Bloom
  hashHeader : Consensus.Header → B256

structure MorphBlockExecutor (State Receipt : Type) where
  gasUsed : U64
  gasPoolUsed : U64
  receipts : List Receipt
  state : State

variable {State Receipt : Type} (config : MorphEvmConfig State Receipt) (env : EvmEnv)

def executeTransactionWithoutCommit (executor : MorphBlockExecutor State Receipt) (recovered : Recovered) :
    Except BlockExecutionError (TxResult State Receipt) :=
  let blockAvailableGas := saturatingSub env.blockEnv.gasLimit executor.gasPoolUsed
  let gasLimit := config.ethereumTx.gasLimitOf recovered.tx
  if gasLimit > blockAvailableGas then .error (.exceedsAvailableGas gasLimit blockAvailableGas)
  else (config.transact env executor.state recovered).mapError .evm

-- An L1 message takes its whole gas limit out of the block's gas pool.
def commitTransaction (executor : MorphBlockExecutor State Receipt) (recovered : Recovered) (output : TxResult State Receipt) :
    MorphBlockExecutor State Receipt where
  gasUsed := executor.gasUsed + output.gasUsed
  gasPoolUsed := executor.gasPoolUsed +
    if recovered.tx.isL1Msg then config.ethereumTx.gasLimitOf recovered.tx else output.gasUsed
  receipts := executor.receipts ++ [output.receipt (executor.gasUsed + output.gasUsed)]
  state := output.state

structure BlockBuilder (State Receipt : Type) where
  executor : MorphBlockExecutor State Receipt
  transactions : List Recovered

def BlockBuilder.start (state : State) : BlockBuilder State Receipt := ⟨⟨0, 0, [], state⟩, []⟩

def BlockBuilder.executeTransaction (builder : BlockBuilder State Receipt) (recovered : Recovered) :
    Except BlockExecutionError (U64 × BlockBuilder State Receipt) := do
  let output ← executeTransactionWithoutCommit config env builder.executor recovered
  .ok (output.gasUsed, ⟨commitTransaction config builder.executor recovered output, builder.transactions ++ [recovered]⟩)

structure Block where
  header : MorphHeader
  transactions : List MorphTxEnvelope
  ommers : List MorphHeader
  withdrawals : Option (List Bytes)
  deriving DecidableEq, Repr

def Block.seal (hashHeader : Consensus.Header → B256) (block : Block) : SealedBlock where
  header := block.header
  hash := hashSlow hashHeader block.header
  transactions := block.transactions
  ommers := block.ommers
  withdrawals := block.withdrawals

def calculateTransactionRoot (transactions : List MorphTxEnvelope) : B256 :=
  config.orderedTrieRoot (transactions.map MorphTxEnvelope.encode2718)

-- The L1 message index is the parent's here; the payload builder replaces it.
def assembleBlock (parent : SealedHeader) (extraData : Bytes) (builder : BlockBuilder State Receipt) (stateRoot : B256) : Block :=
  let transactions := builder.transactions.map Recovered.tx
  let number : U64 := env.blockEnv.number.setWidth 64
  { header := {
      parentHash := parent.hash
      ommersHash := config.emptyOmmerRootHash
      beneficiary := 0
      stateRoot := stateRoot
      transactionsRoot := calculateTransactionRoot config transactions
      receiptsRoot := config.calculateReceiptRootNoMemo builder.executor.receipts
      withdrawalsRoot := none
      logsBloom := config.logsBloom builder.executor.receipts
      difficulty := env.blockEnv.difficulty
      number := number
      gasLimit := env.blockEnv.gasLimit
      gasUsed := builder.executor.gasUsed
      timestamp := env.blockEnv.timestamp.setWidth 64
      extraData := extraData
      mixHash := some 0
      nonce := some 0
      baseFeePerGas := if config.chainSpec.isLondonActiveAtBlock number then some env.blockEnv.basefee else none
      blobGasUsed := none
      excessBlobGas := none
      parentBeaconBlockRoot := none
      requestsHash := none
      blockAccessListHash := none
      slotNumber := none
      nextL1MsgIndex := parent.header.nextL1MsgIndex }
    transactions := transactions
    ommers := []
    withdrawals := none }

end MorphReth.Evm
