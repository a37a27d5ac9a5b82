import MorphReth.Evm.Block
import MorphReth.Loops

set_option autoImplicit false

namespace MorphReth.Payload

open Rlp Transaction Consensus Evm

inductive MorphPayloadBuilderError where
  | blobTransactionRejected
  | invalidSuppliedTransaction (error : String)
  | l1MessageAfterRegularTx
  | blockGasLimitExceeded (txIndex : Nat) (txGas gasPoolUsed blockGasLimit : U64)
  | storage (error : String)
  deriving DecidableEq, Repr

inductive PayloadBuilderError where
  | other (error : MorphPayloadBuilderError)
  | rlp (error : RlpError)
  | evmExecutionError (error : BlockExecutionError)
  | internal (message : String)
  deriving DecidableEq, Repr

structure WithEncoded where
  encodedBytes : Bytes
  value : Recovered
  deriving DecidableEq, Repr

-- The fields of the engine attributes that reach the block; the randomness and
-- the beacon root are carried along and ignored.
structure MorphPayloadAttributes where
  timestamp : U64
  prevRandao : B256
  suggestedFeeRecipient : Address
  parentBeaconBlockRoot : Option B256
  transactions : Option (List Bytes)
  noTxPool : Bool
  gasLimit : Option U64
  baseFeePerGas : Option U64
  deriving DecidableEq, Repr

structure MorphPayloadBuilderAttributes where
  timestamp : U64
  prevRandao : B256
  suggestedFeeRecipient : Address
  parentBeaconBlockRoot : Option B256
  transactions : List WithEncoded
  noTxPool : Bool
  gasLimit : Option U64
  baseFeePerGas : Option U64
  deriving DecidableEq, Repr

-- alloy's decoder of the Ethereum types and its signature recovery.
structure TxRecovery where
  ethereum : EthereumDecoder
  recoverSigner : MorphTxEnvelope → Option Address

-- An L1 message is not signed: its sender is a field.
def TxRecovery.tryIntoRecovered (recovery : TxRecovery) (tx : MorphTxEnvelope) : Option Recovered :=
  match tx with
  | .l1Msg message => some ⟨tx, message.sender⟩
  | _ => (recovery.recoverSigner tx).map (fun signer => ⟨tx, signer⟩)

def decodeSupplied (recovery : TxRecovery) (data : Bytes) : Except RlpError WithEncoded := do
  let (tx, buf) ← decode2718 recovery.ethereum data
  if buf ≠ [] then .error .unexpectedLength
  else match recovery.tryIntoRecovered tx with
    | none => .error (.custom "failed to recover signer")
    | some recovered => .ok ⟨data, recovered⟩

def decodeAllSupplied (recovery : TxRecovery) : List Bytes → Except RlpError (List WithEncoded)
  | [] => .ok []
  | data :: rest => do
      let supplied ← decodeSupplied recovery data
      let others ← decodeAllSupplied recovery rest
      .ok (supplied :: others)

namespace MorphPayloadBuilderAttributes

def tryNew (recovery : TxRecovery) (attributes : MorphPayloadAttributes) : Except RlpError MorphPayloadBuilderAttributes := do
  let transactions ← decodeAllSupplied recovery (attributes.transactions.getD [])
  .ok {
    timestamp := attributes.timestamp
    prevRandao := attributes.prevRandao
    suggestedFeeRecipient := attributes.suggestedFeeRecipient
    parentBeaconBlockRoot := attributes.parentBeaconBlockRoot
    transactions := transactions
    noTxPool := attributes.noTxPool
    gasLimit := attributes.gasLimit
    baseFeePerGas := attributes.baseFeePerGas }

def includeTxPool (attributes : MorphPayloadBuilderAttributes) : Bool := !attributes.noTxPool

end MorphPayloadBuilderAttributes

structure MorphBuilderConfig where
  gasLimit : Option U64
  timeLimit : Nat
  maxDaBlockSize : Option U64
  desiredGasLimit : Option U64
  deriving DecidableEq, Repr

def minTransactionGas : U64 := 21000

def minTransactionDataSize : U64 := 115

def calculateBlockGasLimit (parentGasLimit desiredGasLimit : U64) : U64 :=
  let delta := saturatingSub (parentGasLimit / gasLimitBoundDivisor) 1
  let minGasLimit := parentGasLimit - delta
  let maxGasLimit := parentGasLimit + delta
  if desiredGasLimit < minGasLimit then minGasLimit
  else if maxGasLimit < desiredGasLimit then maxGasLimit
  else desiredGasLimit

def MorphBuilderConfig.nextHeaderGasLimit (config : MorphBuilderConfig) (parentGasLimit : U64) (attributesGasLimit : Option U64) : U64 :=
  match attributesGasLimit with
  | some explicit => explicit
  | none => match config.desiredGasLimit with
      | some desired => calculateBlockGasLimit parentGasLimit (if minimumGasLimit ≤ desired then desired else minimumGasLimit)
      | none => parentGasLimit

structure PayloadBuildingBreaker where
  timeLimit : Nat
  gasLimit : U64
  maxDaBlockSize : Option U64

def MorphBuilderConfig.breaker (config : MorphBuilderConfig) (blockGasLimit : U64) : PayloadBuildingBreaker :=
  ⟨config.timeLimit, config.gasLimit.getD blockGasLimit, config.maxDaBlockSize⟩

def PayloadBuildingBreaker.shouldBreak (breaker : PayloadBuildingBreaker) (elapsed : Nat) (gasPoolUsed cumulativeDaSizeUsed : U64) : Bool :=
  decide (breaker.timeLimit ≤ elapsed) || decide (gasPoolUsed > saturatingSub breaker.gasLimit minTransactionGas) ||
    match breaker.maxDaBlockSize with
    | some maxSize => decide (cumulativeDaSizeUsed > saturatingSub maxSize minTransactionDataSize)
    | none => false

structure ExecutionInfo where
  cumulativeGasUsed : U64
  gasPoolUsed : U64
  cumulativeDaBytesUsed : U64
  totalFees : U256
  nextL1MessageIndex : U64
  transactionCount : U64
  maxDaBlockSize : Option U64
  deriving DecidableEq, Repr

namespace ExecutionInfo

def new (nextL1MessageIndex : U64) (maxDaBlockSize : Option U64) : ExecutionInfo := ⟨0, 0, 0, 0, nextL1MessageIndex, 0, maxDaBlockSize⟩

-- A sum that overflows is over the limit.
def exceeds (used amount limit : U64) : Bool :=
  match checkedAdd used amount with
  | none => true
  | some total => decide (total > limit)

def isTxOverLimits (info : ExecutionInfo) (txGasLimit txSize blockGasLimit : U64) : Bool :=
  exceeds info.gasPoolUsed txGasLimit blockGasLimit ||
    match info.maxDaBlockSize with
    | some daLimit => exceeds info.cumulativeDaBytesUsed txSize daLimit
    | none => false

end ExecutionInfo

-- What both transaction loops work on.
structure Building (State Receipt : Type) where
  builder : BlockBuilder State Receipt
  info : ExecutionInfo
  executedTxs : List Bytes

structure SuppliedState (State Receipt : Type) extends Building State Receipt where
  sawL2Transaction : Bool

structure PoolState (State Receipt : Type) extends Building State Receipt where
  invalid : List Address

-- The envelope has no blob variant.
def isEip4844 (_ : MorphTxEnvelope) : Bool := false

def l2Fees (ethereum : EthereumTx) (tx : MorphTxEnvelope) (baseFee gasUsed : U64) : U256 :=
  ((ethereum.effectiveTipPerGasOf tx baseFee).getD 0).setWidth 256 * gasUsed.setWidth 256

def suppliedError : BlockExecutionError → PayloadBuilderError
  | .invalidTx message _ => .other (.invalidSuppliedTransaction message)
  | .validation message => .other (.invalidSuppliedTransaction message)
  | error => .evmExecutionError error

def queueIndexMismatch (expected actual : U64) : PayloadBuilderError :=
  .other (.invalidSuppliedTransaction
    ("invalid L1 message queue index: expected " ++ toString expected.toNat ++ ", got " ++ toString actual.toNat))

def recordKind (ethereum : EthereumTx) (info : ExecutionInfo) (tx : MorphTxEnvelope) (baseFee gasUsed : U64) :
    Except PayloadBuilderError ExecutionInfo :=
  if tx.isL1Msg then
    match tx.queueIndex with
    | none => .ok info
    | some queueIndex =>
        if queueIndex ≠ info.nextL1MessageIndex then .error (queueIndexMismatch info.nextL1MessageIndex queueIndex)
        else .ok { info with nextL1MessageIndex := queueIndex + 1 }
  else .ok { info with totalFees := info.totalFees + l2Fees ethereum tx baseFee gasUsed }

variable {State Receipt : Type} (config : MorphEvmConfig State Receipt) (env : EvmEnv)

-- The sequencer stops packing at a transaction that does not fit; a
-- deterministic build fails.
def suppliedStep (noTxPool : Bool) (state : SuppliedState State Receipt) (item : WithEncoded × Nat) :
    Except PayloadBuilderError (Flow (SuppliedState State Receipt)) := do
  let (supplied, txIndex) := item
  let recovered := supplied.value
  rejectIf (isEip4844 recovered.tx = true) (.other .blobTransactionRejected)
  rejectIf (recovered.tx.isL1Msg = true ∧ state.sawL2Transaction = true) (.other .l1MessageAfterRegularTx)
  let sawL2Transaction := if recovered.tx.isL1Msg then state.sawL2Transaction else true
  let txGas := config.ethereumTx.gasLimitOf recovered.tx
  if state.info.isTxOverLimits txGas 0 env.blockEnv.gasLimit then
    rejectIf (noTxPool = true) (.other (.blockGasLimitExceeded txIndex txGas state.info.gasPoolUsed env.blockEnv.gasLimit))
    .ok (.stop { state with sawL2Transaction := sawL2Transaction })
  else
    let (gasUsed, builder) ← (state.builder.executeTransaction config env recovered).mapError suppliedError
    let info ← recordKind config.ethereumTx state.info recovered.tx env.blockEnv.basefee gasUsed
    .ok (.next {
      builder := builder
      info := { info with
        cumulativeGasUsed := info.cumulativeGasUsed + gasUsed
        gasPoolUsed := info.gasPoolUsed + if recovered.tx.isL1Msg then txGas else gasUsed
        transactionCount := info.transactionCount + 1 }
      executedTxs := state.executedTxs ++ [supplied.encodedBytes]
      sawL2Transaction := sawL2Transaction })

def executeSuppliedTransactions (noTxPool : Bool) (transactions : List WithEncoded) (start : Building State Receipt) :
    Except PayloadBuilderError (Building State Receipt) := do
  let flow ← loopList (suppliedStep config env noTxPool) ⟨start, false⟩ transactions.zipIdx
  .ok flow.state.toBuilding

-- One transaction the pool yields, with what the loop observes when it gets it.
structure PoolOffer where
  recovered : Recovered
  cancelled : Bool
  elapsed : Nat

def encode2718Len (tx : MorphTxEnvelope) : U64 := BitVec.ofNat 64 tx.encode2718.length

def markInvalid (state : PoolState State Receipt) (signer : Address) : PoolState State Receipt :=
  { state with invalid := signer :: state.invalid }

-- The iterator passes over every later transaction of an invalid sender.
def poolStep (breaker : PayloadBuildingBreaker) (state : PoolState State Receipt) (offer : PoolOffer) :
    Except PayloadBuilderError (Flow (PoolState State Receipt)) :=
  let recovered := offer.recovered
  let tx := recovered.tx
  let txSize := encode2718Len tx
  if recovered.signer ∈ state.invalid then .ok (.next state)
  else if offer.cancelled then .ok (.stop state)
  else if breaker.shouldBreak offer.elapsed state.info.gasPoolUsed state.info.cumulativeDaBytesUsed then .ok (.stop state)
  else if isEip4844 tx || tx.isL1Msg then .ok (.next (markInvalid state recovered.signer))
  else if state.info.isTxOverLimits (config.ethereumTx.gasLimitOf tx) txSize env.blockEnv.gasLimit then
    .ok (.next (markInvalid state recovered.signer))
  else match state.builder.executeTransaction config env recovered with
    | .error (.invalidTx _ isNonceTooLow) => .ok (.next (if isNonceTooLow then state else markInvalid state recovered.signer))
    | .error (.validation _) => .ok (.next (markInvalid state recovered.signer))
    | .error error => .error (.evmExecutionError error)
    | .ok (gasUsed, builder) => .ok (.next {
        builder := builder
        info := { state.info with
          cumulativeGasUsed := state.info.cumulativeGasUsed + gasUsed
          gasPoolUsed := state.info.gasPoolUsed + gasUsed
          cumulativeDaBytesUsed := state.info.cumulativeDaBytesUsed + txSize
          transactionCount := state.info.transactionCount + 1
          totalFees := state.info.totalFees + l2Fees config.ethereumTx tx env.blockEnv.basefee gasUsed }
        executedTxs := state.executedTxs ++ [tx.encode2718]
        invalid := state.invalid })

def executePoolTransactions (breaker : PayloadBuildingBreaker) (offers : List PoolOffer) (start : Building State Receipt) :
    Except PayloadBuilderError (Flow (Building State Receipt)) := do
  let flow ← loopList (poolStep config env breaker) ⟨start, []⟩ offers
  .ok (flow.map PoolState.toBuilding)

-- The pool during one build, and the cancellation seen after its loop.
structure PoolRun where
  offers : List PoolOffer
  cancelledAfter : Bool

structure ExecutableL2Data where
  parentHash : B256
  miner : Address
  number : U64
  gasLimit : U64
  baseFeePerGas : Option U128
  timestamp : U64
  transactions : List Bytes
  stateRoot : B256
  gasUsed : U64
  receiptsRoot : B256
  logsBloom : Bytes
  withdrawTrieRoot : B256
  nextL1MessageIndex : U64
  hash : B256
  deriving DecidableEq, Repr

structure MorphBuiltPayload where
  block : SealedBlock
  fees : U256
  executableData : ExecutableL2Data
  deriving DecidableEq, Repr

inductive BuildOutcomeKind where
  | better (payload : MorphBuiltPayload)
  | aborted (fees : U256)
  | cancelled
  deriving DecidableEq, Repr

-- The database reads of a build outside the EVM, each of which may fail.
structure StateAccess (State : Type) where
  stateByBlockHash : B256 → Except String State
  loadL1GasPriceOracle : State → Except String Unit
  readWithdrawTrieRoot : State → Except String B256
  stateRoot : State → Except String B256

structure MorphPayloadBuilderCtx where
  parent : SealedHeader
  attributes : MorphPayloadBuilderAttributes
  bestPayload : Option MorphBuiltPayload
  builderConfig : MorphBuilderConfig

def MorphPayloadBuilderCtx.isBetterPayload (ctx : MorphPayloadBuilderCtx) (totalFees : U256) : Bool :=
  match ctx.bestPayload with
  | none => true
  | some best => decide (totalFees > best.fees)

def MorphPayloadBuilderCtx.nextBlockAttrs (ctx : MorphPayloadBuilderCtx) : MorphNextBlockEnvAttributes where
  timestamp := ctx.attributes.timestamp
  suggestedFeeRecipient := ctx.attributes.suggestedFeeRecipient
  prevRandao := ctx.attributes.prevRandao
  gasLimit := ctx.builderConfig.nextHeaderGasLimit ctx.parent.header.gasLimit ctx.attributes.gasLimit
  parentBeaconBlockRoot := ctx.attributes.parentBeaconBlockRoot
  extraData := []
  baseFeePerGas := ctx.attributes.baseFeePerGas

def executableData (block : SealedBlock) (executedTxs : List Bytes) (gasUsed : U64) (withdrawTrieRoot : B256)
    (nextL1MessageIndex : U64) : ExecutableL2Data where
  parentHash := block.header.parentHash
  miner := block.header.beneficiary
  number := block.header.number
  gasLimit := block.header.gasLimit
  baseFeePerGas := block.header.baseFeePerGas.map (BitVec.setWidth 128)
  timestamp := block.header.timestamp
  transactions := executedTxs
  stateRoot := block.header.stateRoot
  gasUsed := gasUsed
  receiptsRoot := block.header.receiptsRoot
  logsBloom := toFixedBytes block.header.logsBloom
  withdrawTrieRoot := withdrawTrieRoot
  nextL1MessageIndex := nextL1MessageIndex
  hash := block.hash

-- Everything after the transaction loops.
def finishPayload (access : StateAccess State) (ctx : MorphPayloadBuilderCtx) (built : Building State Receipt) :
    Except PayloadBuilderError BuildOutcomeKind := do
  if ctx.isBetterPayload built.info.totalFees = false then .ok (.aborted built.info.totalFees)
  else
    let executor := built.builder.executor
    let withdrawTrieRoot ← (access.readWithdrawTrieRoot executor.state).mapError (fun error => .other (.storage error))
    let stateRoot ← (access.stateRoot executor.state).mapError .internal
    let assembled := assembleBlock config env ctx.parent ctx.nextBlockAttrs.extraData built.builder stateRoot
    let block := { assembled with header := { assembled.header with nextL1MsgIndex := built.info.nextL1MessageIndex } }
    let sealed := block.seal config.hashHeader
    .ok (.better {
      block := sealed
      fees := built.info.totalFees
      executableData := executableData sealed built.executedTxs executor.gasUsed withdrawTrieRoot built.info.nextL1MessageIndex })

def startBuilding (ctx : MorphPayloadBuilderCtx) (db : State) : Building State Receipt :=
  ⟨BlockBuilder.start db, ExecutionInfo.new ctx.parent.header.nextL1MsgIndex ctx.builderConfig.maxDaBlockSize, []⟩

def buildPayloadInner (access : StateAccess State) (ctx : MorphPayloadBuilderCtx) (db : State) (pool : PoolRun) :
    Except PayloadBuilderError BuildOutcomeKind := do
  let env := nextEvmEnv config.chainSpec ctx.parent.header ctx.nextBlockAttrs
  (access.loadL1GasPriceOracle db).mapError .internal
  let breaker := ctx.builderConfig.breaker env.blockEnv.gasLimit
  let supplied ← executeSuppliedTransactions config env ctx.attributes.noTxPool ctx.attributes.transactions (startBuilding ctx db)
  if ctx.attributes.includeTxPool then
    match ← executePoolTransactions config env breaker pool.offers supplied with
    | .next built => finishPayload config env access ctx built
    | .stop built => if pool.cancelledAfter then .ok .cancelled else finishPayload config env access ctx built
  else finishPayload config env access ctx supplied

structure BuildArguments where
  parent : SealedHeader
  attributes : MorphPayloadAttributes
  bestPayload : Option MorphBuiltPayload

-- One builder: its configuration and the pool it meets during this build.
structure MorphPayloadBuilder where
  config : MorphBuilderConfig
  pool : PoolRun

def MorphPayloadBuilder.tryBuild (builder : MorphPayloadBuilder) (recovery : TxRecovery) (access : StateAccess State) (args : BuildArguments) :
    Except PayloadBuilderError BuildOutcomeKind := do
  let attributes ← (MorphPayloadBuilderAttributes.tryNew recovery args.attributes).mapError .rlp
  let ctx : MorphPayloadBuilderCtx := ⟨args.parent, attributes, args.bestPayload, builder.config⟩
  let db ← (access.stateByBlockHash args.parent.hash).mapError .internal
  buildPayloadInner config access ctx db builder.pool

end MorphReth.Payload
