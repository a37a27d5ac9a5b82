import MorphReth.Checks
import MorphReth.Consensus.Block

set_option autoImplicit false

namespace MorphReth.Consensus

open Rlp Transaction

def morphMaximumBaseFee : U64 := 10000000000

def maxGasLimit : U64 := 0x7fffffffffffffff

def gasLimitBoundDivisor : U64 := 1024

def minimumGasLimit : U64 := 5000

def morphMaxTxPayloadBytesPerBlock : U64 := 720 * 1024

def validateHeader (consensus : MorphConsensus) (now : U64) (sealed : SealedHeader) : Except ConsensusError Unit := do
  let header := sealed.header
  rejectIf (header.extraData ≠ []) (.extraDataExceedsMax header.extraData.length)
  rejectIf (header.nonce ≠ some 0) .theMergeNonceIsNotZero
  rejectIf (header.ommersHash ≠ consensus.emptyOmmerRootHash) .theMergeOmmerRootIsNotEmpty
  rejectIf (header.difficulty ≠ 0) .theMergeDifficultyIsNotZero
  rejectIf (consensus.chainSpec.isFeeVaultEnabled ∧ header.beneficiary ≠ 0) (.other (.invalidCoinbase header.beneficiary))
  rejectIf (header.timestamp > now) (.timestampIsInFuture header.timestamp now)
  rejectIf (header.gasLimit > maxGasLimit) (.headerGasLimitExceedsMax header.gasLimit)
  rejectIf (header.gasUsed > header.gasLimit) (.headerGasUsedExceedsGasLimit header.gasUsed header.gasLimit)
  match header.baseFeePerGas with
  | none => .error .baseFeeMissing
  | some baseFee => rejectIf (baseFee > morphMaximumBaseFee) (.other (.baseFeeOverLimit baseFee))

def validateAgainstParentTimestamp (header parent : MorphHeader) (isEmerald : Bool) : Except ConsensusError Unit :=
  rejectIf (header.timestamp < parent.timestamp ∨ (header.timestamp = parent.timestamp ∧ isEmerald = false))
    (.timestampIsInPast parent.timestamp header.timestamp)

def absDiff (left right : U64) : U64 :=
  if left < right then right - left else left - right

def validateAgainstParentGasLimit (header parent : MorphHeader) : Except ConsensusError Unit := do
  rejectIf (parent.gasLimit / gasLimitBoundDivisor ≤ absDiff header.gasLimit parent.gasLimit)
    (if header.gasLimit > parent.gasLimit then .gasLimitInvalidIncrease parent.gasLimit header.gasLimit
      else .gasLimitInvalidDecrease parent.gasLimit header.gasLimit)
  rejectIf (header.gasLimit < minimumGasLimit) (.gasLimitInvalidMinimum header.gasLimit)

-- The header half of the L1 message rule: the index never decreases.
def validateHeaderAgainstParent (consensus : MorphConsensus) (header parent : SealedHeader) : Except ConsensusError Unit := do
  consensus.validateAgainstParentHashNumber header.header parent
  let isEmerald := consensus.chainSpec.isEmeraldActiveAtTimestamp header.header.timestamp
  validateAgainstParentTimestamp header.header parent.header isEmerald
  validateAgainstParentGasLimit header.header parent.header
  rejectIf (header.header.nextL1MsgIndex < parent.header.nextL1MsgIndex)
    (.other (.invalidNextL1MessageIndex parent.header.nextL1MsgIndex header.header.nextL1MsgIndex))

def l2TxPayloadBytes (consensus : MorphConsensus) (txs : List MorphTxEnvelope) : U64 :=
  ((txs.filter (!·.isL1Msg)).map (fun tx => BitVec.ofNat 64 (consensus.encode2718Len tx))).foldl saturatingAdd 0

def validateL2TxPayloadSize (consensus : MorphConsensus) (txs : List MorphTxEnvelope) : Except ConsensusError Unit :=
  let size := l2TxPayloadBytes consensus txs
  rejectIf (size > morphMaxTxPayloadBytesPerBlock) (.other (.invalidBlockPayloadSize size morphMaxTxPayloadBytesPerBlock))

def validateMorphTx (isEmerald isJade isCeladon : Bool) : MorphTxEnvelope → Except ConsensusError Unit
  | .morph tx _ => do
      rejectIf (isEmerald = false) (.other (.invalidBody "MorphTx type is not yet active (emerald fork not reached)"))
      rejectIf (isJade = false ∧ tx.version = morphTxVersion1)
        (.other (.invalidBody "MorphTx version 1 is not yet active (jade fork not reached)"))
      rejectIf (isCeladon = false ∧ tx.version = morphTxVersion2)
        (.other (.invalidBody "MorphTx version 2 is not yet active (celadon fork not reached)"))
      match tx.validate with
      | .error reason => .error (.other (.invalidBody reason))
      | .ok () => .ok ()
  | _ => .ok ()

def validateMorphTxs (isEmerald isJade isCeladon : Bool) : List MorphTxEnvelope → Except ConsensusError Unit
  | [] => .ok ()
  | tx :: txs => do
      validateMorphTx isEmerald isJade isCeladon tx
      validateMorphTxs isEmerald isJade isCeladon txs

-- The mutable variables of the scan over a block's transactions.
structure L1Scan where
  l1MsgCount : Nat
  sawL2Transaction : Bool
  prevQueueIndex : Option U64
  deriving DecidableEq, Repr

def L1Scan.start : L1Scan := ⟨0, false, none⟩

def checkQueueOrder (prev : Option U64) (queueIndex : U64) : Except ConsensusError Unit :=
  match prev with
  | none => .ok ()
  | some prev => match checkedAdd prev 1 with
      | none => .error (.other (.l1MessagesNotInOrder (maxWord 64) queueIndex))
      | some expected => rejectIf (queueIndex ≠ expected) (.other (.l1MessagesNotInOrder expected queueIndex))

def scanTx (scan : L1Scan) (tx : MorphTxEnvelope) : Except ConsensusError L1Scan :=
  if tx.isL1Msg then do
    rejectIf (scan.sawL2Transaction = true) (.other .invalidL1MessageOrder)
    match tx.queueIndex with
    | none => .error (.other .malformedL1Message)
    | some queueIndex =>
        checkQueueOrder scan.prevQueueIndex queueIndex
        .ok { scan with prevQueueIndex := some queueIndex, l1MsgCount := scan.l1MsgCount + 1 }
  else .ok { scan with sawL2Transaction := true }

def scanTxs (scan : L1Scan) : List MorphTxEnvelope → Except ConsensusError L1Scan
  | [] => .ok scan
  | tx :: txs => do
      let next ← scanTx scan tx
      scanTxs next txs

-- From Jade on the header index is exactly the last included index plus one;
-- before Jade it may be larger.
def checkHeaderIndex (headerNextL1MsgIndex : U64) (isJade : Bool) (scan : L1Scan) : Except ConsensusError Unit :=
  if 0 < scan.l1MsgCount then
    match scan.prevQueueIndex with
    | none => .error (.msg "internal error: l1_msg_count > 0 but prev_queue_index is None")
    | some last => match checkedAdd last 1 with
        | none => .error (.other (.invalidNextL1MessageIndex (maxWord 64) headerNextL1MsgIndex))
        | some expected =>
            let inconsistent := if isJade then headerNextL1MsgIndex ≠ expected else headerNextL1MsgIndex < expected
            if inconsistent then .error (.other (.invalidNextL1MessageIndex expected headerNextL1MsgIndex)) else .ok ()
  else .ok ()

def validateL1MessagesInBlock (txs : List MorphTxEnvelope) (headerNextL1MsgIndex : U64) (isJade : Bool) :
    Except ConsensusError Unit := do
  let scan ← scanTxs L1Scan.start txs
  checkHeaderIndex headerNextL1MsgIndex isJade scan

def ensureTransactionRootValid (consensus : MorphConsensus) (block : SealedBlock) : Except (B256 × B256) Unit :=
  let txRoot := consensus.calculateTransactionRoot block.transactions
  rejectIf (block.header.transactionsRoot ≠ txRoot) (txRoot, block.header.transactionsRoot)

def validateBlockPreExecution (consensus : MorphConsensus) (block : SealedBlock) : Except ConsensusError Unit := do
  rejectIf (0 < block.ommers.length) (.msg "uncles not allowed")
  rejectIf (block.header.ommersHash ≠ consensus.emptyOmmerRootHash)
    (.bodyOmmersHashDiff block.header.ommersHash consensus.emptyOmmerRootHash)
  (ensureTransactionRootValid consensus block).mapError (fun (got, expected) => .bodyTransactionRootDiff got expected)
  rejectIf (block.withdrawals.isSome = true) (.other .withdrawalsNonEmpty)
  validateL2TxPayloadSize consensus block.transactions
  let isEmerald := consensus.chainSpec.isEmeraldActiveAtTimestamp block.header.timestamp
  let isJade := consensus.chainSpec.isJadeActiveAtTimestamp block.header.timestamp
  let isCeladon := consensus.chainSpec.isCeladonActiveAtTimestamp block.header.timestamp
  validateMorphTxs isEmerald isJade isCeladon block.transactions
  validateL1MessagesInBlock block.transactions block.header.nextL1MsgIndex isJade

end MorphReth.Consensus
