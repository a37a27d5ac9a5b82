import MorphReth.Engine.Api
import MorphReth.Engine.WithdrawRoot
import MorphReth.Payload.Builder

set_option autoImplicit false

namespace MorphReth.Engine

open Rlp Transaction Consensus Evm Payload

-- Include or exclude the pool.
inductive TxPoolPolicy where
  | includePool
  | excludePool
  deriving DecidableEq, Repr

def TxPoolPolicy.noTxPool : TxPoolPolicy → Bool
  | .includePool => false
  | .excludePool => true

structure AssembleL2BlockParams where
  number : U64
  transactions : List Bytes
  timestamp : Option U64

-- The node behind the engine API during one request: the clock, and the
-- attempts the payload service makes until the payload is resolved, each with
-- the pool as it is then. The pool only holds transactions with an encoding.
structure RealMorphL2EngineApi (State Receipt : Type) where
  provider : Provider
  config : MorphEvmConfig State Receipt
  recovery : TxRecovery
  access : StateAccess State
  now : U64
  attempts : List MorphPayloadBuilder
  held : ∀ builder ∈ attempts, ∀ offer ∈ builder.pool.offers, Encodable recovery.ethereum offer.recovered.tx

variable {State Receipt : Type} (api : RealMorphL2EngineApi State Receipt)

-- A later attempt replaces the payload when it is better.
def resolvePayload (parent : SealedHeader) (attributes : MorphPayloadAttributes) :
    Option MorphBuiltPayload → List MorphPayloadBuilder → Option MorphBuiltPayload
  | best, [] => best
  | best, builder :: rest => match builder.tryBuild api.config api.recovery api.access ⟨parent, attributes, best⟩ with
      | .ok (.better payload) => resolvePayload parent attributes (some payload) rest
      | _ => resolvePayload parent attributes best rest

def parentInfo (parentOverride : Option B256) : Except MorphEngineApiError CanonicalHead :=
  match parentOverride with
  | some parentHash => match api.provider.sealedHeaderByHash parentHash with
      | .error error => .error (.database error)
      | .ok none => .error (.internal ("parent block not found: " ++ toString parentHash))
      | .ok (some parent) => .ok ⟨parent.header.number, parentHash, parent.header.timestamp⟩
  | none => currentHead api.provider

def tryFromU128 (value : U128) : Option U64 :=
  if value.toNat < 2 ^ 64 then some (value.setWidth 64) else none

def tryBaseFee (fee : Option U128) (error : U128 → MorphEngineApiError) : Except MorphEngineApiError (Option U64) :=
  match fee with
  | none => .ok none
  | some fee => match tryFromU128 fee with
      | none => .error (error fee)
      | some value => .ok (some value)

def baseFeeOverrideError (fee : U128) : MorphEngineApiError :=
  .blockBuildError ("base fee override exceeds u64: " ++ toString fee.toNat)

def buildNewPayload (params : AssembleL2BlockParams) (gasLimitOverride : Option U64) (baseFeeOverride : Option U128)
    (parentOverride : Option B256) (txPoolPolicy : TxPoolPolicy) : Except MorphEngineApiError (B256 × MorphPayloadAttributes) := do
  let parent ← parentInfo api parentOverride
  rejectIf (params.number ≠ parent.number + 1) (.discontinuousBlockNumber (parent.number + 1) params.number)
  let timestamp := params.timestamp.getD (if api.now ≤ parent.timestamp + 1 then parent.timestamp + 1 else api.now)
  let baseFee ← tryBaseFee baseFeeOverride baseFeeOverrideError
  .ok (parent.hash, {
    timestamp := timestamp
    prevRandao := 0
    suggestedFeeRecipient := 0
    parentBeaconBlockRoot := none
    transactions := some params.transactions
    noTxPool := txPoolPolicy.noTxPool
    gasLimit := gasLimitOverride
    baseFeePerGas := baseFee })

-- The job of a request is on the header that the service finds for its parent.
def sendNewPayload (parentHash : B256) : Except MorphEngineApiError SealedHeader :=
  match api.provider.sealedHeaderByHash parentHash with
  | .error error => .error (.blockBuildError ("failed to receive build response: " ++ error))
  | .ok none => .error (.blockBuildError "failed to receive build response: missing parent header")
  | .ok (some parent) => .ok parent

def resolveKind (parent : SealedHeader) (attributes : MorphPayloadAttributes) : Except MorphEngineApiError MorphBuiltPayload :=
  match resolvePayload api parent attributes none api.attempts with
  | none => .error (.blockBuildError "failed to get built payload")
  | some payload => .ok payload

def buildL2Payload (params : AssembleL2BlockParams) (gasLimitOverride : Option U64) (baseFeeOverride : Option U128)
    (parentOverride : Option B256) (txPoolPolicy : TxPoolPolicy) : Except MorphEngineApiError MorphBuiltPayload := do
  let request ← buildNewPayload api params gasLimitOverride baseFeeOverride parentOverride txPoolPolicy
  let parent ← sendNewPayload api request.1
  resolveKind api parent request.2

def decodeTransactions (ethereum : EthereumDecoder) (index : Nat) : List Bytes → Except MorphEngineApiError (List MorphTxEnvelope)
  | [] => .ok []
  | txBytes :: rest => match decode2718 ethereum txBytes with
      | .error error => .error (.invalidTransaction index (reprStr error))
      | .ok (tx, buf) => do
          rejectIf (buf ≠ []) (.invalidTransaction index "trailing bytes after tx RLP decoding")
          let txs ← decodeTransactions ethereum (index + 1) rest
          .ok (tx :: txs)

def bloomFromSlice (slice : Bytes) : Bloom := BitVec.ofNat 2048 (ofDigits slice)

def bloomLengthError (data : ExecutableL2Data) : MorphEngineApiError :=
  .validationFailed ("logs_bloom must be 256 bytes, got " ++ toString data.logsBloom.length ++ " bytes in block " ++ toString data.hash)

-- With a fee vault the coinbase is empty, whatever the data says.
def headerAndBodyFromExecutableData (data : ExecutableL2Data) : Except MorphEngineApiError Block := do
  let baseFeePerGas ← tryBaseFee data.baseFeePerGas
    (fun _ => .validationFailed ("base_fee_per_gas exceeds u64 in block " ++ toString data.hash))
  rejectIf (data.logsBloom.length ≠ 256) (bloomLengthError data)
  let txs ← decodeTransactions api.recovery.ethereum 0 data.transactions
  .ok {
    header := {
      parentHash := data.parentHash
      ommersHash := api.config.emptyOmmerRootHash
      beneficiary := if api.config.chainSpec.isFeeVaultEnabled then 0 else data.miner
      stateRoot := data.stateRoot
      transactionsRoot := calculateTransactionRoot api.config txs
      receiptsRoot := data.receiptsRoot
      withdrawalsRoot := none
      logsBloom := bloomFromSlice data.logsBloom
      difficulty := 0
      number := data.number
      gasLimit := data.gasLimit
      gasUsed := data.gasUsed
      timestamp := data.timestamp
      extraData := []
      mixHash := some 0
      nonce := some 0
      baseFeePerGas := baseFeePerGas
      blobGasUsed := none
      excessBlobGas := none
      parentBeaconBlockRoot := none
      requestsHash := none
      blockAccessListHash := none
      slotNumber := none
      nextL1MsgIndex := data.nextL1MessageIndex }
    transactions := txs
    ommers := []
    withdrawals := none }

def hashMismatch (expected computed : B256) : MorphEngineApiError :=
  .validationFailed ("block hash mismatch: expected " ++ toString expected ++ ", computed " ++ toString computed)

def executionPayloadFromExecutableData (data : ExecutableL2Data) : Except MorphEngineApiError (MorphExecutionData × MorphHeader) := do
  let block ← headerAndBodyFromExecutableData api data
  let sealed := block.seal api.config.hashHeader
  rejectIf (sealed.hash ≠ data.hash) (hashMismatch data.hash sealed.hash)
  .ok (⟨sealed, some data.withdrawTrieRoot⟩, block.header)

end MorphReth.Engine
