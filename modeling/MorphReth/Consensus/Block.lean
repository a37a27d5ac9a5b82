import MorphReth.Transaction.Envelope

set_option autoImplicit false

namespace MorphReth.Consensus

open Rlp Transaction

inductive MorphHardfork where
  | bernoulli
  | curie
  | morph203
  | viridian
  | emerald
  | jade
  | celadon
  deriving DecidableEq, Repr

namespace MorphHardfork

def rank : MorphHardfork → Nat
  | bernoulli => 0
  | curie => 1
  | morph203 => 2
  | viridian => 3
  | emerald => 4
  | jade => 5
  | celadon => 6

def isCurie (fork : MorphHardfork) : Bool := decide (curie.rank ≤ fork.rank)

def isJade (fork : MorphHardfork) : Bool := decide (jade.rank ≤ fork.rank)

def isCeladon (fork : MorphHardfork) : Bool := decide (celadon.rank ≤ fork.rank)

end MorphHardfork

inductive ForkCondition where
  | block (number : U64)
  | timestamp (time : U64)
  | never
  deriving DecidableEq, Repr

def ForkCondition.activeAtTimestamp (condition : ForkCondition) (time : U64) : Bool :=
  match condition with
  | .timestamp activation => decide (activation ≤ time)
  | .block _ => false
  | .never => false

structure MorphChainSpec where
  morphForkActivation : MorphHardfork → ForkCondition
  isFeeVaultEnabled : Bool

namespace MorphChainSpec

def isActiveAtTimestamp (spec : MorphChainSpec) (fork : MorphHardfork) (time : U64) : Bool :=
  (spec.morphForkActivation fork).activeAtTimestamp time

def isEmeraldActiveAtTimestamp (spec : MorphChainSpec) (time : U64) : Bool :=
  spec.isActiveAtTimestamp .emerald time

def isJadeActiveAtTimestamp (spec : MorphChainSpec) (time : U64) : Bool :=
  spec.isActiveAtTimestamp .jade time

def isCeladonActiveAtTimestamp (spec : MorphChainSpec) (time : U64) : Bool :=
  spec.isActiveAtTimestamp .celadon time

end MorphChainSpec

abbrev Bloom := BitVec 2048

-- alloy's header, with the fields as its accessors return them.
structure Header where
  parentHash : B256
  ommersHash : B256
  beneficiary : Address
  stateRoot : B256
  transactionsRoot : B256
  receiptsRoot : B256
  withdrawalsRoot : Option B256
  logsBloom : Bloom
  difficulty : U256
  number : U64
  gasLimit : U64
  gasUsed : U64
  timestamp : U64
  extraData : Bytes
  mixHash : Option B256
  nonce : Option U64
  baseFeePerGas : Option U64
  blobGasUsed : Option U64
  excessBlobGas : Option U64
  parentBeaconBlockRoot : Option B256
  requestsHash : Option B256
  blockAccessListHash : Option B256
  slotNumber : Option U64
  deriving DecidableEq, Repr

-- Only the inner header is hashed: the L1 message index is not.
structure MorphHeader extends Header where
  nextL1MsgIndex : U64
  deriving DecidableEq, Repr

structure SealedHeader where
  header : MorphHeader
  hash : B256
  deriving DecidableEq, Repr

structure SealedBlock where
  header : MorphHeader
  hash : B256
  transactions : List MorphTxEnvelope
  ommers : List MorphHeader
  withdrawals : Option (List Bytes)
  deriving DecidableEq, Repr

def SealedBlock.sealedHeader (block : SealedBlock) : SealedHeader := ⟨block.header, block.hash⟩

inductive MorphConsensusError where
  | invalidL1MessageOrder
  | l1MessagesNotInOrder (expected actual : U64)
  | malformedL1Message
  | baseFeeOverLimit (baseFee : U64)
  | invalidNextL1MessageIndex (expected actual : U64)
  | invalidCoinbase (beneficiary : Address)
  | invalidBody (reason : String)
  | withdrawalsNonEmpty
  | invalidBlockPayloadSize (size limit : U64)
  deriving DecidableEq, Repr

inductive ConsensusError where
  | extraDataExceedsMax (length : Nat)
  | theMergeNonceIsNotZero
  | theMergeOmmerRootIsNotEmpty
  | theMergeDifficultyIsNotZero
  | timestampIsInFuture (timestamp presentTimestamp : U64)
  | headerGasLimitExceedsMax (gasLimit : U64)
  | headerGasUsedExceedsGasLimit (gasUsed gasLimit : U64)
  | baseFeeMissing
  | parentHashMismatch (got expected : B256)
  | parentBlockNumberMismatch (parentNumber number : U64)
  | timestampIsInPast (parentTimestamp timestamp : U64)
  | gasLimitInvalidIncrease (parentGasLimit childGasLimit : U64)
  | gasLimitInvalidDecrease (parentGasLimit childGasLimit : U64)
  | gasLimitInvalidMinimum (childGasLimit : U64)
  | bodyOmmersHashDiff (got expected : B256)
  | bodyTransactionRootDiff (got expected : B256)
  | msg (message : String)
  | other (error : MorphConsensusError)
  deriving DecidableEq, Repr

-- The chain specification, and what alloy and reth compute for the checks.
structure MorphConsensus where
  chainSpec : MorphChainSpec
  emptyOmmerRootHash : B256
  encode2718Len : MorphTxEnvelope → Nat
  validateAgainstParentHashNumber : MorphHeader → SealedHeader → Except ConsensusError Unit
  calculateTransactionRoot : List MorphTxEnvelope → B256

end MorphReth.Consensus
