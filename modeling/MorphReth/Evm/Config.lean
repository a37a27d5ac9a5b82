import MorphReth.Consensus.Block

set_option autoImplicit false

namespace MorphReth.Evm

open Rlp Transaction Consensus

def activeAtBlock (condition : ForkCondition) (number : U64) : Bool :=
  match condition with
  | .block activation => decide (activation ≤ number)
  | .timestamp _ => false
  | .never => false

def morphHardforkAt (spec : MorphChainSpec) (number timestamp : U64) : MorphHardfork :=
  if spec.isActiveAtTimestamp .celadon timestamp then .celadon
  else if spec.isActiveAtTimestamp .jade timestamp then .jade
  else if spec.isActiveAtTimestamp .emerald timestamp then .emerald
  else if spec.isActiveAtTimestamp .viridian timestamp then .viridian
  else if spec.isActiveAtTimestamp .morph203 timestamp then .morph203
  else if activeAtBlock (spec.morphForkActivation .curie) number then .curie
  else .bernoulli

-- The rest of the chain specification, as the EVM configuration reads it.
structure EvmChainSpec extends MorphChainSpec where
  chainId : U64
  feeVaultAddress : Option Address
  feeVault : isFeeVaultEnabled = feeVaultAddress.isSome
  isLondonActiveAtBlock : U64 → Bool

def morphBaseFee : U64 := 1000000

def EvmChainSpec.nextBlockBaseFee (_ : EvmChainSpec) (_parent : MorphHeader) (_targetTimestamp : U64) : Option U64 :=
  some morphBaseFee

-- The fields the configuration sets; the others keep revm's defaults.
structure CfgEnv where
  chainId : U64
  spec : MorphHardfork
  disableEip7623 : Bool
  txGasLimitCap : Option U64
  deriving DecidableEq, Repr

structure BlobExcessGasAndPrice where
  excessBlobGas : U64
  blobGasprice : U128
  deriving DecidableEq, Repr

structure BlockEnv where
  number : U256
  beneficiary : Address
  timestamp : U256
  difficulty : U256
  prevrandao : Option B256
  gasLimit : U64
  basefee : U64
  blobExcessGasAndPrice : Option BlobExcessGasAndPrice
  slotNum : U256
  deriving DecidableEq, Repr

structure EvmEnv where
  cfgEnv : CfgEnv
  blockEnv : BlockEnv
  deriving DecidableEq, Repr

def cfgEnv (spec : EvmChainSpec) (number timestamp gasLimit : U64) : CfgEnv where
  chainId := spec.chainId
  spec := morphHardforkAt spec.toMorphChainSpec number timestamp
  disableEip7623 := true
  txGasLimitCap := some gasLimit

def evmEnv (spec : EvmChainSpec) (header : MorphHeader) : EvmEnv where
  cfgEnv := cfgEnv spec header.number header.timestamp header.gasLimit
  blockEnv := {
    number := header.number.setWidth 256
    beneficiary := spec.feeVaultAddress.getD header.beneficiary
    timestamp := header.timestamp.setWidth 256
    difficulty := header.difficulty
    prevrandao := header.mixHash
    gasLimit := header.gasLimit
    basefee := header.baseFeePerGas.getD 0
    blobExcessGasAndPrice := some ⟨0, 1⟩
    slotNum := 0 }

structure NextBlockEnvAttributes where
  timestamp : U64
  suggestedFeeRecipient : Address
  prevRandao : B256
  gasLimit : U64
  parentBeaconBlockRoot : Option B256
  extraData : Bytes

structure MorphNextBlockEnvAttributes extends NextBlockEnvAttributes where
  baseFeePerGas : Option U64

-- The attributes' randomness is ignored: it is zero on Morph.
def nextEvmEnv (spec : EvmChainSpec) (parent : MorphHeader) (attributes : MorphNextBlockEnvAttributes) : EvmEnv where
  cfgEnv := cfgEnv spec (parent.number + 1) attributes.timestamp attributes.gasLimit
  blockEnv := {
    number := (parent.number + 1).setWidth 256
    beneficiary := spec.feeVaultAddress.getD attributes.suggestedFeeRecipient
    timestamp := attributes.timestamp.setWidth 256
    difficulty := 0
    prevrandao := some 0
    gasLimit := attributes.gasLimit
    basefee := attributes.baseFeePerGas.getD ((spec.nextBlockBaseFee parent attributes.timestamp).getD 0)
    blobExcessGasAndPrice := some ⟨0, 1⟩
    slotNum := 0 }

structure Recovered where
  tx : MorphTxEnvelope
  signer : Address
  deriving DecidableEq, Repr

-- What alloy reads from the bytes of a transaction of an Ethereum type.
structure EthereumTx where
  gasLimit : Bytes → U64
  effectiveTipPerGas : Bytes → U64 → Option U128

namespace EthereumTx

variable (ethereum : EthereumTx)

def gasLimitOf : MorphTxEnvelope → U64
  | .legacy encoded => ethereum.gasLimit encoded
  | .eip2930 encoded => ethereum.gasLimit encoded
  | .eip1559 encoded => ethereum.gasLimit encoded
  | .eip7702 encoded => ethereum.gasLimit encoded
  | .l1Msg tx => tx.gasLimit
  | .morph tx _ => tx.gasLimit

-- alloy's default for a fee cap and an optional priority fee.
def defaultEffectiveTip (maxFeePerGas : U128) (maxPriorityFeePerGas : Option U128) (baseFee : U64) : Option U128 :=
  let base : U128 := baseFee.setWidth 128
  if maxFeePerGas < base then none
  else
    let fee := maxFeePerGas - base
    match maxPriorityFeePerGas with
    | none => some fee
    | some priorityFee => some (if priorityFee ≤ fee then priorityFee else fee)

def effectiveTipPerGasOf (tx : MorphTxEnvelope) (baseFee : U64) : Option U128 :=
  match tx with
  | .legacy encoded => ethereum.effectiveTipPerGas encoded baseFee
  | .eip2930 encoded => ethereum.effectiveTipPerGas encoded baseFee
  | .eip1559 encoded => ethereum.effectiveTipPerGas encoded baseFee
  | .eip7702 encoded => ethereum.effectiveTipPerGas encoded baseFee
  | .l1Msg _ => defaultEffectiveTip 0 none baseFee
  | .morph tx _ => defaultEffectiveTip tx.maxFeePerGas (some tx.maxPriorityFeePerGas) baseFee

end EthereumTx

end MorphReth.Evm
