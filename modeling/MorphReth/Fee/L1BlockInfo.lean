import MorphReth.Consensus.Block
import MorphReth.Fee.TokenFee

set_option autoImplicit false

namespace MorphReth.Fee

open Rlp Consensus

def zeroByteCost : U64 := 4

def nonZeroByteCost : U64 := 16

def txL1CommitExtraCost : U256 := 64

def txL1FeePrecision : U256 := 1000000000

def l1FeeCap : U256 := (maxWord 64).setWidth 256

def l1GasPriceOracleAddress : Address := 0x530000000000000000000000000000000000000F

def gpoL1BaseFeeSlot : U256 := 1

def gpoOverheadSlot : U256 := 2

def gpoScalarSlot : U256 := 3

def gpoL1BlobBaseFeeSlot : U256 := 6

def gpoCommitScalarSlot : U256 := 7

def gpoBlobScalarSlot : U256 := 8

structure L1BlockInfo where
  l1BaseFee : U256
  l1FeeOverhead : U256
  l1BaseFeeScalar : U256
  l1BlobBaseFee : U256
  l1CommitScalar : U256
  l1BlobScalar : U256
  calldataGas : U256
  deriving DecidableEq, Repr

namespace L1BlockInfo

-- The parameters before Curie leave the blob half zero.
def tryFetch (storage : Storage) (hardfork : MorphHardfork) : L1BlockInfo :=
  let l1BaseFee := storage l1GasPriceOracleAddress gpoL1BaseFeeSlot
  let l1FeeOverhead := storage l1GasPriceOracleAddress gpoOverheadSlot
  let l1BaseFeeScalar := storage l1GasPriceOracleAddress gpoScalarSlot
  if hardfork.isCurie = false then ⟨l1BaseFee, l1FeeOverhead, l1BaseFeeScalar, 0, 0, 0, 0⟩
  else
    let l1BlobBaseFee := storage l1GasPriceOracleAddress gpoL1BlobBaseFeeSlot
    let l1CommitScalar := storage l1GasPriceOracleAddress gpoCommitScalarSlot
    let l1BlobScalar := storage l1GasPriceOracleAddress gpoBlobScalarSlot
    let calldataGas := saturatingMul l1CommitScalar l1BaseFee
    ⟨l1BaseFee, l1FeeOverhead, l1BaseFeeScalar, l1BlobBaseFee, l1CommitScalar, l1BlobScalar, calldataGas⟩

def calldataCost (input : Bytes) : U64 :=
  input.foldl (fun cost byte => cost + if byte = 0 then zeroByteCost else nonZeroByteCost) 0

def dataGas (info : L1BlockInfo) (input : Bytes) (hardfork : MorphHardfork) : U256 :=
  if hardfork.isCurie = false then
    saturatingAdd (saturatingAdd ((calldataCost input).setWidth 256) info.l1FeeOverhead) txL1CommitExtraCost
  else saturatingMul (saturatingMul (BitVec.ofNat 256 input.length) info.l1BlobBaseFee) info.l1BlobScalar

def calculateTxL1CostPreCurie (info : L1BlockInfo) (input : Bytes) (hardfork : MorphHardfork) : U256 :=
  saturatingMul (saturatingMul (info.dataGas input hardfork) info.l1BaseFee) info.l1BaseFeeScalar / txL1FeePrecision

def calculateTxL1CostCurie (info : L1BlockInfo) (input : Bytes) (hardfork : MorphHardfork) : U256 :=
  saturatingAdd info.calldataGas (info.dataGas input hardfork) / txL1FeePrecision

def calculateTxL1Cost (info : L1BlockInfo) (input : Bytes) (hardfork : MorphHardfork) : U256 :=
  let fee :=
    if hardfork.isCurie = false then info.calculateTxL1CostPreCurie input hardfork
    else info.calculateTxL1CostCurie input hardfork
  if fee ≤ l1FeeCap then fee else l1FeeCap

end L1BlockInfo

-- The oracle's initial Curie parameters on mainnet, for 100 bytes.
example :
    L1BlockInfo.calculateTxL1Cost ⟨30000000000, 0, 0, 1, 230759955285, 417565260, 230759955285 * 30000000000⟩
      (List.replicate 100 0xff) .curie = 6922798658591 := by
  decide

end MorphReth.Fee
