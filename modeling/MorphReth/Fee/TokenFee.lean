import MorphReth.Rlp.Items
import MorphReth.Words

set_option autoImplicit false

namespace MorphReth.Fee

open Rlp

abbrev Storage := Address → U256 → U256

inductive InvalidTransaction where
  | lackOfFundForMaxFee (fee balance : U256)
  | overflowPaymentInTransaction
  | nonceTooHigh (tx state : U64)
  | nonceTooLow (tx state : U64)
  | rejectCallerWithCode
  deriving DecidableEq, Repr

inductive MorphInvalidTransaction where
  | ethInvalidTransaction (error : InvalidTransaction)
  | tokenIdZeroNotSupported
  | tokenNotRegistered (tokenId : U16)
  | tokenNotActive (tokenId : U16)
  | invalidTokenConfig (tokenId : U16)
  | tokenBalanceQueryFailed
  | insufficientTokenBalance (required available : U256)
  | tokenTransferFailed (reason : String)
  deriving DecidableEq, Repr

structure TokenFeeInfo where
  tokenAddress : Address
  isActive : Bool
  decimals : UInt8
  priceRatio : U256
  scale : U256
  caller : Address
  balance : U256
  balanceSlot : Option U256
  deriving DecidableEq, Repr

structure TokenRegistryEntry where
  tokenAddress : Address
  isActive : Bool
  decimals : UInt8
  priceRatio : U256
  scale : U256
  balanceSlot : Option U256
  deriving DecidableEq, Repr

def l2TokenRegistryAddress : Address := 0x5300000000000000000000000000000000000021

def tokenRegistrySlot : U256 := 151

def priceRatioSlot : U256 := 153

-- The value of a mapping at slot base under a key is at keccak256(key ++ base).
def computeMappingSlot (keccak256 : Bytes → U256) (baseSlot : U256) (key : Bytes) : U256 :=
  keccak256 (key ++ toFixedBytes baseSlot)

def computeMappingSlotForAddress (keccak256 : Bytes → U256) (baseSlot : U256) (account : Address) : U256 :=
  computeMappingSlot keccak256 baseSlot (List.replicate 12 0 ++ toFixedBytes account)

def readMappingValue (keccak256 : Bytes → U256) (storage : Storage) (contract : Address) (baseSlot : U256) (key : Bytes) : U256 :=
  storage contract (computeMappingSlot keccak256 baseSlot key)

-- The registry packs an entry into four slots; an absent balance slot is zero
-- and a present one is stored plus one.
def readRegistryEntry (keccak256 : Bytes → U256) (storage : Storage) (tokenId : U16) : Option TokenRegistryEntry :=
  let tokenIdBytes := List.replicate 30 0 ++ toFixedBytes tokenId
  let base := computeMappingSlot keccak256 tokenRegistrySlot tokenIdBytes
  let tokenAddress : Address := (storage l2TokenRegistryAddress base).setWidth 160
  if tokenAddress = 0 then none
  else
    let balanceSlotRaw := storage l2TokenRegistryAddress (base + 1)
    let packed := storage l2TokenRegistryAddress (base + 2)
    some {
      tokenAddress := tokenAddress
      isActive := packed.extractLsb' 0 8 != 0
      decimals := UInt8.ofBitVec (packed.extractLsb' 8 8)
      priceRatio := readMappingValue keccak256 storage l2TokenRegistryAddress priceRatioSlot tokenIdBytes
      scale := storage l2TokenRegistryAddress (base + 3)
      balanceSlot := if balanceSlotRaw ≠ 0 then some (saturatingSub balanceSlotRaw 1) else none }

def TokenRegistryEntry.ensureUsable (entry : TokenRegistryEntry) (tokenId : U16) : Except MorphInvalidTransaction TokenRegistryEntry :=
  if entry.isActive = false then .error (.tokenNotActive tokenId)
  else if entry.priceRatio = 0 ∨ entry.scale = 0 then .error (.invalidTokenConfig tokenId)
  else .ok entry

def TokenRegistryEntry.intoFeeInfo (entry : TokenRegistryEntry) (caller : Address) (balance : U256) : TokenFeeInfo where
  tokenAddress := entry.tokenAddress
  isActive := entry.isActive
  decimals := entry.decimals
  priceRatio := entry.priceRatio
  scale := entry.scale
  caller := caller
  balance := balance
  balanceSlot := entry.balanceSlot

def readBalanceFromStorage (keccak256 : Bytes → U256) (storage : Storage) (token account : Address) (balanceSlot : U256) : U256 :=
  readMappingValue keccak256 storage token balanceSlot (List.replicate 12 0 ++ toFixedBytes account)

namespace TokenFeeInfo

def effectiveFeeLimit (info : TokenFeeInfo) (feeLimit : U256) : U256 :=
  if feeLimit = 0 then info.balance
  else if info.balance ≤ feeLimit then info.balance else feeLimit

-- The amount rounded up, and the numerator the rounding overcharged. A token
-- without price or scale asks for everything, so that no balance suffices.
def ethToTokenAmountWithCredit (info : TokenFeeInfo) (ethAmount : U256) : U256 × U256 :=
  if info.priceRatio = 0 ∨ info.scale = 0 then (maxWord 256, 0)
  else
    let numerator := saturatingMul ethAmount info.scale
    let tokenAmount := numerator / info.priceRatio
    let remainder := numerator % info.priceRatio
    if remainder = 0 then (tokenAmount, 0)
    else (saturatingAdd tokenAmount 1, info.priceRatio - remainder)

def ethToTokenAmount (info : TokenFeeInfo) (ethAmount : U256) : U256 :=
  (info.ethToTokenAmountWithCredit ethAmount).1

def ethToTokenAmountFloor (info : TokenFeeInfo) (ethAmount roundingCredit : U256) : U256 :=
  if info.priceRatio = 0 ∨ info.scale = 0 then 0
  else saturatingAdd (saturatingMul ethAmount info.scale) roundingCredit / info.priceRatio

end TokenFeeInfo

end MorphReth.Fee
