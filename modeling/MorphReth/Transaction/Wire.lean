import MorphReth.Transaction.TxMorph

set_option autoImplicit false

namespace MorphReth.Transaction

open Rlp

-- What alloy-rlp, alloy-primitives and alloy-eips provide. The wire code never
-- looks inside these encodings.
structure Alloy where
  u8 : Codec UInt8
  u16 : Codec U16
  u64 : Codec U64
  u128 : Codec U128
  u256 : Codec U256
  bytes : Codec Bytes
  txKind : Codec TxKind
  accessList : Codec AccessList
  authorizationList : Codec (List SignedAuthorization)
  signature : Codec Signature
  headerEncode : Header → Bytes
  headerDecode : Decoder Header
  headerLength : Header → Nat

structure Alloy.Canonical (alloy : Alloy) : Prop where
  u8 : alloy.u8.Canonical
  u16 : alloy.u16.Canonical
  u64 : alloy.u64.Canonical
  u128 : alloy.u128.Canonical
  u256 : alloy.u256.Canonical
  bytes : alloy.bytes.Canonical
  txKind : alloy.txKind.Canonical
  accessList : alloy.accessList.Canonical
  authorizationList : alloy.authorizationList.Canonical
  signature : alloy.signature.Canonical
  zeroLength : alloy.u64.length 0 = alloy.bytes.length []
  headerLength : ∀ header, alloy.headerLength header = (alloy.headerEncode header).length
  headerFirst : ∀ length, ∃ first tail, alloy.headerEncode ⟨true, length⟩ = first :: tail ∧ 0xC0 ≤ first
  header : ∀ buf length rest, alloy.headerDecode.run buf = .ok (⟨true, length⟩, rest) ↔
    buf = alloy.headerEncode ⟨true, length⟩ ++ rest ∧ length ≤ rest.length

-- The eleven fields every layout starts with, in wire order.
structure CommonFields where
  chainId : U64
  nonce : U64
  maxPriorityFeePerGas : U128
  maxFeePerGas : U128
  gasLimit : U64
  kind : TxKind
  value : U256
  input : Bytes
  accessList : AccessList
  feeTokenId : U16
  feeLimit : U256

def TxMorph.common (tx : TxMorph) : CommonFields where
  chainId := tx.chainId
  nonce := tx.nonce
  maxPriorityFeePerGas := tx.maxPriorityFeePerGas
  maxFeePerGas := tx.maxFeePerGas
  gasLimit := tx.gasLimit
  kind := tx.kind
  value := tx.value
  input := tx.input
  accessList := tx.accessList
  feeTokenId := tx.feeTokenId
  feeLimit := tx.feeLimit

def CommonFields.withVersion (common : CommonFields) (version : UInt8) (reference : Option B256) (memo : Option Bytes)
    (authorizationList : List SignedAuthorization) : TxMorph where
  chainId := common.chainId
  nonce := common.nonce
  gasLimit := common.gasLimit
  maxFeePerGas := common.maxFeePerGas
  maxPriorityFeePerGas := common.maxPriorityFeePerGas
  kind := common.kind
  value := common.value
  accessList := common.accessList
  version := version
  feeTokenId := common.feeTokenId
  feeLimit := common.feeLimit
  reference := reference
  memo := memo
  authorizationList := authorizationList
  input := common.input

def Alloy.common (alloy : Alloy) : Codec CommonFields where
  encode fields :=
    alloy.u64.encode fields.chainId ++ (alloy.u64.encode fields.nonce ++ (alloy.u128.encode fields.maxPriorityFeePerGas ++
      (alloy.u128.encode fields.maxFeePerGas ++ (alloy.u64.encode fields.gasLimit ++ (alloy.txKind.encode fields.kind ++
      (alloy.u256.encode fields.value ++ (alloy.bytes.encode fields.input ++ (alloy.accessList.encode fields.accessList ++
      (alloy.u16.encode fields.feeTokenId ++ alloy.u256.encode fields.feeLimit)))))))))
  decode := do
    let chainId ← alloy.u64.decode
    let nonce ← alloy.u64.decode
    let maxPriorityFeePerGas ← alloy.u128.decode
    let maxFeePerGas ← alloy.u128.decode
    let gasLimit ← alloy.u64.decode
    let kind ← alloy.txKind.decode
    let value ← alloy.u256.decode
    let input ← alloy.bytes.decode
    let accessList ← alloy.accessList.decode
    let feeTokenId ← alloy.u16.decode
    let feeLimit ← alloy.u256.decode
    pure ⟨chainId, nonce, maxPriorityFeePerGas, maxFeePerGas, gasLimit, kind, value, input, accessList, feeTokenId, feeLimit⟩
  length fields :=
    alloy.u64.length fields.chainId + (alloy.u64.length fields.nonce + (alloy.u128.length fields.maxPriorityFeePerGas +
      (alloy.u128.length fields.maxFeePerGas + (alloy.u64.length fields.gasLimit + (alloy.txKind.length fields.kind +
      (alloy.u256.length fields.value + (alloy.bytes.length fields.input + (alloy.accessList.length fields.accessList +
      (alloy.u16.length fields.feeTokenId + alloy.u256.length fields.feeLimit)))))))))

def encodeReference (alloy : Alloy) : Option B256 → Bytes
  | some reference => alloy.bytes.encode (toFixedBytes reference)
  | none => alloy.bytes.encode []

def referenceLength (alloy : Alloy) : Option B256 → Nat
  | some reference => alloy.bytes.length (toFixedBytes reference)
  | none => alloy.u64.length 0 -- 0usize.length()

def encodeMemo (alloy : Alloy) : Option Bytes → Bytes
  | some memo => alloy.bytes.encode memo
  | none => alloy.bytes.encode []

def memoLength (alloy : Alloy) : Option Bytes → Nat
  | some memo => alloy.bytes.length memo
  | none => alloy.u64.length 0

def fieldsLen (alloy : Alloy) (tx : TxMorph) : Nat :=
  alloy.common.length tx.common
    + (if tx.isV0 then 0 else referenceLength alloy tx.reference + memoLength alloy tx.memo)
    + (if tx.isV2 then alloy.authorizationList.length tx.encodedAuthorizationList else 0)

def encodeFields (alloy : Alloy) (tx : TxMorph) : Bytes :=
  alloy.common.encode tx.common
    ++ (if tx.isV0 then [] else encodeReference alloy tx.reference ++ encodeMemo alloy tx.memo)
    ++ (if tx.isV2 then alloy.authorizationList.encode tx.encodedAuthorizationList else [])

def rlpHeaderSigned (alloy : Alloy) (tx : TxMorph) (signature : Signature) : Header :=
  ⟨true, fieldsLen alloy tx + alloy.signature.length signature⟩

def rlpEncodeSigned (alloy : Alloy) (tx : TxMorph) (signature : Signature) : Bytes :=
  (if tx.isV0 then [] else [tx.version])
    ++ (alloy.headerEncode (rlpHeaderSigned alloy tx signature) ++ (encodeFields alloy tx ++ alloy.signature.encode signature))

def rlpEncodedLengthWithSignature (alloy : Alloy) (tx : TxMorph) (signature : Signature) : Nat :=
  let header := rlpHeaderSigned alloy tx signature
  let base := alloy.headerLength header + header.payloadLength
  if tx.isV0 then base else base + 1

-- The version, and whether a version byte has to be skipped. A zero byte is
-- routed to the version 0 layout without being skipped.
def wireVersion (firstByte : UInt8) : Except RlpError (UInt8 × Bool) :=
  if firstByte = morphTxVersion0 ∨ 0xC0 ≤ firstByte then .ok (morphTxVersion0, false)
  else if firstByte = morphTxVersion1 ∨ firstByte = morphTxVersion2 then .ok (firstByte, true)
  else .error (.custom "unsupported morph tx version")

def readWireVersion : Decoder UInt8 := do
  match ← get with
  | [] => throw .inputTooShort
  | firstByte :: tail => match wireVersion firstByte with
      | .error error => throw error
      | .ok (version, true) =>
          set tail
          pure version
      | .ok (version, false) => pure version

def decodeReference (alloy : Alloy) : Decoder (Option B256) := do
  let referenceBytes ← alloy.bytes.decode
  if referenceBytes.isEmpty then pure none
  else if referenceBytes.length = 32 then pure (some (BitVec.ofNat 256 (ofDigits referenceBytes)))
  else throw (.custom "invalid reference length")

def decodeMemo (alloy : Alloy) : Decoder (Option Bytes) := do
  let memoBytes ← alloy.bytes.decode
  if memoBytes.isEmpty then pure none
  else if memoBytes.length > maxMemoLength then throw (.custom "memo exceeds maximum length")
  else pure (some memoBytes)

def decodeAuthorizationList (alloy : Alloy) (version : UInt8) : Decoder (List SignedAuthorization) :=
  if version = morphTxVersion2 then alloy.authorizationList.decode else pure []

def decodeFieldsVersionedInner (alloy : Alloy) (version : UInt8) : Decoder TxMorph := do
  let common ← alloy.common.decode
  let reference ← decodeReference alloy
  let memo ← decodeMemo alloy
  let authorizationList ← decodeAuthorizationList alloy version
  pure (common.withVersion version reference memo authorizationList)

def decodeFieldsV0Inner (alloy : Alloy) : Decoder TxMorph := do
  let common ← alloy.common.decode
  if common.feeTokenId = 0 then throw (.custom "invalid fee token id, expected non-zero for V0")
  else pure (common.withVersion morphTxVersion0 none none [])

def decodeInner (alloy : Alloy) (version : UInt8) : Decoder TxMorph :=
  if version = morphTxVersion0 then decodeFieldsV0Inner alloy
  else if version = morphTxVersion1 then decodeFieldsVersionedInner alloy morphTxVersion1
  else decodeFieldsVersionedInner alloy morphTxVersion2

def rlpDecodeWithSignature (alloy : Alloy) : Decoder (TxMorph × Signature) := do
  let version ← readWireVersion
  let header ← alloy.headerDecode
  if header.list = false then throw .unexpectedString
  else
    let remaining ← get
    let tx ← decodeInner alloy version
    let signature ← alloy.signature.decode
    let buf ← get
    if buf.length + header.payloadLength ≠ remaining.length then
      throw (.listLengthMismatch header.payloadLength (remaining.length - buf.length))
    else pure (tx, signature)

end MorphReth.Transaction
