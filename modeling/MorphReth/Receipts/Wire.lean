import MorphReth.Rlp.RoundTrips
import MorphReth.Consensus.Block
import MorphReth.Transaction.AlloyRlp

set_option autoImplicit false

namespace MorphReth.Receipts

open Rlp Transaction
open Consensus (Bloom)

inductive Eip658Value where
  | eip658 (status : Bool)
  | postState (root : B256)
  deriving DecidableEq, Repr

structure Log where
  address : Address
  topics : List B256
  data : Bytes
  deriving DecidableEq, Repr

structure Receipt where
  status : Eip658Value
  cumulativeGasUsed : U64
  logs : List Log
  deriving DecidableEq, Repr

structure MorphTransactionReceipt where
  inner : Receipt
  l1Fee : U256
  version : Option UInt8
  feeTokenId : Option U16
  feeRate : Option U256
  tokenScale : Option U256
  feeLimit : Option U256
  reference : Option B256
  memo : Option Bytes
  deriving DecidableEq, Repr

def MorphTransactionReceipt.new (inner : Receipt) : MorphTransactionReceipt where
  inner := inner
  l1Fee := 0
  version := none
  feeTokenId := none
  feeRate := none
  tokenScale := none
  feeLimit := none
  reference := none
  memo := none

inductive MorphReceipt where
  | legacy (receipt : MorphTransactionReceipt)
  | eip2930 (receipt : MorphTransactionReceipt)
  | eip1559 (receipt : MorphTransactionReceipt)
  | eip7702 (receipt : MorphTransactionReceipt)
  | l1Msg (receipt : Receipt)
  | morph (receipt : MorphTransactionReceipt)
  deriving DecidableEq, Repr

inductive MorphTxType where
  | legacy
  | eip2930
  | eip1559
  | eip7702
  | l1Msg
  | morph
  deriving DecidableEq, Repr

namespace MorphTxType

def toByte : MorphTxType → UInt8
  | legacy => 0
  | eip2930 => 1
  | eip1559 => 2
  | eip7702 => 4
  | l1Msg => 0x7E
  | morph => 0x7F

def tryFrom (byte : UInt8) : Option MorphTxType :=
  if byte = 0 then some legacy
  else if byte = 1 then some eip2930
  else if byte = 2 then some eip1559
  else if byte = 4 then some eip7702
  else if byte = 0x7E then some l1Msg
  else if byte = 0x7F then some morph
  else none

def isLegacy : MorphTxType → Bool
  | legacy => true
  | _ => false

def rlpDecode : Decoder MorphTxType := do
  let ty ← byteCodec.decode
  match tryFrom ty with
  | some txType => pure txType
  | none => throw (.custom "unknown tx type")

end MorphTxType

-- The field codecs of alloy's receipt.
structure ReceiptCodecs where
  status : Codec Eip658Value
  cumulativeGasUsed : Codec U64
  bloom : Codec Bloom
  logs : Codec (List Log)

structure ReceiptCodecs.Correct (alloy : ReceiptCodecs) : Prop where
  status : alloy.status.RoundTrips
  cumulativeGasUsed : alloy.cumulativeGasUsed.RoundTrips
  bloom : alloy.bloom.RoundTrips
  logs : alloy.logs.RoundTrips

namespace Receipt

def rlpEncodedFieldsLengthWithBloom (alloy : ReceiptCodecs) (receipt : Receipt) (bloom : Bloom) : Nat :=
  alloy.status.length receipt.status + alloy.cumulativeGasUsed.length receipt.cumulativeGasUsed + alloy.bloom.length bloom +
    alloy.logs.length receipt.logs

def rlpEncodeFieldsWithBloom (alloy : ReceiptCodecs) (receipt : Receipt) (bloom : Bloom) : Bytes :=
  alloy.status.encode receipt.status ++ (alloy.cumulativeGasUsed.encode receipt.cumulativeGasUsed ++ (alloy.bloom.encode bloom ++
    alloy.logs.encode receipt.logs))

def rlpDecodeFieldsWithBloom (alloy : ReceiptCodecs) : Decoder (Receipt × Bloom) := do
  let status ← alloy.status.decode
  let cumulativeGasUsed ← alloy.cumulativeGasUsed.decode
  let logsBloom ← alloy.bloom.decode
  let logs ← alloy.logs.decode
  pure (⟨status, cumulativeGasUsed, logs⟩, logsBloom)

def rlpDecodeWithBloom (alloy : ReceiptCodecs) : Decoder (Receipt × Bloom) :=
  decodeExactList (rlpDecodeFieldsWithBloom alloy)

def decodeFieldsWithoutBloom (alloy : ReceiptCodecs) : Decoder Receipt := do
  let status ← alloy.status.decode
  let cumulativeGasUsed ← alloy.cumulativeGasUsed.decode
  let logs ← alloy.logs.decode
  pure ⟨status, cumulativeGasUsed, logs⟩

end Receipt

namespace MorphTransactionReceipt

def rlpEncodedFieldsLengthWithBloom (alloy : ReceiptCodecs) (receipt : MorphTransactionReceipt) (bloom : Bloom) : Nat :=
  receipt.inner.rlpEncodedFieldsLengthWithBloom alloy bloom

def rlpEncodeFieldsWithBloom (alloy : ReceiptCodecs) (receipt : MorphTransactionReceipt) (bloom : Bloom) : Bytes :=
  receipt.inner.rlpEncodeFieldsWithBloom alloy bloom

end MorphTransactionReceipt

inductive Eip2718Error where
  | rlpError (error : RlpError)
  | unexpectedType (ty : UInt8)
  deriving DecidableEq, Repr

namespace MorphReceipt

def txType : MorphReceipt → MorphTxType
  | legacy _ => .legacy
  | eip2930 _ => .eip2930
  | eip1559 _ => .eip1559
  | eip7702 _ => .eip7702
  | l1Msg _ => .l1Msg
  | morph _ => .morph

def asReceipt : MorphReceipt → Receipt
  | legacy receipt | eip2930 receipt | eip1559 receipt | eip7702 receipt | morph receipt => receipt.inner
  | l1Msg receipt => receipt

def ofType (txType : MorphTxType) (inner : Receipt) : MorphReceipt :=
  match txType with
  | .legacy => legacy (.new inner)
  | .eip2930 => eip2930 (.new inner)
  | .eip1559 => eip1559 (.new inner)
  | .eip7702 => eip7702 (.new inner)
  | .l1Msg => l1Msg inner
  | .morph => morph (.new inner)

section Codec

variable (alloy : ReceiptCodecs)

def rlpEncodedFieldsLength (receipt : MorphReceipt) (bloom : Bloom) : Nat :=
  match receipt with
  | legacy r | eip2930 r | eip1559 r | eip7702 r | morph r => r.rlpEncodedFieldsLengthWithBloom alloy bloom
  | l1Msg r => r.rlpEncodedFieldsLengthWithBloom alloy bloom

def rlpEncodeFields (receipt : MorphReceipt) (bloom : Bloom) : Bytes :=
  match receipt with
  | legacy r | eip2930 r | eip1559 r | eip7702 r | morph r => r.rlpEncodeFieldsWithBloom alloy bloom
  | l1Msg r => r.rlpEncodeFieldsWithBloom alloy bloom

def rlpHeaderInner (receipt : MorphReceipt) (bloom : Bloom) : Header :=
  ⟨true, receipt.rlpEncodedFieldsLength alloy bloom⟩

def rlpEncodedFieldsLengthWithoutBloom (receipt : MorphReceipt) : Nat :=
  match receipt with
  | legacy r | eip2930 r | eip1559 r | eip7702 r | morph r =>
      alloy.status.length r.inner.status + alloy.cumulativeGasUsed.length r.inner.cumulativeGasUsed + alloy.logs.length r.inner.logs
  | l1Msg r => alloy.status.length r.status + alloy.cumulativeGasUsed.length r.cumulativeGasUsed + alloy.logs.length r.logs

def rlpEncodeFieldsWithoutBloom (receipt : MorphReceipt) : Bytes :=
  match receipt with
  | legacy r | eip2930 r | eip1559 r | eip7702 r | morph r =>
      alloy.status.encode r.inner.status ++ (alloy.cumulativeGasUsed.encode r.inner.cumulativeGasUsed ++ alloy.logs.encode r.inner.logs)
  | l1Msg r => alloy.status.encode r.status ++ (alloy.cumulativeGasUsed.encode r.cumulativeGasUsed ++ alloy.logs.encode r.logs)

def rlpHeaderInnerWithoutBloom (receipt : MorphReceipt) : Header :=
  ⟨true, receipt.rlpEncodedFieldsLengthWithoutBloom alloy⟩

def rlpDecodeInnerWithoutBloom (txType : MorphTxType) : Decoder MorphReceipt := do
  let inner ← decodeExactList (Receipt.decodeFieldsWithoutBloom alloy)
  pure (ofType txType inner)

def rlpDecodeInner (txType : MorphTxType) : Decoder (MorphReceipt × Bloom) := do
  let (inner, logsBloom) ← Receipt.rlpDecodeWithBloom alloy
  pure (ofType txType inner, logsBloom)

def lengthWithPayload (header : Header) : Nat := (Header.encode header).length + header.payloadLength

def typePrefixBytes (receipt : MorphReceipt) : Bytes :=
  if receipt.txType.isLegacy then [] else [receipt.txType.toByte]

def eip2718EncodedLengthWithBloom (receipt : MorphReceipt) (bloom : Bloom) : Nat :=
  (if receipt.txType.isLegacy then 0 else 1) + lengthWithPayload (receipt.rlpHeaderInner alloy bloom)

def eip2718EncodeWithBloom (receipt : MorphReceipt) (bloom : Bloom) : Bytes :=
  typePrefixBytes receipt ++ (Header.encode (receipt.rlpHeaderInner alloy bloom) ++ receipt.rlpEncodeFields alloy bloom)

def rlpEncodedLengthWithBloom (receipt : MorphReceipt) (bloom : Bloom) : Nat :=
  let length := receipt.eip2718EncodedLengthWithBloom alloy bloom
  if receipt.txType.isLegacy then length
  else length + (Header.encode ⟨false, receipt.eip2718EncodedLengthWithBloom alloy bloom⟩).length

def rlpEncodeWithBloom (receipt : MorphReceipt) (bloom : Bloom) : Bytes :=
  (if receipt.txType.isLegacy then [] else Header.encode ⟨false, receipt.eip2718EncodedLengthWithBloom alloy bloom⟩) ++
    receipt.eip2718EncodeWithBloom alloy bloom

-- The first header decides: a list is a legacy receipt and is read again from
-- its start, a string holds a type and a list and has to be used up.
def rlpDecodeWithBloom : Decoder (MorphReceipt × Bloom) := do
  let buf ← get
  let header ← (Header.decode : Decoder Header)
  if header.list then
    set buf
    rlpDecodeInner alloy .legacy
  else
    let remaining ← get
    let txType ← MorphTxType.rlpDecode
    let this ← rlpDecodeInner alloy txType
    let after ← get
    if after.length + header.payloadLength ≠ remaining.length then throw .unexpectedLength
    else pure this

def encode2718Len (receipt : MorphReceipt) : Nat :=
  (if receipt.txType.isLegacy then 0 else 1) + lengthWithPayload (receipt.rlpHeaderInnerWithoutBloom alloy)

def encode2718 (receipt : MorphReceipt) : Bytes :=
  typePrefixBytes receipt ++ (Header.encode (receipt.rlpHeaderInnerWithoutBloom alloy) ++ receipt.rlpEncodeFieldsWithoutBloom alloy)

def typedDecode (ty : UInt8) (buf : Bytes) : Except Eip2718Error (MorphReceipt × Bytes) :=
  match MorphTxType.tryFrom ty with
  | none => .error (.unexpectedType ty)
  | some txType => ((rlpDecodeInnerWithoutBloom alloy txType).run buf).mapError .rlpError

def fallbackDecode (buf : Bytes) : Except Eip2718Error (MorphReceipt × Bytes) :=
  ((rlpDecodeInnerWithoutBloom alloy .legacy).run buf).mapError .rlpError

-- The trait's decoders over these two: a first byte up to 0x7F is a type.
def decode2718 (buf : Bytes) : Except Eip2718Error (MorphReceipt × Bytes) :=
  match buf with
  | [] => .error (.rlpError .inputTooShort)
  | first :: rest => if first ≤ 0x7F then typedDecode alloy first rest else fallbackDecode alloy buf

def networkLen (receipt : MorphReceipt) : Nat :=
  let length := receipt.encode2718Len alloy
  if receipt.txType.isLegacy then length else length + (Header.encode ⟨false, length⟩).length

def networkEncode (receipt : MorphReceipt) : Bytes :=
  (if receipt.txType.isLegacy then [] else Header.encode ⟨false, receipt.encode2718Len alloy⟩) ++ receipt.encode2718 alloy

def networkDecode (buf : Bytes) : Except Eip2718Error (MorphReceipt × Bytes) :=
  match Header.decode buf with
  | .error error => .error (.rlpError error)
  | .ok (header, payload) =>
      if header.list then fallbackDecode alloy buf
      else if payload.length < header.payloadLength then .error (.rlpError .inputTooShort)
      else match payload with
        | [] => .error (.rlpError .inputTooShort)
        | ty :: body => match typedDecode alloy ty body with
            | .error error => .error error
            | .ok (receipt, after) =>
                if payload.length - after.length ≠ header.payloadLength ∧ 0x80 < ty then .error (.rlpError .unexpectedLength)
                else .ok (receipt, after)

end Codec

end MorphReceipt

-- The trie root over the consensus encodings, each with the bloom of its logs.
def calculateReceiptRootNoMemo (alloy : ReceiptCodecs) (bloomOf : List Log → Bloom) (orderedTrieRoot : List Bytes → B256)
    (receipts : List MorphReceipt) : B256 :=
  orderedTrieRoot (receipts.map (fun receipt => receipt.eip2718EncodeWithBloom alloy (bloomOf receipt.asReceipt.logs)))

end MorphReth.Receipts
