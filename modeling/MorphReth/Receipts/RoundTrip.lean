import MorphReth.Receipts.Wire

set_option autoImplicit false

namespace MorphReth.Receipts

open Rlp Transaction
open Consensus (Bloom)

section Types

variable (txType : MorphTxType)

theorem of_type_tx_type (inner : Receipt) : (MorphReceipt.ofType txType inner).txType = txType := by
  cases txType <;> rfl

theorem of_type_as_receipt (inner : Receipt) : (MorphReceipt.ofType txType inner).asReceipt = inner := by
  cases txType <;> rfl

theorem try_from_byte : MorphTxType.tryFrom txType.toByte = some txType := by
  cases txType <;> rfl

theorem type_byte_small : txType.toByte ≤ 0x7F := by
  cases txType <;> decide

-- A type byte is its own encoding, except for the legacy type, which is never
-- written.
theorem type_byte_encode (typed : txType.isLegacy = false) : byteCodec.encode txType.toByte = [txType.toByte] := by
  cases txType with
  | legacy => cases typed
  | eip2930 => decide +kernel
  | eip1559 => decide +kernel
  | eip7702 => decide +kernel
  | l1Msg => decide +kernel
  | morph => decide +kernel

theorem tx_type_decode (typed : txType.isLegacy = false) (rest : Bytes) :
    MorphTxType.rlpDecode.run (txType.toByte :: rest) = .ok (txType, rest) := by
  have read := byte_codec_canonical.decode_encode txType.toByte rest
  rw [type_byte_encode txType typed, List.singleton_append] at read
  rw [MorphTxType.rlpDecode, Decoder.run_bind_of_ok _ _ _ _ _ read, try_from_byte]
  rfl

theorem header_read {β : Type} (next : Header → Decoder β) (buf rest : Bytes) (header : Header)
    (read : Header.decode buf = .ok (header, rest)) : ((Header.decode : Decoder Header) >>= next).run buf = (next header).run rest :=
  Decoder.run_bind_of_ok (Header.decode : Decoder Header) next buf rest header read

end Types

namespace MorphReceipt

section Fields

variable (alloy : ReceiptCodecs) (receipt : MorphReceipt) (bloom : Bloom)

-- Every format reads the type and the inner receipt, nothing else.
theorem encode_fields_inner : receipt.rlpEncodeFields alloy bloom = receipt.asReceipt.rlpEncodeFieldsWithBloom alloy bloom := by
  cases receipt <;> rfl

theorem fields_length_inner :
    receipt.rlpEncodedFieldsLength alloy bloom = receipt.asReceipt.rlpEncodedFieldsLengthWithBloom alloy bloom := by
  cases receipt <;> rfl

theorem encode_without_bloom_inner : receipt.rlpEncodeFieldsWithoutBloom alloy =
    alloy.status.encode receipt.asReceipt.status ++ (alloy.cumulativeGasUsed.encode receipt.asReceipt.cumulativeGasUsed ++
      alloy.logs.encode receipt.asReceipt.logs) := by
  cases receipt <;> rfl

theorem length_without_bloom_inner : receipt.rlpEncodedFieldsLengthWithoutBloom alloy =
    alloy.status.length receipt.asReceipt.status + alloy.cumulativeGasUsed.length receipt.asReceipt.cumulativeGasUsed +
      alloy.logs.length receipt.asReceipt.logs := by
  cases receipt <;> rfl

variable (law : alloy.Correct)
include law

theorem fields_length_encode : receipt.rlpEncodedFieldsLength alloy bloom = (receipt.rlpEncodeFields alloy bloom).length := by
  rw [fields_length_inner, encode_fields_inner, Receipt.rlpEncodedFieldsLengthWithBloom, Receipt.rlpEncodeFieldsWithBloom]
  simp only [List.length_append, law.status.length_encode, law.cumulativeGasUsed.length_encode, law.bloom.length_encode,
    law.logs.length_encode, Nat.add_assoc]

theorem length_without_bloom_encode :
    receipt.rlpEncodedFieldsLengthWithoutBloom alloy = (receipt.rlpEncodeFieldsWithoutBloom alloy).length := by
  rw [length_without_bloom_inner, encode_without_bloom_inner]
  simp only [List.length_append, law.status.length_encode, law.cumulativeGasUsed.length_encode, law.logs.length_encode, Nat.add_assoc]

theorem fields_decode (rest : Bytes) :
    (Receipt.rlpDecodeFieldsWithBloom alloy).run (receipt.rlpEncodeFields alloy bloom ++ rest) = .ok ((receipt.asReceipt, bloom), rest) := by
  rw [encode_fields_inner, Receipt.rlpEncodeFieldsWithBloom, Receipt.rlpDecodeFieldsWithBloom, List.append_assoc, List.append_assoc,
    List.append_assoc, law.status.bind_encode, law.cumulativeGasUsed.bind_encode, law.bloom.bind_encode, law.logs.bind_encode]
  rfl

theorem fields_without_bloom_decode (rest : Bytes) :
    (Receipt.decodeFieldsWithoutBloom alloy).run (receipt.rlpEncodeFieldsWithoutBloom alloy ++ rest) = .ok (receipt.asReceipt, rest) := by
  rw [encode_without_bloom_inner, Receipt.decodeFieldsWithoutBloom, List.append_assoc, List.append_assoc, law.status.bind_encode,
    law.cumulativeGasUsed.bind_encode, law.logs.bind_encode]
  rfl

theorem inner_decode (txType : MorphTxType) (rest : Bytes) :
    (rlpDecodeInner alloy txType).run (Header.encode (receipt.rlpHeaderInner alloy bloom) ++ (receipt.rlpEncodeFields alloy bloom ++ rest)) =
      .ok ((ofType txType receipt.asReceipt, bloom), rest) := by
  have read := decode_exact_list _ _ rest _ (fields_decode alloy receipt bloom law rest)
  rw [← fields_length_encode alloy receipt bloom law] at read
  rw [rlpDecodeInner, Receipt.rlpDecodeWithBloom, rlpHeaderInner, Decoder.run_bind_of_ok _ _ _ _ _ read]
  rfl

theorem inner_without_bloom_decode (txType : MorphTxType) (rest : Bytes) :
    (rlpDecodeInnerWithoutBloom alloy txType).run
        (Header.encode (receipt.rlpHeaderInnerWithoutBloom alloy) ++ (receipt.rlpEncodeFieldsWithoutBloom alloy ++ rest)) =
      .ok (ofType txType receipt.asReceipt, rest) := by
  have read := decode_exact_list _ _ rest _ (fields_without_bloom_decode alloy receipt law rest)
  rw [← length_without_bloom_encode alloy receipt law] at read
  rw [rlpDecodeInnerWithoutBloom, rlpHeaderInnerWithoutBloom, Decoder.run_bind_of_ok _ _ _ _ _ read]
  rfl

end Fields

section Layers

variable (alloy : ReceiptCodecs) (receipt : MorphReceipt) (bloom : Bloom)

theorem legacy_prefix (legacy : receipt.txType.isLegacy = true) : typePrefixBytes receipt = [] := by
  rw [typePrefixBytes, if_pos legacy]

theorem typed_prefix (typed : receipt.txType.isLegacy = false) : typePrefixBytes receipt = [receipt.txType.toByte] := by
  rw [typePrefixBytes, typed, if_neg Bool.false_ne_true]

theorem legacy_type (txType : MorphTxType) (legacy : txType.isLegacy = true) : txType = .legacy := by
  cases txType with
  | legacy => rfl
  | eip2930 | eip1559 | eip7702 | l1Msg | morph => cases legacy

-- A string header in front of a type byte and a list is no single byte.
theorem string_header (length : Nat) (payload rest : Bytes) (announced : length = payload.length) (long : 2 ≤ length) :
    Header.decode (Header.encode ⟨false, length⟩ ++ (payload ++ rest)) = .ok (⟨false, length⟩, payload ++ rest) := by
  apply header_decode_encode
  · rw [announced, List.length_append]
    exact Nat.le_add_right _ _
  · intro _ one
    omega

theorem list_header (length : Nat) (payload rest : Bytes) (announced : length = payload.length) :
    Header.decode (Header.encode ⟨true, length⟩ ++ (payload ++ rest)) = .ok (⟨true, length⟩, payload ++ rest) := by
  rw [header_list_ok, announced, List.length_append]
  exact ⟨rfl, Nat.le_add_right _ _⟩

theorem typed_long (byte : UInt8) (header : Header) (fields : Bytes) : 2 ≤ (byte :: (Header.encode header ++ fields)).length := by
  simp only [Header.encode, List.cons_append, List.length_cons]
  omega

-- The type byte and the list, and the string around them, with or without the
-- bloom.
theorem list_announced (length : Nat) (fields : Bytes) (announced : length = fields.length) :
    (if receipt.txType.isLegacy then 0 else 1) + lengthWithPayload ⟨true, length⟩ =
      (typePrefixBytes receipt ++ (Header.encode ⟨true, length⟩ ++ fields)).length := by
  have typeLength : (typePrefixBytes receipt).length = if receipt.txType.isLegacy then 0 else 1 := by
    rw [typePrefixBytes]
    split <;> rfl
  rw [List.length_append, List.length_append, typeLength, lengthWithPayload, ← announced]

theorem string_announced (length : Nat) (bytes : Bytes) (announced : length = bytes.length) :
    (if receipt.txType.isLegacy then length else length + (Header.encode ⟨false, length⟩).length) =
      ((if receipt.txType.isLegacy then [] else Header.encode ⟨false, length⟩) ++ bytes).length := by
  rw [List.length_append, ← announced]
  split
  · exact (Nat.zero_add _).symm
  · exact Nat.add_comm _ _

variable (law : alloy.Correct)
include law

theorem eip2718_with_bloom_length :
    receipt.eip2718EncodedLengthWithBloom alloy bloom = (receipt.eip2718EncodeWithBloom alloy bloom).length :=
  list_announced receipt _ _ (fields_length_encode alloy receipt bloom law)

theorem encode_2718_length : receipt.encode2718Len alloy = (receipt.encode2718 alloy).length :=
  list_announced receipt _ _ (length_without_bloom_encode alloy receipt law)

theorem rlp_with_bloom_length : receipt.rlpEncodedLengthWithBloom alloy bloom = (receipt.rlpEncodeWithBloom alloy bloom).length :=
  string_announced receipt _ _ (eip2718_with_bloom_length alloy receipt bloom law)

theorem network_length : receipt.networkLen alloy = (receipt.networkEncode alloy).length :=
  string_announced receipt _ _ (encode_2718_length alloy receipt law)

theorem decode_with_bloom (rest : Bytes) :
    (rlpDecodeWithBloom alloy).run (receipt.rlpEncodeWithBloom alloy bloom ++ rest) =
      .ok ((ofType receipt.txType receipt.asReceipt, bloom), rest) := by
  have announced := eip2718_with_bloom_length alloy receipt bloom law
  rw [rlpDecodeWithBloom, Decoder.run_bind_of_ok _ _ _ _ _ (Decoder.get_run _), rlpEncodeWithBloom]
  cases legacy : receipt.txType.isLegacy with
  | true =>
      have header := list_header _ _ rest (fields_length_encode alloy receipt bloom law)
      rw [if_pos rfl, List.nil_append, eip2718EncodeWithBloom, legacy_prefix receipt legacy, List.nil_append, List.append_assoc, rlpHeaderInner,
        header_read _ _ _ _ header, legacy_type _ legacy]
      exact inner_decode alloy receipt bloom law .legacy rest
  | false =>
      have shape : receipt.eip2718EncodeWithBloom alloy bloom =
          receipt.txType.toByte :: (Header.encode (receipt.rlpHeaderInner alloy bloom) ++ receipt.rlpEncodeFields alloy bloom) := by
        rw [eip2718EncodeWithBloom, typed_prefix receipt legacy, List.singleton_append]
      have long : 2 ≤ receipt.eip2718EncodedLengthWithBloom alloy bloom := by
        rw [announced, shape]
        exact typed_long _ _ _
      have inner := inner_decode alloy receipt bloom law receipt.txType rest
      rw [if_neg Bool.false_ne_true, List.append_assoc, header_read _ _ _ _ (string_header _ _ rest announced long), if_neg Bool.false_ne_true,
        Decoder.run_bind_of_ok _ _ _ _ _ (Decoder.get_run _), shape, List.cons_append,
        Decoder.run_bind_of_ok _ _ _ _ _ (tx_type_decode receipt.txType legacy _), List.append_assoc,
        Decoder.run_bind_of_ok _ _ _ _ _ inner, Decoder.run_bind_of_ok _ _ _ _ _ (Decoder.get_run _), if_neg]
      · rfl
      -- The check that the string was used up.
      · rw [not_not, announced, shape]
        simp only [List.length_cons, List.length_append]
        omega

theorem typed_decode (rest : Bytes) :
    typedDecode alloy receipt.txType.toByte
        (Header.encode (receipt.rlpHeaderInnerWithoutBloom alloy) ++ (receipt.rlpEncodeFieldsWithoutBloom alloy ++ rest)) =
      .ok (ofType receipt.txType receipt.asReceipt, rest) := by
  rw [typedDecode, try_from_byte]
  simp only [inner_without_bloom_decode alloy receipt law]
  rfl

theorem fallback_decode (legacy : receipt.txType.isLegacy = true) (rest : Bytes) :
    fallbackDecode alloy (Header.encode (receipt.rlpHeaderInnerWithoutBloom alloy) ++ (receipt.rlpEncodeFieldsWithoutBloom alloy ++ rest)) =
      .ok (ofType receipt.txType receipt.asReceipt, rest) := by
  rw [fallbackDecode, inner_without_bloom_decode alloy receipt law, legacy_type _ legacy]
  rfl

theorem decode_encode_2718 (rest : Bytes) :
    decode2718 alloy (receipt.encode2718 alloy ++ rest) = .ok (ofType receipt.txType receipt.asReceipt, rest) := by
  cases legacy : receipt.txType.isLegacy with
  | true =>
      -- A list header starts above every type byte.
      obtain ⟨first, tail, shape, large⟩ := alloy_rlp_canonical.headerFirst (receipt.rlpEncodedFieldsLengthWithoutBloom alloy)
      have shape : Header.encode (receipt.rlpHeaderInnerWithoutBloom alloy) = first :: tail := shape
      have decoded := fallback_decode alloy receipt law legacy rest
      have notType : ¬first ≤ 0x7F := by
        intro small
        exact absurd (UInt8.le_trans large small) (by decide)
      rw [encode2718, legacy_prefix receipt legacy, List.nil_append, List.append_assoc]
      rw [shape, List.cons_append] at decoded ⊢
      rw [decode2718, if_neg notType]
      exact decoded
  | false =>
      rw [encode2718, typed_prefix receipt legacy, List.singleton_append, List.cons_append, List.append_assoc, decode2718,
        if_pos (type_byte_small _)]
      exact typed_decode alloy receipt law rest

theorem network_decode_encode (rest : Bytes) :
    networkDecode alloy (receipt.networkEncode alloy ++ rest) = .ok (ofType receipt.txType receipt.asReceipt, rest) := by
  have announced := encode_2718_length alloy receipt law
  rw [networkEncode]
  cases legacy : receipt.txType.isLegacy with
  | true =>
      have header := list_header _ _ rest (length_without_bloom_encode alloy receipt law)
      rw [if_pos rfl, List.nil_append, encode2718, legacy_prefix receipt legacy, List.nil_append, List.append_assoc, networkDecode,
        rlpHeaderInnerWithoutBloom, header]
      exact fallback_decode alloy receipt law legacy rest
  | false =>
      have shape : receipt.encode2718 alloy = receipt.txType.toByte ::
          (Header.encode (receipt.rlpHeaderInnerWithoutBloom alloy) ++ receipt.rlpEncodeFieldsWithoutBloom alloy) := by
        rw [encode2718, typed_prefix receipt legacy, List.singleton_append]
      have long : 2 ≤ receipt.encode2718Len alloy := by
        rw [announced, shape]
        exact typed_long _ _ _
      have enough : ¬(receipt.encode2718 alloy ++ rest).length < receipt.encode2718Len alloy := by
        rw [announced, List.length_append, not_lt]
        exact Nat.le_add_right _ _
      have used : (receipt.encode2718 alloy ++ rest).length - rest.length = receipt.encode2718Len alloy := by
        rw [announced, List.length_append, Nat.add_sub_cancel]
      rw [if_neg Bool.false_ne_true, List.append_assoc, networkDecode, string_header _ _ rest announced long]
      simp only [Bool.false_eq_true, if_false]
      rw [if_neg enough]
      rw [shape, List.cons_append, List.append_assoc] at used ⊢
      simp only [typed_decode alloy receipt law rest]
      rw [if_neg (fun mismatch => mismatch.1 used)]

end Layers

section FeeData

variable (alloy : ReceiptCodecs) (first second : MorphReceipt) (bloom : Bloom)
variable (sameType : first.txType = second.txType) (sameInner : first.asReceipt = second.asReceipt)
include sameType sameInner

theorem eip2718_with_bloom_inner : first.eip2718EncodeWithBloom alloy bloom = second.eip2718EncodeWithBloom alloy bloom := by
  simp only [eip2718EncodeWithBloom, typePrefixBytes, rlpHeaderInner, fields_length_inner, encode_fields_inner, sameType, sameInner]

theorem rlp_with_bloom_inner : first.rlpEncodeWithBloom alloy bloom = second.rlpEncodeWithBloom alloy bloom := by
  simp only [rlpEncodeWithBloom, eip2718EncodedLengthWithBloom, rlpHeaderInner, fields_length_inner, sameType, sameInner,
    eip2718_with_bloom_inner alloy first second bloom sameType sameInner]

theorem encode_2718_inner : first.encode2718 alloy = second.encode2718 alloy := by
  simp only [encode2718, typePrefixBytes, rlpHeaderInnerWithoutBloom, length_without_bloom_inner, encode_without_bloom_inner, sameType, sameInner]

theorem network_inner : first.networkEncode alloy = second.networkEncode alloy := by
  simp only [networkEncode, encode2718Len, rlpHeaderInnerWithoutBloom, length_without_bloom_inner, sameType, sameInner,
    encode_2718_inner alloy first second sameType sameInner]

end FeeData

end MorphReceipt

structure SameReceipt (decoded receipt : MorphReceipt) : Prop where
  txType : decoded.txType = receipt.txType
  status : decoded.asReceipt.status = receipt.asReceipt.status
  cumulativeGasUsed : decoded.asReceipt.cumulativeGasUsed = receipt.asReceipt.cumulativeGasUsed
  logs : decoded.asReceipt.logs = receipt.asReceipt.logs

structure EncodesFaithfully (alloy : ReceiptCodecs) (receipt : MorphReceipt) (bloom : Bloom) : Prop where
  withBloom : ∀ rest, ∃ decoded, SameReceipt decoded receipt ∧
    (MorphReceipt.rlpDecodeWithBloom alloy).run (receipt.rlpEncodeWithBloom alloy bloom ++ rest) = .ok ((decoded, bloom), rest)
  eip2718 : ∀ rest, ∃ decoded, SameReceipt decoded receipt ∧
    MorphReceipt.decode2718 alloy (receipt.encode2718 alloy ++ rest) = .ok (decoded, rest)
  network : ∀ rest, ∃ decoded, SameReceipt decoded receipt ∧
    MorphReceipt.networkDecode alloy (receipt.networkEncode alloy ++ rest) = .ok (decoded, rest)
  withBloomLength : receipt.rlpEncodedLengthWithBloom alloy bloom = (receipt.rlpEncodeWithBloom alloy bloom).length
  eip2718WithBloomLength : receipt.eip2718EncodedLengthWithBloom alloy bloom = (receipt.eip2718EncodeWithBloom alloy bloom).length
  eip2718Length : receipt.encode2718Len alloy = (receipt.encode2718 alloy).length
  networkLength : receipt.networkLen alloy = (receipt.networkEncode alloy).length

-- What is left of two receipts once the L1 fee, the token fee fields, the
-- version, the reference and the memo are ignored.
structure OnlyFeeDataDiffers (first second : MorphReceipt) : Prop where
  txType : first.txType = second.txType
  asReceipt : first.asReceipt = second.asReceipt

structure SameEncodings (alloy : ReceiptCodecs) (first second : MorphReceipt) (bloom : Bloom) : Prop where
  withBloom : first.rlpEncodeWithBloom alloy bloom = second.rlpEncodeWithBloom alloy bloom
  eip2718WithBloom : first.eip2718EncodeWithBloom alloy bloom = second.eip2718EncodeWithBloom alloy bloom
  eip2718 : first.encode2718 alloy = second.encode2718 alloy
  network : first.networkEncode alloy = second.networkEncode alloy

theorem same_receipt_of_type (receipt : MorphReceipt) : SameReceipt (.ofType receipt.txType receipt.asReceipt) receipt where
  txType := of_type_tx_type _ _
  status := by rw [of_type_as_receipt]
  cumulativeGasUsed := by rw [of_type_as_receipt]
  logs := by rw [of_type_as_receipt]

theorem encodes_faithfully (alloy : ReceiptCodecs) (law : alloy.Correct) (receipt : MorphReceipt) (bloom : Bloom) :
    EncodesFaithfully alloy receipt bloom where
  withBloom rest := ⟨_, same_receipt_of_type receipt, receipt.decode_with_bloom alloy bloom law rest⟩
  eip2718 rest := ⟨_, same_receipt_of_type receipt, receipt.decode_encode_2718 alloy law rest⟩
  network rest := ⟨_, same_receipt_of_type receipt, receipt.network_decode_encode alloy law rest⟩
  withBloomLength := receipt.rlp_with_bloom_length alloy bloom law
  eip2718WithBloomLength := receipt.eip2718_with_bloom_length alloy bloom law
  eip2718Length := receipt.encode_2718_length alloy law
  networkLength := receipt.network_length alloy law

theorem same_encodings (alloy : ReceiptCodecs) (first second : MorphReceipt) (same : OnlyFeeDataDiffers first second) (bloom : Bloom) :
    SameEncodings alloy first second bloom where
  withBloom := first.rlp_with_bloom_inner alloy second bloom same.txType same.asReceipt
  eip2718WithBloom := first.eip2718_with_bloom_inner alloy second bloom same.txType same.asReceipt
  eip2718 := first.encode_2718_inner alloy second same.txType same.asReceipt
  network := first.network_inner alloy second same.txType same.asReceipt

-- Induction over the pairs: the leaves of the two tries agree one by one.
theorem same_leaves (alloy : ReceiptCodecs) (bloomOf : List Log → Bloom) (firsts seconds : List MorphReceipt)
    (same : List.Forall₂ OnlyFeeDataDiffers firsts seconds) :
    firsts.map (fun receipt => receipt.eip2718EncodeWithBloom alloy (bloomOf receipt.asReceipt.logs)) =
      seconds.map (fun receipt => receipt.eip2718EncodeWithBloom alloy (bloomOf receipt.asReceipt.logs)) := by
  induction same with
  | nil => rfl
  | cons head tail ih => rw [List.map_cons, List.map_cons, ih, head.asReceipt, (same_encodings alloy _ _ head _).eip2718WithBloom]

section Alloy

instance : Nontrivial Log := ⟨⟨0, [], []⟩, ⟨1, [], []⟩, by decide⟩

-- The payload length tells a status from a post state.
def readStatus (payloadLength : Nat) : Decoder Eip658Value := do
  let buf ← get
  if payloadLength = 0 then pure (.eip658 false)
  else if payloadLength = 1 then
    match buf with
    | [] => throw .inputTooShort
    | byte :: rest =>
        set rest
        pure (.eip658 (byte ≠ 0))
  else if payloadLength = 32 then
    match readFixed 256 (buf.take 32) with
    | .error _ => throw .inputTooShort
    | .ok root =>
        set (buf.drop 32)
        pure (.postState root)
  else throw .unexpectedLength

def statusCodec : Codec Eip658Value where
  encode
    | .eip658 status => bool.encode status
    | .postState root => (fixed 256).encode root
  decode := do
    let header ← (Header.decode : Decoder Header)
    readStatus header.payloadLength
  length
    | .eip658 status => bool.length status
    | .postState root => (fixed 256).length root

def logCodec : Codec Log :=
  ((fixed 160).pair ((fixed 256).items.pair bytes)).record.restrict
    (fun log => (log.address, log.topics, log.data))
    (fun (address, topics, data) => .ok ⟨address, topics, data⟩)

def alloyReceipt : ReceiptCodecs where
  status := statusCodec
  cumulativeGasUsed := uint 64
  bloom := fixed 2048
  logs := logCodec.items

theorem status_header (status : Bool) (rest : Bytes) :
    Header.decode (bool.encode status ++ rest) = .ok (if status then (⟨false, 1⟩, 1 :: rest) else (⟨false, 0⟩, rest)) := by
  cases status with
  | false =>
      rw [show bool.encode false = Header.encode ⟨false, 0⟩ by decide +kernel]
      exact header_decode_encode false 0 rest (Nat.zero_le _) (fun _ absurd => (by cases absurd))
  | true =>
      rw [show bool.encode true = [1] by decide +kernel]
      rfl

theorem status_round_trips : statusCodec.RoundTrips where
  decode_encode value rest := by
    cases value with
    | eip658 status =>
        cases status with
        | false => exact header_read (fun header => readStatus header.payloadLength) _ _ _ (status_header false rest)
        | true => exact header_read (fun header => readStatus header.payloadLength) _ _ _ (status_header true rest)
    | postState root =>
        have width : (toFixedBytes root).length = 32 := to_fixed_bytes_length 256 32 rfl root
        have notSingle : single (toFixedBytes root) = false := by
          rw [← Bool.not_eq_true, single_iff]
          rintro ⟨byte, shape, _⟩
          rw [shape] at width
          cases width
        have shape : (fixed 256).encode root ++ rest = Header.encode ⟨false, 32⟩ ++ (toFixedBytes root ++ rest) := by
          change bytes.encode (toFixedBytes root) ++ rest = _
          rw [bytes_encode, notSingle, if_neg Bool.false_ne_true, List.append_assoc, width]
        have header := MorphReceipt.string_header 32 (toFixedBytes root) rest width.symm (by decide)
        change (_ >>= fun header : Header => readStatus header.payloadLength).run ((fixed 256).encode root ++ rest) = _
        rw [shape, header_read _ _ _ _ header, readStatus, Decoder.run_bind_of_ok _ _ _ _ _ (Decoder.get_run _)]
        simp only [show (32 : Nat) ≠ 0 from by decide, show (32 : Nat) ≠ 1 from by decide, if_false, if_true]
        rw [← width, List.take_left, List.drop_left, read_to_fixed 256 32 rfl]
        rfl
  length_encode value := by
    cases value with
    | eip658 status => exact bool_canonical.length_encode status
    | postState root => exact (fixed_canonical 256 32 rfl).length_encode root

theorem log_canonical : logCodec.Canonical := by
  apply ((fixed_canonical 160 20 rfl).pair ((fixed_canonical 256 32 rfl).items.pair bytes_canonical)).record.restrict
  · intro log
    rfl
  · intro raw log accepted
    cases accepted
    rfl

theorem alloy_receipt_correct : alloyReceipt.Correct where
  status := status_round_trips
  cumulativeGasUsed := (uint_canonical 64 8 rfl).roundTrips
  bloom := (fixed_canonical 2048 256 rfl).roundTrips
  logs := log_canonical.items.roundTrips

end Alloy

theorem receipt_encodings_faithful (alloy : ReceiptCodecs) (law : alloy.Correct) :
    (∀ receipt bloom, EncodesFaithfully alloy receipt bloom) ∧
      (∀ first second, OnlyFeeDataDiffers first second → ∀ bloom, SameEncodings alloy first second bloom) ∧
      ∀ bloomOf orderedTrieRoot firsts seconds, List.Forall₂ OnlyFeeDataDiffers firsts seconds →
        calculateReceiptRootNoMemo alloy bloomOf orderedTrieRoot firsts = calculateReceiptRootNoMemo alloy bloomOf orderedTrieRoot seconds := by
  refine ⟨encodes_faithfully alloy law, same_encodings alloy, ?_⟩
  intro bloomOf orderedTrieRoot firsts seconds same
  rw [calculateReceiptRootNoMemo, calculateReceiptRootNoMemo, same_leaves alloy bloomOf firsts seconds same]

theorem receipt_encodings_faithful_sample :
    alloyReceipt.Correct ∧
      EncodesFaithfully alloyReceipt (.morph { MorphTransactionReceipt.new ⟨.eip658 true, 21000, [⟨7, [1], [0xAB]⟩]⟩ with memo := some [1] }) 5 ∧
      SameEncodings alloyReceipt (.legacy { MorphTransactionReceipt.new ⟨.postState 9, 1, []⟩ with l1Fee := 3 })
        (.legacy (.new ⟨.postState 9, 1, []⟩)) 0 := by
  have settled := receipt_encodings_faithful alloyReceipt alloy_receipt_correct
  refine ⟨alloy_receipt_correct, settled.1 _ _, settled.2.1 _ _ ?_ _⟩
  exact ⟨rfl, rfl⟩

end MorphReth.Receipts
