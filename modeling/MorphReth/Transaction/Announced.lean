import MorphReth.Transaction.EnvelopeWire
import MorphReth.Transaction.Signing
import MorphReth.Consensus.Validation

set_option autoImplicit false

namespace MorphReth.Transaction

open Rlp
open Consensus (MorphConsensus validateL2TxPayloadSize)

-- The unsigned forms: the header, body and length that the signing trait
-- derives from the field functions, behind a version byte from version 1 on.
def rlpHeader (alloy : Alloy) (tx : TxMorph) : Header :=
  ⟨true, fieldsLen alloy tx⟩

def rlpEncode (alloy : Alloy) (tx : TxMorph) : Bytes :=
  alloy.headerEncode (rlpHeader alloy tx) ++ encodeFields alloy tx

def rlpEncodedLength (alloy : Alloy) (tx : TxMorph) : Nat :=
  let header := rlpHeader alloy tx
  alloy.headerLength header + header.payloadLength

def TxMorph.encode (alloy : Alloy) (tx : TxMorph) : Bytes :=
  (if tx.isV0 then [] else [tx.version]) ++ rlpEncode alloy tx

def TxMorph.length (alloy : Alloy) (tx : TxMorph) : Nat :=
  if tx.isV0 then rlpEncodedLength alloy tx else 1 + rlpEncodedLength alloy tx

def TxMorph.encode2718 (alloy : Alloy) (tx : TxMorph) : Bytes :=
  morphTxTypeId :: tx.encode alloy

def TxMorph.encode2718Len (alloy : Alloy) (tx : TxMorph) : Nat :=
  1 + tx.length alloy

def eip2718Encode (alloy : Alloy) (tx : TxMorph) (signature : Signature) : Bytes :=
  morphTxTypeId :: rlpEncodeSigned alloy tx signature

def eip2718EncodedLength (alloy : Alloy) (tx : TxMorph) (signature : Signature) : Nat :=
  rlpEncodedLengthWithSignature alloy tx signature + 1

-- The length a pooled or included transaction announces. The other kinds are
-- kept as the bytes they encode to.
def MorphTxEnvelope.encode2718Len : MorphTxEnvelope → Nat
  | .morph tx signature => eip2718EncodedLength alloyRlp tx signature
  | .legacy encoded => encoded.length
  | .eip2930 encoded => encoded.length
  | .eip1559 encoded => encoded.length
  | .eip7702 encoded => encoded.length
  | .l1Msg tx => l1MsgCodec.length tx + 1

-- What stands behind the version byte is one list whose header names exactly
-- the bytes that follow it.
def IsListOf (alloy : Alloy) (encoded payload : Bytes) : Prop :=
  alloy.headerDecode.run encoded = .ok (⟨true, payload.length⟩, payload)

section Lengths

variable {alloy : Alloy}

theorem is_list_of_header (law : alloy.Canonical) (header : Header) (payload : Bytes) (isList : header.list = true)
    (announced : header.payloadLength = payload.length) : IsListOf alloy (alloy.headerEncode header ++ payload) payload := by
  have same : header = ⟨true, payload.length⟩ := by
    rw [← announced, ← isList]
  rw [IsListOf, law.header, same]
  exact ⟨rfl, le_refl _⟩

theorem unsigned_length_encode (law : alloy.Canonical) (tx : TxMorph) : tx.length alloy = (tx.encode alloy).length := by
  have body : rlpEncodedLength alloy tx = (rlpEncode alloy tx).length := by
    rw [rlpEncodedLength, rlpEncode, List.length_append, law.headerLength, ← fields_len_encode law]
    rfl
  rw [TxMorph.length, TxMorph.encode, List.length_append, body]
  split
  · exact (Nat.zero_add _).symm
  · rfl

theorem signed_header_announces (law : alloy.Canonical) (tx : TxMorph) (signature : Signature) :
    (rlpHeaderSigned alloy tx signature).payloadLength = (encodeFields alloy tx ++ alloy.signature.encode signature).length := by
  rw [rlpHeaderSigned, List.length_append, fields_len_encode law, law.signature.length_encode]

theorem envelope_length_encode (tx : MorphTxEnvelope) : tx.encode2718Len = tx.encode2718.length := by
  cases tx with
  | morph tx signature =>
      rw [MorphTxEnvelope.encode2718Len, MorphTxEnvelope.encode2718, eip2718EncodedLength, List.length_cons,
        signed_length_encode alloy_rlp_canonical]
  | l1Msg tx =>
      rw [MorphTxEnvelope.encode2718Len, MorphTxEnvelope.encode2718, List.length_cons, l1_msg_canonical.length_encode]
  | legacy | eip2930 | eip1559 | eip7702 => rfl

end Lengths

structure AnnouncesExactly (alloy : Alloy) (tx : TxMorph) (signature : Signature) : Prop where
  fields : fieldsLen alloy tx = (encodeFields alloy tx).length
  signing : payloadLenForSignature alloy tx = (encodeForSigning alloy tx).length
  unsigned : tx.length alloy = (tx.encode alloy).length
  unsigned2718 : tx.encode2718Len alloy = (tx.encode2718 alloy).length
  signed : rlpEncodedLengthWithSignature alloy tx signature = (rlpEncodeSigned alloy tx signature).length
  signed2718 : eip2718EncodedLength alloy tx signature = (eip2718Encode alloy tx signature).length
  signingList : IsListOf alloy (encodeForSigning alloy tx).tail (encodeSigHashFields alloy tx)
  unsignedList : IsListOf alloy (rlpEncode alloy tx) (encodeFields alloy tx)
  signedList : IsListOf alloy ((rlpEncodeSigned alloy tx signature).drop (if tx.isV0 then 0 else 1))
    (encodeFields alloy tx ++ alloy.signature.encode signature)

theorem signed_after_version (alloy : Alloy) (tx : TxMorph) (signature : Signature) :
    (rlpEncodeSigned alloy tx signature).drop (if tx.isV0 then 0 else 1) =
      alloy.headerEncode (rlpHeaderSigned alloy tx signature) ++ (encodeFields alloy tx ++ alloy.signature.encode signature) := by
  rw [rlpEncodeSigned]
  cases tx.isV0 <;> rfl

theorem announced_lengths_exact (alloy : Alloy) (law : alloy.Canonical) :
    (∀ tx signature, AnnouncesExactly alloy tx signature) ∧
      (∀ (consensus : MorphConsensus) txs, validateL2TxPayloadSize { consensus with encode2718Len := MorphTxEnvelope.encode2718Len } txs =
        validateL2TxPayloadSize { consensus with encode2718Len := fun tx => tx.encode2718.length } txs) := by
  constructor
  · intro tx signature
    have unsigned := unsigned_length_encode law tx
    have signed := signed_length_encode law tx signature
    refine ⟨fields_len_encode law tx, payload_len_for_signature_encode law tx, unsigned, ?_, signed, ?_, ?_, ?_, ?_⟩
    · rw [TxMorph.encode2718Len, TxMorph.encode2718, List.length_cons, unsigned, Nat.add_comm]
    · rw [eip2718EncodedLength, eip2718Encode, List.length_cons, signed]
    · exact is_list_of_header law _ _ rfl (sig_hash_fields_len_encode law tx)
    · exact is_list_of_header law _ _ rfl (fields_len_encode law tx)
    · rw [signed_after_version]
      exact is_list_of_header law _ _ rfl (signed_header_announces law tx signature)
  · intro consensus txs
    have same : MorphTxEnvelope.encode2718Len = fun tx => tx.encode2718.length := funext envelope_length_encode
    rw [same]

theorem announced_lengths_exact_sample : alloyRlp.Canonical ∧ AnnouncesExactly alloyRlp sampleTx ⟨true, 1, 1⟩ :=
  ⟨alloy_rlp_canonical, (announced_lengths_exact alloyRlp alloy_rlp_canonical).1 sampleTx ⟨true, 1, 1⟩⟩

end MorphReth.Transaction
