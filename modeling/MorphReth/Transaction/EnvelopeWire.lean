import MorphReth.Transaction.Envelope
import MorphReth.Transaction.WireSigned

set_option autoImplicit false

namespace MorphReth.Transaction

open Rlp

-- In wire order: the sender comes last.
def l1MsgCodec : Codec TxL1Msg :=
  ((uint 64).pair ((uint 64).pair ((fixed 160).pair ((uint 256).pair (bytes.pair (fixed 160)))))).record.restrict
    (fun tx => (tx.queueIndex, tx.gasLimit, tx.target, tx.value, tx.input, tx.sender))
    (fun (queueIndex, gasLimit, target, value, input, sender) => .ok ⟨queueIndex, gasLimit, target, value, sender, input⟩)

theorem l1_msg_canonical : l1MsgCodec.Canonical := by
  have counter := uint_canonical 64 8 rfl
  have account := fixed_canonical 160 20 rfl
  apply (counter.pair (counter.pair (account.pair ((uint_canonical 256 32 rfl).pair (bytes_canonical.pair account))))).record.restrict
  · intro tx
    rfl
  · intro raw tx accepted
    cases accepted
    rfl

namespace MorphTxEnvelope

def encode2718 : MorphTxEnvelope → Bytes
  | .legacy encoded => encoded
  | .eip2930 encoded => encoded
  | .eip1559 encoded => encoded
  | .eip7702 encoded => encoded
  | .l1Msg tx => l1TxTypeId :: l1MsgCodec.encode tx
  | .morph tx signature => morphTxTypeId :: rlpEncodeSigned alloyRlp tx signature

def isEthereum : MorphTxEnvelope → Bool
  | .l1Msg _ => false
  | .morph _ _ => false
  | _ => true

-- What the decoder makes of a transaction's own bytes.
def normalize : MorphTxEnvelope → MorphTxEnvelope
  | .morph tx signature => .morph tx.normalize signature
  | tx => tx

end MorphTxEnvelope

-- alloy's decoder for the Ethereum types: what it returns carries its bytes,
-- and these decode to it again.
structure EthereumDecoder where
  decode : Decoder MorphTxEnvelope
  ethereum : ∀ buf tx rest, decode.run buf = .ok (tx, rest) → tx.isEthereum = true
  redecode : ∀ buf tx rest, decode.run buf = .ok (tx, rest) → decode.run tx.encode2718 = .ok (tx, [])
  untyped : ∀ buf tx rest, decode.run buf = .ok (tx, rest) → tx.encode2718.head? ≠ some l1TxTypeId ∧ tx.encode2718.head? ≠ some morphTxTypeId

def decode2718 (ethereum : EthereumDecoder) (buf : Bytes) : Except RlpError (MorphTxEnvelope × Bytes) :=
  if buf.head? = some l1TxTypeId then do
    let (tx, rest) ← l1MsgCodec.decode.run buf.tail
    .ok (.l1Msg tx, rest)
  else if buf.head? = some morphTxTypeId then do
    let ((tx, signature), rest) ← (rlpDecodeWithSignature alloyRlp).run buf.tail
    .ok (.morph tx signature, rest)
  else ethereum.decode.run buf

-- A transaction the node holds: it came off the wire, or it is a MorphTx that
-- the node signed itself after validating it.
inductive Encodable (ethereum : EthereumDecoder) : MorphTxEnvelope → Prop
  | decoded (buf : Bytes) (tx : MorphTxEnvelope) (accepted : decode2718 ethereum buf = .ok (tx, [])) : Encodable ethereum tx
  | signed (tx : TxMorph) (signature : Signature) (valid : tx.validate = .ok ()) : Encodable ethereum (.morph tx signature)

section Wire

variable (ethereum : EthereumDecoder)

theorem decode_l1_msg (buf : Bytes) : decode2718 ethereum (l1TxTypeId :: buf) =
    (l1MsgCodec.decode.run buf).map (fun (tx, rest) => (.l1Msg tx, rest)) := by
  rw [decode2718, List.head?_cons, if_pos rfl, List.tail_cons]
  cases l1MsgCodec.decode.run buf <;> rfl

theorem decode_morph (buf : Bytes) : decode2718 ethereum (morphTxTypeId :: buf) =
    ((rlpDecodeWithSignature alloyRlp).run buf).map (fun ((tx, signature), rest) => (.morph tx signature, rest)) := by
  rw [decode2718, List.head?_cons, if_neg (by decide), if_pos rfl, List.tail_cons]
  cases (rlpDecodeWithSignature alloyRlp).run buf <;> rfl

theorem decode_signed_morph (tx : TxMorph) (signature : Signature) (rules : tx.VersionRules) :
    decode2718 ethereum (MorphTxEnvelope.morph tx signature).encode2718 = .ok (.morph tx.normalize signature, []) := by
  have decoded := decode_signed_encode alloy_rlp_canonical tx signature [] rules
  rw [List.append_nil] at decoded
  rw [MorphTxEnvelope.encode2718, decode_morph, decoded]
  rfl

theorem head_split (buf : Bytes) (first : UInt8) (starts : buf.head? = some first) : buf = first :: buf.tail := by
  cases buf with
  | nil => cases starts
  | cons byte rest =>
      cases starts
      rfl

-- What was decoded is in normal form and decodes to itself.
theorem redecode_2718 (buf : Bytes) (tx : MorphTxEnvelope) (accepted : decode2718 ethereum buf = .ok (tx, [])) :
    tx.normalize = tx ∧ decode2718 ethereum tx.encode2718 = .ok (tx, []) := by
  by_cases isL1 : buf.head? = some l1TxTypeId
  · rw [head_split buf _ isL1, decode_l1_msg] at accepted
    cases read : l1MsgCodec.decode.run buf.tail with
    | error error => rw [read] at accepted; cases accepted
    | ok pair =>
        obtain ⟨message, rest⟩ := pair
        rw [read] at accepted
        cases accepted
        refine ⟨rfl, ?_⟩
        have decoded := l1_msg_canonical.decode_encode message []
        rw [List.append_nil] at decoded
        rw [MorphTxEnvelope.encode2718, decode_l1_msg, decoded]
        rfl
  · by_cases isMorph : buf.head? = some morphTxTypeId
    · rw [head_split buf _ isMorph, decode_morph] at accepted
      cases read : (rlpDecodeWithSignature alloyRlp).run buf.tail with
      | error error => rw [read] at accepted; cases accepted
      | ok pair =>
          obtain ⟨⟨morph, signature⟩, rest⟩ := pair
          rw [read] at accepted
          cases accepted
          obtain ⟨shape, normal⟩ := decode_signed_sound alloy_rlp_canonical buf.tail morph signature [] read
          rw [List.append_nil] at shape
          refine ⟨by rw [MorphTxEnvelope.normalize, normal], ?_⟩
          rw [MorphTxEnvelope.encode2718, decode_morph, ← shape, read]
          rfl
    · rw [decode2718, if_neg isL1, if_neg isMorph] at accepted
      obtain ⟨notL1, notMorph⟩ := ethereum.untyped buf tx [] accepted
      refine ⟨?_, ?_⟩
      · cases tx with
        | morph morph signature => cases ethereum.ethereum buf _ [] accepted
        | legacy | eip2930 | eip1559 | eip7702 | l1Msg => rfl
      · rw [decode2718, if_neg notL1, if_neg notMorph]
        exact ethereum.redecode buf tx [] accepted

theorem encodable_decodes (tx : MorphTxEnvelope) (encodable : Encodable ethereum tx) :
    decode2718 ethereum tx.encode2718 = .ok (tx.normalize, []) := by
  cases encodable with
  | decoded buf _ accepted =>
      obtain ⟨normal, decoded⟩ := redecode_2718 ethereum buf tx accepted
      rw [normal]
      exact decoded
  | signed morph signature valid => exact decode_signed_morph ethereum morph signature (validate_rules morph valid)

theorem encode_normalize (tx : MorphTxEnvelope) (encodable : Encodable ethereum tx) : tx.normalize.encode2718 = tx.encode2718 := by
  cases encodable with
  | decoded buf _ accepted => rw [(redecode_2718 ethereum buf tx accepted).1]
  | signed morph signature valid =>
      have decoded := decode_signed_encode alloy_rlp_canonical morph signature [] (validate_rules morph valid)
      obtain ⟨shape, _⟩ := decode_signed_sound alloy_rlp_canonical _ _ _ _ decoded
      simp only [List.append_nil] at shape
      simp only [MorphTxEnvelope.normalize, MorphTxEnvelope.encode2718, ← shape]

end Wire

end MorphReth.Transaction
