import MorphReth.Transaction.EnvelopeWire

set_option autoImplicit false

namespace MorphReth.Transaction

open Rlp

-- The Ethereum transaction types with their fields, where the envelope only
-- carries their bytes.
structure TxLegacy where
  chainId : Option U64
  nonce : U64
  gasPrice : U128
  gasLimit : U64
  kind : TxKind
  value : U256
  input : Bytes
  deriving DecidableEq, Repr

structure TxEip2930 where
  chainId : U64
  nonce : U64
  gasPrice : U128
  gasLimit : U64
  kind : TxKind
  value : U256
  accessList : AccessList
  input : Bytes
  deriving DecidableEq, Repr

structure TxEip1559 where
  chainId : U64
  nonce : U64
  gasLimit : U64
  maxFeePerGas : U128
  maxPriorityFeePerGas : U128
  kind : TxKind
  value : U256
  accessList : AccessList
  input : Bytes
  deriving DecidableEq, Repr

structure TxEip7702 where
  chainId : U64
  nonce : U64
  gasLimit : U64
  maxFeePerGas : U128
  maxPriorityFeePerGas : U128
  target : Address
  value : U256
  accessList : AccessList
  authorizationList : List SignedAuthorization
  input : Bytes
  deriving DecidableEq, Repr

-- The recovery id of a legacy signature carries the chain id, if there is one.
def toEip155Value (yParity : Bool) : Option U64 → U128
  | some chainId => 35 + chainId.setWidth 128 * 2 + if yParity then 1 else 0
  | none => 27 + if yParity then 1 else 0

-- The fields of each type in wire order, the signature last.
def legacyFields : Codec (U64 × U128 × U64 × TxKind × U256 × Bytes × U128 × U256 × U256) :=
  (uint 64).pair ((uint 128).pair ((uint 64).pair (txKindCodec.pair ((uint 256).pair (bytes.pair ((uint 128).pair ((uint 256).pair (uint 256))))))))

def eip2930Fields : Codec (U64 × U64 × U128 × U64 × TxKind × U256 × Bytes × AccessList × Signature) :=
  (uint 64).pair ((uint 64).pair ((uint 128).pair ((uint 64).pair (txKindCodec.pair ((uint 256).pair (bytes.pair
    (accessListItemCodec.items.pair signatureCodec)))))))

def eip1559Fields : Codec (U64 × U64 × U128 × U128 × U64 × TxKind × U256 × Bytes × AccessList × Signature) :=
  (uint 64).pair ((uint 64).pair ((uint 128).pair ((uint 128).pair ((uint 64).pair (txKindCodec.pair ((uint 256).pair (bytes.pair
    (accessListItemCodec.items.pair signatureCodec))))))))

def eip7702Fields : Codec (U64 × U64 × U128 × U128 × U64 × Address × U256 × Bytes × AccessList × List SignedAuthorization × Signature) :=
  (uint 64).pair ((uint 64).pair ((uint 128).pair ((uint 128).pair ((uint 64).pair ((fixed 160).pair ((uint 256).pair (bytes.pair
    (accessListItemCodec.items.pair (signedAuthorizationCodec.items.pair signatureCodec)))))))))

def TxLegacy.wire (tx : TxLegacy) (signature : Signature) : U64 × U128 × U64 × TxKind × U256 × Bytes × U128 × U256 × U256 :=
  (tx.nonce, tx.gasPrice, tx.gasLimit, tx.kind, tx.value, tx.input, toEip155Value signature.yParity tx.chainId, signature.r, signature.s)

def TxEip2930.wire (tx : TxEip2930) (signature : Signature) : U64 × U64 × U128 × U64 × TxKind × U256 × Bytes × AccessList × Signature :=
  (tx.chainId, tx.nonce, tx.gasPrice, tx.gasLimit, tx.kind, tx.value, tx.input, tx.accessList, signature)

def TxEip1559.wire (tx : TxEip1559) (signature : Signature) :
    U64 × U64 × U128 × U128 × U64 × TxKind × U256 × Bytes × AccessList × Signature :=
  (tx.chainId, tx.nonce, tx.maxPriorityFeePerGas, tx.maxFeePerGas, tx.gasLimit, tx.kind, tx.value, tx.input, tx.accessList, signature)

def TxEip7702.wire (tx : TxEip7702) (signature : Signature) :
    U64 × U64 × U128 × U128 × U64 × Address × U256 × Bytes × AccessList × List SignedAuthorization × Signature :=
  (tx.chainId, tx.nonce, tx.maxPriorityFeePerGas, tx.maxFeePerGas, tx.gasLimit, tx.target, tx.value, tx.input, tx.accessList,
    tx.authorizationList, signature)

-- A signed transaction that is not an L1 message.
inductive SignedTx where
  | legacy (tx : TxLegacy) (signature : Signature)
  | eip2930 (tx : TxEip2930) (signature : Signature)
  | eip1559 (tx : TxEip1559) (signature : Signature)
  | eip7702 (tx : TxEip7702) (signature : Signature)
  | morph (tx : TxMorph) (signature : Signature)
  deriving DecidableEq, Repr

namespace SignedTx

def txType : SignedTx → UInt8
  | .legacy _ _ => 0x00
  | .eip2930 _ _ => 0x01
  | .eip1559 _ _ => 0x02
  | .eip7702 _ _ => 0x04
  | .morph _ _ => morphTxTypeId

def encode2718 : SignedTx → Bytes
  | .legacy tx signature => legacyFields.record.encode (tx.wire signature)
  | .eip2930 tx signature => 0x01 :: eip2930Fields.record.encode (tx.wire signature)
  | .eip1559 tx signature => 0x02 :: eip1559Fields.record.encode (tx.wire signature)
  | .eip7702 tx signature => 0x04 :: eip7702Fields.record.encode (tx.wire signature)
  | .morph tx signature => morphTxTypeId :: rlpEncodeSigned alloyRlp tx signature

def envelope : SignedTx → MorphTxEnvelope
  | .legacy tx signature => .legacy (encode2718 (.legacy tx signature))
  | .eip2930 tx signature => .eip2930 (encode2718 (.eip2930 tx signature))
  | .eip1559 tx signature => .eip1559 (encode2718 (.eip1559 tx signature))
  | .eip7702 tx signature => .eip7702 (encode2718 (.eip7702 tx signature))
  | .morph tx signature => .morph tx signature

theorem envelope_encode (tx : SignedTx) : tx.envelope.encode2718 = tx.encode2718 := by
  cases tx <;> rfl

end SignedTx

section Canonical

theorem legacy_fields_canonical : legacyFields.Canonical := by
  have word := uint_canonical 256 32 rfl
  have half := uint_canonical 128 16 rfl
  have quarter := uint_canonical 64 8 rfl
  exact quarter.pair (half.pair (quarter.pair (tx_kind_canonical.pair (word.pair (bytes_canonical.pair (half.pair (word.pair word)))))))

theorem eip2930_fields_canonical : eip2930Fields.Canonical := by
  have half := uint_canonical 128 16 rfl
  have quarter := uint_canonical 64 8 rfl
  exact quarter.pair (quarter.pair (half.pair (quarter.pair (tx_kind_canonical.pair ((uint_canonical 256 32 rfl).pair (bytes_canonical.pair
    (access_list_item_canonical.items.pair signature_canonical)))))))

theorem eip1559_fields_canonical : eip1559Fields.Canonical := by
  have half := uint_canonical 128 16 rfl
  have quarter := uint_canonical 64 8 rfl
  exact quarter.pair (quarter.pair (half.pair (half.pair (quarter.pair (tx_kind_canonical.pair ((uint_canonical 256 32 rfl).pair
    (bytes_canonical.pair (access_list_item_canonical.items.pair signature_canonical))))))))

theorem eip7702_fields_canonical : eip7702Fields.Canonical := by
  have half := uint_canonical 128 16 rfl
  have quarter := uint_canonical 64 8 rfl
  exact quarter.pair (quarter.pair (half.pair (half.pair (quarter.pair ((fixed_canonical 160 20 rfl).pair ((uint_canonical 256 32 rfl).pair
    (bytes_canonical.pair (access_list_item_canonical.items.pair (signed_authorization_canonical.items.pair signature_canonical)))))))))

end Canonical

end MorphReth.Transaction
