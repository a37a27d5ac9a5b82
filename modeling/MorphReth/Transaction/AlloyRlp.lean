import MorphReth.Transaction.Wire

set_option autoImplicit false

namespace MorphReth.Transaction

open Rlp

instance : Nontrivial B256 := ⟨0, 1, by decide⟩

instance : Nontrivial AccessListItem := ⟨⟨0, []⟩, ⟨1, []⟩, by decide⟩

instance : Nontrivial SignedAuthorization := ⟨⟨0, 0, 0, 0, 0, 0⟩, ⟨1, 0, 0, 0, 0, 0⟩, by decide⟩

def byteCodec : Codec UInt8 :=
  (uint 8).restrict UInt8.toBitVec (fun raw => .ok (UInt8.ofBitVec raw))

-- A creation is the empty string in the place of the address.
def txKindCodec : Codec TxKind :=
  (optional 160).restrict
    (fun kind => match kind with
      | .create => none
      | .call address => some address)
    (fun raw => match raw with
      | none => .ok .create
      | some address => .ok (.call address))

def accessListItemCodec : Codec AccessListItem :=
  ((fixed 160).pair (fixed 256).items).record.restrict
    (fun item => (item.address, item.storageKeys))
    (fun raw => .ok ⟨raw.1, raw.2⟩)

def signedAuthorizationCodec : Codec SignedAuthorization :=
  ((uint 256).pair ((fixed 160).pair ((uint 64).pair (byteCodec.pair ((uint 256).pair (uint 256)))))).record.restrict
    (fun item => (item.chainId, item.address, item.nonce, item.yParity, item.r, item.s))
    (fun (chainId, address, nonce, yParity, r, s) => .ok ⟨chainId, address, nonce, yParity, r, s⟩)

def signatureCodec : Codec Signature :=
  (bool.pair ((uint 256).pair (uint 256))).restrict
    (fun signature => (signature.yParity, signature.r, signature.s))
    (fun (yParity, r, s) => .ok ⟨yParity, r, s⟩)

def alloyRlp : Alloy where
  u8 := byteCodec
  u16 := uint 16
  u64 := uint 64
  u128 := uint 128
  u256 := uint 256
  bytes := bytes
  txKind := txKindCodec
  accessList := accessListItemCodec.items
  authorizationList := signedAuthorizationCodec.items
  signature := signatureCodec
  headerEncode := Header.encode
  headerDecode := Header.decode
  headerLength header := (Header.encode header).length

theorem byte_codec_canonical : byteCodec.Canonical := by
  apply (uint_canonical 8 1 rfl).restrict
  · intro value
    rfl
  · intro raw value accepted
    cases accepted
    rfl

theorem tx_kind_canonical : txKindCodec.Canonical := by
  apply (optional_canonical 160 20 rfl (by decide)).restrict
  · intro kind
    cases kind <;> rfl
  · intro raw kind accepted
    cases raw with
    | none => cases accepted; rfl
    | some address => cases accepted; rfl

theorem access_list_item_canonical : accessListItemCodec.Canonical := by
  apply ((fixed_canonical 160 20 rfl).pair (fixed_canonical 256 32 rfl).items).record.restrict
  · intro item
    rfl
  · intro raw item accepted
    cases accepted
    rfl

theorem signed_authorization_canonical : signedAuthorizationCodec.Canonical := by
  have word := uint_canonical 256 32 rfl
  apply (word.pair ((fixed_canonical 160 20 rfl).pair ((uint_canonical 64 8 rfl).pair
    (byte_codec_canonical.pair (word.pair word))))).record.restrict
  · intro item
    rfl
  · intro raw item accepted
    cases accepted
    rfl

theorem signature_canonical : signatureCodec.Canonical := by
  have word := uint_canonical 256 32 rfl
  apply (bool_canonical.pair (word.pair word)).restrict
  · intro signature
    rfl
  · intro raw signature accepted
    cases accepted
    rfl

theorem alloy_rlp_canonical : alloyRlp.Canonical where
  u8 := byte_codec_canonical
  u16 := uint_canonical 16 2 rfl
  u64 := uint_canonical 64 8 rfl
  u128 := uint_canonical 128 16 rfl
  u256 := uint_canonical 256 32 rfl
  bytes := bytes_canonical
  txKind := tx_kind_canonical
  accessList := access_list_item_canonical.items
  authorizationList := signed_authorization_canonical.items
  signature := signature_canonical
  zeroLength := by
    change bytes.length (toDigits (0 : U64).toNat) = bytes.length []
    rw [show (0 : U64).toNat = 0 from rfl, to_digits_zero]
  headerLength _ := rfl
  headerFirst length := by
    refine ⟨_, _, rfl, ?_⟩
    rw [UInt8.le_iff_toNat_le, header_code_byte]
    exact Nat.le_add_right 0xC0 _
  header := header_list_ok

end MorphReth.Transaction
