import MorphReth.Fee.TrueFee
import MorphReth.Rlp.Lengths
import MorphReth.Simulation.TxEnv

set_option autoImplicit false

namespace MorphReth.Simulation

open Rlp Transaction Consensus Fee MorphTxEnv

def authorizations (tx : SignedTx) : List SignedAuthorization :=
  (view tx).authorizationList.getD []

-- A set-code transaction without authorizations cannot execute.
def Executable : SignedTx → Prop
  | .eip7702 tx _ => tx.authorizationList ≠ []
  | .legacy _ _ | .eip2930 _ _ | .eip1559 _ _ | .morph _ _ => True

-- The placeholder has a one-byte parity and full words; only a parity of two
-- bytes with two full words is longer.
def PlaceholderCovers (signed : SignedAuthorization) : Prop :=
  signed.yParity.toNat < 0x80 ∨ signed.r.toNat < 256 ^ 31 ∨ signed.s.toNat < 256 ^ 31

def withPlaceholder (signed : SignedAuthorization) : SignedAuthorization :=
  Authorization.intoSigned ⟨signed.chainId, signed.address, signed.nonce⟩ placeholderSignature

section Signatures

theorem word_length_le (value : U256) : (uint 256).length value ≤ 33 :=
  uint_length_le value 32 value.isLt (by decide)

theorem price_length_pos (value : U128) : 1 ≤ (uint 128).length value :=
  uint_length_pos value 16 value.isLt (by decide)

theorem placeholder_length : signatureCodec.length placeholderSignature = 67 := by
  decide +kernel

theorem signature_length_le (signature : Signature) : signatureCodec.length signature ≤ signatureCodec.length placeholderSignature := by
  have parity : bool.length signature.yParity = 1 := by cases signature.yParity <;> rfl
  have r := word_length_le signature.r
  have s := word_length_le signature.s
  rw [placeholder_length]
  change bool.length signature.yParity + ((uint 256).length signature.r + (uint 256).length signature.s) ≤ 67
  omega

theorem address_length (address : Address) : (fixed 160).length address = 21 := by
  have twenty := to_fixed_bytes_length 160 20 rfl address
  change (if single (toFixedBytes address) then 0 else (Header.encode ⟨false, (toFixedBytes address).length⟩).length) +
    (toFixedBytes address).length = 21
  have several : ¬single (toFixedBytes address) = true := by
    intro alone
    obtain ⟨byte, shape, _⟩ := (single_iff _).mp alone
    rw [shape] at twenty
    cases twenty
  rw [if_neg several, twenty]
  rfl

theorem authorization_length_le (signed : SignedAuthorization) (covers : PlaceholderCovers signed) :
    signedAuthorizationCodec.length signed ≤ signedAuthorizationCodec.length (withPlaceholder signed) := by
  have word : (uint 256).length (maxWord 256) = 33 := by decide +kernel
  have parity : byteCodec.length 1 = 1 := rfl
  have chainId := word_length_le signed.chainId
  have address := address_length signed.address
  have nonce := uint_length_le signed.nonce 8 signed.nonce.isLt (by decide)
  have signature : byteCodec.length signed.yParity + ((uint 256).length signed.r + (uint 256).length signed.s) ≤ 67 := by
    have twoBytes : byteCodec.length signed.yParity ≤ 2 := uint_length_le signed.yParity.toBitVec 1 signed.yParity.toBitVec.isLt (by decide)
    have r := word_length_le signed.r
    have s := word_length_le signed.s
    rcases covers with small | small | small
    · have oneByte : byteCodec.length signed.yParity = 1 := uint_length_small signed.yParity.toBitVec small
      omega
    · have shorter := uint_length_le signed.r 31 small (by decide)
      omega
    · have shorter := uint_length_le signed.s 31 small (by decide)
      omega
  apply list_length_mono
  · change (uint 256).length signed.chainId + ((fixed 160).length signed.address + ((uint 64).length signed.nonce +
        (byteCodec.length signed.yParity + ((uint 256).length signed.r + (uint 256).length signed.s)))) ≤
      (uint 256).length signed.chainId + ((fixed 160).length signed.address + ((uint 64).length signed.nonce +
        (byteCodec.length 1 + ((uint 256).length (maxWord 256) + (uint 256).length (maxWord 256)))))
    omega
  · change (uint 256).length signed.chainId + ((fixed 160).length signed.address + ((uint 64).length signed.nonce +
        (byteCodec.length 1 + ((uint 256).length (maxWord 256) + (uint 256).length (maxWord 256))))) < 256 ^ 8
    omega

theorem authorizations_length_le (list : List SignedAuthorization) (covered : ∀ signed ∈ list, PlaceholderCovers signed)
    (fits : signedAuthorizationCodec.items.length (list.map withPlaceholder) < lengthLimit) :
    signedAuthorizationCodec.items.length list ≤ signedAuthorizationCodec.items.length (list.map withPlaceholder) :=
  items_length_map signedAuthorizationCodec withPlaceholder list (fun signed member => authorization_length_le signed (covered signed member)) fits

-- The recovery id is at most two bytes longer than the chain id in it.
theorem eip155_length (yParity : Bool) (chainId : Option U64) (fallbackChainId : U64) :
    (uint 128).length (toEip155Value yParity chainId) ≤ (uint 64).length (chainId.getD fallbackChainId) + 2 := by
  cases chainId with
  | none =>
      have one : (uint 128).length (toEip155Value yParity none) = 1 := by cases yParity <;> rfl
      omega
  | some id =>
      rw [Option.getD_some]
      have bound := id.isLt
      have value : (toEip155Value yParity (some id)).toNat ≤ 36 + 2 * id.toNat := by
        have parity : (if yParity then 1 else 0 : U128).toNat ≤ 1 := by cases yParity <;> decide
        rw [toEip155Value, BitVec.toNat_add, BitVec.toNat_add, BitVec.toNat_mul, BitVec.toNat_setWidth_of_le (by decide)]
        change ((35 + id.toNat * 2 % 2 ^ 128) % 2 ^ 128 + _) % 2 ^ 128 ≤ _
        omega
      by_cases small : id.toNat < 0x80
      · have short := uint_length_le (toEip155Value yParity (some id)) 2 (by omega) (by decide)
        rw [uint_length_small id small]
        exact short
      · have digits : (toDigits id.toNat).length ≤ 8 := (to_digits_length_le id.toNat 8).mpr bound
        have below : id.toNat < 256 ^ (toDigits id.toNat).length := (to_digits_length_le id.toNat _).mp (Nat.le_refl _)
        have longer := uint_length_le (toEip155Value yParity (some id)) ((toDigits id.toNat).length + 1)
          (by rw [Nat.pow_succ]; omega) (by omega)
        rw [uint_length_large id (Nat.le_of_not_lt small) (by omega)]
        omega

end Signatures

section Lengths

variable (recoverAuthority : SignedAuthorization → Option Address) (signer : Address) (fallbackChainId : U64)

theorem legacy_sized (tx : TxLegacy) (signature : Signature)
    (slice : (encodeForL1Fee (fromRecoveredTx recoverAuthority (.legacy tx signature) signer) fallbackChainId).length < lengthLimit) :
    (SignedTx.legacy tx signature).encode2718.length ≤
      (encodeForL1Fee (fromRecoveredTx recoverAuthority (.legacy tx signature) signer) fallbackChainId).length := by
  have price := price_length_pos tx.gasPrice
  have recovery := eip155_length signature.yParity tx.chainId fallbackChainId
  have r := word_length_le signature.r
  have s := word_length_le signature.s
  have placeholder := placeholder_length
  have noList : accessListItemCodec.items.length [] = 1 := rfl
  let sized : TxEip1559 :=
    ⟨tx.chainId.getD fallbackChainId, tx.nonce, tx.gasLimit, tx.gasPrice, tx.gasPrice, tx.kind, tx.value, [], tx.input⟩
  have typed := typed_length_mono legacyFields eip1559Fields legacy_fields_canonical eip1559_fields_canonical 0x00 0x02 (tx.wire signature)
    (sized.wire placeholderSignature) (by
      simp only [legacyFields, eip1559Fields, Codec.pair, TxLegacy.wire, TxEip1559.wire, sized]
      omega) slice
  exact Nat.le_trans (Nat.le_succ _) typed

theorem eip2930_sized (tx : TxEip2930) (signature : Signature)
    (slice : (encodeForL1Fee (fromRecoveredTx recoverAuthority (.eip2930 tx signature) signer) fallbackChainId).length < lengthLimit) :
    (SignedTx.eip2930 tx signature).encode2718.length ≤
      (encodeForL1Fee (fromRecoveredTx recoverAuthority (.eip2930 tx signature) signer) fallbackChainId).length := by
  have placeholder := signature_length_le signature
  let sized : TxEip1559 := ⟨tx.chainId, tx.nonce, tx.gasLimit, tx.gasPrice, tx.gasPrice, tx.kind, tx.value, tx.accessList, tx.input⟩
  refine typed_length_mono eip2930Fields eip1559Fields eip2930_fields_canonical eip1559_fields_canonical 0x01 0x02 (tx.wire signature)
    (sized.wire placeholderSignature) ?_ slice
  simp only [eip2930Fields, eip1559Fields, Codec.pair, TxEip2930.wire, TxEip1559.wire, sized]
  omega

theorem eip1559_sized (tx : TxEip1559) (signature : Signature)
    (slice : (encodeForL1Fee (fromRecoveredTx recoverAuthority (.eip1559 tx signature) signer) fallbackChainId).length < lengthLimit) :
    (SignedTx.eip1559 tx signature).encode2718.length ≤
      (encodeForL1Fee (fromRecoveredTx recoverAuthority (.eip1559 tx signature) signer) fallbackChainId).length := by
  have placeholder := signature_length_le signature
  refine typed_length_mono eip1559Fields eip1559Fields eip1559_fields_canonical eip1559_fields_canonical 0x02 0x02 (tx.wire signature)
    (tx.wire placeholderSignature) ?_ slice
  simp only [eip1559Fields, Codec.pair, TxEip1559.wire]
  omega

-- Recovering the authorizations and signing them with the placeholder.
theorem placeholder_list (list : List SignedAuthorization) :
    (list.map (fun signed => (Sum.inr (recovered recoverAuthority signed) : SignedAuthorization ⊕ RecoveredAuthorization))).map
        (fun authorization => match authorization with
          | .inl signed => signed
          | .inr recovered => recovered.inner.intoSigned placeholderSignature) = list.map withPlaceholder := by
  rw [List.map_map]
  rfl

theorem eip7702_encoded (tx : TxEip7702) (signature : Signature) (executable : tx.authorizationList ≠ []) :
    encodeForL1Fee (fromRecoveredTx recoverAuthority (.eip7702 tx signature) signer) fallbackChainId =
      0x04 :: eip7702Fields.record.encode
        (TxEip7702.wire { tx with authorizationList := tx.authorizationList.map withPlaceholder } placeholderSignature) := by
  rw [← placeholder_list recoverAuthority]
  obtain ⟨first, rest, shape⟩ := List.exists_cons_of_ne_nil executable
  obtain ⟨chainId, nonce, gasLimit, maxFeePerGas, maxPriorityFeePerGas, target, value, accessList, authorizationList, input⟩ := tx
  cases shape
  rfl

theorem eip7702_sized (tx : TxEip7702) (signature : Signature) (executable : tx.authorizationList ≠ [])
    (covered : ∀ signed ∈ tx.authorizationList, PlaceholderCovers signed)
    (slice : (encodeForL1Fee (fromRecoveredTx recoverAuthority (.eip7702 tx signature) signer) fallbackChainId).length < lengthLimit) :
    (SignedTx.eip7702 tx signature).encode2718.length ≤
      (encodeForL1Fee (fromRecoveredTx recoverAuthority (.eip7702 tx signature) signer) fallbackChainId).length := by
  have placeholder := signature_length_le signature
  rw [eip7702_encoded recoverAuthority signer fallbackChainId tx signature executable] at slice ⊢
  have payload := Nat.lt_trans (typed_payload eip7702Fields eip7702_fields_canonical 0x04 _) slice
  refine typed_length_mono eip7702Fields eip7702Fields eip7702_fields_canonical eip7702_fields_canonical 0x04 0x04 (tx.wire signature) _ ?_ slice
  simp only [eip7702Fields, Codec.pair, TxEip7702.wire] at payload ⊢
  have list := authorizations_length_le tx.authorizationList covered (by omega)
  omega

-- The rebuilt MorphTx: an empty memo is dropped and the authorizations of
-- version 2 are signed with the placeholder.
def rebuilt (tx : TxMorph) : TxMorph :=
  { tx with
    memo := tx.memo.filter (fun memo => !memo.isEmpty)
    authorizationList := if tx.version = morphTxVersion2 then tx.authorizationList.map withPlaceholder else [] }

theorem morph_authorizations (tx : TxMorph) (signature : Signature) (v2 : tx.version = morphTxVersion2) :
    authorizations (.morph tx signature) = tx.authorizationList := by
  rw [authorizations, view, (is_v2_iff tx).mpr v2, Bool.true_and]
  by_cases some : tx.hasAuthorizations = true
  · rw [if_pos some, Option.getD_some]
  · rw [if_neg some, no_authorizations tx some, Option.getD_none]

theorem morph_encoded (tx : TxMorph) (signature : Signature) :
    encodeForL1Fee (fromRecoveredTx recoverAuthority (.morph tx signature) signer) fallbackChainId =
      (SignedTx.morph (rebuilt tx) placeholderSignature).encode2718 := by
  have list : (fromRecoveredTx recoverAuthority (.morph tx signature) signer).signedAuthorizationsForL1Fee placeholderSignature =
      (authorizations (.morph tx signature)).map withPlaceholder := placeholder_list recoverAuthority _
  have signed : (if tx.version = morphTxVersion2 then
        (fromRecoveredTx recoverAuthority (.morph tx signature) signer).signedAuthorizationsForL1Fee placeholderSignature else []) =
      if tx.version = morphTxVersion2 then tx.authorizationList.map withPlaceholder else [] := by
    by_cases v2 : tx.version = morphTxVersion2
    · rw [if_pos v2, if_pos v2, list, morph_authorizations tx signature v2]
    · rw [if_neg v2, if_neg v2]
  have same : (fromRecoveredTx recoverAuthority (.morph tx signature) signer).buildMorphTxForL1Fee fallbackChainId placeholderSignature =
      some (rebuilt tx) := by
    rw [rebuilt, ← signed]
    rfl
  rw [encodeForL1Fee, same]

theorem memo_length_filter (memo : Option Bytes) :
    memoLength alloyRlp (memo.filter (fun memo => !memo.isEmpty)) = memoLength alloyRlp memo := by
  cases memo with
  | none => rfl
  | some memo => cases memo <;> rfl

theorem rebuilt_fields_len (tx : TxMorph)
    (covered : tx.version = morphTxVersion2 → ∀ signed ∈ tx.authorizationList, PlaceholderCovers signed)
    (fits : fieldsLen alloyRlp (rebuilt tx) < lengthLimit) : fieldsLen alloyRlp tx ≤ fieldsLen alloyRlp (rebuilt tx) := by
  have memo := memo_length_filter tx.memo
  have shape : fieldsLen alloyRlp (rebuilt tx) = alloyRlp.common.length tx.common +
      (if tx.isV0 then 0 else referenceLength alloyRlp tx.reference + memoLength alloyRlp tx.memo) +
      (if tx.isV2 then signedAuthorizationCodec.items.length (rebuilt tx).encodedAuthorizationList else 0) := by
    rw [← memo]
    rfl
  rw [shape] at fits ⊢
  rw [fieldsLen]
  by_cases v2 : tx.version = morphTxVersion2
  · have isV2 := (is_v2_iff tx).mpr v2
    have lists : (rebuilt tx).encodedAuthorizationList = tx.authorizationList.map withPlaceholder := by
      rw [TxMorph.encodedAuthorizationList, if_pos ((is_v2_iff (rebuilt tx)).mpr v2), rebuilt, if_pos v2]
    rw [if_pos isV2, lists] at fits ⊢
    rw [if_pos isV2, TxMorph.encodedAuthorizationList, if_pos isV2]
    exact Nat.add_le_add_left (authorizations_length_le tx.authorizationList (covered v2) (Nat.lt_of_le_of_lt (Nat.le_add_left _ _) fits)) _
  · have notV2 : ¬tx.isV2 = true := fun isV2 => v2 ((is_v2_iff tx).mp isV2)
    rw [if_neg notV2, if_neg notV2]

theorem signed_length (tx : TxMorph) (signature : Signature) :
    (SignedTx.morph tx signature).encode2718.length =
      (Header.encode ⟨true, fieldsLen alloyRlp tx + signatureCodec.length signature⟩).length +
        (fieldsLen alloyRlp tx + signatureCodec.length signature) + if tx.isV0 then 1 else 2 := by
  rw [SignedTx.encode2718, List.length_cons, ← signed_length_encode alloy_rlp_canonical, rlpEncodedLengthWithSignature]
  split
  · rfl
  · rfl

theorem morph_sized (tx : TxMorph) (signature : Signature)
    (covered : ∀ signed ∈ authorizations (.morph tx signature), PlaceholderCovers signed)
    (slice : (encodeForL1Fee (fromRecoveredTx recoverAuthority (.morph tx signature) signer) fallbackChainId).length < lengthLimit) :
    (SignedTx.morph tx signature).encode2718.length ≤
      (encodeForL1Fee (fromRecoveredTx recoverAuthority (.morph tx signature) signer) fallbackChainId).length := by
  have placeholder := signature_length_le signature
  rw [morph_encoded, signed_length] at slice ⊢
  have payload : fieldsLen alloyRlp (rebuilt tx) + signatureCodec.length placeholderSignature < lengthLimit := by omega
  have fields := rebuilt_fields_len tx (fun v2 signed member => covered signed (by rwa [morph_authorizations tx signature v2]))
    (Nat.lt_of_le_of_lt (Nat.le_add_right _ _) payload)
  rw [signed_length]
  exact Nat.add_le_add_right (list_length_mono _ _ (Nat.add_le_add fields placeholder) payload) _

theorem signed_bytes_covered (tx : SignedTx) (executable : Executable tx) (covered : ∀ signed ∈ authorizations tx, PlaceholderCovers signed)
    (slice : (encodeForL1Fee (fromRecoveredTx recoverAuthority tx signer) fallbackChainId).length < lengthLimit) :
    tx.encode2718.length ≤ (encodeForL1Fee (fromRecoveredTx recoverAuthority tx signer) fallbackChainId).length := by
  cases tx with
  | legacy tx signature => exact legacy_sized recoverAuthority signer fallbackChainId tx signature slice
  | eip2930 tx signature => exact eip2930_sized recoverAuthority signer fallbackChainId tx signature slice
  | eip1559 tx signature => exact eip1559_sized recoverAuthority signer fallbackChainId tx signature slice
  | eip7702 tx signature => exact eip7702_sized recoverAuthority signer fallbackChainId tx signature executable covered slice
  | morph tx signature => exact morph_sized recoverAuthority signer fallbackChainId tx signature covered slice

end Lengths

-- The fee of a longer byte string from Curie on.
theorem curie_fee_mono (storage : Storage) (hardfork : MorphHardfork) (curie : hardfork.isCurie = true) (input longer : Bytes)
    (length : input.length ≤ longer.length) (slice : longer.length < 2 ^ 64) :
    fetchedL1Fee storage hardfork input ≤ fetchedL1Fee storage hardfork longer := by
  have later : ¬hardfork.isCurie = false := by simp [curie]
  rw [fetched_curie storage hardfork input later (Nat.lt_of_le_of_lt length slice), fetched_curie storage hardfork longer later slice, trueL1Fee,
    trueL1Fee, if_neg later, if_neg later]
  gcongr

theorem simulated_fee_covers_signed (recoverAuthority : SignedAuthorization → Option Address) (tx : SignedTx) (signer : Address)
    (fallbackChainId : U64) (storage : Storage) (hardfork : MorphHardfork) (curie : hardfork.isCurie = true) (executable : Executable tx)
    (covered : ∀ signed ∈ authorizations tx, PlaceholderCovers signed)
    (slice : (encodeForL1Fee (fromRecoveredTx recoverAuthority tx signer) fallbackChainId).length < 2 ^ 64) :
    fetchedL1Fee storage hardfork tx.encode2718 ≤
      fetchedL1Fee storage hardfork (encodeForL1Fee (fromRecoveredTx recoverAuthority tx signer) fallbackChainId) :=
  curie_fee_mono storage hardfork curie _ _ (signed_bytes_covered recoverAuthority signer fallbackChainId tx executable covered slice) slice

section Sample

def sampleSignature : Signature where
  yParity := true
  r := BitVec.ofNat 256 (2 ^ 254)
  s := BitVec.ofNat 256 (2 ^ 254)

def sampleAuthorization (yParity : UInt8) : SignedAuthorization where
  chainId := 2818
  address := 0x42
  nonce := 7
  yParity := yParity
  r := BitVec.ofNat 256 (2 ^ 254)
  s := BitVec.ofNat 256 (2 ^ 254)

def setCodeTx (yParity : UInt8) : SignedTx :=
  .eip7702
    { chainId := 2818, nonce := 1, gasLimit := 100000, maxFeePerGas := 20000000000, maxPriorityFeePerGas := 1000000000, target := 0xF1, value := 0,
      accessList := [], authorizationList := [sampleAuthorization yParity], input := [] } sampleSignature

-- One wei for each byte.
def byteOracle : Storage :=
  fun _ slot => if slot = gpoL1BlobBaseFeeSlot then txL1FeePrecision else if slot = gpoBlobScalarSlot then 1 else 0

theorem simulated_fee_covers_signed_sample :
    fetchedL1Fee byteOracle .curie (setCodeTx 1).encode2718 ≤
      fetchedL1Fee byteOracle .curie (encodeForL1Fee (fromRecoveredTx (fun _ => none) (setCodeTx 1) 0) 2818) := by
  refine simulated_fee_covers_signed (fun _ => none) (setCodeTx 1) 0 2818 byteOracle .curie rfl (by simp [Executable, setCodeTx]) ?_
    (by decide +kernel)
  intro signed member
  rw [List.mem_singleton.mp member]
  exact .inl (by decide)

-- A parity byte from 0x80 on takes two bytes, the placeholder's takes one.
theorem large_parity_undersized :
    Executable (setCodeTx 0x80) ∧ fetchedL1Fee byteOracle .curie (setCodeTx 0x80).encode2718 = 210 ∧
      fetchedL1Fee byteOracle .curie (encodeForL1Fee (fromRecoveredTx (fun _ => none) (setCodeTx 0x80) 0) 2818) = 209 := by
  refine ⟨by simp [Executable, setCodeTx], ?_, ?_⟩
  · decide +kernel
  · decide +kernel

end Sample

end MorphReth.Simulation
