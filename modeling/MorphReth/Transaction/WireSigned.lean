import MorphReth.Transaction.AlloyRlp
import MorphReth.Transaction.WireFields

set_option autoImplicit false

namespace MorphReth.Transaction

open Rlp

variable {alloy : Alloy} (tx : TxMorph)

theorem is_v0_iff : tx.isV0 = true ↔ tx.version = morphTxVersion0 := by
  simp [TxMorph.isV0]

theorem is_v2_iff : tx.isV2 = true ↔ tx.version = morphTxVersion2 := by
  simp [TxMorph.isV2]

theorem encode_fields_v0 (v0 : tx.version = morphTxVersion0) : encodeFields alloy tx = alloy.common.encode tx.common := by
  have notV2 : ¬tx.isV2 = true := by
    rw [is_v2_iff, v0]
    decide
  rw [encodeFields, if_pos ((is_v0_iff tx).mpr v0), if_neg notV2, List.append_nil, List.append_nil]

theorem encode_fields_v1 (v1 : tx.version = morphTxVersion1) :
    encodeFields alloy tx = alloy.common.encode tx.common ++ (encodeReference alloy tx.reference ++ encodeMemo alloy tx.memo) := by
  have notV0 : ¬tx.isV0 = true := by
    rw [is_v0_iff, v1]
    decide
  have notV2 : ¬tx.isV2 = true := by
    rw [is_v2_iff, v1]
    decide
  rw [encodeFields, if_neg notV0, if_neg notV2, List.append_nil]

theorem encode_fields_v2 (v2 : tx.version = morphTxVersion2) :
    encodeFields alloy tx = alloy.common.encode tx.common ++ (encodeReference alloy tx.reference ++ encodeMemo alloy tx.memo) ++
      alloy.authorizationList.encode tx.authorizationList := by
  have notV0 : ¬tx.isV0 = true := by
    rw [is_v0_iff, v2]
    decide
  have isV2 := (is_v2_iff tx).mpr v2
  rw [encodeFields, if_neg notV0, if_pos isV2, TxMorph.encodedAuthorizationList, if_pos isV2]

theorem normalize_v0 (rules : tx.VersionRules) (v0 : tx.version = morphTxVersion0) :
    tx.normalize = tx.common.withVersion morphTxVersion0 none none [] := by
  have noAuthorizations := rules.authorizations (by rw [v0]; decide)
  have noReference : (if tx.version = morphTxVersion0 ∧ tx.reference = some 0 then none else tx.reference) = none := by
    rcases rules.reference v0 with absent | zero
    · rw [absent]
      exact ite_self none
    · rw [if_pos ⟨v0, zero⟩]
  have noMemo : (if tx.memo = some [] then none else tx.memo) = none := by
    rcases rules.noMemo v0 with absent | empty
    · rw [absent]
      exact ite_self none
    · rw [if_pos empty]
  rw [TxMorph.normalize, noReference, noMemo]
  simp only [CommonFields.withVersion, TxMorph.common, v0, noAuthorizations]

theorem normalize_later (later : tx.version ≠ morphTxVersion0) :
    tx.normalize = tx.common.withVersion tx.version tx.reference (normalizeMemo tx.memo) tx.authorizationList := by
  rw [TxMorph.normalize, if_neg (fun both => later both.1)]
  rfl

theorem decode_inner_encode (law : alloy.Canonical) (tx : TxMorph) (rules : tx.VersionRules) (rest : Bytes) :
    (decodeInner alloy tx.version).run (encodeFields alloy tx ++ rest) = .ok (tx.normalize, rest) := by
  rcases rules.version with v0 | v1 | v2
  · rw [encode_fields_v0 tx v0, normalize_v0 tx rules v0, v0, decodeInner, if_pos rfl, decodeFieldsV0Inner,
      (common_canonical law).bind_encode]
    have fee : ¬tx.common.feeTokenId = 0 := rules.fee v0
    rw [if_neg fee]
    rfl
  · have later : tx.version ≠ morphTxVersion0 := by rw [v1]; decide
    have noAuthorizations := rules.authorizations (by rw [v1]; decide)
    rw [encode_fields_v1 tx v1, normalize_later tx later, noAuthorizations, v1, decodeInner, if_neg (by decide), if_pos rfl,
      decodeFieldsVersionedInner, List.append_assoc, List.append_assoc, (common_canonical law).bind_encode,
      Decoder.run_bind_of_ok _ _ _ _ _ (decode_reference_encode law tx.reference _),
      Decoder.run_bind_of_ok _ _ _ _ _ (decode_memo_encode law tx.memo rest rules.memo), decodeAuthorizationList, if_neg (by decide)]
    rfl
  · have later : tx.version ≠ morphTxVersion0 := by rw [v2]; decide
    rw [encode_fields_v2 tx v2, normalize_later tx later, v2, decodeInner, if_neg (by decide), if_neg (by decide),
      decodeFieldsVersionedInner, List.append_assoc, List.append_assoc, List.append_assoc, (common_canonical law).bind_encode,
      Decoder.run_bind_of_ok _ _ _ _ _ (decode_reference_encode law tx.reference _),
      Decoder.run_bind_of_ok _ _ _ _ _ (decode_memo_encode law tx.memo _ rules.memo), decodeAuthorizationList, if_pos rfl,
      law.authorizationList.bind_encode]
    rfl

structure InnerDecoded (alloy : Alloy) (version : UInt8) (buf : Bytes) (tx : TxMorph) (rest : Bytes) : Prop where
  version : tx.version = version
  normal : tx.normalize = tx
  shape : buf = encodeFields alloy tx ++ rest

theorem decode_v0_sound (law : alloy.Canonical) (buf : Bytes) (tx : TxMorph) (rest : Bytes)
    (accepted : (decodeFieldsV0Inner alloy).run buf = .ok (tx, rest)) : InnerDecoded alloy morphTxVersion0 buf tx rest := by
  rw [decodeFieldsV0Inner, Decoder.bind_ok] at accepted
  obtain ⟨common, mid, read, completed⟩ := accepted
  rw [Decoder.guard_ok, Decoder.pure_ok] at completed
  obtain ⟨_, same⟩ := completed
  cases same
  refine ⟨rfl, rfl, ?_⟩
  rw [encode_fields_v0 _ rfl]
  exact (common_canonical law).encode_decode buf common rest read

theorem decode_versioned_sound (law : alloy.Canonical) (version : UInt8) (buf : Bytes) (tx : TxMorph) (rest : Bytes)
    (layout : version = morphTxVersion1 ∨ version = morphTxVersion2)
    (accepted : (decodeFieldsVersionedInner alloy version).run buf = .ok (tx, rest)) : InnerDecoded alloy version buf tx rest := by
  simp only [decodeFieldsVersionedInner, Decoder.bind_ok, Decoder.pure_ok] at accepted
  obtain ⟨common, buf1, read1, reference, buf2, read2, memo, buf3, read3, authorizations, buf4, read4, same⟩ := accepted
  obtain ⟨memoShape, memoNormal⟩ := decode_memo_sound law buf2 memo buf3 read3
  have later : version ≠ morphTxVersion0 := by
    rcases layout with v1 | v2
    · rw [v1]; decide
    · rw [v2]; decide
  cases same
  refine ⟨rfl, ?_, ?_⟩
  · rw [normalize_later _ later]
    simp only [CommonFields.withVersion, memoNormal]
    rfl
  · rw [(common_canonical law).encode_decode buf common buf1 read1, decode_reference_sound law buf1 reference buf2 read2, memoShape]
    rcases layout with v1 | v2
    · rw [decodeAuthorizationList, if_neg (by rw [v1]; decide), Decoder.pure_ok] at read4
      cases read4
      rw [encode_fields_v1 _ v1]
      simp only [List.append_assoc]
      rfl
    · rw [decodeAuthorizationList, if_pos v2] at read4
      rw [law.authorizationList.encode_decode buf3 authorizations rest read4, encode_fields_v2 _ v2]
      simp only [List.append_assoc]
      rfl

theorem decode_inner_sound (law : alloy.Canonical) (version : UInt8) (buf : Bytes) (tx : TxMorph) (rest : Bytes)
    (known : version = morphTxVersion0 ∨ version = morphTxVersion1 ∨ version = morphTxVersion2)
    (accepted : (decodeInner alloy version).run buf = .ok (tx, rest)) : InnerDecoded alloy version buf tx rest := by
  rcases known with v0 | v1 | v2
  · rw [decodeInner, if_pos v0] at accepted
    rw [v0]
    exact decode_v0_sound law buf tx rest accepted
  · rw [v1, decodeInner, if_neg (by decide), if_pos rfl] at accepted
    rw [v1]
    exact decode_versioned_sound law morphTxVersion1 buf tx rest (.inl rfl) accepted
  · rw [v2, decodeInner, if_neg (by decide), if_neg (by decide)] at accepted
    rw [v2]
    exact decode_versioned_sound law morphTxVersion2 buf tx rest (.inr rfl) accepted

theorem read_wire_version_ok (buf : Bytes) (version : UInt8) (rest : Bytes) :
    readWireVersion.run buf = .ok (version, rest) ↔
      (version = morphTxVersion0 ∧ rest = buf ∧ ∃ first tail, buf = first :: tail ∧ (first = 0 ∨ 0xC0 ≤ first)) ∨
        ((version = morphTxVersion1 ∨ version = morphTxVersion2) ∧ buf = version :: rest) := by
  rw [readWireVersion, Decoder.run_bind_of_ok _ _ _ _ _ (Decoder.get_run buf)]
  cases buf with
  | nil =>
      constructor
      · intro impossible
        cases impossible
      · rintro (⟨_, _, first, tail, same, _⟩ | ⟨_, same⟩)
        · cases same
        · cases same
  | cons first tail =>
      simp only [wireVersion]
      by_cases list : first = morphTxVersion0 ∨ 0xC0 ≤ first
      · rw [if_pos list, Decoder.pure_ok]
        constructor
        · intro same
          cases same
          exact .inl ⟨rfl, rfl, first, tail, rfl, list⟩
        · rintro (⟨v0, same, _⟩ | ⟨later, same⟩)
          · rw [v0, same]
          · cases same
            exfalso
            rcases list with zero | large
            · rcases later with v1 | v2
              · rw [v1] at zero; exact absurd zero (by decide)
              · rw [v2] at zero; exact absurd zero (by decide)
            · rcases later with v1 | v2
              · rw [v1] at large; exact absurd large (by decide)
              · rw [v2] at large; exact absurd large (by decide)
      · rw [if_neg list]
        by_cases later : first = morphTxVersion1 ∨ first = morphTxVersion2
        · rw [if_pos later]
          constructor
          · intro completed
            cases completed
            exact .inr ⟨later, rfl⟩
          · rintro (⟨_, _, byte, others, same, isList⟩ | ⟨_, same⟩)
            · cases same
              exact absurd isList list
            · cases same
              rfl
        · rw [if_neg later]
          constructor
          · intro impossible
            cases impossible
          · rintro (⟨_, _, byte, others, same, isList⟩ | ⟨known, same⟩)
            · cases same
              exact absurd isList list
            · cases same
              exact absurd known later

theorem signed_decode_ok (buf : Bytes) (tx : TxMorph) (signature : Signature) (rest : Bytes) :
    (rlpDecodeWithSignature alloy).run buf = .ok ((tx, signature), rest) ↔
      ∃ version buf1 length buf2 buf3, readWireVersion.run buf = .ok (version, buf1) ∧
        alloy.headerDecode.run buf1 = .ok (⟨true, length⟩, buf2) ∧ (decodeInner alloy version).run buf2 = .ok (tx, buf3) ∧
        alloy.signature.decode.run buf3 = .ok (signature, rest) ∧ rest.length + length = buf2.length := by
  rw [rlpDecodeWithSignature, Decoder.bind_ok]
  constructor
  · rintro ⟨version, buf1, versionRead, accepted⟩
    rw [Decoder.bind_ok] at accepted
    obtain ⟨⟨list, length⟩, buf2, headerRead, accepted⟩ := accepted
    rw [Decoder.guard_ok, Bool.not_eq_false] at accepted
    obtain ⟨isList, accepted⟩ := accepted
    simp only at isList
    rw [isList] at headerRead
    rw [Decoder.run_bind_of_ok _ _ _ _ _ (Decoder.get_run buf2), Decoder.bind_ok] at accepted
    obtain ⟨found, buf3, fieldsRead, accepted⟩ := accepted
    rw [Decoder.bind_ok] at accepted
    obtain ⟨sig, buf4, signatureRead, accepted⟩ := accepted
    rw [Decoder.run_bind_of_ok _ _ _ _ _ (Decoder.get_run buf4), Decoder.guard_ok, Decoder.pure_ok, not_not] at accepted
    obtain ⟨exactLength, same⟩ := accepted
    cases same
    exact ⟨version, buf1, length, buf2, buf3, versionRead, headerRead, fieldsRead, signatureRead, exactLength⟩
  · rintro ⟨version, buf1, length, buf2, buf3, versionRead, headerRead, fieldsRead, signatureRead, exactLength⟩
    refine ⟨version, buf1, versionRead, ?_⟩
    rw [Decoder.run_bind_of_ok _ _ _ _ _ headerRead, Decoder.guard_ok]
    refine ⟨by simp, ?_⟩
    rw [Decoder.run_bind_of_ok _ _ _ _ _ (Decoder.get_run buf2), Decoder.run_bind_of_ok _ _ _ _ _ fieldsRead,
      Decoder.run_bind_of_ok _ _ _ _ _ signatureRead, Decoder.run_bind_of_ok _ _ _ _ _ (Decoder.get_run rest),
      Decoder.guard_ok, Decoder.pure_ok, not_not]
    exact ⟨exactLength, rfl⟩

-- The version prefix, followed by what the list header covers.
theorem wire_version_encode (law : alloy.Canonical) (tx : TxMorph) (rules : tx.VersionRules) (length : Nat) (rest : Bytes) :
    readWireVersion.run ((if tx.isV0 then [] else [tx.version]) ++ (alloy.headerEncode ⟨true, length⟩ ++ rest)) =
      .ok (tx.version, alloy.headerEncode ⟨true, length⟩ ++ rest) := by
  rw [read_wire_version_ok]
  by_cases v0 : tx.isV0 = true
  · obtain ⟨first, tail, shape, large⟩ := law.headerFirst length
    rw [if_pos v0]
    exact .inl ⟨(is_v0_iff tx).mp v0, rfl, first, tail ++ rest, by rw [shape]; rfl, .inr large⟩
  · rw [if_neg v0]
    rw [is_v0_iff] at v0
    rcases rules.version with zero | later
    · exact absurd zero v0
    · exact .inr ⟨later, rfl⟩

theorem decode_signed_encode (law : alloy.Canonical) (tx : TxMorph) (signature : Signature) (rest : Bytes) (rules : tx.VersionRules) :
    (rlpDecodeWithSignature alloy).run (rlpEncodeSigned alloy tx signature ++ rest) = .ok ((tx.normalize, signature), rest) := by
  rw [signed_decode_ok]
  refine ⟨tx.version, alloy.headerEncode (rlpHeaderSigned alloy tx signature) ++
    (encodeFields alloy tx ++ (alloy.signature.encode signature ++ rest)),
    fieldsLen alloy tx + alloy.signature.length signature, encodeFields alloy tx ++ (alloy.signature.encode signature ++ rest),
    alloy.signature.encode signature ++ rest, ?_, ?_, decode_inner_encode law tx rules _, law.signature.decode_encode signature rest, ?_⟩
  · have read := wire_version_encode law tx rules (fieldsLen alloy tx + alloy.signature.length signature)
      (encodeFields alloy tx ++ (alloy.signature.encode signature ++ rest))
    simpa only [rlpEncodeSigned, rlpHeaderSigned, List.append_assoc] using read
  · rw [law.header]
    refine ⟨rfl, ?_⟩
    rw [fields_len_encode law, law.signature.length_encode, List.length_append, List.length_append]
    omega
  · rw [fields_len_encode law, law.signature.length_encode, List.length_append, List.length_append]
    omega

theorem decode_signed_sound (law : alloy.Canonical) (buf : Bytes) (tx : TxMorph) (signature : Signature) (rest : Bytes)
    (accepted : (rlpDecodeWithSignature alloy).run buf = .ok ((tx, signature), rest)) :
    buf = rlpEncodeSigned alloy tx signature ++ rest ∧ tx.normalize = tx := by
  obtain ⟨version, buf1, length, buf2, buf3, versionRead, headerRead, fieldsRead, signatureRead, exactLength⟩ :=
    (signed_decode_ok buf tx signature rest).mp accepted
  obtain ⟨headerShape, _⟩ := (law.header buf1 length buf2).mp headerRead
  have signatureShape := law.signature.encode_decode buf3 signature rest signatureRead
  have prefixed := (read_wire_version_ok buf version buf1).mp versionRead
  have known : version = morphTxVersion0 ∨ version = morphTxVersion1 ∨ version = morphTxVersion2 := by
    rcases prefixed with ⟨v0, _⟩ | ⟨later, _⟩
    · exact .inl v0
    · exact .inr later
  have inner := decode_inner_sound law version buf2 tx buf3 known fieldsRead
  refine ⟨?_, inner.normal⟩
  have lengthEq : fieldsLen alloy tx + alloy.signature.length signature = length := by
    rw [fields_len_encode law, law.signature.length_encode]
    rw [inner.shape, signatureShape, List.length_append, List.length_append] at exactLength
    omega
  have bodyShape : buf1 = alloy.headerEncode (rlpHeaderSigned alloy tx signature) ++
      (encodeFields alloy tx ++ (alloy.signature.encode signature ++ rest)) := by
    rw [headerShape, inner.shape, signatureShape, rlpHeaderSigned, lengthEq]
  rcases prefixed with ⟨v0, same, _⟩ | ⟨later, shape⟩
  · rw [rlpEncodeSigned, if_pos ((is_v0_iff tx).mpr (inner.version.trans v0)), ← same, bodyShape]
    simp only [List.nil_append, List.append_assoc]
  · have notV0 : ¬tx.isV0 = true := by
      rw [is_v0_iff, inner.version]
      rcases later with v1 | v2
      · rw [v1]; decide
      · rw [v2]; decide
    rw [rlpEncodeSigned, if_neg notV0, shape, bodyShape, inner.version]
    simp only [List.cons_append, List.nil_append, List.append_assoc]

theorem signed_length_encode (law : alloy.Canonical) (tx : TxMorph) (signature : Signature) :
    rlpEncodedLengthWithSignature alloy tx signature = (rlpEncodeSigned alloy tx signature).length := by
  have payload : (rlpHeaderSigned alloy tx signature).payloadLength =
      (encodeFields alloy tx).length + (alloy.signature.encode signature).length := by
    rw [rlpHeaderSigned, fields_len_encode law, law.signature.length_encode]
  rw [rlpEncodedLengthWithSignature, rlpEncodeSigned, List.length_append, List.length_append, List.length_append]
  simp only [payload, law.headerLength]
  split
  · rw [List.length_nil, Nat.zero_add]
  · rw [List.length_singleton, Nat.add_comm]

-- Decoding inverts encoding up to the normal form and takes exactly the bytes
-- written; what the decoder accepts is the encoding of what it returns, so one
-- signed transaction has one byte string.
theorem signed_wire_canonical (alloy : Alloy) (law : alloy.Canonical) :
    (∀ tx signature rest, tx.validate = .ok () →
      (rlpDecodeWithSignature alloy).run (rlpEncodeSigned alloy tx signature ++ rest) = .ok ((tx.normalize, signature), rest)) ∧
    (∀ buf tx signature rest, (rlpDecodeWithSignature alloy).run buf = .ok ((tx, signature), rest) →
      buf = rlpEncodeSigned alloy tx signature ++ rest) ∧
    (∀ left right leftTx rightTx signature, (rlpDecodeWithSignature alloy).run left = .ok ((leftTx, signature), []) →
      (rlpDecodeWithSignature alloy).run right = .ok ((rightTx, signature), []) → leftTx.normalize = rightTx.normalize →
      left = right) := by
  refine ⟨?_, ?_, ?_⟩
  · intro tx signature rest valid
    exact decode_signed_encode law tx signature rest (validate_rules tx valid)
  · intro buf tx signature rest accepted
    exact (decode_signed_sound law buf tx signature rest accepted).1
  · intro left right leftTx rightTx signature leftAccepted rightAccepted same
    obtain ⟨leftShape, leftNormal⟩ := decode_signed_sound law left leftTx signature [] leftAccepted
    obtain ⟨rightShape, rightNormal⟩ := decode_signed_sound law right rightTx signature [] rightAccepted
    rw [leftNormal, rightNormal] at same
    rw [leftShape, rightShape, same]

def sampleTx : TxMorph where
  chainId := 2818
  nonce := 7
  gasLimit := 100000
  maxFeePerGas := 1000000
  maxPriorityFeePerGas := 1000
  kind := .call 0x1234
  value := 5
  accessList := [⟨0x99, [1, 2]⟩]
  version := morphTxVersion2
  feeTokenId := 3
  feeLimit := 1000
  reference := some 77
  memo := some []
  authorizationList := [⟨2818, 0x55, 1, 0, 11, 12⟩]
  input := [0xAB, 0xCD]

theorem signed_wire_canonical_sample :
    sampleTx.validate = .ok () ∧
      (rlpDecodeWithSignature alloyRlp).run (rlpEncodeSigned alloyRlp sampleTx ⟨true, 21, 22⟩ ++ [1, 2]) =
        .ok (({ sampleTx with memo := none }, ⟨true, 21, 22⟩), [1, 2]) :=
  ⟨by decide, (signed_wire_canonical alloyRlp alloy_rlp_canonical).1 sampleTx ⟨true, 21, 22⟩ [1, 2] (by decide)⟩

end MorphReth.Transaction
