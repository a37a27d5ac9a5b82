import MorphReth.Transaction.WireSigned

set_option autoImplicit false

namespace MorphReth.Transaction

open Rlp

variable {alloy : Alloy}

-- For signing, versions from 1 on write the version as a list element after
-- the fee limit, not as a prefix byte.
def sigHashFieldsLen (alloy : Alloy) (tx : TxMorph) : Nat :=
  alloy.common.length tx.common
    + (if tx.isV0 then 0 else alloy.u8.length tx.version + (referenceLength alloy tx.reference + memoLength alloy tx.memo))
    + (if tx.isV2 then alloy.authorizationList.length tx.encodedAuthorizationList else 0)

def encodeSigHashFields (alloy : Alloy) (tx : TxMorph) : Bytes :=
  alloy.common.encode tx.common
    ++ (if tx.isV0 then [] else alloy.u8.encode tx.version ++ (encodeReference alloy tx.reference ++ encodeMemo alloy tx.memo))
    ++ (if tx.isV2 then alloy.authorizationList.encode tx.encodedAuthorizationList else [])

def encodeForSigHash (alloy : Alloy) (tx : TxMorph) : Bytes :=
  morphTxTypeId :: (alloy.headerEncode ⟨true, sigHashFieldsLen alloy tx⟩ ++ encodeSigHashFields alloy tx)

def encodeForSigning (alloy : Alloy) (tx : TxMorph) : Bytes :=
  encodeForSigHash alloy tx

def payloadLenForSignature (alloy : Alloy) (tx : TxMorph) : Nat :=
  1 + alloy.headerLength ⟨true, sigHashFieldsLen alloy tx⟩ + sigHashFieldsLen alloy tx

theorem sig_hash_fields_len_encode (law : alloy.Canonical) (tx : TxMorph) :
    sigHashFieldsLen alloy tx = (encodeSigHashFields alloy tx).length := by
  rw [sigHashFieldsLen, encodeSigHashFields, List.length_append, List.length_append, (common_canonical law).length_encode]
  congr 1
  · congr 1
    split
    · rfl
    · rw [List.length_append, List.length_append, law.u8.length_encode, reference_length_encode law, memo_length_encode law]
  · split
    · rw [law.authorizationList.length_encode]
    · rfl

theorem payload_len_for_signature_encode (law : alloy.Canonical) (tx : TxMorph) :
    payloadLenForSignature alloy tx = (encodeForSigning alloy tx).length := by
  rw [payloadLenForSignature, encodeForSigning, encodeForSigHash, List.length_cons, List.length_append, law.headerLength,
    ← sig_hash_fields_len_encode law]
  omega

-- What follows the common fields: nothing in version 0, and a non-empty rest
-- that starts with the version otherwise.
def signedTail (alloy : Alloy) (tx : TxMorph) : Bytes :=
  alloy.u8.encode tx.version ++ (encodeReference alloy tx.reference ++ (encodeMemo alloy tx.memo ++
    (if tx.isV2 then alloy.authorizationList.encode tx.encodedAuthorizationList else [])))

theorem sig_hash_fields_v0 (tx : TxMorph) (v0 : tx.version = morphTxVersion0) :
    encodeSigHashFields alloy tx = alloy.common.encode tx.common ++ [] := by
  have notV2 : ¬tx.isV2 = true := by
    rw [is_v2_iff, v0]
    decide
  rw [encodeSigHashFields, if_pos ((is_v0_iff tx).mpr v0), if_neg notV2, List.append_nil]

theorem sig_hash_fields_later (tx : TxMorph) (later : tx.version ≠ morphTxVersion0) :
    encodeSigHashFields alloy tx = alloy.common.encode tx.common ++ signedTail alloy tx := by
  have notV0 : ¬tx.isV0 = true := fun v0 => later ((is_v0_iff tx).mp v0)
  rw [encodeSigHashFields, if_neg notV0, signedTail]
  simp only [List.append_assoc]

instance nontrivialByte : Nontrivial UInt8 := ⟨0, 1, by decide⟩

theorem signed_tail_ne_nil (law : alloy.Canonical) (tx : TxMorph) : signedTail alloy tx ≠ [] := by
  intro empty
  exact law.u8.encode_ne_nil tx.version (List.append_eq_nil_iff.mp empty).1

theorem sig_hash_fields_of_same (law : alloy.Canonical) (left right : TxMorph)
    (same : encodeForSigning alloy left = encodeForSigning alloy right) :
    encodeSigHashFields alloy left = encodeSigHashFields alloy right := by
  have body := (List.cons.inj same).2
  have leftRead := (law.header _ _ _).mpr ⟨rfl, (sig_hash_fields_len_encode law left).le⟩
  have rightRead := (law.header _ _ _).mpr ⟨rfl, (sig_hash_fields_len_encode law right).le⟩
  rw [body, rightRead] at leftRead
  exact (Prod.mk.inj (Except.ok.inj leftRead)).2.symm

structure SameTail (left right : TxMorph) : Prop where
  version : left.version = right.version
  reference : left.reference = right.reference
  memo : normalizeMemo left.memo = normalizeMemo right.memo
  authorizations : left.authorizationList = right.authorizationList

theorem signed_tail_inj (law : alloy.Canonical) (left right : TxMorph) (leftRules : left.VersionRules)
    (rightRules : right.VersionRules) (same : signedTail alloy left = signedTail alloy right) : SameTail left right := by
  rw [signedTail, signedTail] at same
  obtain ⟨version, same⟩ := law.u8.encode_append_inj _ _ _ _ same
  have referenceRead := decode_reference_encode law left.reference (encodeMemo alloy left.memo ++
    (if left.isV2 then alloy.authorizationList.encode left.encodedAuthorizationList else []))
  rw [same, decode_reference_encode law right.reference] at referenceRead
  obtain ⟨reference, same⟩ := Prod.mk.inj (Except.ok.inj referenceRead)
  have memoRead := decode_memo_encode law right.memo
    (if right.isV2 then alloy.authorizationList.encode right.encodedAuthorizationList else []) rightRules.memo
  rw [same, decode_memo_encode law left.memo _ leftRules.memo] at memoRead
  obtain ⟨memo, same⟩ := Prod.mk.inj (Except.ok.inj memoRead)
  refine ⟨version, reference.symm, memo, ?_⟩
  by_cases v2 : left.version = morphTxVersion2
  · have leftV2 := (is_v2_iff left).mpr v2
    have rightV2 := (is_v2_iff right).mpr (version ▸ v2)
    rw [if_pos leftV2, if_pos rightV2, TxMorph.encodedAuthorizationList, TxMorph.encodedAuthorizationList, if_pos leftV2,
      if_pos rightV2] at same
    exact (law.authorizationList.encode_append_inj _ _ [] [] (by rw [same])).1
  · rw [leftRules.authorizations v2, rightRules.authorizations (version ▸ v2)]

theorem normalize_of_same_tail (left right : TxMorph) (common : left.common = right.common) (tail : SameTail left right)
    (later : left.version ≠ morphTxVersion0) : left.normalize = right.normalize := by
  rw [normalize_later left later, normalize_later right (tail.version ▸ later), common, tail.version, tail.reference, tail.memo,
    tail.authorizations]

-- No layout is a prefix of another with the same list header, so the preimage
-- determines every field, the version included.
theorem signing_preimage_unambiguous (alloy : Alloy) (law : alloy.Canonical) (left right : TxMorph)
    (leftValid : left.validate = .ok ()) (rightValid : right.validate = .ok ())
    (same : encodeForSigning alloy left = encodeForSigning alloy right) : left.normalize = right.normalize := by
  have leftRules := validate_rules left leftValid
  have rightRules := validate_rules right rightValid
  have fields := sig_hash_fields_of_same law left right same
  by_cases leftV0 : left.version = morphTxVersion0
  · rw [sig_hash_fields_v0 left leftV0] at fields
    by_cases rightV0 : right.version = morphTxVersion0
    · rw [sig_hash_fields_v0 right rightV0] at fields
      obtain ⟨common, _⟩ := (common_canonical law).encode_append_inj _ _ _ _ fields
      rw [normalize_v0 left leftRules leftV0, normalize_v0 right rightRules rightV0, common]
    · rw [sig_hash_fields_later right rightV0] at fields
      obtain ⟨_, empty⟩ := (common_canonical law).encode_append_inj _ _ _ _ fields
      exact absurd empty.symm (signed_tail_ne_nil law right)
  · rw [sig_hash_fields_later left leftV0] at fields
    by_cases rightV0 : right.version = morphTxVersion0
    · rw [sig_hash_fields_v0 right rightV0] at fields
      obtain ⟨_, empty⟩ := (common_canonical law).encode_append_inj _ _ _ _ fields
      exact absurd empty (signed_tail_ne_nil law left)
    · rw [sig_hash_fields_later right rightV0] at fields
      obtain ⟨common, tail⟩ := (common_canonical law).encode_append_inj _ _ _ _ fields
      exact normalize_of_same_tail left right common (signed_tail_inj law left right leftRules rightRules tail) leftV0

theorem signing_preimage_unambiguous_sample :
    sampleTx.validate = .ok () ∧ { sampleTx with memo := none }.validate = .ok () ∧
      encodeForSigning alloyRlp sampleTx = encodeForSigning alloyRlp { sampleTx with memo := none } ∧
      sampleTx.normalize = { sampleTx with memo := none }.normalize :=
  ⟨by decide, by decide, rfl,
    signing_preimage_unambiguous alloyRlp alloy_rlp_canonical sampleTx { sampleTx with memo := none } (by decide) (by decide) rfl⟩

end MorphReth.Transaction
