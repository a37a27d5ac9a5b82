import MorphReth.Transaction.Wire

set_option autoImplicit false

namespace MorphReth.Transaction

open Rlp

variable {alloy : Alloy}

theorem common_canonical (law : alloy.Canonical) : alloy.common.Canonical where
  decode_encode fields rest := by
    simp only [Alloy.common, List.append_assoc, law.u64.bind_encode, law.u128.bind_encode, law.txKind.bind_encode,
      law.u256.bind_encode, law.bytes.bind_encode, law.accessList.bind_encode, law.u16.bind_encode]
    rfl
  encode_decode buf fields rest accepted := by
    simp only [Alloy.common, Decoder.bind_ok, Decoder.pure_ok] at accepted
    obtain ⟨chainId, buf1, read1, nonce, buf2, read2, tip, buf3, read3, cap, buf4, read4, gas, buf5, read5, kind, buf6, read6,
      value, buf7, read7, input, buf8, read8, accessList, buf9, read9, token, buf10, read10, limit, buf11, read11, same⟩ := accepted
    cases same
    rw [law.u64.encode_decode buf chainId buf1 read1, law.u64.encode_decode buf1 nonce buf2 read2,
      law.u128.encode_decode buf2 tip buf3 read3, law.u128.encode_decode buf3 cap buf4 read4,
      law.u64.encode_decode buf4 gas buf5 read5, law.txKind.encode_decode buf5 kind buf6 read6,
      law.u256.encode_decode buf6 value buf7 read7, law.bytes.encode_decode buf7 input buf8 read8,
      law.accessList.encode_decode buf8 accessList buf9 read9, law.u16.encode_decode buf9 token buf10 read10,
      law.u256.encode_decode buf10 limit rest read11]
    simp only [Alloy.common, List.append_assoc]
  length_encode fields := by
    simp only [Alloy.common, List.length_append, law.u64.length_encode, law.u128.length_encode, law.txKind.length_encode,
      law.u256.length_encode, law.bytes.length_encode, law.accessList.length_encode, law.u16.length_encode]

theorem word_bytes_length (word : B256) : (toFixedBytes word).length = 32 :=
  to_fixed_bytes_length 256 32 rfl word

theorem word_of_bytes (word : B256) : BitVec.ofNat 256 (ofDigits (toFixedBytes word)) = word := by
  have read := read_to_fixed 256 32 rfl word
  rw [readFixed, if_pos (by rw [word_bytes_length])] at read
  exact Except.ok.inj read

theorem bytes_of_word (raw : Bytes) (whole : raw.length = 32) : toFixedBytes (BitVec.ofNat 256 (ofDigits raw)) = raw := by
  have read : readFixed 256 raw = .ok (BitVec.ofNat 256 (ofDigits raw)) := by
    rw [readFixed, if_pos (by rw [whole])]
  exact (to_fixed_read 256 raw _ read).symm

variable (law : alloy.Canonical)

include law

theorem decode_reference_encode (reference : Option B256) (rest : Bytes) :
    (decodeReference alloy).run (encodeReference alloy reference ++ rest) = .ok (reference, rest) := by
  cases reference with
  | none =>
      rw [decodeReference, encodeReference, law.bytes.bind_encode]
      rfl
  | some reference =>
      have length := word_bytes_length reference
      have nonempty : ¬(toFixedBytes reference).isEmpty = true := by
        intro empty
        rw [List.isEmpty_iff] at empty
        rw [empty] at length
        cases length
      rw [decodeReference, encodeReference, law.bytes.bind_encode, if_neg nonempty, if_pos length, word_of_bytes]
      rfl

theorem decode_reference_sound (buf : Bytes) (reference : Option B256) (rest : Bytes)
    (accepted : (decodeReference alloy).run buf = .ok (reference, rest)) : buf = encodeReference alloy reference ++ rest := by
  rw [decodeReference, Decoder.bind_ok] at accepted
  obtain ⟨raw, mid, read, completed⟩ := accepted
  have shape := law.bytes.encode_decode buf raw mid read
  split at completed
  · next empty =>
      rw [Decoder.pure_ok] at completed
      cases completed
      rw [List.isEmpty_iff] at empty
      rw [shape, empty]
      rfl
  · split at completed
    · next whole =>
        rw [Decoder.pure_ok] at completed
        cases completed
        rw [encodeReference, bytes_of_word raw whole]
        exact shape
    · cases completed

def normalizeMemo (memo : Option Bytes) : Option Bytes :=
  if memo = some [] then none else memo

theorem decode_memo_encode (memo : Option Bytes) (rest : Bytes) (fits : ∀ payload, memo = some payload → payload.length ≤ maxMemoLength) :
    (decodeMemo alloy).run (encodeMemo alloy memo ++ rest) = .ok (normalizeMemo memo, rest) := by
  cases memo with
  | none =>
      rw [decodeMemo, encodeMemo, law.bytes.bind_encode]
      rfl
  | some payload =>
      rw [decodeMemo, encodeMemo, law.bytes.bind_encode]
      cases payload with
      | nil => rfl
      | cons byte tail =>
          have short := fits (byte :: tail) rfl
          rw [if_neg (by simp), if_neg (by omega), normalizeMemo, if_neg (by simp)]
          rfl

theorem decode_memo_sound (buf : Bytes) (memo : Option Bytes) (rest : Bytes) (accepted : (decodeMemo alloy).run buf = .ok (memo, rest)) :
    buf = encodeMemo alloy memo ++ rest ∧ normalizeMemo memo = memo := by
  rw [decodeMemo, Decoder.bind_ok] at accepted
  obtain ⟨raw, mid, read, completed⟩ := accepted
  have shape := law.bytes.encode_decode buf raw mid read
  split at completed
  · next empty =>
      rw [Decoder.pure_ok] at completed
      cases completed
      rw [List.isEmpty_iff] at empty
      rw [shape, empty]
      exact ⟨rfl, rfl⟩
  · next nonempty =>
      rw [Decoder.guard_ok, Decoder.pure_ok] at completed
      obtain ⟨_, same⟩ := completed
      cases same
      refine ⟨shape, ?_⟩
      rw [normalizeMemo, if_neg]
      intro empty
      rw [Option.some.inj empty] at nonempty
      exact nonempty rfl

theorem reference_length_encode (reference : Option B256) : referenceLength alloy reference = (encodeReference alloy reference).length := by
  cases reference with
  | none => rw [referenceLength, encodeReference, law.zeroLength, law.bytes.length_encode]
  | some reference => rw [referenceLength, encodeReference, law.bytes.length_encode]

theorem memo_length_encode (memo : Option Bytes) : memoLength alloy memo = (encodeMemo alloy memo).length := by
  cases memo with
  | none => rw [memoLength, encodeMemo, law.zeroLength, law.bytes.length_encode]
  | some memo => rw [memoLength, encodeMemo, law.bytes.length_encode]

-- The header is written from lengths computed apart from the fields.
theorem fields_len_encode (tx : TxMorph) : fieldsLen alloy tx = (encodeFields alloy tx).length := by
  rw [fieldsLen, encodeFields, List.length_append, List.length_append, (common_canonical law).length_encode]
  congr 1
  · congr 1
    split
    · rfl
    · rw [List.length_append, reference_length_encode law, memo_length_encode law]
  · split
    · rw [law.authorizationList.length_encode]
    · rfl

end MorphReth.Transaction
