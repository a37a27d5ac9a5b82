import MorphReth.EncodedTable
import MorphReth.Rlp.Items
import MorphReth.ReferenceIndex.Db

set_option autoImplicit false

namespace MorphReth.ReferenceIndex

open Rlp

def u64Bytes (value : Nat) : Bytes := toFixed 8 value

def readU64 (bytes : Bytes) : Option Nat := if bytes.length = 8 then some (ofDigits bytes) else none

def readB256 (bytes : Bytes) : Option B256 := if bytes.length = 32 then some (BitVec.ofNat 256 (ofDigits bytes)) else none

namespace ReferenceIndexKey

def encodedLen : Nat := 80

def encode (key : ReferenceIndexKey) : Bytes :=
  toFixedBytes key.reference ++ (u64Bytes key.blockNumber ++ (u64Bytes key.transactionIndex ++ toFixedBytes key.transactionHash))

def decode (value : Bytes) : Option ReferenceIndexKey :=
  if value.length ≠ encodedLen then none
  else do
    let reference ← readB256 (value.take 32)
    let blockNumber ← readU64 ((value.drop 32).take 8)
    let transactionIndex ← readU64 ((value.drop 40).take 8)
    let transactionHash ← readB256 (value.drop 48)
    some ⟨reference, blockNumber, transactionIndex, transactionHash⟩

end ReferenceIndexKey

namespace BlockReferenceKey

def encodedLen : Nat := 48

def encode (key : BlockReferenceKey) : Bytes :=
  u64Bytes key.blockNumber ++ (u64Bytes key.transactionIndex ++ toFixedBytes key.transactionHash)

def decode (value : Bytes) : Option BlockReferenceKey :=
  if value.length ≠ encodedLen then none
  else do
    let blockNumber ← readU64 (value.take 8)
    let transactionIndex ← readU64 ((value.drop 8).take 8)
    let transactionHash ← readB256 (value.drop 16)
    some ⟨blockNumber, transactionIndex, transactionHash⟩

end BlockReferenceKey

def referenceIndexTable : TableSchema ReferenceIndexKey Nat :=
  ⟨ReferenceIndexKey.encode, ReferenceIndexKey.decode, u64Bytes, readU64⟩

def blockReferenceIndexTable : TableSchema BlockReferenceKey B256 :=
  ⟨BlockReferenceKey.encode, BlockReferenceKey.decode, toFixedBytes, readB256⟩

def indexedBlocksTable : TableSchema Nat B256 :=
  ⟨u64Bytes, readU64, toFixedBytes, readB256⟩

def InU64 (value : Nat) : Prop := value < 256 ^ 8

structure ReferenceIndexKey.InRange (key : ReferenceIndexKey) : Prop where
  blockNumber : InU64 key.blockNumber
  transactionIndex : InU64 key.transactionIndex

structure BlockReferenceKey.InRange (key : BlockReferenceKey) : Prop where
  blockNumber : InU64 key.blockNumber
  transactionIndex : InU64 key.transactionIndex

theorem u64_bytes_length (value : Nat) (inRange : InU64 value) : (u64Bytes value).length = 8 := to_fixed_length 8 value inRange

theorem read_u64_bytes (value : Nat) (inRange : InU64 value) : readU64 (u64Bytes value) = some value := by
  rw [readU64, if_pos (u64_bytes_length value inRange), u64Bytes, of_digits_to_fixed]

theorem b256_bytes_length (value : B256) : (toFixedBytes value).length = 32 := to_fixed_bytes_length 256 32 rfl value

theorem of_digits_b256 (value : B256) : BitVec.ofNat 256 (ofDigits (toFixedBytes value)) = value := by
  rw [toFixedBytes, of_digits_to_fixed, BitVec.ofNat_toNat, BitVec.setWidth_eq]

theorem read_b256_bytes (value : B256) : readB256 (toFixedBytes value) = some value := by
  rw [readB256, if_pos (b256_bytes_length value), of_digits_b256]

theorem b256_bound (value : B256) : value.toNat < 256 ^ 32 := by
  have bound := value.isLt
  norm_num at bound ⊢
  exact bound

theorem b256_field_lt (left right : B256) (leftTail rightTail : Bytes) :
    (toFixedBytes left ++ leftTail).map UInt8.toNat < (toFixedBytes right ++ rightTail).map UInt8.toNat ↔
      left.toNat < right.toNat ∨ left.toNat = right.toNat ∧ leftTail.map UInt8.toNat < rightTail.map UInt8.toNat :=
  field_lt 32 left.toNat right.toNat (b256_bound left) (b256_bound right) leftTail rightTail

theorem b256_lt (left right : B256) :
    (toFixedBytes left).map UInt8.toNat < (toFixedBytes right).map UInt8.toNat ↔ left.toNat < right.toNat :=
  fixed_lt 32 left.toNat right.toNat (b256_bound left) (b256_bound right)

theorem reference_index_lawful : referenceIndexTable.Lawful ReferenceIndexKey.InRange InU64 where
  decodes key inRange := by
    obtain ⟨reference, blockNumber, transactionIndex, transactionHash⟩ := key
    have number := u64_bytes_length blockNumber inRange.blockNumber
    have index := u64_bytes_length transactionIndex inRange.transactionIndex
    simp only [referenceIndexTable, ReferenceIndexKey.encode, ReferenceIndexKey.decode]
    rw [if_neg (by simp [ReferenceIndexKey.encodedLen, b256_bytes_length, number, index]), List.take_left' (b256_bytes_length reference),
      List.drop_left' (b256_bytes_length reference), List.take_left' number, ← List.append_assoc (toFixedBytes reference),
      List.drop_left' (by rw [List.length_append, b256_bytes_length, number]), List.take_left' index,
      ← List.append_assoc, List.drop_left' (by simp only [List.length_append, b256_bytes_length, number, index]),
      read_b256_bytes, read_u64_bytes _ inRange.blockNumber, read_u64_bytes _ inRange.transactionIndex, read_b256_bytes]
    rfl
  decompresses := read_u64_bytes
  ordered left right leftRange rightRange := by
    change ByteKey.mk left.encode < ByteKey.mk right.encode ↔ left.order < right.order
    rw [byte_key_lt, ReferenceIndexKey.encode, ReferenceIndexKey.encode, b256_field_lt, u64Bytes, u64Bytes, u64Bytes, u64Bytes,
      field_lt 8 _ _ leftRange.blockNumber rightRange.blockNumber, field_lt 8 _ _ leftRange.transactionIndex rightRange.transactionIndex, b256_lt]
    simp only [ReferenceIndexKey.order, Prod.Lex.toLex_lt_toLex]

theorem block_reference_lawful : blockReferenceIndexTable.Lawful BlockReferenceKey.InRange (fun _ => True) where
  decodes key inRange := by
    obtain ⟨blockNumber, transactionIndex, transactionHash⟩ := key
    have number := u64_bytes_length blockNumber inRange.blockNumber
    have index := u64_bytes_length transactionIndex inRange.transactionIndex
    simp only [blockReferenceIndexTable, BlockReferenceKey.encode, BlockReferenceKey.decode]
    rw [if_neg (by simp [BlockReferenceKey.encodedLen, b256_bytes_length, number, index]), List.take_left' number,
      List.drop_left' number, List.take_left' index, ← List.append_assoc,
      List.drop_left' (by rw [List.length_append, number, index]),
      read_b256_bytes, read_u64_bytes _ inRange.blockNumber, read_u64_bytes _ inRange.transactionIndex]
    rfl
  decompresses value _ := read_b256_bytes value
  ordered left right leftRange rightRange := by
    change ByteKey.mk left.encode < ByteKey.mk right.encode ↔ left.order < right.order
    rw [byte_key_lt, BlockReferenceKey.encode, BlockReferenceKey.encode, u64Bytes, u64Bytes, u64Bytes, u64Bytes,
      field_lt 8 _ _ leftRange.blockNumber rightRange.blockNumber, field_lt 8 _ _ leftRange.transactionIndex rightRange.transactionIndex, b256_lt]
    simp only [BlockReferenceKey.order, Prod.Lex.toLex_lt_toLex]

theorem indexed_blocks_lawful : indexedBlocksTable.Lawful InU64 (fun _ => True) where
  decodes := read_u64_bytes
  decompresses value _ := read_b256_bytes value
  ordered left right leftRange rightRange := by
    change ByteKey.mk (u64Bytes left) < ByteKey.mk (u64Bytes right) ↔ left < right
    rw [byte_key_lt]
    exact fixed_lt 8 left right leftRange rightRange

end MorphReth.ReferenceIndex
