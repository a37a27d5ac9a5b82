import MorphReth.ByteKeys
import MorphReth.Checks
import MorphReth.SortedTable

set_option autoImplicit false

namespace MorphReth

open Rlp

inductive DecodeError where
  | decode
  deriving DecidableEq, Repr

abbrev RawTable := Table ByteKey Bytes

-- How the keys and values of a table are written into an ordered byte store
-- and read back.
structure TableSchema (κ ν : Type) where
  encode : κ → Bytes
  decode : Bytes → Option κ
  compress : ν → Bytes
  decompress : Bytes → Option ν

section Schema

variable {κ ν : Type} (schema : TableSchema κ ν)

def orDecodeError {α : Type} : Option α → Except DecodeError α
  | none => .error .decode
  | some value => .ok value

namespace TableSchema

def rawKey (key : κ) : ByteKey := ⟨schema.encode key⟩

def get (raw : RawTable) (key : κ) : Except DecodeError (Option ν) :=
  match raw.get (schema.rawKey key) with
  | none => .ok none
  | some bytes => (orDecodeError (schema.decompress bytes)).map some

def put (raw : RawTable) (key : κ) (value : ν) : RawTable := Table.put raw (schema.rawKey key) (schema.compress value)

def delete (raw : RawTable) (key : κ) : RawTable := Table.delete raw (schema.rawKey key)

-- The bytes a cursor meets from a key on. Each row is decoded when the cursor
-- reaches it.
def seek (raw : RawTable) (key : κ) : List (ByteKey × Bytes) := Table.seek raw (schema.rawKey key)

def decodeRow (row : ByteKey × Bytes) : Except DecodeError (κ × ν) := do
  let key ← orDecodeError (schema.decode row.1.bytes)
  let value ← orDecodeError (schema.decompress row.2)
  .ok (key, value)

def encodeRow (row : κ × ν) : ByteKey × Bytes := (schema.rawKey row.1, schema.compress row.2)

end TableSchema

variable [LinearOrder κ]

-- Keys and values in range survive the round trip, and byte order is key order.
structure TableSchema.Lawful (key : κ → Prop) (value : ν → Prop) : Prop where
  decodes : ∀ item, key item → schema.decode (schema.encode item) = some item
  decompresses : ∀ item, value item → schema.decompress (schema.compress item) = some item
  ordered : ∀ left right, key left → key right → (schema.rawKey left < schema.rawKey right ↔ left < right)

structure Encodes (key : κ → Prop) (value : ν → Prop) (raw : RawTable) (table : Table κ ν) : Prop where
  keys : ∀ row ∈ table.rows, key row.1
  values : ∀ row ∈ table.rows, value row.2
  rows : raw.rows = table.rows.map schema.encodeRow

theorem encodes_empty (key : κ → Prop) (value : ν → Prop) : Encodes schema key value Table.empty Table.empty where
  keys _ member := absurd member List.not_mem_nil
  values _ member := absurd member List.not_mem_nil
  rows := rfl

variable {schema} {key : κ → Prop} {value : ν → Prop} (lawful : schema.Lawful key value)
include lawful

theorem raw_key_inj (left right : κ) (leftValid : key left) (rightValid : key right) :
    schema.rawKey left = schema.rawKey right ↔ left = right := by
  constructor
  · intro same
    have forward := (lawful.ordered left right leftValid rightValid).not.mp (by rw [same]; exact lt_irrefl _)
    have backward := (lawful.ordered right left rightValid leftValid).not.mp (by rw [same]; exact lt_irrefl _)
    exact le_antisymm (not_lt.mp backward) (not_lt.mp forward)
  · intro same
    rw [same]

theorem decode_encoded (row : κ × ν) (keyValid : key row.1) (valueValid : value row.2) :
    schema.decodeRow (schema.encodeRow row) = .ok row := by
  simp only [TableSchema.decodeRow, TableSchema.encodeRow, TableSchema.rawKey, lawful.decodes row.1 keyValid,
    lawful.decompresses row.2 valueValid]
  rfl

section Operations

variable {raw : RawTable} {table : Table κ ν} (encodes : Encodes schema key value raw table)
include encodes

omit lawful in
theorem encodes_filter (rawTest : ByteKey → Bool) (test : κ → Bool) (same : ∀ item, key item → rawTest (schema.rawKey item) = test item) :
    raw.rows.filter (fun row => rawTest row.1) = (table.rows.filter (fun row => test row.1)).map schema.encodeRow := by
  rw [encodes.rows, List.filter_map]
  congr 1
  apply List.filter_congr
  intro row member
  exact same row.1 (encodes.keys row member)

theorem encodes_get (item : κ) (valid : key item) : schema.get raw item = .ok (table.get item) := by
  have found : raw.get (schema.rawKey item) = (table.get item).map schema.compress := by
    have located : ∀ rows : List (κ × ν), (∀ row ∈ rows, key row.1) →
        (rows.map schema.encodeRow).find? (fun row => row.1 = schema.rawKey item) =
          (rows.find? (fun row => row.1 = item)).map schema.encodeRow := by
      intro rows keys
      induction rows with
      | nil => rfl
      | cons row rest ih =>
          have later := ih (fun other member => keys other (List.mem_cons_of_mem _ member))
          have same := raw_key_inj lawful row.1 item (keys row List.mem_cons_self) valid
          rw [List.map_cons, List.find?_cons, List.find?_cons, later]
          by_cases hit : row.1 = item
          · simp [TableSchema.encodeRow, hit]
          · simp [TableSchema.encodeRow, hit, same]
    rw [Table.get, Table.get, encodes.rows, located table.rows encodes.keys, Option.map_map, Option.map_map]
    rfl
  rw [TableSchema.get, found]
  cases stored : table.get item with
  | none => rfl
  | some held =>
      have member := (Table.get_eq_some table item held).mp stored
      simp only [Option.map_some, lawful.decompresses held (encodes.values _ member)]
      rfl

theorem encodes_put (item : κ) (held : ν) (keyValid : key item) (valueValid : value held) :
    Encodes schema key value (schema.put raw item held) (table.put item held) where
  keys row member := by
    rcases List.mem_append.mp member with below | rest
    · exact encodes.keys row (List.mem_of_mem_filter below)
    · rcases List.mem_cons.mp rest with rfl | above
      · exact keyValid
      · exact encodes.keys row (List.mem_of_mem_filter above)
  values row member := by
    rcases List.mem_append.mp member with below | rest
    · exact encodes.values row (List.mem_of_mem_filter below)
    · rcases List.mem_cons.mp rest with rfl | above
      · exact valueValid
      · exact encodes.values row (List.mem_of_mem_filter above)
  rows := by
    have below := encodes_filter encodes (fun other => decide (other < schema.rawKey item)) (fun other => decide (other < item))
      (fun other valid => decide_eq_decide.mpr (lawful.ordered other item valid keyValid))
    have above := encodes_filter encodes (fun other => decide (schema.rawKey item < other)) (fun other => decide (item < other))
      (fun other valid => decide_eq_decide.mpr (lawful.ordered item other keyValid valid))
    simp only [TableSchema.put, Table.put, below, above, List.map_append, List.map_cons]
    rfl

theorem encodes_delete (item : κ) (valid : key item) : Encodes schema key value (schema.delete raw item) (table.delete item) where
  keys row member := encodes.keys row (List.mem_of_mem_filter member)
  values row member := encodes.values row (List.mem_of_mem_filter member)
  rows := encodes_filter encodes (fun other => decide (other ≠ schema.rawKey item)) (fun other => decide (other ≠ item))
    (fun other otherValid => decide_eq_decide.mpr (raw_key_inj lawful other item otherValid valid).not)

theorem encodes_delete_all (items : List κ) (valid : ∀ item ∈ items, key item) :
    Encodes schema key value (items.foldl schema.delete raw) (items.foldl Table.delete table) := by
  induction items generalizing raw table with
  | nil => exact encodes
  | cons item rest ih =>
      exact ih (encodes_delete lawful encodes item (valid item List.mem_cons_self))
        (fun other member => valid other (List.mem_cons_of_mem _ member))

theorem encodes_seek (item : κ) (valid : key item) : schema.seek raw item = (table.seek item).map schema.encodeRow :=
  encodes_filter encodes (fun other => decide (schema.rawKey item ≤ other)) (fun other => decide (item ≤ other))
    (fun other otherValid => decide_eq_decide.mpr (by rw [← not_lt, ← not_lt, lawful.ordered other item otherValid valid]))

end Operations

end Schema

end MorphReth
