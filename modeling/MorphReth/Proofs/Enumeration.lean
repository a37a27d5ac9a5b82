import MorphReth.Proofs.Walks

set_option autoImplicit false

namespace MorphReth.Proofs

section Live

variable {κ ν : Type} [LinearOrder κ]

-- The greatest version not above the block exists and is not a tombstone.
def LiveAt (table : HistoryTable κ ν) (block : Nat) (key : κ) (value : ν) : Prop :=
  ∃ version ≤ block, table.versions key version = some (some value) ∧
    ∀ later, version < later → later ≤ block → table.versions key later = none

theorem live_at_iff (table : HistoryTable κ ν) (block : Nat) (key : κ) (value : ν) :
    LiveAt table block key value ↔ viewAt table block key = some value := by
  rw [viewAt, Option.join_eq_some_iff, latest_eq_some]
  rfl

end Live

def LiveSlot (table : HistoryTable HashedStorageKey U256) (block : Nat) (address slot : B256) (value : U256) : Prop :=
  LiveAt table block (toLex (address, slot)) value ∧ value ≠ 0

theorem live_slot_iff (table : HistoryTable HashedStorageKey U256) (block : Nat) (address slot : B256) (value : U256) :
    LiveSlot table block address slot value ↔ slotView table block address slot = some value := by
  rw [LiveSlot, live_at_iff, slotView, addressView, Option.filter_eq_some_iff]
  simp [nonzero]

section Enumerates

variable {κ ν σ : Type} [LinearOrder κ]

-- The answers up to the first that is nothing, in increasing key order and so
-- each once.
def HandsOutExactly (next : σ → Option (κ × ν) × σ) (answer : Option (κ × ν) × σ) (wanted : κ → ν → Prop) : Prop :=
  ∃ entries, HandsOut next answer entries ∧ entries.Pairwise (fun earlier later => earlier.1 < later.1) ∧
    ∀ key value, (key, value) ∈ entries ↔ wanted key value

structure Enumerates (fresh : σ) (seek : σ → κ → Option (κ × ν) × σ) (next : σ → Option (κ × ν) × σ) (live : κ → ν → Prop) : Prop where
  fromSeek : ∀ start, HandsOutExactly next (seek fresh start) (fun key value => start ≤ key ∧ live key value)
  fromStart : HandsOutExactly next (next fresh) live

variable (fresh : σ) (seek : σ → κ → Option (κ × ν) × σ) (next : σ → Option (κ × ν) × σ) (live : κ → ν → Prop) (view : κ → Option ν)
  (standing : σ → κ → Prop) (remaining : κ → Nat)

-- A first call of next on a fresh cursor is a seek of the least key.
theorem enumerates_of_walk (walks : WalksUp next view standing remaining) (same : ∀ key value, live key value ↔ view key = some value)
    (sought : ∀ start, FirstLive view (fun key => start ≤ key) (seek fresh start).1 ∧
      ∀ key value, (seek fresh start).1 = some (key, value) → standing (seek fresh start).2 key) (least : κ) (below : ∀ key, least ≤ key)
    (starts : next fresh = seek fresh least) (bound : Nat) (enough : ∀ key, remaining key < bound) : Enumerates fresh seek next live := by
  have fromSeek : ∀ start, HandsOutExactly next (seek fresh start) (fun key value => start ≤ key ∧ live key value) := by
    intro start
    obtain ⟨first, moved⟩ := sought start
    obtain ⟨entries, handed, lists, _⟩ := hands_out_from next view standing remaining walks (fun key => start ≤ key)
      (fun low high reached less => le_trans reached (le_of_lt less)) (seek fresh start) first moved bound enough
    refine ⟨entries, handed, lists.sorted, fun key value => ?_⟩
    simp only [lists.exactly, same]
  refine ⟨fromSeek, ?_⟩
  obtain ⟨entries, handed, sorted, exactly⟩ := fromSeek least
  refine ⟨entries, by rw [starts]; exact handed, sorted, fun key value => ?_⟩
  simp only [exactly, below key, true_and]

end Enumerates

section Cursors

theorem table_enumerates {κ ν : Type} [LinearOrder κ] [Inhabited κ] (least : ∀ key : κ, default ≤ key) (table : HistoryTable κ ν)
    (block : Nat) :
    Enumerates (BlockNumberVersionedCursor.new table block) BlockNumberVersionedCursor.seek BlockNumberVersionedCursor.next (LiveAt table block) :=
  enumerates_of_walk _ _ _ _ _ _ _ (table_walks_up table block) (live_at_iff table block) (new_seek table block) default least rfl _
    (rows_from_bound table)

theorem storage_trie_enumerates (table : HistoryTable StorageTrieKey BranchNodeCompact) (block : Nat) (address : B256) :
    Enumerates (StorageTrieCursor.new table block (some address)) StorageTrieCursor.seek StorageTrieCursor.next
      (fun path node => LiveAt table block (toLex (address, path)) node) := by
  refine enumerates_of_walk _ _ _ _ _ _ _ (storage_trie_walks_up table block address) (fun path node => live_at_iff table block _ node)
    (fun path => ?_) [] bottom_path rfl _ (fun path => rows_from_bound table _)
  obtain ⟨first, moved⟩ := address_seek table block address path
  exact ⟨first, fun other node found => ⟨rfl, moved other node found⟩⟩

theorem hashed_storage_enumerates (table : HistoryTable HashedStorageKey U256) (block : Nat) (address : B256) :
    Enumerates (MdbxStorageCursor.new table block address) MdbxStorageCursor.seek MdbxStorageCursor.next (LiveSlot table block address) :=
  enumerates_of_walk _ _ _ _ _ _ _ (hashed_storage_walks_up table block address) (live_slot_iff table block address)
    (hashed_storage_seek table block address) 0 bottom_hash rfl _ (fun _ => rows_from_bound table _)

theorem table_seek_exact {κ ν : Type} [LinearOrder κ] (table : HistoryTable κ ν) (block : Nat) (key : κ) (found : κ × ν) :
    ((BlockNumberVersionedCursor.new table block).seekExact key).1 = some found ↔ found.1 = key ∧ LiveAt table block key found.2 := by
  obtain ⟨found, value⟩ := found
  rw [((BlockNumberVersionedCursor.new table block).seek_exact_view key).1, live_at_iff]
  simp [BlockNumberVersionedCursor.new, and_comm, eq_comm]

theorem storage_trie_seek_exact (table : HistoryTable StorageTrieKey BranchNodeCompact) (block : Nat) (address : B256) (path : Nibbles)
    (found : Nibbles × BranchNodeCompact) :
    ((StorageTrieCursor.new table block (some address)).seekExact path).1 = some found ↔
      found.1 = path ∧ LiveAt table block (toLex (address, path)) found.2 := by
  obtain ⟨found, node⟩ := found
  change ofAddress address ((BlockNumberVersionedCursor.new table block).seekExact (toLex (address, path))).1 = some (found, node) ↔ _
  rw [((BlockNumberVersionedCursor.new table block).seek_exact_view (toLex (address, path))).1, live_at_iff]
  change ofAddress address ((viewAt table block (toLex (address, path))).map _) = _ ↔ _
  cases viewAt table block (toLex (address, path)) with
  | none => simp [ofAddress]
  | some value => simp [ofAddress, eq_comm]

-- The cursors over the tables of hashed accounts and slots have no exact seek.
theorem cursors_enumerate_live (db : ProofsDb) (block : Nat) (address : B256) :
    Enumerates (BlockNumberVersionedCursor.new db.accountTrieHistory block) BlockNumberVersionedCursor.seek BlockNumberVersionedCursor.next
        (LiveAt db.accountTrieHistory block) ∧
      Enumerates (StorageTrieCursor.new db.storageTrieHistory block (some address)) StorageTrieCursor.seek StorageTrieCursor.next
        (fun path node => LiveAt db.storageTrieHistory block (toLex (address, path)) node) ∧
      Enumerates (BlockNumberVersionedCursor.new db.hashedAccountHistory block) BlockNumberVersionedCursor.seek BlockNumberVersionedCursor.next
        (LiveAt db.hashedAccountHistory block) ∧
      Enumerates (MdbxStorageCursor.new db.hashedStorageHistory block address) MdbxStorageCursor.seek MdbxStorageCursor.next
        (LiveSlot db.hashedStorageHistory block address) ∧
      (∀ path found, ((BlockNumberVersionedCursor.new db.accountTrieHistory block).seekExact path).1 = some found ↔
        found.1 = path ∧ LiveAt db.accountTrieHistory block path found.2) ∧
      ∀ path found, ((StorageTrieCursor.new db.storageTrieHistory block (some address)).seekExact path).1 = some found ↔
        found.1 = path ∧ LiveAt db.storageTrieHistory block (toLex (address, path)) found.2 :=
  ⟨table_enumerates bottom_path _ block, storage_trie_enumerates _ block address, table_enumerates bottom_hash _ block,
    hashed_storage_enumerates _ block address, table_seek_exact _ block, storage_trie_seek_exact _ block address⟩

end Cursors

end MorphReth.Proofs
