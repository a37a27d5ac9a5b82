import MorphReth.Proofs.Simulation

set_option autoImplicit false

namespace MorphReth.Proofs

open ProofsDb

-- A store whose initial state is in place: every row has version zero and no
-- block is stored yet.
structure InitialStore (db : ProofsDb) (anchor : NumHash) : Prop where
  earliest : db.earliestBlock = some anchor
  latest : db.latestBlock = none
  changeSets : ∀ number, db.blockChangeSet.get number = none
  accountTrie : ∀ key version, (db.accountTrieHistory.versions key version).isSome → version = 0
  storageTrie : ∀ key version, (db.storageTrieHistory.versions key version).isSome → version = 0
  hashedAccounts : ∀ key version, (db.hashedAccountHistory.versions key version).isSome → version = 0
  hashedStorage : ∀ key version, (db.hashedStorageHistory.versions key version).isSome → version = 0

def ProofsDb.initialState (db : ProofsDb) : ProofState where
  accountTrie path := (db.accountTrieHistory.versions path 0).join
  storageTrie key := (db.storageTrieHistory.versions key 0).join
  hashedAccounts address := (db.hashedAccountHistory.versions address 0).join
  hashedStorage key := (db.hashedStorageHistory.versions key 0).join.filter nonzero

def History.start (db : ProofsDb) (anchor : NumHash) : History where
  anchor := anchor.number
  initial := db.initialState
  stored := []
  earliest := anchor
  latest := anchor

theorem start_state (db : ProofsDb) (anchor : NumHash) (number : Nat) : (History.start db anchor).stateAt number = db.initialState := by
  simp [History.stateAt, History.start]

theorem start_recorded {κ ν : Type} [LinearOrder κ] (visible : ν → Bool) (table : HistoryTable κ ν) (keysOf : ChangeSet → List κ)
    (changeSets : Table Nat ChangeSet) (anchor : Nat) (state : Nat → κ → Option ν)
    (rows : ∀ key version, (table.versions key version).isSome → version = 0) (unnamed : ∀ number, changeSets.get number = none)
    (same : ∀ key, state anchor key = (table.versions key 0).join.filter visible) :
    Recorded visible table (Named changeSets keysOf) anchor anchor state := by
  refine ⟨fun key version stored => ?_, fun key version above => ?_, fun block key since upTo => ?_⟩
  · rw [rows key version stored]
    exact Nat.zero_le _
  · constructor
    · intro stored
      have := rows key version stored
      omega
    · rintro ⟨changeSet, stored, _⟩
      cases (unnamed version).symm.trans stored
  · have here : block = anchor := by omega
    have gap : ∀ later, 0 < later → later ≤ block → table.versions key later = none := by
      intro later positive _
      rw [← Option.not_isSome_iff_eq_none]
      intro stored
      have := rows key later stored
      omega
    rw [live, latest_eq_of_gap _ 0 block (Nat.zero_le _) gap, here, same]
    rfl

theorem initial_refines (db : ProofsDb) (anchor : NumHash) (initial : InitialStore db anchor) : Refines db (History.start db anchor) := by
  refine ⟨initial.earliest, ?_, Nat.le_refl _, Nat.le_refl _, rfl, fun number => ?_, ?_, ?_, ?_, ?_⟩
  · rw [latestBlockNumberHash, initial.latest, initial.earliest]
    rfl
  · rw [initial.changeSets]
    simp [History.start]
  · exact start_recorded _ _ _ _ _ _ initial.accountTrie initial.changeSets (fun key => by rw [start_state]; exact (filter_visible _).symm)
  · exact start_recorded _ _ _ _ _ _ initial.storageTrie initial.changeSets (fun key => by rw [start_state]; exact (filter_visible _).symm)
  · exact start_recorded _ _ _ _ _ _ initial.hashedAccounts initial.changeSets (fun key => by rw [start_state]; exact (filter_visible _).symm)
  · exact start_recorded _ _ _ _ _ _ initial.hashedStorage initial.changeSets (fun key => by rw [start_state]; rfl)

def accountTrieEntries (db : ProofsDb) (block : Nat) : List (Nibbles × BranchNodeCompact) :=
  drain BlockNumberVersionedCursor.next (db.accountTrieHistory.rows.length + 2) (BlockNumberVersionedCursor.new db.accountTrieHistory block)

def hashedAccountEntries (db : ProofsDb) (block : Nat) : List (B256 × Account) :=
  drain BlockNumberVersionedCursor.next (db.hashedAccountHistory.rows.length + 2) (BlockNumberVersionedCursor.new db.hashedAccountHistory block)

-- The cursors opened at a block read a state: looked up key by key, sought from
-- any key, and walked from the start to the end.
structure Serves (db : ProofsDb) (block : Nat) (state : ProofState) : Prop where
  accountTrieExact : ∀ path, ((BlockNumberVersionedCursor.new db.accountTrieHistory block).seekExact path).1 =
    (state.accountTrie path).map (fun node => (path, node))
  accountTrieSeek : ∀ path, FirstLive state.accountTrie (fun other => path ≤ other)
    ((BlockNumberVersionedCursor.new db.accountTrieHistory block).seek path).1
  accountTrieWalk : Lists state.accountTrie (fun _ => True) (accountTrieEntries db block)
  storageTrieExact : ∀ address path, ((StorageTrieCursor.new db.storageTrieHistory block (some address)).seekExact path).1 =
    (state.storageTrie (toLex (address, path))).map (fun node => (path, node))
  storageTrieSeek : ∀ address path, FirstLive (fun other => state.storageTrie (toLex (address, other))) (fun other => path ≤ other)
    ((StorageTrieCursor.new db.storageTrieHistory block (some address)).seek path).1
  storageTrieWalk : ∀ address, Lists (fun path => state.storageTrie (toLex (address, path))) (fun _ => True)
    (liveStorageNodes db.storageTrieHistory block address)
  hashedAccountSeek : ∀ address, FirstLive state.hashedAccounts (fun other => address ≤ other)
    ((BlockNumberVersionedCursor.new db.hashedAccountHistory block).seek address).1
  hashedAccountWalk : Lists state.hashedAccounts (fun _ => True) (hashedAccountEntries db block)
  hashedStorageSeek : ∀ address slot, FirstLive (fun other => state.hashedStorage (toLex (address, other))) (fun other => slot ≤ other)
    ((MdbxStorageCursor.new db.hashedStorageHistory block address).seek slot).1
  hashedStorageWalk : ∀ address, Lists (fun slot => state.hashedStorage (toLex (address, slot))) (fun _ => True)
    (liveStorageSlots db.hashedStorageHistory block address)

section Serving

variable (db : ProofsDb) (history : History) (refines : Refines db history) (block : Nat) (since : history.earliest.number ≤ block)
  (upTo : block ≤ history.latest.number)

include refines since upTo

theorem account_trie_view : viewAt db.accountTrieHistory block = (history.stateAt block).accountTrie :=
  funext fun path => (filter_visible _).symm.trans (refines.accountTrie.view block path since upTo)

theorem storage_trie_view : viewAt db.storageTrieHistory block = (history.stateAt block).storageTrie :=
  funext fun key => (filter_visible _).symm.trans (refines.storageTrie.view block key since upTo)

theorem hashed_account_view : viewAt db.hashedAccountHistory block = (history.stateAt block).hashedAccounts :=
  funext fun address => (filter_visible _).symm.trans (refines.hashedAccounts.view block address since upTo)

theorem hashed_storage_view (address : B256) :
    slotView db.hashedStorageHistory block address = fun slot => (history.stateAt block).hashedStorage (toLex (address, slot)) :=
  funext fun slot => refines.hashedStorage.view block (toLex (address, slot)) since upTo

theorem storage_trie_address_view (address : B256) :
    addressView db.storageTrieHistory block address = fun path => (history.stateAt block).storageTrie (toLex (address, path)) :=
  funext fun path => congrFun (storage_trie_view db history refines block since upTo) (toLex (address, path))

theorem refined_serves : Serves db block (history.stateAt block) := by
  have accountTrie := account_trie_view db history refines block since upTo
  have storageTrie := storage_trie_address_view db history refines block since upTo
  have hashedAccounts := hashed_account_view db history refines block since upTo
  have hashedStorage := hashed_storage_view db history refines block since upTo
  refine ⟨fun path => ?_, fun path => ?_, ?_, fun address path => ?_, fun address path => ?_, fun address => ?_, fun address => ?_, ?_,
    fun address slot => ?_, fun address => ?_⟩
  · rw [← accountTrie]
    exact ((BlockNumberVersionedCursor.new db.accountTrieHistory block).seek_exact_view path).1
  · rw [← accountTrie]
    exact (new_seek db.accountTrieHistory block path).1
  · rw [← accountTrie]
    exact lists_all _ _ _ bottom_path (drain_table db.accountTrieHistory block bottom_path)
  · have found := ((BlockNumberVersionedCursor.new db.storageTrieHistory block).seek_exact_view (toLex (address, path))).1
    change ofAddress address ((BlockNumberVersionedCursor.new db.storageTrieHistory block).seekExact (toLex (address, path))).1 = _
    rw [found, ← congrFun (storageTrie address) path]
    change ofAddress address ((addressView db.storageTrieHistory block address path).map _) = _
    cases addressView db.storageTrieHistory block address path with
    | none => rfl
    | some node => simp [ofAddress]
  · rw [← storageTrie]
    exact (address_seek db.storageTrieHistory block address path).1
  · rw [← storageTrie]
    exact lists_all _ _ _ bottom_path (drain_storage_trie db.storageTrieHistory block address)
  · rw [← hashedAccounts]
    exact (new_seek db.hashedAccountHistory block address).1
  · rw [← hashedAccounts]
    exact lists_all _ _ _ bottom_hash (drain_table db.hashedAccountHistory block bottom_hash)
  · rw [← hashedStorage]
    exact (hashed_storage_seek db.hashedStorageHistory block address slot).1
  · rw [← hashedStorage]
    exact lists_all _ _ _ bottom_hash (drain_hashed_storage db.hashedStorageHistory block address)

end Serving

theorem snapshots_follow_diffs (db : ProofsDb) (anchor : NumHash) (initial : InitialStore db anchor) (operations : List StoreOperation)
    (legal : EachAllowed History.commitUpdate LegalOperation (History.start db anchor) operations) :
    ∃ window, (runSteps ProofsDb.commitUpdate db operations).proofWindow = some window ∧
      ∀ block, window.earliest.number ≤ block → block ≤ window.latest.number →
        Serves (runSteps ProofsDb.commitUpdate db operations) block
          ((runSteps History.commitUpdate (History.start db anchor) operations).stateAt block) := by
  have refines := run_refines operations db (History.start db anchor) (initial_refines db anchor initial) legal
  exact ⟨_, refined_window _ _ refines, fun block since upTo => refined_serves _ _ refines block since upTo⟩

section Sample

def emptyDiff : BlockStateDiff where
  accountNodes := Table.empty
  storageTries := Table.empty
  accounts := Table.empty
  storages := Table.empty

def slotDiff (wiped : Bool) (slot : B256) (value : U256) : BlockStateDiff :=
  { emptyDiff with storages := Table.empty.put 1 ⟨Table.empty.put slot value, wiped⟩ }

def sampleAnchor : NumHash :=
  ⟨10, 0xA0⟩

def sampleDb : ProofsDb where
  accountTrieHistory := Table.empty
  storageTrieHistory := Table.empty
  hashedAccountHistory := Table.empty
  hashedStorageHistory := Table.empty.put (toLex (toLex (1, 5), 0)) (some 7)
  blockChangeSet := Table.empty
  earliestBlock := some sampleAnchor
  latestBlock := none

-- The storage is wiped and rewritten, the window moves up, and the block above
-- it is unwound and replaced.
def sampleOperations : List StoreOperation :=
  [.storeTrieUpdates ⟨0xA0, ⟨11, 0xA1⟩⟩ (slotDiff true 6 9), .batchSession [(⟨0xA1, ⟨12, 0xA2⟩⟩, slotDiff false 6 0)] none,
    .pruneEarliestState ⟨0xA0, ⟨11, 0xA1⟩⟩, .unwindHistory ⟨0xA1, ⟨12, 0xA2⟩⟩,
    .replaceUpdates ⟨11, 0xA1⟩ [(⟨0xA1, ⟨12, 0xB2⟩⟩, slotDiff false 8 3)]]

theorem sample_initial : InitialStore sampleDb sampleAnchor := by
  refine ⟨rfl, rfl, fun _ => rfl, fun _ _ stored => (by cases stored), fun _ _ stored => (by cases stored),
    fun _ _ stored => (by cases stored), fun key version stored => ?_⟩
  change (DupTable.versions (Table.empty.put (toLex (toLex (1, 5), 0)) (some 7)) key version).isSome at stored
  rw [versions_put] at stored
  split at stored
  · next same => exact same.2
  · cases stored

theorem snapshots_follow_diffs_sample :
    (∃ window, (runSteps ProofsDb.commitUpdate sampleDb sampleOperations).proofWindow = some window ∧
        ∀ block, window.earliest.number ≤ block → block ≤ window.latest.number →
          Serves (runSteps ProofsDb.commitUpdate sampleDb sampleOperations) block
            ((runSteps History.commitUpdate (History.start sampleDb sampleAnchor) sampleOperations).stateAt block)) ∧
      liveStorageSlots (runSteps ProofsDb.commitUpdate sampleDb sampleOperations).hashedStorageHistory 12 1 = [(6, 9), (8, 3)] :=
  ⟨snapshots_follow_diffs sampleDb sampleAnchor sample_initial sampleOperations (by decide +kernel), by decide +kernel⟩

end Sample

end MorphReth.Proofs
