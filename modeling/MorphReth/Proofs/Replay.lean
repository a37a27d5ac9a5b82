import MorphReth.Proofs.Reachable

set_option autoImplicit false

namespace MorphReth.Proofs

open ProofsDb

section Updates

variable {κ ν : Type} [LinearOrder κ]

-- Updated nodes and removed nodes before they are sorted together; where both
-- name a path the update wins.
structure NodeUpdates (κ ν : Type) [LinearOrder κ] where
  nodes : Table κ ν
  removed : Table κ Unit

def NodeUpdates.new : NodeUpdates κ ν where
  nodes := Table.empty
  removed := Table.empty

def NodeUpdates.record (updates : NodeUpdates κ ν) (key : κ) : Option ν → NodeUpdates κ ν
  | some value => { updates with nodes := updates.nodes.put key value }
  | none => { updates with removed := updates.removed.put key () }

def NodeUpdates.intoSorted (updates : NodeUpdates κ ν) : Table κ (Option ν) :=
  Table.putAll Prod.fst (fun row => some row.2) updates.nodes.rows (Table.putAll Prod.fst (fun _ => none) updates.removed.rows Table.empty)

-- The version of exactly this block.
def entryAt (table : HistoryTable κ ν) (key : κ) (blockNumber : Nat) (missing : MorphProofsStorageError) :
    Except MorphProofsStorageError (Option ν) :=
  match table.first (fun other version => other = key && blockNumber ≤ version) with
  | some row => if row.subkey = blockNumber then .ok row.value else .error missing
  | none => .error missing

def readEntries {σ : Type} (table : HistoryTable κ ν) (blockNumber : Nat) (missing : κ → MorphProofsStorageError)
    (insert : σ → κ → Option ν → σ) (keys : List κ) (start : σ) : Except MorphProofsStorageError σ :=
  keys.foldlM (fun state key => do
    let entry ← entryAt table key blockNumber (missing key)
    .ok (insert state key entry)) start

end Updates

-- The storage updates of an address are never marked deleted, nor its storage
-- wiped: a wipe was written out as tombstones.
def insertStorageNode (tries : Table B256 (NodeUpdates Nibbles BranchNodeCompact)) (key : StorageTrieKey) (entry : Option BranchNodeCompact) :
    Table B256 (NodeUpdates Nibbles BranchNodeCompact) :=
  tries.put (ofLex key).1 (((tries.get (ofLex key).1).getD NodeUpdates.new).record (ofLex key).2 entry)

def insertSlot (storages : Table B256 (Table B256 U256)) (key : HashedStorageKey) (entry : Option U256) : Table B256 (Table B256 U256) :=
  storages.put (ofLex key).1 (((storages.get (ofLex key).1).getD Table.empty).put (ofLex key).2 (entry.getD 0))

def ProofsDb.fetchTrieUpdates (db : ProofsDb) (blockNumber : Nat) : Except MorphProofsStorageError BlockStateDiff := do
  let changeSet ← (db.blockChangeSet.get blockNumber).elim (.error (.noChangeSetForBlock blockNumber)) .ok
  let accountNodes ← readEntries db.accountTrieHistory blockNumber (fun path => .missingAccountTrieHistory path blockNumber) NodeUpdates.record
    changeSet.accountTrieKeys NodeUpdates.new
  let storageTries ← readEntries db.storageTrieHistory blockNumber
    (fun key => .missingStorageTrieHistory (ofLex key).1 (ofLex key).2 blockNumber) insertStorageNode changeSet.storageTrieKeys Table.empty
  let accounts ← readEntries db.hashedAccountHistory blockNumber (fun key => .missingHashedAccountHistory key blockNumber) Table.put
    changeSet.hashedAccountKeys Table.empty
  let storages ← readEntries db.hashedStorageHistory blockNumber
    (fun key => .missingHashedStorageHistory (ofLex key).1 (ofLex key).2 blockNumber) insertSlot changeSet.hashedStorageKeys Table.empty
  .ok
    { accountNodes := accountNodes.intoSorted
      storageTries := storageTries.mapValues (fun updates => ⟨false, updates.intoSorted⟩)
      accounts := accounts
      storages := storages.mapValues (fun slots => ⟨slots, false⟩) }

def ProofsDb.viewState (db : ProofsDb) (block : Nat) : ProofState where
  accountTrie path := viewAt db.accountTrieHistory block path
  storageTrie key := viewAt db.storageTrieHistory block key
  hashedAccounts address := viewAt db.hashedAccountHistory block address
  hashedStorage key := (viewAt db.hashedStorageHistory block key).filter nonzero

section Reads

variable {κ ν σ α : Type} [LinearOrder κ]

theorem entry_at_present (table : HistoryTable κ ν) (key : κ) (block : Nat) (missing : MorphProofsStorageError) (value : Option ν)
    (stored : table.versions key block = some value) : entryAt table key block missing = .ok value := by
  rw [entryAt]
  cases found : table.first (fun other version => decide (other = key) && decide (block ≤ version)) with
  | none => cases (table.first_none _ found key block (by simp)).symm.trans stored
  | some row =>
      obtain ⟨rowStored, passes, least⟩ := table.first_some _ _ found
      rw [Bool.and_eq_true, decide_eq_true_eq, decide_eq_true_eq] at passes
      have exactly : row.subkey = block := by
        cases least key block value stored (by simp) with
        | inl less => exact absurd passes.1 (ne_of_lt less)
        | inr same => exact Nat.le_antisymm same.2 passes.2
      rw [passes.1, exactly, stored] at rowStored
      simp only [exactly, if_true, Option.some.inj rowStored]

-- Each key with the version it has at the block.
def insertAll (insert : σ → κ → Option ν → σ) (versions : κ → Option (Option ν)) (keys : List κ) (start : σ) : σ :=
  keys.foldl (fun state key => insert state key ((versions key).getD none)) start

theorem read_entries_present (table : HistoryTable κ ν) (block : Nat) (missing : κ → MorphProofsStorageError)
    (insert : σ → κ → Option ν → σ) (keys : List κ) (listed : ∀ key, (table.versions key block).isSome ↔ key ∈ keys) (start : σ) :
    readEntries table block missing insert keys start = .ok (insertAll insert (fun key => table.versions key block) keys start) := by
  have present : ∀ key ∈ keys, (table.versions key block).isSome := fun key => (listed key).mpr
  clear listed
  induction keys generalizing start with
  | nil => rfl
  | cons key rest ih =>
      obtain ⟨value, stored⟩ := Option.isSome_iff_exists.mp (present key List.mem_cons_self)
      rw [readEntries, List.foldlM_cons, entry_at_present table key block (missing key) value stored, insertAll, List.foldl_cons, stored,
        Option.getD_some]
      exact ih (insert start key value) (fun later member => present later (List.mem_cons_of_mem key member))

-- What can be looked up afterwards, where an inserted entry goes before what
-- was there.
theorem look_inserted (look : σ → κ → Option α) (insert : σ → κ → Option ν → σ) (kept : Option ν → Option α)
    (inserted : ∀ state key entry other, look (insert state key entry) other =
      if other = key then (kept entry).or (look state other) else look state other)
    (versions : κ → Option (Option ν)) (keys : List κ) (start : σ) (other : κ) :
    (other ∉ keys → look (insertAll insert versions keys start) other = look start other) ∧
      (other ∈ keys → look (insertAll insert versions keys start) other = (kept ((versions other).getD none)).or (look start other)) := by
  induction keys generalizing start with
  | nil => exact ⟨fun _ => rfl, fun member => (by cases member)⟩
  | cons key rest ih =>
      have first := inserted start key ((versions key).getD none) other
      obtain ⟨absent, present⟩ := ih (insert start key ((versions key).getD none))
      change (_ → look (insertAll insert versions rest _) other = _) ∧ (_ → look (insertAll insert versions rest _) other = _)
      constructor
      · intro outside
        rw [List.mem_cons, not_or] at outside
        rw [absent outside.2, first, if_neg outside.1]
      · intro member
        by_cases later : other ∈ rest
        · rw [present later, first]
          by_cases same : other = key
          · rw [if_pos same, same, ← Option.or_assoc, Option.or_self]
          · rw [if_neg same]
        · have same : other = key := (List.mem_cons.mp member).resolve_right later
          rw [absent later, first, if_pos same, same]

theorem look_listed (look : σ → κ → Option α) (insert : σ → κ → Option ν → σ) (kept : Option ν → Option α)
    (inserted : ∀ state key entry other, look (insert state key entry) other =
      if other = key then (kept entry).or (look state other) else look state other)
    (versions : κ → Option (Option ν)) (keys : List κ) (listed : ∀ key, (versions key).isSome ↔ key ∈ keys) (start : σ) (other : κ)
    (nothing : look start other = none) : look (insertAll insert versions keys start) other = (versions other).bind kept := by
  obtain ⟨absent, present⟩ := look_inserted look insert kept inserted versions keys start other
  cases found : versions other with
  | none => exact (absent (fun member => by simpa [found] using (listed other).mpr member)).trans nothing
  | some value =>
      rw [present ((listed other).mp (by rw [found]; rfl)), nothing, Option.or_none, found]
      rfl

theorem into_sorted_get (updates : NodeUpdates κ ν) (key : κ) :
    updates.intoSorted.get key = ((updates.nodes.get key).map some).or ((updates.removed.get key).map (fun _ => none)) := by
  have removed : (Table.putAll Prod.fst (fun _ => (none : Option ν)) updates.removed.rows Table.empty).get key =
      (updates.removed.get key).map (fun _ => none) := by
    rw [Table.get_put_all Prod.fst _ updates.removed.rows Table.empty key ((updates.removed.get key).map (fun _ => none)), Table.get_empty,
      Option.or_none]
    intro hit
    simp only [Option.map_eq_some_iff, Table.get_eq_some, Prod.exists]
    exact ⟨fun ⟨mark, member, same⟩ => ⟨key, mark, member, rfl, same⟩, fun ⟨_, mark, member, sameKey, same⟩ => ⟨mark, sameKey ▸ member, same⟩⟩
  rw [NodeUpdates.intoSorted, Table.get_put_all Prod.fst _ updates.nodes.rows _ key ((updates.nodes.get key).map some), removed]
  intro hit
  simp only [Option.map_eq_some_iff, Table.get_eq_some, Prod.exists]
  exact ⟨fun ⟨value, member, same⟩ => ⟨key, value, member, rfl, same⟩, fun ⟨_, value, member, sameKey, same⟩ => ⟨value, sameKey ▸ member, same⟩⟩

def removedMark (entry : Option ν) : Option Unit :=
  if entry.isNone then some () else none

theorem record_nodes (updates : NodeUpdates κ ν) (key : κ) (entry : Option ν) (other : κ) :
    (updates.record key entry).nodes.get other = if other = key then entry.or (updates.nodes.get other) else updates.nodes.get other := by
  cases entry with
  | none => simp [NodeUpdates.record]
  | some value => simp [NodeUpdates.record, Table.get_put]

theorem record_removed (updates : NodeUpdates κ ν) (key : κ) (entry : Option ν) (other : κ) :
    (updates.record key entry).removed.get other =
      if other = key then (removedMark entry).or (updates.removed.get other) else updates.removed.get other := by
  cases entry with
  | none => simp [NodeUpdates.record, removedMark, Table.get_put]
  | some value => simp [NodeUpdates.record, removedMark]

-- An entry is either updated or removed.
theorem updated_or_removed (entry : Option (Option ν)) :
    ((entry.bind id).map some).or ((entry.bind removedMark).map (fun _ => none)) = entry := by
  cases entry with
  | none => rfl
  | some value => cases value <;> rfl

theorem nodes_read (versions : κ → Option (Option ν)) (keys : List κ) (listed : ∀ key, (versions key).isSome ↔ key ∈ keys) (key : κ) :
    (insertAll NodeUpdates.record versions keys NodeUpdates.new).intoSorted.get key = versions key := by
  rw [into_sorted_get,
    look_listed (fun updates key => updates.nodes.get key) NodeUpdates.record id record_nodes versions keys listed NodeUpdates.new key rfl,
    look_listed (fun updates key => updates.removed.get key) NodeUpdates.record removedMark record_removed versions keys listed
      NodeUpdates.new key rfl]
  exact updated_or_removed (versions key)

theorem table_read (versions : κ → Option (Option ν)) (keys : List κ) (listed : ∀ key, (versions key).isSome ↔ key ∈ keys) (key : κ) :
    (insertAll Table.put versions keys Table.empty).get key = versions key := by
  rw [look_listed (fun table key => table.get key) Table.put some (fun table key entry other => Table.get_put table key entry other) versions keys
    listed Table.empty key rfl]
  exact Option.bind_fun_some (versions key)

-- Reading one block further takes the block's own version where there is one.
theorem view_replayed (table : HistoryTable κ ν) (block : Nat) (key : κ) :
    viewAt table (block + 1) key = (table.versions key (block + 1)).getD (viewAt table block key) := by
  rw [viewAt, latest, viewAt]
  cases table.versions key (block + 1) with
  | none => rfl
  | some value => rfl

end Reads

section Addresses

variable {σ τ ν α : Type} [LinearOrder σ]

-- Inserting below an address, where the address may be new.
theorem look_below_address (fresh : τ) (change : τ → σ → Option ν → τ) (inner : τ → σ → Option α) (kept : Option ν → Option α)
    (nothing : ∀ sub, inner fresh sub = none) (changed : ∀ state sub entry other, inner (change state sub entry) other =
      if other = sub then (kept entry).or (inner state other) else inner state other) (outer : Table B256 τ) (key : AddressKey σ)
    (entry : Option ν) (other : AddressKey σ) :
    ((outer.put (ofLex key).1 (change ((outer.get (ofLex key).1).getD fresh) (ofLex key).2 entry)).get (ofLex other).1).bind
        (fun state => inner state (ofLex other).2) =
      if other = key then (kept entry).or ((outer.get (ofLex other).1).bind (fun state => inner state (ofLex other).2))
      else (outer.get (ofLex other).1).bind (fun state => inner state (ofLex other).2) := by
  have before : inner ((outer.get (ofLex key).1).getD fresh) (ofLex other).2 =
      (outer.get (ofLex key).1).bind (fun state => inner state (ofLex other).2) := by
    cases outer.get (ofLex key).1 with
    | none => exact nothing _
    | some state => rfl
  rw [Table.get_put]
  by_cases address : (ofLex other).1 = (ofLex key).1
  · rw [if_pos address, Option.bind_some, changed, before, address]
    by_cases sub : (ofLex other).2 = (ofLex key).2
    · rw [if_pos sub, if_pos (ofLex_inj.mp (Prod.ext address sub))]
    · rw [if_neg sub, if_neg (fun same => sub (by rw [same]))]
  · rw [if_neg address, if_neg (fun same => address (by rw [same]))]

theorem storage_nodes_read (versions : StorageTrieKey → Option (Option BranchNodeCompact)) (keys : List StorageTrieKey)
    (listed : ∀ key, (versions key).isSome ↔ key ∈ keys) (key : StorageTrieKey) :
    ((insertAll insertStorageNode versions keys Table.empty).get (ofLex key).1).bind (fun updates => updates.intoSorted.get (ofLex key).2) =
      versions key := by
  have nodes := look_listed (fun tries key => (tries.get (ofLex key).1).bind (fun updates => updates.nodes.get (ofLex key).2))
    insertStorageNode id
    (look_below_address NodeUpdates.new NodeUpdates.record (fun updates path => updates.nodes.get path) id (fun _ => rfl) record_nodes)
    versions keys listed Table.empty key rfl
  have removed := look_listed (fun tries key => (tries.get (ofLex key).1).bind (fun updates => updates.removed.get (ofLex key).2))
    insertStorageNode removedMark
    (look_below_address NodeUpdates.new NodeUpdates.record (fun updates path => updates.removed.get path) removedMark (fun _ => rfl) record_removed)
    versions keys listed Table.empty key rfl
  rw [← updated_or_removed (versions key), ← nodes, ← removed]
  cases (insertAll insertStorageNode versions keys Table.empty).get (ofLex key).1 with
  | none => rfl
  | some updates => exact into_sorted_get updates _

theorem slots_read (versions : HashedStorageKey → Option (Option U256)) (keys : List HashedStorageKey)
    (listed : ∀ key, (versions key).isSome ↔ key ∈ keys) (key : HashedStorageKey) :
    ((insertAll insertSlot versions keys Table.empty).get (ofLex key).1).bind (fun slots => slots.get (ofLex key).2) =
      (versions key).bind (fun entry => some (entry.getD 0)) :=
  look_listed (fun storages key => (storages.get (ofLex key).1).bind (fun slots => slots.get (ofLex key).2)) insertSlot
    (fun entry => some (entry.getD 0))
    (look_below_address Table.empty (fun slots slot entry => slots.put slot (entry.getD 0)) (fun slots slot => slots.get slot)
      (fun entry => some (entry.getD 0)) (fun _ => rfl) (fun slots slot entry other => Table.get_put slots slot (entry.getD 0) other))
    versions keys listed Table.empty key rfl

end Addresses

section Fetch

variable (db : ProofsDb) (changeSet : ChangeSet)

-- The rows of a block are exactly the listed ones.
structure ListsBlock (block : Nat) : Prop where
  accountTrie : ∀ key, (db.accountTrieHistory.versions key block).isSome ↔ key ∈ changeSet.accountTrieKeys
  storageTrie : ∀ key, (db.storageTrieHistory.versions key block).isSome ↔ key ∈ changeSet.storageTrieKeys
  hashedAccounts : ∀ key, (db.hashedAccountHistory.versions key block).isSome ↔ key ∈ changeSet.hashedAccountKeys
  hashedStorage : ∀ key, (db.hashedStorageHistory.versions key block).isSome ↔ key ∈ changeSet.hashedStorageKeys

theorem storage_trie_replayed (block : Nat) (tries : Table B256 (NodeUpdates Nibbles BranchNodeCompact)) (key : StorageTrieKey)
    (read : (tries.get (ofLex key).1).bind (fun updates => updates.intoSorted.get (ofLex key).2) = db.storageTrieHistory.versions key (block + 1)) :
    (match (tries.mapValues (fun updates => (⟨false, updates.intoSorted⟩ : StorageTrieUpdatesSorted))).get (ofLex key).1 with
      | none => viewAt db.storageTrieHistory block key
      | some updates => (updates.storageNodes.get (ofLex key).2).getD (if updates.isDeleted then none else viewAt db.storageTrieHistory block key)) =
      viewAt db.storageTrieHistory (block + 1) key := by
  rw [view_replayed, ← read, Table.get_map_values]
  cases tries.get (ofLex key).1 with
  | none => rfl
  | some updates => rfl

-- A tombstone comes back as a zero, which clears the slot.
theorem hashed_storage_replayed (block : Nat) (storages : Table B256 (Table B256 U256)) (key : HashedStorageKey)
    (read : (storages.get (ofLex key).1).bind (fun slots => slots.get (ofLex key).2) =
      (db.hashedStorageHistory.versions key (block + 1)).bind (fun entry => some (entry.getD 0))) :
    (match (storages.mapValues (fun slots => (⟨slots, false⟩ : HashedStorageSorted))).get (ofLex key).1 with
      | none => (viewAt db.hashedStorageHistory block key).filter nonzero
      | some storage =>
          (storage.storageSlots.get (ofLex key).2).elim (if storage.wiped then none else (viewAt db.hashedStorageHistory block key).filter nonzero)
            (fun value => if value = 0 then none else some value)) =
      (viewAt db.hashedStorageHistory (block + 1) key).filter nonzero := by
  have cleared : ∀ entry : Option U256, (if entry.getD 0 = 0 then none else some (entry.getD 0)) = entry.filter nonzero := by
    intro entry
    cases entry with
    | none => rfl
    | some value =>
        rw [Option.filter_some, Option.getD_some, nonzero, decide_not]
        by_cases zero : value = 0
        · rw [if_pos zero, if_neg (by simp [zero])]
        · rw [if_neg zero, if_pos (by simpa using zero)]
  rw [view_replayed, Table.get_map_values]
  cases found : storages.get (ofLex key).1 with
  | none =>
      rw [found] at read
      cases stored : db.hashedStorageHistory.versions key (block + 1) with
      | none => rfl
      | some entry => simp [stored] at read
  | some slots =>
      rw [found, Option.bind_some] at read
      simp only [Option.map_some, read]
      cases db.hashedStorageHistory.versions key (block + 1) with
      | none => rfl
      | some entry => exact cleared entry

theorem replay_listed (block : Nat) (stored : db.blockChangeSet.get (block + 1) = some changeSet)
    (lists : ListsBlock db changeSet (block + 1)) :
    ∃ diff, db.fetchTrieUpdates (block + 1) = .ok diff ∧ (db.viewState block).applyDiff diff = db.viewState (block + 1) := by
  rw [fetchTrieUpdates, stored]
  simp only [Option.elim_some, bind, Except.bind, read_entries_present _ _ _ _ _ lists.accountTrie,
    read_entries_present _ _ _ _ _ lists.storageTrie, read_entries_present _ _ _ _ _ lists.hashedAccounts,
    read_entries_present _ _ _ _ _ lists.hashedStorage]
  refine ⟨_, rfl, ProofState.ext (funext fun path => ?_) (funext fun key => ?_) (funext fun address => ?_) (funext fun key => ?_)⟩
  · simp only [ProofState.applyDiff, viewState, nodes_read _ _ lists.accountTrie, view_replayed]
  · exact storage_trie_replayed db block _ key (storage_nodes_read _ _ lists.storageTrie key)
  · simp only [ProofState.applyDiff, viewState, table_read _ _ lists.hashedAccounts, view_replayed]
  · exact hashed_storage_replayed db block _ key (slots_read _ _ lists.hashedStorage key)

theorem lists_block (history : History) (refines : Refines db history) (block : Nat) (above : history.earliest.number < block)
    (stored : db.blockChangeSet.get block = some changeSet) : ListsBlock db changeSet block := by
  have named : ∀ {κ : Type} (keysOf : ChangeSet → List κ) (key : κ), Named db.blockChangeSet keysOf block key ↔ key ∈ keysOf changeSet := by
    intro κ keysOf key
    simp [Named, stored]
  exact
    { accountTrie := fun key => (refines.accountTrie.listed key block above).trans (named _ key)
      storageTrie := fun key => (refines.storageTrie.listed key block above).trans (named _ key)
      hashedAccounts := fun key => (refines.hashedAccounts.listed key block above).trans (named _ key)
      hashedStorage := fun key => (refines.hashedStorage.listed key block above).trans (named _ key) }

end Fetch

-- The diff of every block of the window above the earliest can be fetched, and
-- replaying it leads from the view before the block to the view at the block.
def DiffsReplay (db : ProofsDb) (earliest latest : Nat) : Prop :=
  (∀ block, earliest < block → block ≤ latest →
    ∃ diff, db.fetchTrieUpdates block = .ok diff ∧ (db.viewState (block - 1)).applyDiff diff = db.viewState block) ∧
    ∀ block, ¬(earliest < block ∧ block ≤ latest) → db.fetchTrieUpdates block = .error (.noChangeSetForBlock block)

theorem stored_diffs_replay (db : ProofsDb) (reachable : Reachable db) :
    ∃ window, db.proofWindow = some window ∧ DiffsReplay db window.earliest.number window.latest.number := by
  obtain ⟨history, refines⟩ := reachable_refines db reachable
  refine ⟨_, refined_window db history refines, ?_, ?_⟩
  · intro block above within
    obtain ⟨changeSet, stored⟩ := Option.isSome_iff_exists.mp ((refines.changeSets block).mpr ⟨above, within⟩)
    obtain ⟨before, rfl⟩ : ∃ before, block = before + 1 := ⟨block - 1, by omega⟩
    exact replay_listed db changeSet before stored (lists_block db changeSet history refines _ above stored)
  · intro block outside
    have missing : db.blockChangeSet.get block = none :=
      Option.not_isSome_iff_eq_none.mp (fun stored => outside ((refines.changeSets block).mp stored))
    rw [fetchTrieUpdates, missing]
    rfl

-- Block 11 wiped the storage: its diff comes back as a tombstone of the slot that
-- was there and the slot written.
theorem stored_diffs_replay_sample :
    ∃ diff, sampleStored.fetchTrieUpdates 11 = .ok diff ∧ (sampleStored.viewState 10).applyDiff diff = sampleStored.viewState 11 ∧
      (diff.storages.get 1).map (fun storage => (storage.storageSlots.rows, storage.wiped)) = some ([(5, 0), (6, 9)], false) := by
  obtain ⟨window, shown, replays, _⟩ := stored_diffs_replay sampleStored stored_reachable
  have recorded : sampleStored.proofWindow = some ⟨⟨10, 0xA0⟩, ⟨12, 0xA2⟩⟩ := rfl
  cases recorded.symm.trans shown
  obtain ⟨diff, fetched, replayed⟩ := replays 11 (by decide) (by decide)
  refine ⟨diff, fetched, replayed, ?_⟩
  have read : (sampleStored.fetchTrieUpdates 11).toOption.map
      (fun diff => (diff.storages.get 1).map (fun storage => (storage.storageSlots.rows, storage.wiped))) =
      some (some ([(5, 0), (6, 9)], false)) := by decide +kernel
  rw [fetched] at read
  exact Option.some.inj read

end MorphReth.Proofs
