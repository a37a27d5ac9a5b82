import MorphReth.Proofs.Cursor

set_option autoImplicit false

namespace MorphReth.Proofs

section History

variable {κ σ ν : Type} [LinearOrder κ] [LinearOrder σ]

-- An append goes behind the last row of its key.
def appendDup (table : HistoryTable κ ν) (blockNumber : Nat) (entry : κ × Option ν) : Except MorphProofsStorageError (HistoryTable κ ν) :=
  if (table.last (fun other _ => other = entry.1)).all (fun row => row.subkey < blockNumber) then
    .ok (table.put (toLex (entry.1, blockNumber)) entry.2)
  else .error .databaseError

def deleteDup (table : HistoryTable κ ν) (entry : κ × Nat) : HistoryTable κ ν :=
  match table.first (fun other version => other = entry.1 && entry.2 ≤ version) with
  | none => table
  | some row => if row.subkey = entry.2 then table.delete (toLex entry) else table

def persistHistoryBatch (table : HistoryTable κ ν) (blockNumber : Nat) (items : List (κ × Option ν)) (appendMode : Bool) :
    Except MorphProofsStorageError (HistoryTable κ ν × List κ) :=
  let keys := items.map Prod.fst
  if appendMode then do
    let table ← items.foldlM (fun table entry => appendDup table blockNumber entry) table
    .ok (table, keys)
  else
    let cleared := (keys.map (fun key => (key, 0))).foldl deleteDup table
    .ok ((items.filter (fun entry => entry.2.isSome)).foldl (fun table entry => table.put (toLex (entry.1, blockNumber)) entry.2) cleared, keys)

def deleteDupSorted (table : HistoryTable κ ν) (items : List (κ × Nat)) : HistoryTable κ ν :=
  items.foldl deleteDup table

-- The rows of one key, oldest first, as the deleting cursor meets them.
def prunePrecedingKey (key : κ) (survivorBlock : Nat) : List (DupRow κ (Option ν)) → HistoryTable κ ν → HistoryTable κ ν × Nat
  | [], table => (table, 0)
  | entry :: rest, table =>
      if survivorBlock ≤ entry.subkey then
        if entry.subkey = survivorBlock ∧ entry.value.isNone then (table.delete (toLex (key, entry.subkey)), 1) else (table, 0)
      else
        let pruned := prunePrecedingKey key survivorBlock rest (table.delete (toLex (key, entry.subkey)))
        (pruned.1, pruned.2 + 1)

def dupsOf (table : HistoryTable κ ν) (key : κ) : List (DupRow κ (Option ν)) :=
  (table.rows.filter (fun entry => (ofLex entry.1).1 = key)).map DupTable.row

def pruneHistoryPreceding (table : HistoryTable κ ν) (cutoffItems : List (κ × Nat)) : HistoryTable κ ν × Nat :=
  cutoffItems.foldl (fun state item =>
    let pruned := prunePrecedingKey item.1 item.2 (dupsOf state.1 item.1) state.1
    (pruned.1, state.2 + pruned.2)) (table, 0)

-- The live entries come first and the block's own entries over them.
def overlay (liveEntries : List (σ × ν)) (newEntries : List (σ × Option ν)) : Table σ (Option ν) :=
  newEntries.foldl (fun merged entry => merged.put entry.1 entry.2)
    (liveEntries.foldl (fun merged entry => merged.put entry.1 none) Table.empty)

def inAddress (hashedAddress : B256) (entries : List (σ × Option ν)) : List (AddressKey σ × Option ν) :=
  entries.map (fun entry => (toLex (hashedAddress, entry.1), entry.2))

def wipeAndOverlay (table : HistoryTable (AddressKey σ) ν) (blockNumber : Nat) (hashedAddress : B256) (liveEntries : List (σ × ν))
    (newEntries : List (σ × Option ν)) : Except MorphProofsStorageError (HistoryTable (AddressKey σ) ν × List (AddressKey σ)) :=
  let merged := inAddress hashedAddress (overlay liveEntries newEntries).rows
  do
    let table ← merged.foldlM (fun table entry => appendDup table blockNumber entry) table
    .ok (table, merged.map Prod.fst)

-- One address of a diff: what it deletes first and what it writes.
structure AddressUpdate (σ ν : Type) where
  hashedAddress : B256
  wiped : Bool
  entries : List (σ × Option ν)

def storeAddress (liveEntries : HistoryTable (AddressKey σ) ν → Nat → B256 → List (σ × ν)) (blockNumber : Nat) (appendMode : Bool)
    (state : HistoryTable (AddressKey σ) ν × List (AddressKey σ)) (update : AddressUpdate σ ν) :
    Except MorphProofsStorageError (HistoryTable (AddressKey σ) ν × List (AddressKey σ)) := do
  let stored ←
    if appendMode && update.wiped then
      wipeAndOverlay state.1 blockNumber update.hashedAddress (liveEntries state.1 (blockNumber - 1) update.hashedAddress) update.entries
    else
      persistHistoryBatch state.1 blockNumber (inAddress update.hashedAddress update.entries) appendMode
  .ok (stored.1, state.2 ++ stored.2)

def storeAddresses (liveEntries : HistoryTable (AddressKey σ) ν → Nat → B256 → List (σ × ν)) (table : HistoryTable (AddressKey σ) ν)
    (blockNumber : Nat) (updates : List (AddressUpdate σ ν)) (appendMode : Bool) :
    Except MorphProofsStorageError (HistoryTable (AddressKey σ) ν × List (AddressKey σ)) :=
  updates.foldlM (storeAddress liveEntries blockNumber appendMode) (table, [])

end History

-- The loop reads until the cursor reports the end, which is at the latest
-- after every row.
def liveStorageNodes (table : HistoryTable StorageTrieKey BranchNodeCompact) (block : Nat) (hashedAddress : B256) :
    List (Nibbles × BranchNodeCompact) :=
  drain StorageTrieCursor.next (table.rows.length + 2) (StorageTrieCursor.new table block (some hashedAddress))

def liveStorageSlots (table : HistoryTable HashedStorageKey U256) (block : Nat) (hashedAddress : B256) : List (B256 × U256) :=
  drain MdbxStorageCursor.next (table.rows.length + 2) (MdbxStorageCursor.new table block hashedAddress)

def BlockStateDiff.storageTrieUpdates (diff : BlockStateDiff) : List (AddressUpdate Nibbles BranchNodeCompact) :=
  diff.storageTries.rows.map (fun entry => ⟨entry.1, entry.2.isDeleted, entry.2.storageNodes.rows⟩)

def BlockStateDiff.hashedStorageUpdates (diff : BlockStateDiff) : List (AddressUpdate B256 U256) :=
  diff.storages.rows.map (fun entry => ⟨entry.1, entry.2.wiped, entry.2.storageSlots.rows.map (fun slot => (slot.1, some slot.2))⟩)

def storeTrieUpdatesForBlock (db : ProofsDb) (blockNumber : Nat) (diff : BlockStateDiff) (appendMode : Bool) :
    Except MorphProofsStorageError (ProofsDb × ChangeSet) := do
  let accountTrie ← persistHistoryBatch db.accountTrieHistory blockNumber diff.accountNodes.rows appendMode
  let hashedAccount ← persistHistoryBatch db.hashedAccountHistory blockNumber diff.accounts.rows appendMode
  let storageTrie ← storeAddresses liveStorageNodes db.storageTrieHistory blockNumber diff.storageTrieUpdates appendMode
  let hashedStorage ← storeAddresses liveStorageSlots db.hashedStorageHistory blockNumber diff.hashedStorageUpdates appendMode
  .ok
    ({ db with
        accountTrieHistory := accountTrie.1, hashedAccountHistory := hashedAccount.1, storageTrieHistory := storageTrie.1,
        hashedStorageHistory := hashedStorage.1 },
      ⟨accountTrie.2, storageTrie.2, hashedAccount.2, hashedStorage.2⟩)

def ChangeSet.counts (changeSet : ChangeSet) : WriteCounts where
  accountTrieUpdatesWrittenTotal := changeSet.accountTrieKeys.length
  storageTrieUpdatesWrittenTotal := changeSet.storageTrieKeys.length
  hashedAccountsWrittenTotal := changeSet.hashedAccountKeys.length
  hashedStoragesWrittenTotal := changeSet.hashedStorageKeys.length

namespace ProofsDb

def latestBlockNumberHash (db : ProofsDb) : Option NumHash :=
  db.latestBlock.or db.earliestBlock

structure ProofWindowValue where
  earliest : NumHash
  latest : NumHash

def proofWindow (db : ProofsDb) : Option ProofWindowValue :=
  db.earliestBlock.map (fun earliest => ⟨earliest, db.latestBlock.getD earliest⟩)

-- Change sets are appended in block order.
def appendChangeSet (table : Table Nat ChangeSet) (blockNumber : Nat) (changeSet : ChangeSet) :
    Except MorphProofsStorageError (Table Nat ChangeSet) :=
  if table.rows.all (fun row => row.1 < blockNumber) then .ok (table.put blockNumber changeSet) else .error .databaseError

def storeTrieUpdatesAppendOnly (db : ProofsDb) (blockRef : BlockWithParent) (diff : BlockStateDiff) :
    Except MorphProofsStorageError (ProofsDb × WriteCounts) :=
  let latestBlockHash := db.latestBlockNumberHash.elim 0 NumHash.hash
  if latestBlockHash ≠ blockRef.parent then .error (.outOfOrder blockRef.block.number blockRef.parent latestBlockHash)
  else do
    let written ← storeTrieUpdatesForBlock db blockRef.block.number diff true
    let changeSets ← appendChangeSet written.1.blockChangeSet blockRef.block.number written.2
    .ok ({ written.1 with blockChangeSet := changeSets, latestBlock := some blockRef.block }, written.2.counts)

structure PrunePlan where
  earliestBlock : Nat
  accSurvivors : List (Nibbles × Nat)
  storageSurvivors : List (StorageTrieKey × Nat)
  hashedAccSurvivors : List (B256 × Nat)
  hashedStorageSurvivors : List (HashedStorageKey × Nat)

-- Backwards from the first key not below the start, or from the last row when
-- there is none.
def walkBack {α : Type} (table : Table Nat α) (start : Nat) : List (Nat × α) :=
  match table.rows.find? (fun row => start ≤ row.1) with
  | some first => (table.rows.filter (fun row => row.1 ≤ first.1)).reverse
  | none => table.rows.reverse

-- A key keeps the block at which the backward walk meets it first.
def orInsert {κ : Type} [LinearOrder κ] (blockNumber : Nat) (candidates : Table κ Nat) (key : κ) : Table κ Nat :=
  if (candidates.get key).isSome then candidates else candidates.put key blockNumber

def survivors {κ : Type} [LinearOrder κ] (keysOf : ChangeSet → List κ) (walked : List (Nat × ChangeSet)) : List (κ × Nat) :=
  (walked.foldl (fun candidates row => (keysOf row.2).foldl (orInsert row.1) candidates) Table.empty).rows

def calculatePrunePlan (db : ProofsDb) (targetBlock : Nat) : Except MorphProofsStorageError (Option PrunePlan) :=
  match db.proofWindow with
  | none => .ok none
  | some window =>
      if window.latest.number < targetBlock then .error (.pruneBeyondLatest targetBlock window.latest.number)
      else if targetBlock ≤ window.earliest.number then .ok none
      else
        let walked := (walkBack db.blockChangeSet targetBlock).takeWhile (fun row => window.earliest.number < row.1)
        .ok (some
          ⟨window.earliest.number, survivors ChangeSet.accountTrieKeys walked, survivors ChangeSet.storageTrieKeys walked,
            survivors ChangeSet.hashedAccountKeys walked, survivors ChangeSet.hashedStorageKeys walked⟩)

def deleteChangeSets (table : Table Nat ChangeSet) (inRange : Nat → Bool) : Table Nat ChangeSet :=
  ((table.rows.map Prod.fst).filter inRange).foldl Table.delete table

def pruneEarliestState (db : ProofsDb) (newEarliestBlockRef : BlockWithParent) : Except MorphProofsStorageError (ProofsDb × WriteCounts) := do
  let targetBlock := newEarliestBlockRef.block.number
  match ← db.calculatePrunePlan targetBlock with
  | none => .ok (db, ⟨0, 0, 0, 0⟩)
  | some plan =>
      let accountTrie := pruneHistoryPreceding db.accountTrieHistory plan.accSurvivors
      let storageTrie := pruneHistoryPreceding db.storageTrieHistory plan.storageSurvivors
      let hashedAccount := pruneHistoryPreceding db.hashedAccountHistory plan.hashedAccSurvivors
      let hashedStorage := pruneHistoryPreceding db.hashedStorageHistory plan.hashedStorageSurvivors
      .ok
        ({ db with
            accountTrieHistory := accountTrie.1, storageTrieHistory := storageTrie.1, hashedAccountHistory := hashedAccount.1,
            hashedStorageHistory := hashedStorage.1,
            blockChangeSet := deleteChangeSets db.blockChangeSet (fun number => plan.earliestBlock + 1 ≤ number && number ≤ targetBlock),
            earliestBlock := some newEarliestBlockRef.block },
          ⟨accountTrie.2, storageTrie.2, hashedAccount.2, hashedStorage.2⟩)

-- The versions that the change sets of a block range name, in key order.
def collectHistory {κ : Type} [LinearOrder κ] (keysOf : ChangeSet → List κ) (changeSets : List (Nat × ChangeSet)) : List (κ × Nat) :=
  ((changeSets.flatMap (fun row => (keysOf row.2).map (fun key => toLex (key, row.1)))).insertionSort (fun left right => left ≤ right)).map ofLex

def deleteHistoryFrom (db : ProofsDb) (start : Nat) : ProofsDb :=
  let changeSets := db.blockChangeSet.seek start
  { db with
    accountTrieHistory := deleteDupSorted db.accountTrieHistory (collectHistory ChangeSet.accountTrieKeys changeSets)
    storageTrieHistory := deleteDupSorted db.storageTrieHistory (collectHistory ChangeSet.storageTrieKeys changeSets)
    hashedAccountHistory := deleteDupSorted db.hashedAccountHistory (collectHistory ChangeSet.hashedAccountKeys changeSets)
    hashedStorageHistory := deleteDupSorted db.hashedStorageHistory (collectHistory ChangeSet.hashedStorageKeys changeSets)
    blockChangeSet := deleteChangeSets db.blockChangeSet (fun number => start ≤ number) }

def unwindHistory (db : ProofsDb) (unwindTo : BlockWithParent) : Except MorphProofsStorageError ProofsDb :=
  match db.proofWindow with
  | none => .ok db
  | some window =>
      if window.latest.number < unwindTo.block.number then .ok db
      else if unwindTo.block.number ≤ window.earliest.number then .error (.unwindBeyondEarliest unwindTo.block.number window.earliest.number)
      else .ok { db.deleteHistoryFrom unwindTo.block.number with latestBlock := some ⟨unwindTo.block.number - 1, unwindTo.parent⟩ }

def storeAll (db : ProofsDb) (blocks : List (BlockWithParent × BlockStateDiff)) : Except MorphProofsStorageError ProofsDb :=
  blocks.foldlM (fun db block => (db.storeTrieUpdatesAppendOnly block.1 block.2).map Prod.fst) db

def sortBlocks (blocks : List (BlockWithParent × BlockStateDiff)) : List (BlockWithParent × BlockStateDiff) :=
  blocks.insertionSort (fun left right => left.1.block.number ≤ right.1.block.number)

def replaceUpdates (db : ProofsDb) (latestCommonBlock : NumHash) (blocksToAdd : List (BlockWithParent × BlockStateDiff)) :
    Except MorphProofsStorageError ProofsDb :=
  { db.deleteHistoryFrom (latestCommonBlock.number + 1) with latestBlock := some latestCommonBlock }.storeAll (sortBlocks blocksToAdd)

end ProofsDb

-- A batch session stages its blocks in one transaction; the caller's closure
-- may still fail after them.
inductive StoreOperation where
  | storeTrieUpdates (blockRef : BlockWithParent) (diff : BlockStateDiff)
  | batchSession (blocks : List (BlockWithParent × BlockStateDiff)) (failure : Option MorphProofsStorageError)
  | pruneEarliestState (newEarliestBlockRef : BlockWithParent)
  | unwindHistory (unwindTo : BlockWithParent)
  | replaceUpdates (latestCommonBlock : NumHash) (blocksToAdd : List (BlockWithParent × BlockStateDiff))

namespace ProofsDb

def update (db : ProofsDb) : StoreOperation → Except MorphProofsStorageError ProofsDb
  | .storeTrieUpdates blockRef diff => (db.storeTrieUpdatesAppendOnly blockRef diff).map Prod.fst
  | .batchSession blocks failure => do
      let staged ← db.storeAll blocks
      failure.elim (.ok staged) .error
  | .pruneEarliestState blockRef => (db.pruneEarliestState blockRef).map Prod.fst
  | .unwindHistory unwindTo => db.unwindHistory unwindTo
  | .replaceUpdates common blocks => db.replaceUpdates common blocks

-- A transaction that fails is dropped.
def commitUpdate (db : ProofsDb) (operation : StoreOperation) : ProofsDb :=
  match db.update operation with
  | .ok updated => updated
  | .error _ => db

end ProofsDb

end MorphReth.Proofs
