import MorphReth.Proofs.Snapshots
import MorphReth.Transactions

set_option autoImplicit false

namespace MorphReth.Proofs

-- The same writer as a program that changes the tables of an open transaction
-- row by row, and leaves what it has written so far when it fails.
abbrev TxMut := EStateM MorphProofsStorageError ProofsDb

namespace TxMut

section Tables

variable {κ σ ν : Type} [LinearOrder κ] [LinearOrder σ]

def appendDup (access : HistoryAccess κ ν) (blockNumber : Nat) (entry : κ × Option ν) : TxMut Unit := do
  let db ← get
  match Proofs.appendDup (access.read db) blockNumber entry with
  | .ok table => set (access.write db table)
  | .error error => throw error

def persistHistoryBatch (access : HistoryAccess κ ν) (blockNumber : Nat) (items : List (κ × Option ν)) : TxMut (List κ) := do
  items.forM (appendDup access blockNumber)
  pure (items.map Prod.fst)

-- The live entries are read in the open transaction, below the rows that the
-- block itself writes.
def wipeAndOverlay (access : HistoryAccess (AddressKey σ) ν) (liveEntries : HistoryTable (AddressKey σ) ν → Nat → B256 → List (σ × ν))
    (blockNumber : Nat) (hashedAddress : B256) (newEntries : List (σ × Option ν)) : TxMut (List (AddressKey σ)) := do
  let db ← get
  let merged := inAddress hashedAddress (overlay (liveEntries (access.read db) (blockNumber - 1) hashedAddress) newEntries).rows
  merged.forM (appendDup access blockNumber)
  pure (merged.map Prod.fst)

def storeAddress (access : HistoryAccess (AddressKey σ) ν) (liveEntries : HistoryTable (AddressKey σ) ν → Nat → B256 → List (σ × ν))
    (blockNumber : Nat) (keys : List (AddressKey σ)) (update : AddressUpdate σ ν) : TxMut (List (AddressKey σ)) := do
  let stored ←
    if update.wiped then wipeAndOverlay access liveEntries blockNumber update.hashedAddress update.entries
    else persistHistoryBatch access blockNumber (inAddress update.hashedAddress update.entries)
  pure (keys ++ stored)

end Tables

def storeTrieUpdatesForBlock (blockNumber : Nat) (diff : BlockStateDiff) : TxMut ChangeSet := do
  let accountTrieKeys ← persistHistoryBatch accountTrieAccess blockNumber diff.accountNodes.rows
  let hashedAccountKeys ← persistHistoryBatch hashedAccountAccess blockNumber diff.accounts.rows
  let storageTrieKeys ← diff.storageTrieUpdates.foldlM (storeAddress storageTrieAccess liveStorageNodes blockNumber) []
  let hashedStorageKeys ← diff.hashedStorageUpdates.foldlM (storeAddress hashedStorageAccess liveStorageSlots blockNumber) []
  pure ⟨accountTrieKeys, storageTrieKeys, hashedAccountKeys, hashedStorageKeys⟩

def appendChangeSet (blockNumber : Nat) (changeSet : ChangeSet) : TxMut Unit := do
  let db ← get
  match ProofsDb.appendChangeSet db.blockChangeSet blockNumber changeSet with
  | .ok changeSets => set { db with blockChangeSet := changeSets }
  | .error error => throw error

def storeTrieUpdatesAppendOnly (blockRef : BlockWithParent) (diff : BlockStateDiff) : TxMut WriteCounts := do
  let latestBlockHash := (← get).latestBlockNumberHash.elim 0 NumHash.hash
  if latestBlockHash ≠ blockRef.parent then throw (.outOfOrder blockRef.block.number blockRef.parent latestBlockHash)
  else
    let changeSet ← storeTrieUpdatesForBlock blockRef.block.number diff
    appendChangeSet blockRef.block.number changeSet
    modify (fun db => { db with latestBlock := some blockRef.block })
    pure changeSet.counts

end TxMut

-- Row by row or as a whole, the writer succeeds on the same blocks with the
-- same tables.
section Computes

variable {κ σ ν : Type} [LinearOrder κ] [LinearOrder σ]

def HistoryAccess.staged (access : HistoryAccess κ ν) (db : ProofsDb) (stored : HistoryTable κ ν × List κ) : List κ × ProofsDb :=
  (stored.2, access.write db stored.1)

variable (access : HistoryAccess κ ν)

theorem staged_write (db : ProofsDb) (table : HistoryTable κ ν) : access.staged (access.write db table) = access.staged db :=
  funext fun stored => by rw [HistoryAccess.staged, HistoryAccess.staged, access.writeWrite]

theorem append_dup_computes (blockNumber : Nat) (entry : κ × Option ν) (db : ProofsDb) :
    Computes (TxMut.appendDup access blockNumber entry) db
      ((appendDup (access.read db) blockNumber entry).map (fun table => ((), access.write db table))) := by
  refine computes_ok_bind get _ db (db, db) _ rfl ?_
  dsimp only
  cases appendDup (access.read db) blockNumber entry with
  | error error => exact ⟨db, rfl⟩
  | ok table => rfl

theorem append_all_computes (blockNumber : Nat) (items : List (κ × Option ν)) (db : ProofsDb) :
    Computes (items.forM (TxMut.appendDup access blockNumber)) db
      ((items.foldlM (fun table entry => appendDup table blockNumber entry) (access.read db)).map (fun table => ((), access.write db table))) := by
  induction items generalizing db with
  | nil =>
      change EStateM.Result.ok () db = .ok () (access.write db (access.read db))
      rw [access.writeRead]
  | cons entry rest ih =>
      rw [List.foldlM_cons, map_bind_ok]
      refine computes_stage _ _ db _ _ _ (append_dup_computes access blockNumber entry db) (fun table _ => ?_)
      simpa only [access.readWrite, access.writeWrite] using ih (access.write db table)

theorem persist_computes (blockNumber : Nat) (items : List (κ × Option ν)) (db : ProofsDb) :
    Computes (TxMut.persistHistoryBatch access blockNumber items) db
      ((persistHistoryBatch (access.read db) blockNumber items true).map (access.staged db)) := by
  rw [persistHistoryBatch, if_pos rfl, map_bind_ok]
  exact computes_stage _ _ db _ _ _ (append_all_computes access blockNumber items db) (fun _ _ => rfl)

theorem extend_keys_computes (work : TxMut (List κ)) (db : ProofsDb) (outcome : Except MorphProofsStorageError (HistoryTable κ ν × List κ))
    (computes : Computes work db (outcome.map (access.staged db))) (keys : List κ) :
    Computes (do let stored ← work; pure (keys ++ stored)) db
      ((do let stored ← outcome; .ok (stored.1, keys ++ stored.2)).map (access.staged db)) := by
  rw [map_bind_ok]
  exact computes_stage _ _ db _ _ _ computes (fun _ _ => rfl)

variable (access : HistoryAccess (AddressKey σ) ν) (liveEntries : HistoryTable (AddressKey σ) ν → Nat → B256 → List (σ × ν)) (blockNumber : Nat)

theorem store_address_computes (keys : List (AddressKey σ)) (update : AddressUpdate σ ν) (db : ProofsDb) :
    Computes (TxMut.storeAddress access liveEntries blockNumber keys update) db
      ((storeAddress liveEntries blockNumber true (access.read db, keys) update).map (access.staged db)) := by
  cases wiped : update.wiped with
  | true =>
      simp only [TxMut.storeAddress, storeAddress, wiped, Bool.and_self, if_true]
      exact extend_keys_computes access _ db _ (persist_computes access blockNumber _ db) keys
  | false =>
      simp only [TxMut.storeAddress, storeAddress, wiped, Bool.and_false, Bool.false_eq_true, if_false]
      exact extend_keys_computes access _ db _ (persist_computes access blockNumber _ db) keys

theorem store_addresses_computes (updates : List (AddressUpdate σ ν)) (keys : List (AddressKey σ)) (db : ProofsDb) :
    Computes (updates.foldlM (TxMut.storeAddress access liveEntries blockNumber) keys) db
      ((updates.foldlM (storeAddress liveEntries blockNumber true) (access.read db, keys)).map (access.staged db)) := by
  induction updates generalizing db keys with
  | nil =>
      change EStateM.Result.ok keys db = .ok keys (access.write db (access.read db))
      rw [access.writeRead]
  | cons update rest ih =>
      rw [List.foldlM_cons, List.foldlM_cons, map_bind_ok]
      refine computes_stage _ _ db _ _ _ (store_address_computes access liveEntries blockNumber keys update db) (fun after _ => ?_)
      have later := ih after.2 (access.write db after.1)
      rw [access.readWrite, staged_write] at later
      exact later

end Computes

theorem store_for_block_computes (blockNumber : Nat) (diff : BlockStateDiff) (db : ProofsDb) :
    Computes (TxMut.storeTrieUpdatesForBlock blockNumber diff) db
      ((storeTrieUpdatesForBlock db blockNumber diff true).map Prod.swap) := by
  simp only [storeTrieUpdatesForBlock, map_bind_ok]
  refine computes_stage _ _ db _ _ _ (persist_computes accountTrieAccess blockNumber _ db) (fun accountTrie _ => ?_)
  refine computes_stage _ _ _ _ _ _ (persist_computes hashedAccountAccess blockNumber _ _) (fun hashedAccount _ => ?_)
  refine computes_stage _ _ _ _ _ _ (store_addresses_computes storageTrieAccess liveStorageNodes blockNumber _ [] _) (fun storageTrie _ => ?_)
  exact computes_stage _ _ _ _ _ _ (store_addresses_computes hashedStorageAccess liveStorageSlots blockNumber _ [] _) (fun _ _ => rfl)

theorem append_change_set_computes (blockNumber : Nat) (changeSet : ChangeSet) (db : ProofsDb) :
    Computes (TxMut.appendChangeSet blockNumber changeSet) db
      ((ProofsDb.appendChangeSet db.blockChangeSet blockNumber changeSet).map
        (fun changeSets => ((), { db with blockChangeSet := changeSets }))) := by
  refine computes_ok_bind get _ db (db, db) _ rfl ?_
  dsimp only
  cases ProofsDb.appendChangeSet db.blockChangeSet blockNumber changeSet with
  | error error => exact ⟨db, rfl⟩
  | ok changeSets => rfl

theorem append_only_computes (block : BlockWithParent × BlockStateDiff) (db : ProofsDb) :
    Computes (TxMut.storeTrieUpdatesAppendOnly block.1 block.2) db ((db.storeTrieUpdatesAppendOnly block.1 block.2).map Prod.swap) := by
  refine computes_ok_bind get _ db (db, db) _ rfl ?_
  rw [ProofsDb.storeTrieUpdatesAppendOnly]
  by_cases child : db.latestBlockNumberHash.elim 0 NumHash.hash = block.1.parent
  · simp only [child, ne_eq, not_true_eq_false, if_false, map_bind_ok]
    refine computes_stage _ _ db _ _ _ (store_for_block_computes block.1.block.number block.2 db) (fun written _ => ?_)
    exact computes_stage _ _ _ _ _ _ (append_change_set_computes block.1.block.number written.2 written.1) (fun _ _ => rfl)
  · simp only [child, ne_eq, not_false_eq_true, if_true]
    exact ⟨db, rfl⟩

-- The session keeps its transaction until it is committed.
structure MdbxBatchSession where
  tx : Option ProofsDb

def MdbxBatchSession.storeTrieUpdates (block : BlockWithParent × BlockStateDiff) :
    EStateM MorphProofsStorageError MdbxBatchSession WriteCounts :=
  fun session =>
    match session.tx with
    | none => .error .batchSessionClosed session
    | some tx =>
        match TxMut.storeTrieUpdatesAppendOnly block.1 block.2 tx with
        | .ok counts staged => .ok counts ⟨some staged⟩
        | .error error staged => .error error ⟨some staged⟩

def withBatchSession {α : Type} (work : EStateM MorphProofsStorageError MdbxBatchSession α) (db : ProofsDb) :
    Except MorphProofsStorageError α × ProofsDb :=
  match work ⟨some db⟩ with
  | .ok result session => (.ok result, session.tx.getD db)
  | .error error _ => (.error error, db)

-- The session of a batch stops at the first block that is refused.
def storeBatch (blocks : List (BlockWithParent × BlockStateDiff)) (db : ProofsDb) :
    Except MorphProofsStorageError (List WriteCounts) × ProofsDb :=
  withBatchSession (blocks.mapM MdbxBatchSession.storeTrieUpdates) db

def storeTrieUpdates (block : BlockWithParent × BlockStateDiff) : TxMut WriteCounts :=
  TxMut.storeTrieUpdatesAppendOnly block.1 block.2

def storeOneByOne (blocks : List (BlockWithParent × BlockStateDiff)) (db : ProofsDb) :
    List (Except MorphProofsStorageError WriteCounts) × ProofsDb :=
  separately storeTrieUpdates blocks db

def TxMut.replaceUpdates (latestCommonBlock : NumHash) (blocksToAdd : List (BlockWithParent × BlockStateDiff)) : TxMut Unit := do
  modify (fun db => db.deleteHistoryFrom (latestCommonBlock.number + 1))
  modify (fun db => { db with latestBlock := some latestCommonBlock })
  let _ ← (ProofsDb.sortBlocks blocksToAdd).mapM storeTrieUpdates

def commitReplace (latestCommonBlock : NumHash) (blocksToAdd : List (BlockWithParent × BlockStateDiff)) (db : ProofsDb) :
    Except MorphProofsStorageError Unit × ProofsDb :=
  transact (TxMut.replaceUpdates latestCommonBlock blocksToAdd) db

variable (blocks : List (BlockWithParent × BlockStateDiff))

theorem session_stores (tx : ProofsDb) :
    (blocks.mapM MdbxBatchSession.storeTrieUpdates) ⟨some tx⟩ =
      match (blocks.mapM storeTrieUpdates) tx with
      | .ok counts staged => .ok counts ⟨some staged⟩
      | .error error staged => .error error ⟨some staged⟩ := by
  induction blocks generalizing tx with
  | nil => rfl
  | cons block rest ih =>
      simp only [List.mapM_cons, bind, EStateM.bind, pure, EStateM.pure, MdbxBatchSession.storeTrieUpdates, storeTrieUpdates]
      cases TxMut.storeTrieUpdatesAppendOnly block.1 block.2 tx with
      | error error staged => rfl
      | ok counts staged =>
          have later := ih staged
          dsimp only
          cases onward : (rest.mapM storeTrieUpdates) staged with
          | error error final =>
              rw [onward] at later
              simp only [later]
          | ok others final =>
              rw [onward] at later
              simp only [later]

theorem store_batch_transacts (db : ProofsDb) : storeBatch blocks db = transact (blocks.mapM storeTrieUpdates) db := by
  rw [storeBatch, withBatchSession, session_stores, transact]
  cases (blocks.mapM storeTrieUpdates) db with
  | error error staged => rfl
  | ok counts staged => rfl

theorem stores_compute (db : ProofsDb) :
    ∃ outcome, Computes (blocks.mapM storeTrieUpdates) db outcome ∧ outcome.map Prod.snd = db.storeAll blocks := by
  induction blocks generalizing db with
  | nil => exact ⟨.ok ([], db), rfl, rfl⟩
  | cons block rest ih =>
      have first : Computes (storeTrieUpdates block) db _ := append_only_computes block db
      rw [List.mapM_cons, ProofsDb.storeAll, List.foldlM_cons]
      cases stored : db.storeTrieUpdatesAppendOnly block.1 block.2 with
      | error error =>
          rw [stored] at first
          exact ⟨.error error, computes_error_bind _ _ db error first, rfl⟩
      | ok written =>
          rw [stored] at first
          obtain ⟨outcome, later, same⟩ := ih written.1
          refine ⟨outcome >>= fun result => .ok (written.2 :: result.1, result.2), ?_, ?_⟩
          · refine computes_ok_bind _ _ db _ _ first ?_
            exact computes_stage _ _ written.1 outcome id _ (by rw [Except.map_id]; exact later) (fun _ _ => rfl)
          · change _ = written.1.storeAll rest
            rw [← same]
            cases outcome with
            | error error => rfl
            | ok result => rfl

-- The batch operation of the store is this session, and a single store is a
-- transaction of its own.
theorem store_batch_commits (db : ProofsDb) : (storeBatch blocks db).2 = db.commitUpdate (.batchSession blocks none) := by
  obtain ⟨outcome, computes, same⟩ := stores_compute blocks db
  rw [store_batch_transacts, transact_computes _ db outcome computes, ProofsDb.commitUpdate, ProofsDb.update, ← same]
  cases outcome with
  | error error => rfl
  | ok result => rfl

theorem store_commits (block : BlockWithParent × BlockStateDiff) (db : ProofsDb) :
    (transact (storeTrieUpdates block) db).2 = db.commitUpdate (.storeTrieUpdates block.1 block.2) := by
  rw [storeTrieUpdates, transact_computes _ db _ (append_only_computes block db), ProofsDb.commitUpdate, ProofsDb.update]
  cases db.storeTrieUpdatesAppendOnly block.1 block.2 with
  | error error => rfl
  | ok stored => rfl

theorem replace_computes (common : NumHash) (blocks : List (BlockWithParent × BlockStateDiff)) (db : ProofsDb) :
    Computes (TxMut.replaceUpdates common blocks) db ((db.replaceUpdates common blocks).map (fun result => ((), result))) := by
  let base : ProofsDb := { db.deleteHistoryFrom (common.number + 1) with latestBlock := some common }
  obtain ⟨outcome, computes, same⟩ := stores_compute (ProofsDb.sortBlocks blocks) base
  rw [ProofsDb.replaceUpdates, ← same]
  refine computes_ok_bind _ _ db ((), db.deleteHistoryFrom (common.number + 1)) _ rfl ?_
  refine computes_ok_bind _ _ _ ((), base) _ rfl ?_
  cases outcome with
  | error error => exact computes_error_bind _ _ base error computes
  | ok result => exact computes_ok_bind _ _ base result _ computes rfl

theorem replace_commits (common : NumHash) (blocks : List (BlockWithParent × BlockStateDiff)) (db : ProofsDb) :
    (commitReplace common blocks db).2 = db.commitUpdate (.replaceUpdates common blocks) := by
  rw [commitReplace, transact_computes _ db _ (replace_computes common blocks db), ProofsDb.commitUpdate, ProofsDb.update]
  cases db.replaceUpdates common blocks with
  | error error => rfl
  | ok result => rfl

theorem batch_session_equals_stores (db : ProofsDb) (blocks : List (BlockWithParent × BlockStateDiff)) :
    (∀ counts, (storeBatch blocks db).1 = .ok counts ↔ (storeOneByOne blocks db).1 = counts.map .ok) ∧
      (∀ counts, (storeBatch blocks db).1 = .ok counts → (storeBatch blocks db).2 = (storeOneByOne blocks db).2) ∧
      ∀ error, (storeBatch blocks db).1 = .error error → (storeBatch blocks db).2 = db := by
  rw [store_batch_transacts]
  exact ⟨fun counts => (transact_together storeTrieUpdates blocks db counts).1, fun counts => (transact_together storeTrieUpdates blocks db counts).2,
    fun error => transact_error _ db error⟩

-- The wipe of the second block finds the slot that the first one has staged.
example : (storeBatch [(⟨0xA0, ⟨11, 0xA1⟩⟩, slotDiff false 6 9), (⟨0xA1, ⟨12, 0xA2⟩⟩, slotDiff true 8 3)] sampleDb).2.hashedStorageHistory.versions
    (toLex (1, 6)) 12 = some none := by
  decide +kernel

end MorphReth.Proofs
