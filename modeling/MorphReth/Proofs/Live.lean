import MorphReth.Proofs.BatchSession
import MorphReth.Rlp.Items
import MorphReth.Checks

set_option autoImplicit false

namespace MorphReth.Proofs

open Rlp (Bytes toFixedBytes)

structure TrieUpdatesSorted where
  accountNodes : Table Nibbles (Option BranchNodeCompact)
  storageTries : Table B256 StorageTrieUpdatesSorted

structure HashedPostStateSorted where
  accounts : Table B256 (Option Account)
  storages : Table B256 HashedStorageSorted

def BlockStateDiff.ofSorted (sortedTrieUpdates : TrieUpdatesSorted) (sortedPostState : HashedPostStateSorted) : BlockStateDiff where
  accountNodes := sortedTrieUpdates.accountNodes
  storageTries := sortedTrieUpdates.storageTries
  accounts := sortedPostState.accounts
  storages := sortedPostState.storages

structure RecoveredBlock (β : Type) where
  number : Nat
  parentHash : B256
  hash : B256
  stateRoot : B256
  body : β

def RecoveredBlock.blockRef {β : Type} (block : RecoveredBlock β) : BlockWithParent :=
  ⟨block.parentHash, ⟨block.number, block.hash⟩⟩

-- What an execution can see of a state: single reads, and the rows that the
-- trie walks meet in order. Code and block hashes do not come from the store.
@[ext] structure StateProvider where
  basicAccount : Address → Option Account
  storage : Address → B256 → Option U256
  accountTrie : List (Nibbles × BranchNodeCompact)
  storageTrie : B256 → List (Nibbles × BranchNodeCompact)
  hashedAccounts : List (B256 × Account)
  hashedStorages : B256 → List (B256 × U256)

-- The two providers differ in the transaction they read, that of a reader or
-- that of an open batch session.
structure MorphProofsStateProviderRef where
  tx : ProofsDb
  blockNumber : Nat

namespace MorphProofsStateProviderRef

variable (keccak256 : Bytes → B256) (self : MorphProofsStateProviderRef)

def exactly {ν : Type} (hashedKey : B256) (found : Option (B256 × ν)) : Option ν :=
  found.bind (fun entry => if entry.1 = hashedKey then some entry.2 else none)

def basicAccount (address : Address) : Option Account :=
  let hashedKey := keccak256 (toFixedBytes address)
  exactly hashedKey ((BlockNumberVersionedCursor.new self.tx.hashedAccountHistory self.blockNumber).seek hashedKey).1

def storage (address : Address) (storageKey : B256) : Option U256 :=
  let hashedKey := keccak256 (toFixedBytes storageKey)
  exactly hashedKey
    ((MdbxStorageCursor.new self.tx.hashedStorageHistory self.blockNumber (keccak256 (toFixedBytes address))).seek hashedKey).1

def provider : StateProvider where
  basicAccount := self.basicAccount keccak256
  storage := self.storage keccak256
  accountTrie := accountTrieEntries self.tx self.blockNumber
  storageTrie := liveStorageNodes self.tx.storageTrieHistory self.blockNumber
  hashedAccounts := hashedAccountEntries self.tx self.blockNumber
  hashedStorages := liveStorageSlots self.tx.hashedStorageHistory self.blockNumber

end MorphProofsStateProviderRef

def MdbxBatchSession.openTx : EStateM MorphProofsStorageError MdbxBatchSession ProofsDb :=
  fun session =>
    match session.tx with
    | none => .error .batchSessionClosed session
    | some tx => .ok tx session

inductive BatchBlock (β : Type) where
  | cached (blockWithParent : BlockWithParent) (diff : BlockStateDiff)
  | execute (block : RecoveredBlock β)

def BatchBlock.blockRef {β : Type} : BatchBlock β → BlockWithParent
  | .cached blockWithParent _ => blockWithParent
  | .execute block => block.blockRef

-- The executor and the trie walk are given; all they learn about the state
-- comes through the provider they are handed.
structure LiveTrieCollector (β ω : Type) where
  keccak256 : Bytes → B256
  execute : StateProvider → RecoveredBlock β → Option ω
  hashedPostState : StateProvider → ω → Option HashedPostStateSorted
  stateRootWithUpdates : StateProvider → HashedPostStateSorted → Option (B256 × TrieUpdatesSorted)

namespace LiveTrieCollector

variable {β ω : Type} (collector : LiveTrieCollector β ω)

def replay (provider : StateProvider) (block : RecoveredBlock β) : Except MorphProofsStorageError BlockStateDiff := do
  let executionResult ← (collector.execute provider block).elim (.error .executionError) .ok
  let hashedState ← (collector.hashedPostState provider executionResult).elim (.error .providerError) .ok
  let root ← (collector.stateRootWithUpdates provider hashedState).elim (.error .providerError) .ok
  rejectIf (root.1 ≠ block.stateRoot) (.stateRootMismatch block.number root.1 block.stateRoot)
  .ok (BlockStateDiff.ofSorted root.2 hashedState)

-- Block numbers are 64-bit and the subtraction wraps.
def parentBlockNumber (block : RecoveredBlock β) : Nat :=
  match block.number with
  | 0 => 2 ^ 64 - 1
  | parent + 1 => parent

def executeOnParent (tx : ProofsDb) (block : RecoveredBlock β) (earliest latest : Nat) : Except MorphProofsStorageError BlockStateDiff := do
  rejectIf (parentBlockNumber block < earliest) .unknownParent
  rejectIf (latest < parentBlockNumber block) (.missingParentBlock block.number (parentBlockNumber block) latest)
  collector.replay (MorphProofsStateProviderRef.provider collector.keccak256 ⟨tx, parentBlockNumber block⟩) block

def executeAndStoreBlockUpdates (block : RecoveredBlock β) : TxMut Unit := do
  let db ← get
  match db.earliestBlock, db.latestBlockNumberHash with
  | some earliest, some latest =>
      let diff ← MonadExcept.ofExcept (collector.executeOnParent db block earliest.number latest.number)
      let _ ← storeTrieUpdates (block.blockRef, diff)
  | _, _ => throw .noBlocksFound

def executeOneInSession (block : RecoveredBlock β) (earliest : Nat) : EStateM MorphProofsStorageError MdbxBatchSession WriteCounts := do
  let tx ← MdbxBatchSession.openTx
  match tx.latestBlockNumberHash with
  | none => throw .noBlocksFound
  | some latestInSession =>
      let diff ← MonadExcept.ofExcept (collector.executeOnParent tx block earliest latestInSession.number)
      MdbxBatchSession.storeTrieUpdates (block.blockRef, diff)

def storeInSession (earliest : Nat) : BatchBlock β → EStateM MorphProofsStorageError MdbxBatchSession Unit
  | .cached blockWithParent diff => do
      let _ ← MdbxBatchSession.storeTrieUpdates (blockWithParent, diff)
  | .execute block => do
      let _ ← collector.executeOneInSession block earliest

def storeAllInSession (blocks : List (BatchBlock β)) : EStateM MorphProofsStorageError MdbxBatchSession Unit := do
  let tx ← MdbxBatchSession.openTx
  match tx.earliestBlock, tx.latestBlockNumberHash with
  | some earliest, some _ => blocks.forM (collector.storeInSession earliest.number)
  | _, _ => throw .noBlocksFound

def executeAndStoreBatch (blocks : List (BatchBlock β)) (db : ProofsDb) : Except MorphProofsStorageError Unit × ProofsDb :=
  if blocks.isEmpty then (.ok (), db) else withBatchSession (collector.storeAllInSession blocks) db

def storeEntry : BatchBlock β → TxMut Unit
  | .cached blockWithParent diff => do
      let _ ← storeTrieUpdates (blockWithParent, diff)
  | .execute block => collector.executeAndStoreBlockUpdates block

def skipOutOfOrder : Except MorphProofsStorageError WriteCounts → Except MorphProofsStorageError Unit
  | .ok _ | .error (.outOfOrder _ _ _) => .ok ()
  | .error error => .error error

def storeBlockUpdates (block : BlockWithParent) (diff : BlockStateDiff) (db : ProofsDb) : Except MorphProofsStorageError Unit × ProofsDb :=
  let stored := transact (storeTrieUpdates (block, diff)) db
  (skipOutOfOrder stored.1, stored.2)

def unwindAndStoreBlockUpdates (blockUpdates : List (BlockWithParent × BlockStateDiff)) (db : ProofsDb) :
    Except MorphProofsStorageError Unit × ProofsDb :=
  match blockUpdates with
  | [] => (.ok (), db)
  | first :: _ => commitReplace ⟨first.1.block.number - 1, first.1.parent⟩ blockUpdates db

def unwindHistory (unwindTo : BlockWithParent) (db : ProofsDb) : Except MorphProofsStorageError Unit × ProofsDb :=
  match db.unwindHistory unwindTo with
  | .ok after => (.ok (), after)
  | .error error => (.error error, db)

end LiveTrieCollector

section Sessions

variable {α γ : Type}

def Stages (work : EStateM MorphProofsStorageError MdbxBatchSession α) (plain : TxMut α) : Prop :=
  ∀ tx, work ⟨some tx⟩ =
    match plain tx with
    | .ok value staged => .ok value ⟨some staged⟩
    | .error error staged => .error error ⟨some staged⟩

theorem stages_bind {work : EStateM MorphProofsStorageError MdbxBatchSession α} {plain : TxMut α}
    {next : α → EStateM MorphProofsStorageError MdbxBatchSession γ} {plainNext : α → TxMut γ} (stages : Stages work plain)
    (onward : ∀ value, Stages (next value) (plainNext value)) : Stages (work >>= next) (plain >>= plainNext) := by
  intro tx
  simp only [bind, EStateM.bind, stages tx]
  cases plain tx with
  | error error staged => rfl
  | ok value staged => exact onward value staged

theorem stages_for_each {ι : Type} (work : ι → EStateM MorphProofsStorageError MdbxBatchSession Unit) (plain : ι → TxMut Unit)
    (stages : ∀ item, Stages (work item) (plain item)) (items : List ι) : Stages (items.forM work) (items.forM plain) := by
  induction items with
  | nil => exact fun _ => rfl
  | cons item rest ih => exact stages_bind (stages item) (fun _ => ih)

theorem stages_tx : Stages MdbxBatchSession.openTx get :=
  fun _ => rfl

theorem stages_store (block : BlockWithParent × BlockStateDiff) :
    Stages (MdbxBatchSession.storeTrieUpdates block) (storeTrieUpdates block) := by
  intro tx
  simp only [MdbxBatchSession.storeTrieUpdates, storeTrieUpdates]
  cases TxMut.storeTrieUpdatesAppendOnly block.1 block.2 tx with
  | error error staged => rfl
  | ok counts staged => rfl

theorem stages_outcome (outcome : Except MorphProofsStorageError α) :
    Stages (MonadExcept.ofExcept outcome) (MonadExcept.ofExcept outcome) := by
  cases outcome with
  | error error => exact fun _ => rfl
  | ok value => exact fun _ => rfl

theorem staged_session (work : EStateM MorphProofsStorageError MdbxBatchSession α) (plain : TxMut α) (stages : Stages work plain)
    (db : ProofsDb) : withBatchSession work db = transact plain db := by
  rw [withBatchSession, stages db, transact]
  cases plain db with
  | error error staged => rfl
  | ok value staged => rfl

end Sessions

section Batch

variable {β ω : Type} (collector : LiveTrieCollector β ω)

open LiveTrieCollector

-- The entry with the earliest block read once, before the first one.
def storeEntryAbove (earliest : Nat) : BatchBlock β → TxMut Unit
  | .cached blockWithParent diff => do
      let _ ← storeTrieUpdates (blockWithParent, diff)
  | .execute block => do
      let tx ← get
      match tx.latestBlockNumberHash with
      | none => throw .noBlocksFound
      | some latest =>
          let diff ← MonadExcept.ofExcept (collector.executeOnParent tx block earliest latest.number)
          let _ ← storeTrieUpdates (block.blockRef, diff)

theorem entry_stages (earliest : Nat) (entry : BatchBlock β) :
    Stages (collector.storeInSession earliest entry) (storeEntryAbove collector earliest entry) := by
  cases entry with
  | cached blockWithParent diff => exact stages_bind (stages_store _) (fun _ _ => rfl)
  | execute block =>
      simp only [storeInSession, executeOneInSession, storeEntryAbove, bind_assoc]
      refine stages_bind stages_tx (fun tx => ?_)
      cases tx.latestBlockNumberHash with
      | none => exact fun _ => rfl
      | some latest =>
          simp only [bind_assoc]
          refine stages_bind (stages_outcome _) (fun diff => ?_)
          exact stages_bind (stages_store _) (fun _ _ => rfl)

variable (db : ProofsDb)

theorem append_earliest (block : BlockWithParent × BlockStateDiff) (stored : ProofsDb × WriteCounts)
    (succeeded : db.storeTrieUpdatesAppendOnly block.1 block.2 = .ok stored) : stored.1.earliestBlock = db.earliestBlock := by
  rw [ProofsDb.storeTrieUpdatesAppendOnly] at succeeded
  split at succeeded
  · cases succeeded
  · simp only [bind_ok, storeTrieUpdatesForBlock] at succeeded
    obtain ⟨written, ⟨_, _, _, _, _, _, _, _, wrote⟩, _, _, finished⟩ := succeeded
    cases wrote
    cases finished
    rfl

theorem store_appends (block : BlockWithParent × BlockStateDiff) (counts : WriteCounts) (staged : ProofsDb)
    (succeeded : storeTrieUpdates block db = .ok counts staged) : db.storeTrieUpdatesAppendOnly block.1 block.2 = .ok (staged, counts) := by
  have computes := append_only_computes block db
  cases stored : db.storeTrieUpdatesAppendOnly block.1 block.2 with
  | error error =>
      rw [stored] at computes
      obtain ⟨left, failed⟩ := computes
      cases failed.symm.trans succeeded
  | ok written =>
      rw [stored] at computes
      cases (show TxMut.storeTrieUpdatesAppendOnly block.1 block.2 db = .ok written.2 written.1 from computes).symm.trans succeeded
      rfl

theorem entry_above (earliest : NumHash) (window : db.earliestBlock = some earliest) (entry : BatchBlock β) :
    storeEntryAbove collector earliest.number entry db = collector.storeEntry entry db := by
  cases entry with
  | cached blockWithParent diff => rfl
  | execute block =>
      have latest : db.latestBlockNumberHash.isSome := by simp [ProofsDb.latestBlockNumberHash, window]
      obtain ⟨found, present⟩ := Option.isSome_iff_exists.mp latest
      simp only [storeEntryAbove, storeEntry, executeAndStoreBlockUpdates, get_bind, window, present]

-- All that an entry can do: find its updates in the state as it is, and store
-- them.
def entryUpdates (db : ProofsDb) : BatchBlock β → Except MorphProofsStorageError (BlockWithParent × BlockStateDiff)
  | .cached blockWithParent diff => .ok (blockWithParent, diff)
  | .execute block =>
      match db.earliestBlock, db.latestBlockNumberHash with
      | some earliest, some latest => do
          let diff ← collector.executeOnParent db block earliest.number latest.number
          .ok (block.blockRef, diff)
      | _, _ => .error .noBlocksFound

theorem entry_runs (entry : BatchBlock β) :
    collector.storeEntry entry db =
      match entryUpdates collector db entry with
      | .error error => .error error db
      | .ok block => (storeTrieUpdates block).map (fun _ => ()) db := by
  cases entry with
  | cached blockWithParent diff => rfl
  | execute block =>
      simp only [storeEntry, executeAndStoreBlockUpdates, entryUpdates, get_bind]
      cases db.earliestBlock with
      | none => rfl
      | some earliest =>
          cases db.latestBlockNumberHash with
          | none => rfl
          | some latest =>
              dsimp only
              cases collector.executeOnParent db block earliest.number latest.number with
              | error error => rfl
              | ok diff => rfl

theorem entry_stores (entry : BatchBlock β) (value : Unit) (staged : ProofsDb)
    (succeeded : collector.storeEntry entry db = .ok value staged) :
    ∃ block counts, entryUpdates collector db entry = .ok block ∧ storeTrieUpdates block db = .ok counts staged := by
  rw [entry_runs] at succeeded
  cases found : entryUpdates collector db entry with
  | error error => rw [found] at succeeded; cases succeeded
  | ok block =>
      simp only [found, EStateM.map] at succeeded
      cases stored : storeTrieUpdates block db with
      | error error left => rw [stored] at succeeded; cases succeeded
      | ok counts after =>
          rw [stored] at succeeded
          cases succeeded
          exact ⟨block, counts, rfl, stored⟩

theorem entry_earliest (entry : BatchBlock β) (value : Unit) (staged : ProofsDb)
    (succeeded : collector.storeEntry entry db = .ok value staged) : staged.earliestBlock = db.earliestBlock := by
  obtain ⟨block, counts, _, stored⟩ := entry_stores collector db entry value staged succeeded
  exact append_earliest db block (staged, counts) (store_appends db block counts staged stored)

theorem entries_above (earliest : NumHash) (entries : List (BatchBlock β)) (db : ProofsDb) (window : db.earliestBlock = some earliest) :
    (entries.forM (storeEntryAbove collector earliest.number)) db = (entries.forM collector.storeEntry) db := by
  induction entries generalizing db with
  | nil => rfl
  | cons entry rest ih =>
      change EStateM.bind (storeEntryAbove collector earliest.number entry) (fun _ => rest.forM _) db =
        EStateM.bind (collector.storeEntry entry) (fun _ => rest.forM _) db
      simp only [EStateM.bind, entry_above collector db earliest window entry]
      cases stored : collector.storeEntry entry db with
      | error error staged => rfl
      | ok value staged => exact ih staged ((entry_earliest collector db entry value staged stored).trans window)

theorem batch_transacts (entries : List (BatchBlock β)) (db : ProofsDb) (earliest : NumHash) (window : db.earliestBlock = some earliest) :
    collector.executeAndStoreBatch entries db = transact (entries.forM collector.storeEntry) db := by
  cases entries with
  | nil => rfl
  | cons entry rest =>
      have latest : db.latestBlockNumberHash.isSome := by simp [ProofsDb.latestBlockNumberHash, window]
      obtain ⟨found, present⟩ := Option.isSome_iff_exists.mp latest
      have opened : (collector.storeAllInSession (entry :: rest)) ⟨some db⟩ =
          ((entry :: rest).forM (collector.storeInSession earliest.number)) ⟨some db⟩ := by
        simp only [storeAllInSession, bind, EStateM.bind, MdbxBatchSession.openTx, window, present]
      have staged := staged_session _ _ (stages_for_each _ _ (entry_stages collector earliest.number) (entry :: rest)) db
      rw [executeAndStoreBatch, if_neg (by simp), withBatchSession, opened]
      rw [withBatchSession] at staged
      rw [staged, transact, transact, entries_above collector earliest (entry :: rest) db window]

theorem batch_equals_single_blocks (db : ProofsDb) (earliest : NumHash) (window : db.earliestBlock = some earliest)
    (entries : List (BatchBlock β)) :
    let batch := collector.executeAndStoreBatch entries db
    let single := separately collector.storeEntry entries db
    batch.1 = single.1.forM id ∧ (batch.1 = .ok () → batch.2 = single.2) ∧ ∀ error, batch.1 = .error error → batch.2 = db := by
  dsimp only
  rw [batch_transacts collector entries db earliest window]
  obtain ⟨outcome, final⟩ := transact_for_each collector.storeEntry entries db
  exact ⟨outcome, final, transact_error _ db⟩

end Batch

section Sample

-- A block adds one to a storage slot, and the root is the slot's value.
def countingCollector : LiveTrieCollector (Address × B256) (Address × B256 × U256) where
  keccak256 input := BitVec.ofNat 256 (Rlp.ofDigits input)
  execute provider block := some (block.body.1, block.body.2, (provider.storage block.body.1 block.body.2).getD 0 + 1)
  hashedPostState _ written :=
    some ⟨Table.empty, Table.empty.put (written.1.setWidth 256) ⟨Table.empty.put written.2.1 written.2.2, false⟩⟩
  stateRootWithUpdates _ hashedState :=
    some (((hashedState.storages.rows.flatMap (fun storage => storage.2.storageSlots.rows.map Prod.snd)).headD 0), ⟨Table.empty, Table.empty⟩)

def countingBlock (number : Nat) (parentHash hash stateRoot : B256) : RecoveredBlock (Address × B256) :=
  ⟨number, parentHash, hash, stateRoot, (1, 5)⟩

def countingEntries : List (BatchBlock (Address × B256)) :=
  [.execute (countingBlock 11 0xA0 0xA1 8), .cached ⟨0xA1, ⟨12, 0xA2⟩⟩ (slotDiff false 6 1), .execute (countingBlock 13 0xA2 0xA3 9)]

-- The last block counts on from what the first has staged.
theorem batch_equals_single_blocks_counting :
    (let batch := countingCollector.executeAndStoreBatch countingEntries sampleDb
      let single := separately countingCollector.storeEntry countingEntries sampleDb
      batch.1 = single.1.forM id ∧ (batch.1 = .ok () → batch.2 = single.2) ∧ ∀ error, batch.1 = .error error → batch.2 = sampleDb) ∧
      liveStorageSlots (countingCollector.executeAndStoreBatch countingEntries sampleDb).2.hashedStorageHistory 13 1 = [(5, 9), (6, 1)] :=
  ⟨batch_equals_single_blocks countingCollector sampleDb sampleAnchor rfl countingEntries, by decide +kernel⟩

end Sample

end MorphReth.Proofs
