import MorphReth.ReferenceIndex.Stored

set_option autoImplicit false

namespace MorphReth.ReferenceIndex

open Rlp

-- An operation on the bytes comes to what the same operation on typed tables
-- comes to.
inductive Simulates {α β : Type} (related : α → β → Prop) : Except StoredError α → Except ReferenceIndexError β → Prop
  | ok (stored : α) (typed : β) (same : related stored typed) : Simulates related (.ok stored) (.ok typed)
  | error (error : ReferenceIndexError) : Simulates related (.error (.index error)) (.error error)

structure Stores (stored : StoredDb) (db : ReferenceIndexDb) : Prop where
  indexedTo : stored.indexedTo = db.indexedTo
  jadeFirstBlockNumber : stored.jadeFirstBlockNumber = db.jadeFirstBlockNumber
  cursorRange : ∀ cursor, db.indexedTo = some cursor → InU64 cursor
  blocks : Encodes indexedBlocksTable InU64 (fun _ => True) stored.indexedBlocks db.indexedBlocks
  references : Encodes referenceIndexTable ReferenceIndexKey.InRange InU64 stored.referenceIndex db.referenceIndex
  blockReferences : Encodes blockReferenceIndexTable BlockReferenceKey.InRange (fun _ => True) stored.blockReferenceIndex db.blockReferenceIndex

theorem stores_new : Stores StoredDb.new ReferenceIndexDb.new where
  indexedTo := rfl
  jadeFirstBlockNumber := rfl
  cursorRange _ found := by cases found
  blocks := encodes_empty _ _ _
  references := encodes_empty _ _ _
  blockReferences := encodes_empty _ _ _

section Rows

theorem entries_collected (blockNumber : Nat) (rows : List (BlockReferenceKey × B256)) (inRange : ∀ row ∈ rows, row.1.InRange) :
    StoredDb.collectEntries blockNumber (rows.map blockReferenceIndexTable.encodeRow) =
      .ok (rows.takeWhile (fun row => row.1.blockNumber = blockNumber)) := by
  induction rows with
  | nil => rfl
  | cons row rest ih =>
      have decoded := decode_encoded block_reference_lawful row (inRange row List.mem_cons_self) trivial
      have later := ih (fun other member => inRange other (List.mem_cons_of_mem _ member))
      simp only [List.map_cons, StoredDb.collectEntries, decoded, bind, Except.bind, later]
      by_cases same : row.1.blockNumber = blockNumber
      · rw [if_neg (not_not.mpr same), List.takeWhile_cons_of_pos (by simp [same])]
      · rw [if_pos same, List.takeWhile_cons_of_neg (by simp [same])]

theorem stale_collected (floor room : Nat) (rows : List (Nat × B256)) (inRange : ∀ row ∈ rows, InU64 row.1) :
    StoredDb.collectStale floor room (rows.map indexedBlocksTable.encodeRow) =
      .ok (((rows.map (fun row => row.1)).takeWhile (fun number => number < floor)).take room) := by
  induction rows generalizing room with
  | nil => simp [StoredDb.collectStale]
  | cons row rest ih =>
      have decoded := decode_encoded indexed_blocks_lawful row (inRange row List.mem_cons_self) trivial
      have later := fun room => ih room (fun other member => inRange other (List.mem_cons_of_mem _ member))
      cases room with
      | zero => simp [StoredDb.collectStale, decoded, bind, Except.bind]
      | succ room =>
          simp only [List.map_cons, StoredDb.collectStale, decoded, bind, Except.bind, later]
          by_cases stale : row.1 < floor
          · rw [if_neg (Nat.not_le_of_lt stale), List.takeWhile_cons_of_pos (by simp [stale]), List.take_succ_cons]
          · rw [if_pos (Nat.le_of_not_lt stale), List.takeWhile_cons_of_neg (by simp [stale]), List.take_nil]

theorem page_collected (query : ReferenceQuery) (rows : List (ReferenceIndexKey × Nat)) (keys : ∀ row ∈ rows, row.1.InRange)
    (values : ∀ row ∈ rows, InU64 row.2) (skipped : Nat) (results : List ReferenceTransactionResult) :
    StoredDb.collectPage query (rows.map referenceIndexTable.encodeRow) skipped results = .ok (collectPage query rows skipped results) := by
  induction rows generalizing skipped results with
  | nil => rfl
  | cons row rest ih =>
      have decoded := decode_encoded reference_index_lawful row (keys row List.mem_cons_self) (values row List.mem_cons_self)
      have later := ih (fun other member => keys other (List.mem_cons_of_mem _ member))
        (fun other member => values other (List.mem_cons_of_mem _ member))
      simp only [List.map_cons, StoredDb.collectPage, collectPage, decoded, bind, Except.bind, later]
      split
      · rfl
      · split
        · rfl
        · rfl

end Rows

variable {stored : StoredDb} {db : ReferenceIndexDb} (stores : Stores stored db)
include stores

section Writes

omit stores in
theorem entries_deleted (entries : List (BlockReferenceKey × B256)) (stored : StoredDb) :
    entries.foldl StoredDb.deleteEntry stored =
      { stored with
        referenceIndex := (entries.map (fun row => row.1.withReference row.2)).foldl referenceIndexTable.delete stored.referenceIndex
        blockReferenceIndex := (entries.map (fun row => row.1)).foldl blockReferenceIndexTable.delete stored.blockReferenceIndex } := by
  induction entries generalizing stored with
  | nil => rfl
  | cons entry rest ih =>
      rw [List.foldl_cons, ih]
      rfl

theorem block_deleted (blockNumber : Nat) (inRange : InU64 blockNumber) :
    ∃ after, stored.deleteBlock blockNumber = .ok after ∧ Stores after (deleteBlock db blockNumber) := by
  have zero : BlockReferenceKey.InRange ⟨blockNumber, 0, 0⟩ := ⟨inRange, by rw [InU64]; norm_num⟩
  have sought := encodes_seek block_reference_lawful stores.blockReferences ⟨blockNumber, 0, 0⟩ zero
  have seekRange : ∀ row ∈ db.blockReferenceIndex.seek ⟨blockNumber, 0, 0⟩, row.1.InRange :=
    fun row member => stores.blockReferences.keys row (List.mem_of_mem_filter member)
  have collected := entries_collected blockNumber _ seekRange
  rw [← sought] at collected
  have entryRange : ∀ row ∈ blockReferenceRows db blockNumber, row.1.InRange :=
    fun row member => seekRange row ((List.takeWhile_sublist _).subset member)
  refine ⟨_, by rw [StoredDb.deleteBlock, collected]; rfl, ?_⟩
  rw [entries_deleted]
  refine { stores with
    blocks := encodes_delete indexed_blocks_lawful stores.blocks blockNumber inRange
    references := encodes_delete_all reference_index_lawful stores.references _ ?_
    blockReferences := encodes_delete_all block_reference_lawful stores.blockReferences _ ?_ }
  · intro key member
    obtain ⟨row, listed, rfl⟩ := List.mem_map.mp member
    exact ⟨(entryRange row listed).blockNumber, (entryRange row listed).transactionIndex⟩
  · intro key member
    obtain ⟨row, listed, rfl⟩ := List.mem_map.mp member
    exact entryRange row listed

theorem range_deleted (numbers : List Nat) (inRange : ∀ number ∈ numbers, InU64 number) :
    ∃ after, numbers.foldlM StoredDb.deleteBlock stored = .ok after ∧ Stores after (numbers.foldl deleteBlock db) := by
  induction numbers generalizing stored db with
  | nil => exact ⟨stored, rfl, stores⟩
  | cons number rest ih =>
      obtain ⟨middle, first, kept⟩ := block_deleted stores number (inRange number List.mem_cons_self)
      obtain ⟨after, others, done⟩ := ih kept (fun other member => inRange other (List.mem_cons_of_mem _ member))
      refine ⟨after, ?_, done⟩
      rw [List.foldlM_cons, first]
      exact others

theorem breadcrumbs_pruned (floor : Nat) :
    ∃ after, stored.pruneIndexedBlocksBefore floor = .ok after ∧ Stores after (pruneIndexedBlocksBefore db floor) := by
  rw [StoredDb.pruneIndexedBlocksBefore, pruneIndexedBlocksBefore]
  by_cases zero : floor = 0
  · rw [if_pos zero, if_pos zero]
    exact ⟨stored, rfl, stores⟩
  · rw [if_neg zero, if_neg zero]
    have collected := stale_collected floor defaultBackfillBatchBlocks db.indexedBlocks.rows stores.blocks.keys
    rw [← stores.blocks.rows] at collected
    refine ⟨_, by rw [collected]; rfl, ?_⟩
    refine { stores with blocks := encodes_delete_all indexed_blocks_lawful stores.blocks _ ?_ }
    intro number member
    obtain ⟨row, listed, rfl⟩ := List.mem_map.mp ((List.takeWhile_sublist _).subset (List.mem_of_mem_take member))
    exact stores.blocks.keys row listed

def entryOf (indexed : SealedTransaction × Nat) : Option ReferenceEntry :=
  indexed.1.reference.map (fun reference => { transactionIndex := indexed.2, transactionHash := indexed.1.txHash, reference := reference })

-- One pass over all transactions that skips those without a reference writes
-- what a pass over the references alone writes.
theorem transactions_written (blockNumber blockTimestamp : Nat) (numberRange : InU64 blockNumber) (timestampRange : InU64 blockTimestamp)
    (transactions : List (SealedTransaction × Nat)) (indexRange : ∀ indexed ∈ transactions, InU64 indexed.2) (count : Nat) :
    ∃ after, transactions.foldl (StoredDb.writeTransaction blockNumber blockTimestamp) (stored, count) =
        (after, count + (transactions.filterMap entryOf).length) ∧
      Stores after ((transactions.filterMap entryOf).foldl (writeEntry blockNumber blockTimestamp) db) := by
  induction transactions generalizing stored db count with
  | nil => exact ⟨stored, rfl, stores⟩
  | cons indexed rest ih =>
      have later : ∀ other ∈ rest, InU64 other.2 := fun other member => indexRange other (List.mem_cons_of_mem _ member)
      cases carried : indexed.1.reference with
      | none =>
          have skipped : entryOf indexed = none := by rw [entryOf, carried]; rfl
          rw [List.filterMap_cons_none skipped, List.foldl_cons, StoredDb.writeTransaction, carried]
          exact ih stores later count
      | some reference =>
          have entry : entryOf indexed = some ⟨indexed.2, indexed.1.txHash, reference⟩ := by rw [entryOf, carried]; rfl
          have index := indexRange indexed List.mem_cons_self
          have written : Stores (StoredDb.writeTransaction blockNumber blockTimestamp (stored, count) indexed).1
              (writeEntry blockNumber blockTimestamp db ⟨indexed.2, indexed.1.txHash, reference⟩) := by
            rw [StoredDb.writeTransaction, carried]
            exact { stores with
              references := encodes_put reference_index_lawful stores.references _ _ ⟨numberRange, index⟩ timestampRange
              blockReferences := encodes_put block_reference_lawful stores.blockReferences _ _ ⟨numberRange, index⟩ trivial }
          obtain ⟨after, others, done⟩ := ih written later (count + 1)
          have counted : (StoredDb.writeTransaction blockNumber blockTimestamp (stored, count) indexed).2 = count + 1 := by
            rw [StoredDb.writeTransaction, carried]
          rw [← counted, Prod.mk.eta, counted] at others
          rw [List.filterMap_cons_some entry, List.foldl_cons, List.foldl_cons, List.length_cons, others, Nat.add_right_comm, Nat.add_assoc]
          exact ⟨after, rfl, done⟩

structure CanonicalBlock.InRange (block : CanonicalBlock) : Prop where
  number : InU64 block.number
  timestamp : InU64 block.timestamp
  transactions : InU64 block.transactions.length

theorem block_written (block : CanonicalBlock) (inRange : block.InRange) :
    ∃ after, stored.writeBlock block = (after, (writeBlock db block).2) ∧ Stores after (writeBlock db block).1 := by
  have indexRange : ∀ indexed ∈ block.transactions.zipIdx, InU64 indexed.2 := by
    intro indexed member
    exact (List.snd_lt_of_mem_zipIdx member).trans inRange.transactions
  have entered : Stores { stored with indexedBlocks := indexedBlocksTable.put stored.indexedBlocks block.number block.hash }
      { db with indexedBlocks := db.indexedBlocks.put block.number block.hash } :=
    { stores with blocks := encodes_put indexed_blocks_lawful stores.blocks _ _ inRange.number trivial }
  have written := transactions_written entered block.number block.timestamp inRange.number inRange.timestamp _ indexRange 0
  rw [Nat.zero_add] at written
  exact written

def addBlock (state : ReferenceIndexDb × Nat) (block : CanonicalBlock) : ReferenceIndexDb × Nat :=
  ((writeBlock state.1 block).1, state.2 + (writeBlock state.1 block).2)

theorem batch_written (blocks : List CanonicalBlock) (inRange : ∀ block ∈ blocks, block.InRange) (count : Nat) :
    ∃ after, blocks.foldl StoredDb.addBlock (stored, count) = (after, (blocks.foldl addBlock (db, count)).2) ∧
      Stores after (blocks.foldl addBlock (db, count)).1 := by
  induction blocks generalizing stored db count with
  | nil => exact ⟨stored, rfl, stores⟩
  | cons block rest ih =>
      obtain ⟨middle, first, kept⟩ := block_written stores block (inRange block List.mem_cons_self)
      rw [List.foldl_cons, List.foldl_cons, StoredDb.addBlock, first]
      exact ih kept (fun other member => inRange other (List.mem_cons_of_mem _ member)) _

end Writes

section Transactions

theorem commit_simulates (jadeFirstBlock expectedStart : Nat) (blocks : List CanonicalBlock) (finalized : Option Nat)
    (inRange : ∀ block ∈ blocks, block.InRange) :
    Simulates (fun bytes typed => Stores bytes.1 typed.1 ∧ bytes.2 = typed.2)
      (stored.commitCanonicalBatch jadeFirstBlock expectedStart blocks finalized)
      (commitCanonicalBatch db jadeFirstBlock expectedStart blocks finalized) := by
  rw [StoredDb.commitCanonicalBatch, commitCanonicalBatch]
  cases found : blocks.getLast? with
  | none => exact .ok _ _ ⟨stores, rfl⟩
  | some last =>
      obtain ⟨after, written, kept⟩ := batch_written stores blocks inRange 0
      have marked : Stores { after with jadeFirstBlockNumber := some jadeFirstBlock, indexedTo := some last.number }
          { (writeBatch db blocks).1 with jadeFirstBlockNumber := some jadeFirstBlock, indexedTo := some last.number } :=
        { kept with
          indexedTo := rfl
          jadeFirstBlockNumber := rfl
          cursorRange := fun _ same => Option.some.inj same ▸ (inRange last (List.mem_of_getLast? found)).number }
      dsimp only
      rw [StoredDb.writeBatch, written]
      cases checkContiguous expectedStart blocks with
      | error error => exact .error error
      | ok _ =>
          cases finalized with
          | none => exact .ok _ _ ⟨marked, rfl⟩
          | some finalized =>
              by_cases reached : max finalized jadeFirstBlock ≤ last.number
              · obtain ⟨pruned, removed, done⟩ := breadcrumbs_pruned marked (max finalized jadeFirstBlock)
                simp only [Except.mapError, bind, Except.bind, if_pos reached, removed, pruneFinalized]
                exact .ok _ _ ⟨done, rfl⟩
              · simp only [Except.mapError, bind, Except.bind, if_neg reached, pruneFinalized]
                exact .ok _ _ ⟨marked, rfl⟩

theorem rollback_simulates (ancestor : Option Nat) (batchSize : Nat) :
    ∃ result, stored.rollbackBatch ancestor batchSize = .ok result ∧ Option.Rel Stores result (rollbackBatch db ancestor batchSize) := by
  rw [StoredDb.rollbackBatch, rollbackBatch, stores.indexedTo]
  cases found : db.indexedTo with
  | none => exact ⟨none, rfl, .none⟩
  | some cursor =>
      have cursorRange := stores.cursorRange cursor found
      by_cases done : ancestor.any (fun ancestor => cursor ≤ ancestor) = true
      · simp only [if_pos done]
        exact ⟨none, rfl, .none⟩
      · have below : ∀ value, ancestor = some value → value < cursor := by
          intro value same
          simpa [same] using done
        simp only [if_neg done]
        generalize started : max (cursor - (batchSize - 1)) (ancestor.elim 0 (fun ancestor => ancestor + 1)) = batchStart
        obtain ⟨deleted, removed, rest⟩ := range_deleted stores (List.range' batchStart (cursor + 1 - batchStart)) (fun number member => by
          have bounds := List.mem_range'_1.mp member
          rw [InU64] at cursorRange ⊢
          omega)
        rw [StoredDb.deleteRange, removed]
        by_cases whole : batchStart = ancestor.elim 0 (fun ancestor => ancestor + 1)
        · simp only [bind, Except.bind, if_pos whole]
          exact ⟨_, rfl, .some { rest with indexedTo := rfl, cursorRange := fun value same => (below value same).trans cursorRange }⟩
        · have inside : batchStart ≤ cursor := by
            rw [← started]
            cases ancestor with
            | none => simp
            | some ancestor =>
                have less := below ancestor rfl
                simp only [Option.elim_some]
                omega
          simp only [bind, Except.bind, if_neg whole]
          refine ⟨_, rfl, .some { rest with indexedTo := rfl, cursorRange := fun value same => ?_ }⟩
          rw [← Option.some.inj same]
          exact Nat.lt_of_le_of_lt ((Nat.sub_le _ _).trans inside) cursorRange

theorem stored_block_hash (blockNumber : Nat) (inRange : InU64 blockNumber) :
    stored.indexedBlockHash blockNumber = .ok (db.indexedBlockHash blockNumber) := by
  rw [StoredDb.indexedBlockHash, encodes_get indexed_blocks_lawful stores.blocks blockNumber inRange]
  rfl

theorem query_simulates (query : ReferenceQuery) (canonicalTip : CanonicalTip) :
    Simulates (fun bytes typed => bytes = typed) (stored.queryAt query canonicalTip) (db.queryAt query canonicalTip) := by
  rw [StoredDb.queryAt, ReferenceIndexDb.queryAt, stores.indexedTo]
  cases found : db.indexedTo with
  | none => exact .error _
  | some indexedTo =>
      simp only [bind, Except.bind, stored_block_hash stores indexedTo (stores.cursorRange indexedTo found)]
      cases db.indexedBlockHash indexedTo with
      | none => exact .error _
      | some indexedHash =>
          dsimp only
          have zero : ReferenceIndexKey.InRange ⟨query.reference, 0, 0, 0⟩ := ⟨by rw [InU64]; norm_num, by rw [InU64]; norm_num⟩
          have sought := encodes_seek reference_index_lawful stores.references ⟨query.reference, 0, 0, 0⟩ zero
          split
          · exact .error _
          · have collected := page_collected query (db.referenceIndex.seek ⟨query.reference, 0, 0, 0⟩)
              (fun row member => stores.references.keys row (List.mem_of_mem_filter member))
              (fun row member => stores.references.values row (List.mem_of_mem_filter member)) 0 []
            rw [sought, collected]
            exact .ok _ _ rfl

end Transactions

end MorphReth.ReferenceIndex
