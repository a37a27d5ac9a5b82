import MorphReth.SortedTable
import MorphReth.ReferenceIndex.Source
import Mathlib.Data.Prod.Lex

set_option autoImplicit false

namespace MorphReth.ReferenceIndex

inductive ReferenceIndexError where
  | initializing
  | indexBehind
  | indexUnavailable
  | limitTooLarge (limit : Nat)
  | offsetTooLarge (offset : Nat)
  | corruptMetadata (reason : String)
  | chainIdentityMismatch (field : String)
  | schemaMismatch (expected actual : Nat)
  | manualRebuildRequired (jadeFirstBlock : Nat)
  | provider
  | other (report : String)
  deriving DecidableEq, Repr

def ReferenceIndexError.requiresManualRebuild : ReferenceIndexError → Bool
  | .corruptMetadata _ | .chainIdentityMismatch _ | .schemaMismatch _ _ | .manualRebuildRequired _ => true
  | _ => false

structure ReferenceIndexKey where
  reference : B256
  blockNumber : Nat
  transactionIndex : Nat
  transactionHash : B256
  deriving DecidableEq, Repr

structure BlockReferenceKey where
  blockNumber : Nat
  transactionIndex : Nat
  transactionHash : B256
  deriving DecidableEq, Repr

-- Keys are stored as big-endian bytes, field after field, and so are ordered
-- by their fields in turn.
def BlockReferenceKey.order (key : BlockReferenceKey) : Nat ×ₗ Nat ×ₗ Nat :=
  toLex (key.blockNumber, toLex (key.transactionIndex, key.transactionHash.toNat))

def ReferenceIndexKey.order (key : ReferenceIndexKey) : Nat ×ₗ Nat ×ₗ Nat ×ₗ Nat :=
  toLex (key.reference.toNat, toLex (key.blockNumber, toLex (key.transactionIndex, key.transactionHash.toNat)))

theorem block_reference_order_injective : Function.Injective BlockReferenceKey.order := by
  intro left right same
  obtain ⟨leftNumber, leftIndex, leftHash⟩ := left
  obtain ⟨rightNumber, rightIndex, rightHash⟩ := right
  simpa [BlockReferenceKey.order, BitVec.toNat_inj] using same

theorem reference_index_order_injective : Function.Injective ReferenceIndexKey.order := by
  intro left right same
  obtain ⟨leftReference, leftNumber, leftIndex, leftHash⟩ := left
  obtain ⟨rightReference, rightNumber, rightIndex, rightHash⟩ := right
  simpa [ReferenceIndexKey.order, BitVec.toNat_inj] using same

instance : LinearOrder BlockReferenceKey :=
  LinearOrder.lift' BlockReferenceKey.order block_reference_order_injective

instance : LinearOrder ReferenceIndexKey :=
  LinearOrder.lift' ReferenceIndexKey.order reference_index_order_injective

-- The metadata table has one row for each of the first five fields.
structure ReferenceIndexDb where
  chainId : Option Nat
  genesisHash : Option B256
  schemaVersion : Option Nat
  indexedTo : Option Nat
  jadeFirstBlockNumber : Option Nat
  indexedBlocks : Table Nat B256
  referenceIndex : Table ReferenceIndexKey Nat
  blockReferenceIndex : Table BlockReferenceKey B256

namespace ReferenceIndexDb

def new : ReferenceIndexDb where
  chainId := none
  genesisHash := none
  schemaVersion := none
  indexedTo := none
  jadeFirstBlockNumber := none
  indexedBlocks := Table.empty
  referenceIndex := Table.empty
  blockReferenceIndex := Table.empty

def indexedBlockHash (db : ReferenceIndexDb) (blockNumber : Nat) : Option B256 :=
  db.indexedBlocks.get blockNumber

end ReferenceIndexDb

def currentSchemaVersion : Nat := 2

-- A database without any identity is initialised only while it is empty.
def validateOrInitChainIdentity (db : ReferenceIndexDb) (chainId : Nat) (genesisHash : B256) : Except ReferenceIndexError ReferenceIndexDb :=
  let hasRuntimeMeta := db.indexedTo.isSome || db.jadeFirstBlockNumber.isSome
  let hasIndexData := !db.referenceIndex.rows.isEmpty || !db.blockReferenceIndex.rows.isEmpty || !db.indexedBlocks.rows.isEmpty
  match db.chainId, db.genesisHash, db.schemaVersion with
  | none, none, none =>
      if !hasRuntimeMeta && !hasIndexData then
        .ok { db with chainId := some chainId, genesisHash := some genesisHash, schemaVersion := some currentSchemaVersion }
      else .error (.corruptMetadata "chain identity fields must be all present or all absent")
  | some storedChainId, some storedGenesis, some storedSchema =>
      if storedChainId ≠ chainId then .error (.chainIdentityMismatch "chain_id")
      else if storedGenesis ≠ genesisHash then .error (.chainIdentityMismatch "genesis_hash")
      else if storedSchema ≠ currentSchemaVersion then .error (.schemaMismatch currentSchemaVersion storedSchema)
      else .ok db
  | _, _, _ => .error (.corruptMetadata "chain identity fields must be all present or all absent")

structure ReferenceEntry where
  transactionIndex : Nat
  transactionHash : B256
  reference : B256
  deriving DecidableEq, Repr

-- The transactions of a block that carry a reference, with their positions.
def referenceEntries (transactions : List SealedTransaction) : List ReferenceEntry :=
  transactions.zipIdx.filterMap (fun indexed => indexed.1.reference.map (fun reference =>
    { transactionIndex := indexed.2, transactionHash := indexed.1.txHash, reference := reference }))

def ReferenceEntry.referenceKey (entry : ReferenceEntry) (blockNumber : Nat) : ReferenceIndexKey where
  reference := entry.reference
  blockNumber := blockNumber
  transactionIndex := entry.transactionIndex
  transactionHash := entry.transactionHash

def ReferenceEntry.blockKey (entry : ReferenceEntry) (blockNumber : Nat) : BlockReferenceKey where
  blockNumber := blockNumber
  transactionIndex := entry.transactionIndex
  transactionHash := entry.transactionHash

def writeEntry (blockNumber blockTimestamp : Nat) (db : ReferenceIndexDb) (entry : ReferenceEntry) : ReferenceIndexDb :=
  { db with
    referenceIndex := db.referenceIndex.put (entry.referenceKey blockNumber) blockTimestamp
    blockReferenceIndex := db.blockReferenceIndex.put (entry.blockKey blockNumber) entry.reference }

-- The updated tables and the number of references written.
def writeBlock (db : ReferenceIndexDb) (block : CanonicalBlock) : ReferenceIndexDb × Nat :=
  let entries := referenceEntries block.transactions
  (entries.foldl (writeEntry block.number block.timestamp)
    { db with indexedBlocks := db.indexedBlocks.put block.number block.hash }, entries.length)

def blockReferenceRows (db : ReferenceIndexDb) (blockNumber : Nat) : List (BlockReferenceKey × B256) :=
  (db.blockReferenceIndex.seek { blockNumber := blockNumber, transactionIndex := 0, transactionHash := 0 }).takeWhile
    (fun row => row.1.blockNumber = blockNumber)

def BlockReferenceKey.withReference (key : BlockReferenceKey) (reference : B256) : ReferenceIndexKey where
  reference := reference
  blockNumber := key.blockNumber
  transactionIndex := key.transactionIndex
  transactionHash := key.transactionHash

def deleteBlock (db : ReferenceIndexDb) (blockNumber : Nat) : ReferenceIndexDb :=
  let entries := blockReferenceRows db blockNumber
  { db with
    referenceIndex := (entries.map (fun row => row.1.withReference row.2)).foldl Table.delete db.referenceIndex
    blockReferenceIndex := (entries.map (fun row => row.1)).foldl Table.delete db.blockReferenceIndex
    indexedBlocks := db.indexedBlocks.delete blockNumber }

def defaultBackfillBatchBlocks : Nat := 512

-- At most one batch of breadcrumbs below the floor, oldest first.
def pruneIndexedBlocksBefore (db : ReferenceIndexDb) (floor : Nat) : ReferenceIndexDb :=
  if floor = 0 then db
  else
    let stale := ((db.indexedBlocks.rows.map (fun row => row.1)).takeWhile (fun number => number < floor)).take defaultBackfillBatchBlocks
    { db with indexedBlocks := stale.foldl Table.delete db.indexedBlocks }

def writeBatch (db : ReferenceIndexDb) (blocks : List CanonicalBlock) : ReferenceIndexDb × Nat :=
  blocks.foldl (fun state block => ((writeBlock state.1 block).1, state.2 + (writeBlock state.1 block).2)) (db, 0)

def deleteRange (db : ReferenceIndexDb) (start stop : Nat) : ReferenceIndexDb :=
  (List.range' start (stop + 1 - start)).foldl deleteBlock db

def checkContiguous (expectedStart : Nat) : List CanonicalBlock → Except ReferenceIndexError Unit
  | [] => .ok ()
  | block :: rest =>
      let number := block.number
      if number ≠ expectedStart then
        .error (.other s!"non-contiguous reference-index batch: expected block {expectedStart}, got {number}")
      else checkContiguous (expectedStart + 1) rest

def pruneFinalized (db : ReferenceIndexDb) (jadeFirstBlock lastNumber : Nat) (finalized : Option Nat) : ReferenceIndexDb :=
  match finalized with
  | none => db
  | some finalized =>
      let floor := max finalized jadeFirstBlock
      if floor ≤ lastNumber then pruneIndexedBlocksBefore db floor else db

-- One write transaction: all blocks of the batch, the metadata and the pruning.
def commitCanonicalBatch (db : ReferenceIndexDb) (jadeFirstBlock expectedStart : Nat) (blocks : List CanonicalBlock)
    (finalized : Option Nat) : Except ReferenceIndexError (ReferenceIndexDb × Nat) :=
  match blocks.getLast? with
  | none => .ok (db, 0)
  | some last => do
      checkContiguous expectedStart blocks
      let written := writeBatch db blocks
      let marked := { written.1 with jadeFirstBlockNumber := some jadeFirstBlock, indexedTo := some last.number }
      .ok (pruneFinalized marked jadeFirstBlock last.number finalized, written.2)

-- One write transaction of rollback_suffix, which is only called with a batch
-- size that is not zero; none when the cursor is already at or below the
-- ancestor.
def rollbackBatch (db : ReferenceIndexDb) (ancestor : Option Nat) (batchSize : Nat) : Option ReferenceIndexDb :=
  match db.indexedTo with
  | none => none
  | some cursor =>
      if ancestor.any (fun ancestor => cursor ≤ ancestor) then none
      else
        let lowerBound := ancestor.elim 0 (fun ancestor => ancestor + 1)
        let batchStart := max (cursor - (batchSize - 1)) lowerBound
        some { deleteRange db batchStart cursor with indexedTo := if batchStart = lowerBound then ancestor else some (batchStart - 1) }

end MorphReth.ReferenceIndex
