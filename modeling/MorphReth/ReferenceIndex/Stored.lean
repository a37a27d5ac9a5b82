import MorphReth.ReferenceIndex.Reader
import MorphReth.ReferenceIndex.Tables

set_option autoImplicit false

namespace MorphReth.ReferenceIndex

open Rlp

inductive StoredError where
  | index (error : ReferenceIndexError)
  | database (error : DecodeError)
  deriving DecidableEq, Repr

-- The three index tables as the database file holds them. The cursor and the
-- first indexed block, which have a metadata row each, stay typed.
structure StoredDb where
  indexedTo : Option Nat
  jadeFirstBlockNumber : Option Nat
  indexedBlocks : RawTable
  referenceIndex : RawTable
  blockReferenceIndex : RawTable

namespace StoredDb

def new : StoredDb := ⟨none, none, Table.empty, Table.empty, Table.empty⟩

def indexedBlockHash (db : StoredDb) (blockNumber : Nat) : Except StoredError (Option B256) :=
  (indexedBlocksTable.get db.indexedBlocks blockNumber).mapError .database

def writeTransaction (blockNumber blockTimestamp : Nat) (state : StoredDb × Nat) (indexed : SealedTransaction × Nat) : StoredDb × Nat :=
  match indexed.1.reference with
  | none => state
  | some reference =>
      let transactionHash := indexed.1.txHash
      ({ state.1 with
        referenceIndex := referenceIndexTable.put state.1.referenceIndex ⟨reference, blockNumber, indexed.2, transactionHash⟩ blockTimestamp
        blockReferenceIndex := blockReferenceIndexTable.put state.1.blockReferenceIndex ⟨blockNumber, indexed.2, transactionHash⟩ reference },
        state.2 + 1)

def writeBlock (db : StoredDb) (block : CanonicalBlock) : StoredDb × Nat :=
  block.transactions.zipIdx.foldl (writeTransaction block.number block.timestamp)
    ({ db with indexedBlocks := indexedBlocksTable.put db.indexedBlocks block.number block.hash }, 0)

def collectEntries (blockNumber : Nat) : List (ByteKey × Bytes) → Except DecodeError (List (BlockReferenceKey × B256))
  | [] => .ok []
  | row :: rest => do
      let entry ← blockReferenceIndexTable.decodeRow row
      if entry.1.blockNumber ≠ blockNumber then .ok []
      else
        let later ← collectEntries blockNumber rest
        .ok (entry :: later)

def deleteEntry (db : StoredDb) (entry : BlockReferenceKey × B256) : StoredDb :=
  { db with
    referenceIndex := referenceIndexTable.delete db.referenceIndex (entry.1.withReference entry.2)
    blockReferenceIndex := blockReferenceIndexTable.delete db.blockReferenceIndex entry.1 }

def deleteBlock (db : StoredDb) (blockNumber : Nat) : Except StoredError StoredDb := do
  let entries ← (collectEntries blockNumber (blockReferenceIndexTable.seek db.blockReferenceIndex ⟨blockNumber, 0, 0⟩)).mapError .database
  let deleted := entries.foldl deleteEntry db
  .ok { deleted with indexedBlocks := indexedBlocksTable.delete deleted.indexedBlocks blockNumber }

-- The row after the last stale one is decoded too, before the count is checked.
def collectStale (floor : Nat) : Nat → List (ByteKey × Bytes) → Except DecodeError (List Nat)
  | _, [] => .ok []
  | room, row :: rest => do
      let entry ← indexedBlocksTable.decodeRow row
      match room with
      | 0 => .ok []
      | room + 1 =>
          if floor ≤ entry.1 then .ok []
          else
            let later ← collectStale floor room rest
            .ok (entry.1 :: later)

def pruneIndexedBlocksBefore (db : StoredDb) (floor : Nat) : Except StoredError StoredDb :=
  if floor = 0 then .ok db
  else do
    let stale ← (collectStale floor defaultBackfillBatchBlocks db.indexedBlocks.rows).mapError .database
    .ok { db with indexedBlocks := stale.foldl indexedBlocksTable.delete db.indexedBlocks }

def addBlock (state : StoredDb × Nat) (block : CanonicalBlock) : StoredDb × Nat :=
  ((state.1.writeBlock block).1, state.2 + (state.1.writeBlock block).2)

def writeBatch (db : StoredDb) (blocks : List CanonicalBlock) : StoredDb × Nat := blocks.foldl addBlock (db, 0)

def commitCanonicalBatch (db : StoredDb) (jadeFirstBlock expectedStart : Nat) (blocks : List CanonicalBlock) (finalized : Option Nat) :
    Except StoredError (StoredDb × Nat) :=
  match blocks.getLast? with
  | none => .ok (db, 0)
  | some last => do
      (checkContiguous expectedStart blocks).mapError .index
      let written := writeBatch db blocks
      let marked := { written.1 with jadeFirstBlockNumber := some jadeFirstBlock, indexedTo := some last.number }
      match finalized with
      | none => .ok (marked, written.2)
      | some finalized =>
          let floor := max finalized jadeFirstBlock
          if floor ≤ last.number then do
            let pruned ← marked.pruneIndexedBlocksBefore floor
            .ok (pruned, written.2)
          else .ok (marked, written.2)

def deleteRange (db : StoredDb) (start stop : Nat) : Except StoredError StoredDb :=
  (List.range' start (stop + 1 - start)).foldlM deleteBlock db

-- One turn of the loop of rollback_suffix; none when it is done.
def rollbackBatch (db : StoredDb) (ancestor : Option Nat) (batchSize : Nat) : Except StoredError (Option StoredDb) :=
  match db.indexedTo with
  | none => .ok none
  | some cursor =>
      if ancestor.any (fun ancestor => cursor ≤ ancestor) then .ok none
      else do
        let lowerBound := ancestor.elim 0 (fun ancestor => ancestor + 1)
        let batchStart := max (cursor - (batchSize - 1)) lowerBound
        let deleted ← db.deleteRange batchStart cursor
        if batchStart = lowerBound then .ok (some { deleted with indexedTo := ancestor })
        else .ok (some { deleted with indexedTo := some (batchStart - 1) })

def collectPage (query : ReferenceQuery) :
    List (ByteKey × Bytes) → Nat → List ReferenceTransactionResult → Except DecodeError (List ReferenceTransactionResult)
  | [], _, results => .ok results
  | row :: rest, skipped, results => do
      let entry ← referenceIndexTable.decodeRow row
      if entry.1.reference ≠ query.reference ∨ results.length ≥ query.limit then .ok results
      else if skipped < query.offset then collectPage query rest (skipped + 1) results
      else collectPage query rest skipped (results ++ [rowResult entry])

def queryAt (db : StoredDb) (query : ReferenceQuery) (canonicalTip : CanonicalTip) : Except StoredError (List ReferenceTransactionResult) :=
  match db.indexedTo with
  | none => .error (.index .indexBehind)
  | some indexedTo => do
      match ← db.indexedBlockHash indexedTo with
      | none => .error (.index .indexBehind)
      | some indexedHash =>
          if indexedTo ≠ canonicalTip.number ∨ indexedHash ≠ canonicalTip.hash then .error (.index .indexBehind)
          else (collectPage query (referenceIndexTable.seek db.referenceIndex ⟨query.reference, 0, 0, 0⟩) 0 []).mapError .database

end StoredDb

end MorphReth.ReferenceIndex
