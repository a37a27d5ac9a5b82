import MorphReth.ReferenceIndex.Branch
import MorphReth.Checks

set_option autoImplicit false

namespace MorphReth.ReferenceIndex

variable {tree : BlockTree}

structure Blank (db : ReferenceIndexDb) : Prop where
  cursor : db.indexedTo = none
  jade : db.jadeFirstBlockNumber = none
  blocks : db.indexedBlocks = Table.empty
  references : db.referenceIndex = Table.empty
  blockReferences : db.blockReferenceIndex = Table.empty

-- The index holds one parent-linked chain from its first Jade block to the
-- cursor, with breadcrumbs from the lowest one not yet pruned.
structure Indexed (jadeTimestamp : Nat) (db : ReferenceIndexDb) (branch : CanonicalChain tree) (lowest : Nat) : Prop where
  cursor : db.indexedTo = some branch.head.number
  jade : db.jadeFirstBlockNumber = some (branch.jadeStart jadeTimestamp)
  above : branch.jadeStart jadeTimestamp ≤ lowest
  below : lowest ≤ branch.head.number
  rows : Rows tree branch.hashes (branch.jadeStart jadeTimestamp) lowest db

theorem indexed_breadcrumb (jadeTimestamp lowest number : Nat) (db : ReferenceIndexDb) (branch : CanonicalChain tree) (hash : B256)
    (indexed : Indexed jadeTimestamp db branch lowest) (stored : db.indexedBlockHash number = some hash) :
    lowest ≤ number ∧ number ≤ branch.head.number ∧ branch.canonicalHash number = some hash := by
  rw [ReferenceIndexDb.indexedBlockHash, indexed.rows.breadcrumbs] at stored
  split at stored
  · next kept =>
      have bound := (List.getElem?_eq_some_iff.mp stored).1
      rw [chain_length] at bound
      exact ⟨kept, by omega, stored⟩
  · cases stored

theorem indexed_head (jadeTimestamp lowest : Nat) (db : ReferenceIndexDb) (branch : CanonicalChain tree)
    (indexed : Indexed jadeTimestamp db branch lowest) : db.indexedBlockHash branch.head.number = some branch.head.hash := by
  rw [ReferenceIndexDb.indexedBlockHash, indexed.rows.breadcrumbs, if_pos indexed.below, head_present]

theorem blank_breadcrumb (db : ReferenceIndexDb) (blank : Blank db) (number : Nat) : db.indexedBlockHash number = none := by
  rw [ReferenceIndexDb.indexedBlockHash, blank.blocks, Table.get_empty]

section Commit

-- A batch read from a chain snapshot on which the index can continue: the
-- rows so far are those of the snapshot below the start.
structure Continues (jadeTimestamp : Nat) (db : ReferenceIndexDb) (chain : CanonicalChain tree) (lowest start : Nat) : Prop where
  jade : chain.jadeStart jadeTimestamp ≤ start
  above : chain.jadeStart jadeTimestamp ≤ lowest
  below : lowest ≤ start
  rows : Rows tree (chain.hashes.take start) (chain.jadeStart jadeTimestamp) lowest db

theorem blank_continues (jadeTimestamp : Nat) (db : ReferenceIndexDb) (chain : CanonicalChain tree) (blank : Blank db) :
    Continues jadeTimestamp db chain (chain.jadeStart jadeTimestamp) (chain.jadeStart jadeTimestamp) := by
  refine ⟨Nat.le_refl _, Nat.le_refl _, Nat.le_refl _, rows_empty _ _ ?_ db blank.blocks blank.references blank.blockReferences⟩
  rw [List.length_take]
  exact Nat.min_le_left _ _

theorem indexed_continues (jadeTimestamp lowest : Nat) (db : ReferenceIndexDb) (branch chain : CanonicalChain tree)
    (indexed : Indexed jadeTimestamp db branch lowest) (holds : chain.canonicalHash branch.head.number = some branch.head.hash) :
    Continues jadeTimestamp db chain lowest (branch.head.number + 1) := by
  have above := indexed.above
  have below := indexed.below
  have start := prefix_jade_start branch chain jadeTimestamp holds (by omega)
  refine ⟨by omega, by omega, by omega, ?_⟩
  rw [start, ← branch_taken branch chain holds]
  exact indexed.rows

theorem written_db (blocks : List CanonicalBlock) (db : ReferenceIndexDb) :
    (writeBatch db blocks).1 = blocks.foldl (fun db block => (writeBlock db block).1) db :=
  (List.foldl_hom Prod.fst (fun _ _ => rfl)).symm

theorem last_of_batch (chain : CanonicalChain tree) (start stop : Nat) (ordered : start ≤ stop) (inside : stop < chain.hashes.length) :
    ∃ last, (chain.canonicalBlocks start stop).getLast? = some last ∧ last.number = stop := by
  have split : stop + 1 - start = stop - start + 1 := by omega
  have place : start + (stop - start) = stop := by omega
  have block : chain.canonicalBlock stop = some (blockOf tree stop chain.hashes[stop]) := by
    rw [CanonicalChain.canonicalBlock, CanonicalChain.canonicalHash, List.getElem?_eq_getElem inside]
    rfl
  refine ⟨blockOf tree stop chain.hashes[stop], ?_, rfl⟩
  rw [CanonicalChain.canonicalBlocks, split, List.range'_1_concat, List.filterMap_append, place, List.filterMap_cons_some block,
    List.filterMap_nil, List.getLast?_append, List.getLast?_singleton, Option.some_or]

theorem prune_finalized_meta (db : ReferenceIndexDb) (jadeFirst lastNumber : Nat) (finalized : Option Nat) :
    (pruneFinalized db jadeFirst lastNumber finalized).indexedTo = db.indexedTo ∧
      (pruneFinalized db jadeFirst lastNumber finalized).jadeFirstBlockNumber = db.jadeFirstBlockNumber := by
  cases finalized with
  | none => exact ⟨rfl, rfl⟩
  | some finalized =>
      simp only [pruneFinalized, pruneIndexedBlocksBefore]
      split
      · split
        · exact ⟨rfl, rfl⟩
        · exact ⟨rfl, rfl⟩
      · exact ⟨rfl, rfl⟩

-- The floor up to which a commit may prune.
def pruneFloor (jadeFirst : Nat) (finalized : Option Nat) : Nat :=
  finalized.elim jadeFirst (fun finalized => max finalized jadeFirst)

theorem rows_prune_finalized (hashes : List B256) (jadeFirst lowest lastNumber : Nat) (finalized : Option Nat) (db : ReferenceIndexDb)
    (rows : Rows tree hashes jadeFirst lowest db) (kept : lowest ≤ lastNumber) :
    ∃ raised, lowest ≤ raised ∧ raised ≤ lastNumber ∧ raised ≤ max lowest (pruneFloor jadeFirst finalized) ∧
      Rows tree hashes jadeFirst raised (pruneFinalized db jadeFirst lastNumber finalized) := by
  cases finalized with
  | none => exact ⟨lowest, Nat.le_refl _, kept, Nat.le_max_left _ _, rows⟩
  | some finalized =>
      simp only [pruneFinalized]
      split
      · next reached =>
          obtain ⟨raised, higher, bounded, pruned⟩ := rows_prune hashes jadeFirst lowest (max finalized jadeFirst) db rows
          exact ⟨raised, higher, by omega, bounded, pruned⟩
      · exact ⟨lowest, Nat.le_refl _, kept, Nat.le_max_left _ _, rows⟩

theorem commit_indexes (jadeTimestamp : Nat) (db after : ReferenceIndexDb) (written : Nat) (chain : CanonicalChain tree)
    (lowest start stop : Nat) (finalized : Option Nat) (continues : Continues jadeTimestamp db chain lowest start)
    (ordered : start ≤ stop) (inside : stop < chain.hashes.length)
    (committed : commitCanonicalBatch db (chain.jadeStart jadeTimestamp) start (chain.canonicalBlocks start stop) finalized =
      .ok (after, written)) :
    ∃ raised, raised ≤ max lowest (pruneFloor (chain.jadeStart jadeTimestamp) finalized) ∧
      Indexed jadeTimestamp after (chain.truncate stop) raised := by
  obtain ⟨last, lastEq, lastNumber⟩ := last_of_batch chain start stop ordered inside
  rw [commitCanonicalBatch, lastEq] at committed
  obtain ⟨_, _, result⟩ := (bind_ok _ _ _).mp committed
  cases result
  have jade := continues.jade
  have below := continues.below
  have above := continues.above
  have rows := rows_write_batch chain (chain.jadeStart jadeTimestamp) lowest start (stop + 1 - start) db continues.rows jade below (by omega)
  rw [← CanonicalChain.canonicalBlocks, ← written_db, show start + (stop + 1 - start) = stop + 1 by omega] at rows
  obtain ⟨raised, higher, atMost, bounded, pruned⟩ := rows_prune_finalized _ (chain.jadeStart jadeTimestamp) lowest last.number finalized
    { (writeBatch db (chain.canonicalBlocks start stop)).1 with
      jadeFirstBlockNumber := some (chain.jadeStart jadeTimestamp), indexedTo := some last.number }
    ⟨rows.breadcrumbs, rows.blockReferences, rows.references⟩ (by omega)
  have head := truncate_head chain stop inside
  have jadeStart := truncate_jade_start chain stop jadeTimestamp (by omega)
  refine ⟨raised, bounded, ?_, ?_, by omega, by omega, ?_⟩
  · rw [(prune_finalized_meta _ _ _ _).1, head, ← lastNumber]
  · rw [(prune_finalized_meta _ _ _ _).2, jadeStart]
  · rw [jadeStart]
    exact pruned

end Commit

theorem rollback_batch_cases (db after : ReferenceIndexDb) (ancestor batchSize cursor : Nat) (stored : db.indexedTo = some cursor)
    (rolled : rollbackBatch db (some ancestor) batchSize = some after) :
    ∃ tip, ancestor ≤ tip ∧ tip < cursor ∧ after = { deleteRange db (tip + 1) cursor with indexedTo := some tip } := by
  simp only [rollbackBatch, stored, Option.any_some, Option.elim_some, decide_eq_true_eq] at rolled
  split at rolled
  · cases rolled
  · next beyond =>
      cases rolled
      have start : ∃ tip, max (cursor - (batchSize - 1)) (ancestor + 1) = tip + 1 := Nat.exists_eq_add_one.mpr (by omega)
      obtain ⟨tip, tipEq⟩ := start
      refine ⟨tip, by omega, by omega, ?_⟩
      simp only [tipEq, Nat.add_right_cancel_iff, Nat.add_sub_cancel]
      congr 1
      split
      · next same => rw [same]
      · rfl

theorem rollback_done (db : ReferenceIndexDb) (cursor ancestor batchSize : Nat) (stored : db.indexedTo = some cursor)
    (done : rollbackBatch db (some ancestor) batchSize = none) : cursor ≤ ancestor := by
  simp only [rollbackBatch, stored, Option.any_some, decide_eq_true_eq] at done
  split at done
  · next atMost => exact atMost
  · cases done

-- One rollback transaction leaves a shorter piece of the same branch that
-- still reaches the ancestor.
theorem rollback_indexes (jadeTimestamp lowest ancestor batchSize : Nat) (db after : ReferenceIndexDb) (branch : CanonicalChain tree)
    (indexed : Indexed jadeTimestamp db branch lowest) (kept : lowest ≤ ancestor)
    (rolled : rollbackBatch db (some ancestor) batchSize = some after) :
    ∃ tip, ancestor ≤ tip ∧ tip < branch.head.number ∧ Indexed jadeTimestamp after (branch.truncate tip) lowest ∧
      after.jadeFirstBlockNumber = db.jadeFirstBlockNumber ∧ after.indexedBlockHash ancestor = db.indexedBlockHash ancestor := by
  obtain ⟨tip, atLeast, lower, rfl⟩ := rollback_batch_cases db after ancestor batchSize branch.head.number indexed.cursor rolled
  have length := chain_length branch
  have above := indexed.above
  have deleted := delete_blocks (List.range' (tip + 1) (branch.head.number + 1 - (tip + 1))) db (rows_paired _ _ _ db indexed.rows)
  have rows := rows_deleted _ _ _ (tip + 1) _ db _ indexed.rows (by omega) deleted
  have head := truncate_head branch tip (by omega)
  have jadeStart := truncate_jade_start branch tip jadeTimestamp (by omega)
  refine ⟨tip, atLeast, lower, ⟨?_, ?_, by omega, by omega, ?_⟩, deleted.jade, ?_⟩
  · rw [head]
  · rw [jadeStart, ← indexed.jade]
    exact deleted.jade
  · rw [jadeStart]
    exact ⟨rows.breadcrumbs, rows.blockReferences, rows.references⟩
  · refine (deleted.hashes ancestor).trans (if_neg ?_)
    rw [List.mem_range'_1]
    omega

end MorphReth.ReferenceIndex
