import MorphReth.Proofs.Reachable

set_option autoImplicit false

namespace MorphReth.Proofs

open ProofsDb

inductive PrunerError (ε : Type) where
  | storage (error : MorphProofsStorageError)
  | provider (error : ε)
  | blockNotFound (number : Nat)

def WriteCounts.add (left right : WriteCounts) : WriteCounts where
  accountTrieUpdatesWrittenTotal := left.accountTrieUpdatesWrittenTotal + right.accountTrieUpdatesWrittenTotal
  storageTrieUpdatesWrittenTotal := left.storageTrieUpdatesWrittenTotal + right.storageTrieUpdatesWrittenTotal
  hashedAccountsWrittenTotal := left.hashedAccountsWrittenTotal + right.hashedAccountsWrittenTotal
  hashedStoragesWrittenTotal := left.hashedStoragesWrittenTotal + right.hashedStoragesWrittenTotal

structure PrunerOutput where
  startBlock : Nat
  endBlock : Nat
  writeCounts : WriteCounts

def PrunerOutput.default : PrunerOutput :=
  ⟨0, 0, ⟨0, 0, 0, 0⟩⟩

def PrunerOutput.extendRef (output other : PrunerOutput) : PrunerOutput where
  startBlock := if other.startBlock < output.startBlock then other.startBlock else output.startBlock
  endBlock := if output.endBlock < other.endBlock then other.endBlock else output.endBlock
  writeCounts := output.writeCounts.add other.writeCounts

-- A batch size of zero is refused when the pruner is made.
structure MorphProofStoragePruner (ε : Type) where
  blockHashReader : Nat → Except ε (Option B256)
  retentionBlocks : Nat
  pruneBatchSize : Nat
  positive : 0 < pruneBatchSize

namespace MorphProofStoragePruner

variable {ε : Type} (pruner : MorphProofStoragePruner ε)

def targetEarliestBlock (latestBlock : Nat) : Nat :=
  latestBlock - pruner.retentionBlocks

def newEarliestBlockHash (endBlock : Nat) : Except (PrunerError ε) B256 :=
  match pruner.blockHashReader endBlock with
  | .error error => .error (.provider error)
  | .ok none => .error (.blockNotFound endBlock)
  | .ok (some hash) => .ok hash

-- Each batch is a transaction of its own; the parent hash is not read.
def pruneBatch (startBlock endBlock : Nat) (db : ProofsDb) : Except (PrunerError ε) PrunerOutput × ProofsDb :=
  if endBlock = 0 then (.ok ⟨startBlock, endBlock, ⟨0, 0, 0, 0⟩⟩, db)
  else
    match pruner.newEarliestBlockHash endBlock with
    | .error error => (.error error, db)
    | .ok hash =>
        match db.pruneEarliestState ⟨0, ⟨endBlock, hash⟩⟩ with
        | .error error => (.error (.storage error), db)
        | .ok (after, counts) => (.ok ⟨startBlock, endBlock, counts⟩, after)

-- The end of a batch is cut off at the target, so that the saturation of the
-- addition is never seen.
def pruneBatches (targetEarliestBlock : Nat) : Nat → Nat → PrunerOutput → ProofsDb → Except (PrunerError ε) PrunerOutput × ProofsDb
  | 0, _, output, db => (.ok output, db)
  | fuel + 1, currentEarliestBlock, output, db =>
      if currentEarliestBlock < targetEarliestBlock then
        let batchEndBlock := min (currentEarliestBlock + pruner.pruneBatchSize) targetEarliestBlock
        match pruner.pruneBatch currentEarliestBlock batchEndBlock db with
        | (.error error, after) => (.error error, after)
        | (.ok batch, after) => pruneBatches targetEarliestBlock fuel batchEndBlock (output.extendRef batch) after
      else (.ok output, db)

-- Every batch moves the earliest block up, so that the distance to the target
-- bounds the number of batches.
def runInner (db : ProofsDb) : Except (PrunerError ε) PrunerOutput × ProofsDb :=
  match db.earliestBlock, db.latestBlockNumberHash with
  | some earliest, some latest =>
      let target := pruner.targetEarliestBlock latest.number
      if target ≤ earliest.number then (.ok PrunerOutput.default, db)
      else pruner.pruneBatches target (target - earliest.number) earliest.number ⟨earliest.number, target, ⟨0, 0, 0, 0⟩⟩ db
  | some _, none | none, _ => (.ok PrunerOutput.default, db)

end MorphProofStoragePruner

-- Every key of every table pruned, and the change sets of the pruned blocks
-- gone.
structure PrunedTables (before after : ProofsDb) (earliest target : Nat) : Prop where
  accountTrie : ∀ key, PrunedTo (before.accountTrieHistory.versions key) (after.accountTrieHistory.versions key) earliest target
  storageTrie : ∀ key, PrunedTo (before.storageTrieHistory.versions key) (after.storageTrieHistory.versions key) earliest target
  hashedAccounts : ∀ key, PrunedTo (before.hashedAccountHistory.versions key) (after.hashedAccountHistory.versions key) earliest target
  hashedStorage : ∀ key, PrunedTo (before.hashedStorageHistory.versions key) (after.hashedStorageHistory.versions key) earliest target
  changeSets : ∀ number, after.blockChangeSet.get number = if earliest < number ∧ number ≤ target then none else before.blockChangeSet.get number

structure SameTables (left right : ProofsDb) : Prop where
  accountTrie : left.accountTrieHistory = right.accountTrieHistory
  storageTrie : left.storageTrieHistory = right.storageTrieHistory
  hashedAccounts : left.hashedAccountHistory = right.hashedAccountHistory
  hashedStorage : left.hashedStorageHistory = right.hashedStorageHistory
  changeSets : left.blockChangeSet = right.blockChangeSet

structure SameViews (left right : ProofsDb) (block : Nat) : Prop where
  accountTrie : ∀ key, viewAt left.accountTrieHistory block key = viewAt right.accountTrieHistory block key
  storageTrie : ∀ key, viewAt left.storageTrieHistory block key = viewAt right.storageTrieHistory block key
  hashedAccounts : ∀ key, viewAt left.hashedAccountHistory block key = viewAt right.hashedAccountHistory block key
  hashedStorage : ∀ key, viewAt left.hashedStorageHistory block key = viewAt right.hashedStorageHistory block key

section Tables

variable {κ ν : Type} [LinearOrder κ] (before after other : HistoryTable κ ν) (earliest target : Nat)

theorem pruned_table_unique (pruned : ∀ key, PrunedTo (before.versions key) (after.versions key) earliest target)
    (alike : ∀ key, PrunedTo (before.versions key) (other.versions key) earliest target) : after = other :=
  same_table after other (fun key => congrFun (pruned_unique _ _ _ _ (pruned key) _ (alike key)))

theorem pruned_table_view (pruned : ∀ key, PrunedTo (before.versions key) (after.versions key) earliest target) (block : Nat)
    (since : target ≤ block) (key : κ) : viewAt before block key = viewAt after block key := by
  have same := pruned_live (fun _ => true) _ _ _ _ (pruned key) block since
  simpa only [live, filter_visible, viewAt] using same.symm

end Tables

theorem pruned_tables_refl (db : ProofsDb) (earliest : Nat) : PrunedTables db db earliest earliest where
  accountTrie _ := pruned_refl _ earliest
  storageTrie _ := pruned_refl _ earliest
  hashedAccounts _ := pruned_refl _ earliest
  hashedStorage _ := pruned_refl _ earliest
  changeSets _ := (if_neg (fun inside => absurd inside.1 (Nat.not_lt_of_le inside.2))).symm

section Compose

variable (before between after other : ProofsDb) (earliest middle target : Nat)

theorem pruned_tables_trans (first : PrunedTables before between earliest middle) (second : PrunedTables between after middle target)
    (low : earliest ≤ middle) (high : middle ≤ target) : PrunedTables before after earliest target where
  accountTrie key := pruned_trans _ _ _ _ (first.accountTrie key) _ _ (second.accountTrie key) low high
  storageTrie key := pruned_trans _ _ _ _ (first.storageTrie key) _ _ (second.storageTrie key) low high
  hashedAccounts key := pruned_trans _ _ _ _ (first.hashedAccounts key) _ _ (second.hashedAccounts key) low high
  hashedStorage key := pruned_trans _ _ _ _ (first.hashedStorage key) _ _ (second.hashedStorage key) low high
  changeSets number := by
    rw [second.changeSets, first.changeSets]
    by_cases inFirst : earliest < number ∧ number ≤ middle
    · rw [if_pos inFirst, ite_self, if_pos ⟨inFirst.1, Nat.le_trans inFirst.2 high⟩]
    · rw [if_neg inFirst]
      exact if_congr (by omega) rfl rfl

theorem pruned_tables_unique (pruned : PrunedTables before after earliest target) (alike : PrunedTables before other earliest target) :
    SameTables after other where
  accountTrie := pruned_table_unique _ _ _ _ _ pruned.accountTrie alike.accountTrie
  storageTrie := pruned_table_unique _ _ _ _ _ pruned.storageTrie alike.storageTrie
  hashedAccounts := pruned_table_unique _ _ _ _ _ pruned.hashedAccounts alike.hashedAccounts
  hashedStorage := pruned_table_unique _ _ _ _ _ pruned.hashedStorage alike.hashedStorage
  changeSets := Table.ext_get _ _ (fun number => (pruned.changeSets number).trans (alike.changeSets number).symm)

theorem pruned_tables_view (pruned : PrunedTables before after earliest target) (block : Nat) (since : target ≤ block) :
    SameViews before after block where
  accountTrie := pruned_table_view _ _ _ _ pruned.accountTrie block since
  storageTrie := pruned_table_view _ _ _ _ pruned.storageTrie block since
  hashedAccounts := pruned_table_view _ _ _ _ pruned.hashedAccounts block since
  hashedStorage := pruned_table_view _ _ _ _ pruned.hashedStorage block since

end Compose

-- A store on its way: pruned from the window it started with up to the block
-- reached.
structure Progress (start : ProofsDb) (history : History) (state : ProofsDb) (reached : NumHash) : Prop where
  tables : PrunedTables start state history.earliest.number reached.number
  refines : Refines state { history with earliest := reached }
  latest : state.latestBlock = start.latestBlock
  above : history.earliest.number ≤ reached.number

section Progress

variable (start : ProofsDb) (history : History)

theorem progress_start (refines : Refines start history) : Progress start history start history.earliest :=
  ⟨pruned_tables_refl start _, refines, rfl, Nat.le_refl _⟩

theorem prune_moves (refines : Refines start history) (blockRef : BlockWithParent) (above : history.earliest.number < blockRef.block.number)
    (within : blockRef.block.number ≤ history.latest.number) :
    ∃ after counts, start.pruneEarliestState blockRef = .ok (after, counts) ∧ Progress start history after blockRef.block := by
  obtain ⟨beyond, _⟩ | ⟨_, early, _⟩ | ⟨_, _, after, counts, pruned, afterRefines⟩ := prune_refines start history refines blockRef
  · exact absurd beyond (Nat.not_lt_of_le within)
  · exact absurd above (Nat.not_lt_of_le early)
  · refine ⟨after, counts, pruned, ?_, afterRefines, ?_, Nat.le_of_lt above⟩
    all_goals
      simp only [pruneEarliestState, calculatePrunePlan, refined_window start history refines, if_neg (Nat.not_lt_of_le within),
        if_neg (Nat.not_le_of_lt above), bind, Except.bind, Except.ok.injEq, Prod.mk.injEq] at pruned
      obtain ⟨rfl, _⟩ := pruned
    · have present : (start.blockChangeSet.get blockRef.block.number).isSome := (refines.changeSets _).mpr ⟨above, within⟩
      exact
        { accountTrie := prune_versions _ _ _ _ _ refines.accountTrie.listed present
          storageTrie := prune_versions _ _ _ _ _ refines.storageTrie.listed present
          hashedAccounts := prune_versions _ _ _ _ _ refines.hashedAccounts.listed present
          hashedStorage := prune_versions _ _ _ _ _ refines.hashedStorage.listed present
          changeSets := fun number => by
            rw [get_delete_change_sets]
            exact if_congr (by simp only [Bool.and_eq_true, decide_eq_true_eq, Nat.succ_le_iff]) rfl rfl }
    · rfl

variable (state : ProofsDb) (reached : NumHash) (progress : Progress start history state reached)

include progress

theorem progress_move (blockRef : BlockWithParent) (above : reached.number < blockRef.block.number)
    (within : blockRef.block.number ≤ history.latest.number) :
    ∃ after counts, state.pruneEarliestState blockRef = .ok (after, counts) ∧ Progress start history after blockRef.block := by
  obtain ⟨after, counts, pruned, moved⟩ := prune_moves state { history with earliest := reached } progress.refines blockRef above within
  have further := Nat.le_of_lt above
  exact ⟨after, counts, pruned, pruned_tables_trans _ _ _ _ _ _ progress.tables moved.tables progress.above further, moved.refines,
    moved.latest.trans progress.latest, Nat.le_trans progress.above further⟩

-- A request for a block that is already gone changes nothing.
theorem progress_accepts (blockRef : BlockWithParent) (within : blockRef.block.number ≤ history.latest.number) :
    ∃ after counts final, state.pruneEarliestState blockRef = .ok (after, counts) ∧ Progress start history after final ∧
      final.number = max reached.number blockRef.block.number := by
  by_cases above : reached.number < blockRef.block.number
  · obtain ⟨after, counts, pruned, moved⟩ := progress_move start history state reached progress blockRef above within
    exact ⟨after, counts, _, pruned, moved, (Nat.max_eq_right (Nat.le_of_lt above)).symm⟩
  · obtain ⟨beyond, _⟩ | ⟨_, _, nothing⟩ | ⟨_, further, _⟩ := prune_refines state _ progress.refines blockRef
    · exact absurd beyond (Nat.not_lt_of_le within)
    · exact ⟨state, _, reached, nothing, progress, (Nat.max_eq_left (Nat.le_of_not_lt above)).symm⟩
    · exact absurd further above

-- Two ways to the same block.
theorem progress_unique (refines : Refines start history) (above : history.earliest.number < reached.number) (blockRef : BlockWithParent)
    (same : blockRef.block = reached) (within : reached.number ≤ history.latest.number) :
    ∃ counts, start.pruneEarliestState blockRef = .ok (state, counts) := by
  subst same
  obtain ⟨after, counts, pruned, moved⟩ := prune_moves start history refines blockRef above within
  obtain ⟨accountTrie, storageTrie, hashedAccounts, hashedStorage, changeSets⟩ := pruned_tables_unique _ _ _ _ _ progress.tables moved.tables
  have earliest := progress.refines.earliest.trans moved.refines.earliest.symm
  have latest := progress.latest.trans moved.latest.symm
  refine ⟨counts, ?_⟩
  rw [pruned]
  cases state
  cases after
  simp_all

end Progress

-- Pruning to one block and then to another gives the tables of pruning to the
-- later one.
def PrunesCompose (db : ProofsDb) : Prop :=
  ∀ first second : BlockWithParent, first.block.number ≤ second.block.number → ∀ direct counts,
    db.pruneEarliestState second = .ok (direct, counts) →
    ∃ between firstCounts after secondCounts, db.pruneEarliestState first = .ok (between, firstCounts) ∧
      between.pruneEarliestState second = .ok (after, secondCounts) ∧ SameTables after direct

theorem prunes_compose (db : ProofsDb) (history : History) (refines : Refines db history) : PrunesCompose db := by
  intro first second ordered direct counts pruned
  have within : second.block.number ≤ history.latest.number := by
    by_contra beyond
    obtain ⟨_, refused⟩ | ⟨inside, _⟩ | ⟨inside, _⟩ := prune_refines db history refines second
    · rw [refused] at pruned
      cases pruned
    · exact beyond inside
    · exact beyond inside
  have start := progress_start db history refines
  obtain ⟨_, _, final, alone, directProgress, finalNumber⟩ := progress_accepts db history db _ start second within
  obtain ⟨between, firstCounts, middle, firstPruned, firstProgress, middleNumber⟩ :=
    progress_accepts db history db _ start first (Nat.le_trans ordered within)
  obtain ⟨after, secondCounts, last, secondPruned, secondProgress, lastNumber⟩ :=
    progress_accepts db history between _ firstProgress second within
  rw [pruned] at alone
  cases alone
  refine ⟨between, firstCounts, after, secondCounts, firstPruned, secondPruned, pruned_tables_unique _ _ _ _ _ ?_ directProgress.tables⟩
  have sameNumber : last.number = final.number := by
    rw [lastNumber, middleNumber, finalNumber, Nat.max_assoc, Nat.max_eq_right ordered]
  rw [← sameNumber]
  exact secondProgress.tables

section Batches

variable {ε : Type} (pruner : MorphProofStoragePruner ε) (start : ProofsDb) (history : History)

open MorphProofStoragePruner

-- A batch fails on the hash of its end block, or it moves the earliest block
-- there.
theorem batch_moves (state : ProofsDb) (reached : NumHash) (progress : Progress start history state reached) (endBlock : Nat)
    (above : reached.number < endBlock) (within : endBlock ≤ history.latest.number) :
    (∃ error, pruner.pruneBatch reached.number endBlock state = (.error error, state) ∧
        ∀ hash, pruner.blockHashReader endBlock ≠ .ok (some hash)) ∨
      ∃ hash output after, pruner.blockHashReader endBlock = .ok (some hash) ∧
        pruner.pruneBatch reached.number endBlock state = (.ok output, after) ∧ Progress start history after ⟨endBlock, hash⟩ := by
  rw [pruneBatch, if_neg (Nat.ne_zero_of_lt above), newEarliestBlockHash]
  cases read : pruner.blockHashReader endBlock with
  | error error => exact .inl ⟨_, rfl, fun hash absurd => (by cases absurd)⟩
  | ok found =>
      cases found with
      | none => exact .inl ⟨_, rfl, fun hash absurd => (by cases absurd)⟩
      | some hash =>
          obtain ⟨after, counts, pruned, moved⟩ := progress_move start history state reached progress ⟨0, ⟨endBlock, hash⟩⟩ above within
          refine .inr ⟨hash, ⟨reached.number, endBlock, counts⟩, after, rfl, ?_, moved⟩
          simp only [pruned]

-- By induction on the number of batches left. A run that stops early leaves the
-- batches it committed.
theorem batches_move (target fuel : Nat) (output : PrunerOutput) (state : ProofsDb) (reached : NumHash)
    (progress : Progress start history state reached)
    (known : history.earliest.number < reached.number → pruner.blockHashReader reached.number = .ok (some reached.hash))
    (below : reached.number ≤ target) (within : target ≤ history.latest.number) (enough : target ≤ reached.number + fuel) :
    ∃ final, Progress start history (pruner.pruneBatches target fuel reached.number output state).2 final ∧
      (history.earliest.number < final.number → pruner.blockHashReader final.number = .ok (some final.hash)) ∧
      (∀ total, (pruner.pruneBatches target fuel reached.number output state).1 = .ok total → final.number = target) ∧
      ((∀ block, reached.number < block → block ≤ target → ∃ hash, pruner.blockHashReader block = .ok (some hash)) →
        ∃ total, (pruner.pruneBatches target fuel reached.number output state).1 = .ok total) := by
  induction fuel generalizing output state reached with
  | zero => exact ⟨reached, progress, known, fun _ _ => Nat.le_antisymm below enough, fun _ => ⟨output, rfl⟩⟩
  | succ fuel ih =>
      rw [pruneBatches]
      by_cases more : reached.number < target
      · rw [if_pos more]
        have positive := pruner.positive
        have above : reached.number < min (reached.number + pruner.pruneBatchSize) target := by omega
        have notBeyond : min (reached.number + pruner.pruneBatchSize) target ≤ target := Nat.min_le_right _ _
        obtain ⟨error, failed, unknown⟩ | ⟨hash, batch, after, read, done, moved⟩ :=
          batch_moves pruner start history state reached progress _ above (Nat.le_trans notBeyond within)
        · simp only [failed]
          refine ⟨reached, progress, known, fun _ absurd => (by cases absurd), fun readable => ?_⟩
          obtain ⟨hash, read⟩ := readable _ above notBeyond
          exact absurd read (unknown hash)
        · simp only [done]
          obtain ⟨final, rest⟩ := ih (output.extendRef batch) after ⟨_, hash⟩ moved (fun _ => read) notBeyond (by dsimp only; omega)
          exact ⟨final, rest.1, rest.2.1, rest.2.2.1, fun readable =>
            rest.2.2.2 (fun block later => readable block (Nat.lt_trans above later))⟩
      · rw [if_neg more]
        exact ⟨reached, progress, known, fun _ _ => Nat.le_antisymm below (Nat.le_of_not_lt more), fun _ => ⟨output, rfl⟩⟩

end Batches

-- What a completed run leaves is what one prune to the target leaves.
structure PrunedInOneStep (db after : ProofsDb) (target latest : NumHash) : Prop where
  single : ∃ counts, db.pruneEarliestState ⟨0, target⟩ = .ok (after, counts)
  window : after.proofWindow = some ⟨target, latest⟩
  views : ∀ block, target.number ≤ block → SameViews db after block

def RunIsOnePrune {ε : Type} (pruner : MorphProofStoragePruner ε) (db : ProofsDb) (earliest latest : NumHash) : Prop :=
  (pruner.targetEarliestBlock latest.number ≤ earliest.number → pruner.runInner db = (.ok PrunerOutput.default, db)) ∧
    (earliest.number < pruner.targetEarliestBlock latest.number →
      (∀ output, (pruner.runInner db).1 = .ok output →
        ∃ hash, pruner.blockHashReader (pruner.targetEarliestBlock latest.number) = .ok (some hash) ∧
          PrunedInOneStep db (pruner.runInner db).2 ⟨pruner.targetEarliestBlock latest.number, hash⟩ latest) ∧
      ((∀ block, earliest.number < block → block ≤ pruner.targetEarliestBlock latest.number →
          ∃ hash, pruner.blockHashReader block = .ok (some hash)) →
        ∃ output, (pruner.runInner db).1 = .ok output))

theorem run_is_one_prune {ε : Type} (pruner : MorphProofStoragePruner ε) (db : ProofsDb) (history : History) (refines : Refines db history) :
    RunIsOnePrune pruner db history.earliest history.latest := by
  rw [RunIsOnePrune, MorphProofStoragePruner.runInner, refines.earliest, refines.latest]
  refine ⟨fun early => if_pos early, fun more => ?_⟩
  dsimp only
  rw [if_neg (Nat.not_le_of_lt more)]
  have within : pruner.targetEarliestBlock history.latest.number ≤ history.latest.number := Nat.sub_le _ _
  obtain ⟨final, progress, known, ends, succeeds⟩ := batches_move pruner db history (pruner.targetEarliestBlock history.latest.number)
    (pruner.targetEarliestBlock history.latest.number - history.earliest.number)
    ⟨history.earliest.number, pruner.targetEarliestBlock history.latest.number, ⟨0, 0, 0, 0⟩⟩ db history.earliest
    (progress_start db history refines) (fun same => absurd same (Nat.lt_irrefl _)) (Nat.le_of_lt more) within (by omega)
  refine ⟨fun output completed => ?_, succeeds⟩
  have reached := ends output completed
  have exactly : final = ⟨pruner.targetEarliestBlock history.latest.number, final.hash⟩ := by rw [← reached]
  have read := known (by omega)
  rw [reached] at read
  refine ⟨final.hash, read, ?_⟩
  rw [← exactly]
  exact ⟨progress_unique db history _ final progress refines (by omega) ⟨0, final⟩ rfl (by omega), refined_window _ _ progress.refines,
    fun block since => pruned_tables_view _ _ _ _ progress.tables block since⟩

theorem batched_prune_is_one_prune {ε : Type} (pruner : MorphProofStoragePruner ε) (db : ProofsDb) (reachable : Reachable db) :
    (∃ window, db.proofWindow = some window ∧ RunIsOnePrune pruner db window.earliest window.latest) ∧ PrunesCompose db := by
  obtain ⟨history, refines⟩ := reachable_refines db reachable
  exact ⟨⟨_, refined_window db history refines, run_is_one_prune pruner db history refines⟩, prunes_compose db history refines⟩

-- Blocks 11 and 12 stored over block 10, pruned one block at a time.
def samplePruner : MorphProofStoragePruner Unit where
  blockHashReader number := .ok (some (BitVec.ofNat 256 (150 + number)))
  retentionBlocks := 0
  pruneBatchSize := 1
  positive := by decide

theorem batched_prune_is_one_prune_sample :
    ((∃ window, sampleStored.proofWindow = some window ∧ RunIsOnePrune samplePruner sampleStored window.earliest window.latest) ∧
        PrunesCompose sampleStored) ∧
      (samplePruner.runInner sampleStored).2.earliestBlock = some ⟨12, 0xA2⟩ :=
  ⟨batched_prune_is_one_prune samplePruner sampleStored stored_reachable, by decide +kernel⟩

end MorphReth.Proofs
