import MorphReth.Proofs.Snapshots

set_option autoImplicit false

namespace MorphReth.Proofs

-- A child that the store accepts is numbered after its parent, and a
-- replacement starts inside the window.
def ProofsDb.Fits (db : ProofsDb) (operation : StoreOperation) : Prop :=
  match db.proofWindow with
  | none => True
  | some window => WellNumbered window.earliest window.latest operation

instance (db : ProofsDb) (operation : StoreOperation) : Decidable (db.Fits operation) :=
  match found : db.proofWindow with
  | none => isTrue (by rw [ProofsDb.Fits, found]; trivial)
  | some window => decidable_of_iff (WellNumbered window.earliest window.latest operation) (by rw [ProofsDb.Fits, found])

-- Calls may fail; a failed call leaves the store as it is.
def Reachable (db : ProofsDb) : Prop :=
  ∃ start anchor operations, InitialStore start anchor ∧ EachAllowed ProofsDb.commitUpdate ProofsDb.Fits start operations ∧
    runSteps ProofsDb.commitUpdate start operations = db

theorem fitting_commit_refines (db : ProofsDb) (operation : StoreOperation) (before : ∃ history, Refines db history)
    (fits : db.Fits operation) : ∃ history, Refines (db.commitUpdate operation) history := by
  obtain ⟨history, refines⟩ := before
  rw [ProofsDb.Fits, refined_window db history refines] at fits
  exact ⟨_, commit_refines db history refines operation fits⟩

theorem reachable_refines (db : ProofsDb) (reachable : Reachable db) : ∃ history, Refines db history := by
  obtain ⟨start, anchor, operations, initial, fits, rfl⟩ := reachable
  exact run_invariant _ _ (fun db => ∃ history, Refines db history) fitting_commit_refines start operations
    ⟨_, initial_refines start anchor initial⟩ fits

theorem sample_reachable : Reachable (runSteps ProofsDb.commitUpdate sampleDb sampleOperations) :=
  ⟨sampleDb, sampleAnchor, sampleOperations, sample_initial, by decide +kernel, rfl⟩

def sampleStored : ProofsDb :=
  runSteps ProofsDb.commitUpdate sampleDb (sampleOperations.take 2)

theorem stored_reachable : Reachable sampleStored :=
  ⟨sampleDb, sampleAnchor, sampleOperations.take 2, sample_initial, by decide +kernel, rfl⟩

-- Everything that a reader of the store can see.
structure SameContents (left right : ProofsDb) : Prop where
  accountTrie : left.accountTrieHistory = right.accountTrieHistory
  storageTrie : left.storageTrieHistory = right.storageTrieHistory
  hashedAccounts : left.hashedAccountHistory = right.hashedAccountHistory
  hashedStorage : left.hashedStorageHistory = right.hashedStorageHistory
  changeSets : left.blockChangeSet = right.blockChangeSet
  window : left.proofWindow = right.proofWindow

theorem same_table {κ ν : Type} [LinearOrder κ] (left right : HistoryTable κ ν)
    (same : ∀ key version, left.versions key version = right.versions key version) : left = right :=
  Table.ext_get left right (fun place => same (ofLex place).1 (ofLex place).2)

end MorphReth.Proofs
