import MorphReth.Words
import MorphReth.DupCursor
import Mathlib.Data.List.Lex

set_option autoImplicit false

namespace MorphReth.Proofs

instance : LinearOrder B256 where
  le_refl hash := Nat.le_refl hash.toNat
  le_trans _ _ _ := Nat.le_trans
  lt_iff_le_not_ge left right := lt_iff_le_not_ge (a := left.toNat) (b := right.toNat)
  le_antisymm _ _ lower upper := BitVec.eq_of_toNat_eq (Nat.le_antisymm lower upper)
  le_total left right := Nat.le_total left.toNat right.toNat
  toDecidableLE := inferInstance
  toDecidableEq := inferInstance

abbrev Nibbles := List (Fin 16)

structure BranchNodeCompact where
  stateMask : U16
  treeMask : U16
  hashMask : U16
  hashes : List B256
  rootHash : Option B256
  deriving DecidableEq, Repr

structure Account where
  nonce : U64
  balance : U256
  bytecodeHash : Option B256
  deriving DecidableEq, Repr

-- Stored as the address followed by the path or slot, and so ordered by the
-- address first.
abbrev AddressKey (σ : Type) := B256 ×ₗ σ

abbrev StorageTrieKey := AddressKey Nibbles
abbrev HashedStorageKey := AddressKey B256

structure NumHash where
  number : Nat
  hash : B256
  deriving DecidableEq, Repr

structure BlockWithParent where
  parent : B256
  block : NumHash
  deriving DecidableEq, Repr

-- The sorted vectors of a diff are tables; the two hash maps from addresses are
-- taken in address order.
structure StorageTrieUpdatesSorted where
  isDeleted : Bool
  storageNodes : Table Nibbles (Option BranchNodeCompact)

structure HashedStorageSorted where
  storageSlots : Table B256 U256
  wiped : Bool

structure BlockStateDiff where
  accountNodes : Table Nibbles (Option BranchNodeCompact)
  storageTries : Table B256 StorageTrieUpdatesSorted
  accounts : Table B256 (Option Account)
  storages : Table B256 HashedStorageSorted

structure ChangeSet where
  accountTrieKeys : List Nibbles
  storageTrieKeys : List StorageTrieKey
  hashedAccountKeys : List B256
  hashedStorageKeys : List HashedStorageKey

structure WriteCounts where
  accountTrieUpdatesWrittenTotal : Nat
  storageTrieUpdatesWrittenTotal : Nat
  hashedAccountsWrittenTotal : Nat
  hashedStoragesWrittenTotal : Nat
  deriving DecidableEq, Repr

inductive MorphProofsStorageError where
  | noBlocksFound
  | unknownParent
  | outOfOrder (blockNumber : Nat) (parentBlockHash latestBlockHash : B256)
  | missingParentBlock (blockNumber parentBlockNumber latestBlockNumber : Nat)
  | stateRootMismatch (blockNumber : Nat) (currentStateHash expectedStateHash : B256)
  | noChangeSetForBlock (blockNumber : Nat)
  | missingAccountTrieHistory (path : Nibbles) (blockNumber : Nat)
  | missingStorageTrieHistory (hashedAddress : B256) (path : Nibbles) (blockNumber : Nat)
  | missingHashedAccountHistory (key : B256) (blockNumber : Nat)
  | missingHashedStorageHistory (hashedAddress hashedStorageKey : B256) (blockNumber : Nat)
  | unwindBeyondEarliest (unwindBlockNumber earliestBlockNumber : Nat)
  | pruneBeyondLatest (targetBlockNumber latestBlockNumber : Nat)
  | databaseError
  | tryLockError
  | executionError
  | providerError
  | initializeStorageInconsistentState
  | batchSessionClosed
  deriving DecidableEq, Repr

-- Rows are versioned by block number; a row without a value is a tombstone.
abbrev HistoryTable (κ ν : Type) [LinearOrder κ] := DupTable κ (Option ν)

-- The proof window table has one row for each of the last two fields.
structure ProofsDb where
  accountTrieHistory : HistoryTable Nibbles BranchNodeCompact
  storageTrieHistory : HistoryTable StorageTrieKey BranchNodeCompact
  hashedAccountHistory : HistoryTable B256 Account
  hashedStorageHistory : HistoryTable HashedStorageKey U256
  blockChangeSet : Table Nat ChangeSet
  earliestBlock : Option NumHash
  latestBlock : Option NumHash

-- One of the four history tables of the store.
structure HistoryAccess (κ ν : Type) [LinearOrder κ] where
  read : ProofsDb → HistoryTable κ ν
  write : ProofsDb → HistoryTable κ ν → ProofsDb
  readWrite : ∀ db table, read (write db table) = table
  writeWrite : ∀ db first second, write (write db first) second = write db second
  writeRead : ∀ db, write db (read db) = db

def accountTrieAccess : HistoryAccess Nibbles BranchNodeCompact where
  read := ProofsDb.accountTrieHistory
  write db table := { db with accountTrieHistory := table }
  readWrite _ _ := rfl
  writeWrite _ _ _ := rfl
  writeRead _ := rfl

def storageTrieAccess : HistoryAccess StorageTrieKey BranchNodeCompact where
  read := ProofsDb.storageTrieHistory
  write db table := { db with storageTrieHistory := table }
  readWrite _ _ := rfl
  writeWrite _ _ _ := rfl
  writeRead _ := rfl

def hashedAccountAccess : HistoryAccess B256 Account where
  read := ProofsDb.hashedAccountHistory
  write db table := { db with hashedAccountHistory := table }
  readWrite _ _ := rfl
  writeWrite _ _ _ := rfl
  writeRead _ := rfl

def hashedStorageAccess : HistoryAccess HashedStorageKey U256 where
  read := ProofsDb.hashedStorageHistory
  write db table := { db with hashedStorageHistory := table }
  readWrite _ _ := rfl
  writeWrite _ _ _ := rfl
  writeRead _ := rfl

end MorphReth.Proofs
