import MorphReth.Interrupts
import MorphReth.TableCursor
import MorphReth.Proofs.Store

set_option autoImplicit false

namespace MorphReth.Proofs

def initializeStorageThreshold : Nat := 100000

-- The anchor is one more row of the proof window table. Only the
-- initialization reads and writes it.
structure InitialStateDb extends ProofsDb where
  anchorBlock : Option NumHash

abbrev InitJob (α : Type) := Job MorphProofsStorageError InitialStateDb α

inductive InitialStateStatus where
  | notStarted
  | inProgress
  | completed
  deriving DecidableEq, Repr

structure InitialStateAnchor where
  block : Option NumHash
  status : InitialStateStatus
  latestAccountTrieKey : Option Nibbles
  latestStorageTrieKey : Option StorageTrieKey
  latestHashedAccountKey : Option B256
  latestHashedStorageKey : Option HashedStorageKey

section Batches

variable {κ σ ν α : Type} [LinearOrder κ] [LinearOrder σ]

def InitialStateDb.write (db : InitialStateDb) (access : HistoryAccess κ ν) (table : HistoryTable κ ν) : InitialStateDb :=
  { db with toProofsDb := access.write db.toProofsDb table }

def latestKey (table : HistoryTable κ ν) : Option κ :=
  table.rows.getLast?.map (fun row => (ofLex row.1).1)

-- The keys of a batch are distinct, so the unstable sorts have one outcome too.
def sortByKey (items : List (κ × α)) : List (κ × α) :=
  items.insertionSort (fun left right => left.1 ≤ right.1)

def storeSorted (access : HistoryAccess κ ν) (items : List (κ × Option ν)) : InitJob Unit :=
  if items.isEmpty then pure ()
  else
    commit (fun db => do
      let stored ← persistHistoryBatch (access.read db.toProofsDb) 0 (sortByKey items) true
      .ok (db.write access stored.1))

def persistGroup (value : α → Option ν) (table : HistoryTable (AddressKey σ) ν) (group : B256 × List (σ × α)) :
    Except MorphProofsStorageError (HistoryTable (AddressKey σ) ν) := do
  let items := (sortByKey group.2).map (fun entry => (entry.1, value entry.2))
  let stored ← persistHistoryBatch table 0 (inAddress group.1 items) true
  .ok stored.1

def storeBulk (access : HistoryAccess (AddressKey σ) ν) (value : α → Option ν) (entries : List (B256 × List (σ × α))) : InitJob Unit :=
  commit (fun db => do
    let table ← (sortByKey entries).foldlM (persistGroup value) (access.read db.toProofsDb)
    .ok (db.write access table))

structure Grouping (σ α : Type) where
  grouped : List (B256 × List (σ × α))
  currentAddress : Option B256
  current : List (σ × α)

def Grouping.turn (state : Grouping σ α) (address : B256) : Grouping σ α :=
  match state.currentAddress with
  | none => { state with currentAddress := some address }
  | some previous => ⟨state.grouped ++ [(previous, state.current)], some address, []⟩

def Grouping.push (state : Grouping σ α) (entry : AddressKey σ × α) : Grouping σ α :=
  let turned := if state.currentAddress ≠ some (ofLex entry.1).1 then state.turn (ofLex entry.1).1 else state
  { turned with current := turned.current ++ [((ofLex entry.1).2, entry.2)] }

def Grouping.finish (state : Grouping σ α) : List (B256 × List (σ × α)) :=
  match state.currentAddress with
  | none => state.grouped
  | some address => state.grouped ++ [(address, state.current)]

def groupByAddress (entries : List (AddressKey σ × α)) : List (B256 × List (σ × α)) :=
  (entries.foldl Grouping.push ⟨[], none, []⟩).finish

-- The rows of an address first, then on to the next address.
def dupCursorNext (cursor : TableCursor (AddressKey σ) ν) : Option (AddressKey σ × ν) × TableCursor (AddressKey σ) ν :=
  match cursor.nextDup with
  | (some row, after) => (some row, after)
  | (none, after) =>
      match after.nextNoDup with
      | (none, after) => (none, after)
      | (some row, after) => after.seekKey (ofLex row.1).1

def pushEntry (storeEntries : List α → InitJob Unit) (storageThreshold : Nat) (batch : List α) (entry : α) : InitJob (List α) :=
  let batch := batch ++ [entry]
  if storageThreshold ≤ batch.length then do
    storeEntries batch
    pure []
  else pure batch

def initializeEntries (storeEntries : List α → InitJob Unit) (source : List α) (storageThreshold : Nat) : InitJob Nat :=
  if source.isEmpty then pure 0
  else do
    let batch ← source.foldlM (pushEntry storeEntries storageThreshold) []
    if batch.isEmpty then pure () else storeEntries batch
    pure source.length

def seekStart (source : Table κ ν) : Option κ → Except MorphProofsStorageError (TableCursor κ ν)
  | none => .ok ⟨source, none⟩
  | some latest =>
      match (TableCursor.mk source none).seek latest with
      | (none, _) => .error .initializeStorageInconsistentState
      | (some row, cursor) => if row.1 = latest then .ok cursor else .error .initializeStorageInconsistentState

def seekStartDup (source : Table (AddressKey σ) ν) : Option (AddressKey σ) → Except MorphProofsStorageError (TableCursor (AddressKey σ) ν)
  | none => .ok ⟨source, none⟩
  | some latest =>
      match (TableCursor.mk source none).seekByKeySubkey (ofLex latest).1 (ofLex latest).2 with
      | (none, _) => .error .initializeStorageInconsistentState
      | (some row, cursor) => if (ofLex row.1).2 = (ofLex latest).2 then .ok cursor else .error .initializeStorageInconsistentState

-- The loop over the source reads until the cursor reports the end, which is at
-- the latest after every row.
def initializeTable (next : TableCursor κ ν → Option (κ × ν) × TableCursor κ ν)
    (seek : Table κ ν → Option κ → Except MorphProofsStorageError (TableCursor κ ν)) (storeEntries : List (κ × ν) → InitJob Unit)
    (source : Table κ ν) (startKey : Option κ) : InitJob Unit := do
  let startCursor ← require (seek source startKey)
  let _ ← initializeEntries storeEntries (drain next (source.rows.length + 1) startCursor) initializeStorageThreshold
  pure ()

end Batches

-- The tables of the source, at one snapshot. A packed path sorts as the nibbles
-- it holds, so the tries are keyed by the nibbles.
structure SourceTables where
  hashedAccounts : Table B256 Account
  hashedStorages : Table HashedStorageKey U256
  packedAccountsTrie : Table Nibbles BranchNodeCompact
  packedStoragesTrie : Table StorageTrieKey BranchNodeCompact

namespace InitialStateDb

def initialStateAnchor (db : InitialStateDb) : InitialStateAnchor :=
  match db.anchorBlock with
  | none => ⟨none, .notStarted, none, none, none, none⟩
  | some block =>
      ⟨some block, if db.earliestBlock.isSome then .completed else .inProgress, latestKey db.accountTrieHistory, latestKey db.storageTrieHistory,
        latestKey db.hashedAccountHistory, latestKey db.hashedStorageHistory⟩

end InitialStateDb

-- The insertion fails on a row that is already there.
def setInitialStateAnchor (anchor : NumHash) : InitJob Unit :=
  commit (fun db => if db.anchorBlock.isSome then .error .databaseError else .ok { db with anchorBlock := some anchor })

def storeAccountBranches (accountNodes : List (Nibbles × Option BranchNodeCompact)) : InitJob Unit :=
  storeSorted accountTrieAccess accountNodes

def storeStorageBranchesBulk (entries : List (B256 × List (Nibbles × Option BranchNodeCompact))) : InitJob Unit :=
  storeBulk storageTrieAccess id entries

def storeHashedAccounts (accounts : List (B256 × Option Account)) : InitJob Unit :=
  storeSorted hashedAccountAccess accounts

def storeHashedStoragesBulk (entries : List (B256 × List (B256 × U256))) : InitJob Unit :=
  storeBulk hashedStorageAccess some entries

def commitInitialState : InitJob NumHash := do
  let anchor ← committed InitialStateDb.anchorBlock
  match anchor with
  | none => require (.error .noBlocksFound)
  | some anchor => do
      commit (fun db => .ok { db with earliestBlock := some anchor })
      pure anchor

def HashedAccountsInit.storeEntries (entries : List (B256 × Account)) : InitJob Unit :=
  storeHashedAccounts (entries.map (fun entry => (entry.1, some entry.2)))

def HashedStoragesInit.storeEntries (entries : List (HashedStorageKey × U256)) : InitJob Unit :=
  storeHashedStoragesBulk (groupByAddress entries)

def PackedAccountsTrieInit.storeEntries (entries : List (Nibbles × BranchNodeCompact)) : InitJob Unit :=
  storeAccountBranches (entries.map (fun entry => (entry.1, some entry.2)))

def PackedStoragesTrieInit.storeEntries (entries : List (StorageTrieKey × BranchNodeCompact)) : InitJob Unit :=
  storeStorageBranchesBulk (groupByAddress (entries.map (fun entry => (entry.1, some entry.2))))

namespace SourceTables

variable (source : SourceTables)

def initializeHashedAccounts (startKey : Option B256) : InitJob Unit :=
  initializeTable TableCursor.next seekStart HashedAccountsInit.storeEntries source.hashedAccounts startKey

def initializeHashedStorages (startKey : Option HashedStorageKey) : InitJob Unit :=
  initializeTable dupCursorNext seekStartDup HashedStoragesInit.storeEntries source.hashedStorages startKey

def initializeAccountsTrie (startKey : Option Nibbles) : InitJob Unit :=
  initializeTable TableCursor.next seekStart PackedAccountsTrieInit.storeEntries source.packedAccountsTrie startKey

def initializeStoragesTrie (startKey : Option StorageTrieKey) : InitJob Unit :=
  initializeTable dupCursorNext seekStartDup PackedStoragesTrieInit.storeEntries source.packedStoragesTrie startKey

def initializeTrie (anchor : InitialStateAnchor) : InitJob Unit := do
  source.initializeHashedAccounts anchor.latestHashedAccountKey
  source.initializeHashedStorages anchor.latestHashedStorageKey
  source.initializeStoragesTrie anchor.latestStorageTrieKey
  source.initializeAccountsTrie anchor.latestAccountTrieKey

def validateAnchorBlock (anchor : InitialStateAnchor) (best : NumHash) : Except MorphProofsStorageError Unit :=
  match anchor.block with
  | none => .error .initializeStorageInconsistentState
  | some block =>
      if block.number ≠ best.number ∨ block.hash ≠ best.hash then .error .initializeStorageInconsistentState else .ok ()

def prepare (anchor : InitialStateAnchor) (best : NumHash) : InitJob Unit :=
  match anchor.status with
  | .completed => pure ()
  | .notStarted => setInitialStateAnchor best
  | .inProgress => require (validateAnchorBlock anchor best)

def run (best : NumHash) : InitJob Unit := do
  let anchor ← committed InitialStateDb.initialStateAnchor
  if anchor.status = .completed then pure ()
  else do
    prepare anchor best
    source.initializeTrie anchor
    let _ ← commitInitialState
    pure ()

end SourceTables

end MorphReth.Proofs
