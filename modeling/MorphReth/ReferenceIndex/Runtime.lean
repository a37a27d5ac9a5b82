import MorphReth.Runs
import MorphReth.ReferenceIndex.Db

set_option autoImplicit false

namespace MorphReth.ReferenceIndex

structure ReferenceIndexConfig where
  chainId : Nat
  genesisHash : B256
  jadeTimestamp : Nat
  deriving DecidableEq, Repr

inductive ReferenceIndexPhase where
  | opening
  | preJade
  | deferred
  | backfill
  | live
  | repairing
  | unavailable
  deriving DecidableEq, Repr

-- What a turn has read so far.
structure TurnContext where
  head : CanonicalTip
  jadeFirstBlock : Nat
  finalized : Option Nat
  deriving DecidableEq, Repr

-- Where synchronize_once stands between two of its chain reads and commits.
-- Every state up to commit makes at most one chain read in its next step.
inductive SyncPoint where
  | idle
  | readHead (defer : Bool)
  | resolveJade (head : CanonicalTip) (low high : Nat)
  | readFinalized (head : CanonicalTip) (jadeFirstBlock : Nat)
  | reconcile (turn : TurnContext)
  | findAncestor (turn : TurnContext) (rewindFloor number : Nat)
  | rollback (turn : TurnContext) (ancestor : Nat)
  | readBatch (turn : TurnContext)
  | verifyBatch (turn : TurnContext) (start stop : Nat) (blocks remaining : List CanonicalBlock)
  | commitBatch (turn : TurnContext) (start stop : Nat) (blocks : List CanonicalBlock)
  | readCurrentHead (stop : Nat) (blocks : List CanonicalBlock)
  deriving DecidableEq, Repr

-- The canonical chain with its finalized number, the durable index, and the
-- runtime: the query handle's database and phase, the point the current turn
-- has reached and the last turn's result.
structure System (tree : BlockTree) where
  chain : CanonicalChain tree
  finalized : Option Nat
  db : ReferenceIndexDb
  installed : Bool
  phase : ReferenceIndexPhase
  point : SyncPoint
  result : Option (Except ReferenceIndexError Unit)

variable {tree : BlockTree}

-- The first block a turn backfills.
def batchStart (db : ReferenceIndexDb) (turn : TurnContext) : Nat :=
  db.indexedTo.elim turn.jadeFirstBlock (fun cursor => cursor + 1)

namespace System

def start (chain : CanonicalChain tree) (finalized : Option Nat) : System tree where
  chain := chain
  finalized := finalized
  db := ReferenceIndexDb.new
  installed := false
  phase := .opening
  point := .idle
  result := none

def finishOk (system : System tree) (phase : ReferenceIndexPhase) : System tree :=
  { system with phase := phase, point := .idle, result := some (.ok ()) }

-- Only errors that need a manual rebuild gate the read path.
def finishError (system : System tree) (error : ReferenceIndexError) : System tree :=
  { system with
    phase := if error.requiresManualRebuild then .unavailable else system.phase
    point := .idle
    result := some (.error error) }

def goto (system : System tree) (point : SyncPoint) : System tree :=
  { system with point := point }

-- open_db: the first turn of a process opens the database and installs it.
def openDb (config : ReferenceIndexConfig) (system : System tree) (defer : Bool) : System tree :=
  if system.installed then system.goto (.readHead defer)
  else match validateOrInitChainIdentity system.db config.chainId config.genesisHash with
    | .error error => system.finishError error
    | .ok db => { system with db := db, installed := true, point := .readHead defer }

-- The head has reached Jade when the search starts, so it always has a result.
def readHeadStep (config : ReferenceIndexConfig) (system : System tree) (defer : Bool) : System tree :=
  let head := system.chain.head
  if head.timestamp < config.jadeTimestamp then system.finishOk .preJade
  else if defer then system.finishOk .deferred
  else match system.db.jadeFirstBlockNumber with
    | some block => system.goto (.readFinalized head block)
    | none => system.goto (.resolveJade head 0 head.number)

-- resolve_jade_first_block: one probe of the binary search.
def resolveJadeStep (config : ReferenceIndexConfig) (system : System tree) (head : CanonicalTip) (low high : Nat) : System tree :=
  if low < high then
    let middle := low + (high - low) / 2
    match system.chain.blockTimestamp middle with
    | none => system.finishError (.other s!"missing canonical header {middle} while resolving Jade")
    | some timestamp =>
        if timestamp < config.jadeTimestamp then system.goto (.resolveJade head (middle + 1) high)
        else system.goto (.resolveJade head low middle)
  else system.goto (.readFinalized head low)

def reconcileStep (system : System tree) (turn : TurnContext) : System tree :=
  match system.db.indexedTo with
  | none => system.goto (.readBatch turn)
  | some cursor =>
      let candidate := min cursor turn.head.number
      match system.db.indexedBlockHash candidate with
      | none => system.finishError (.corruptMetadata "durable cursor range is missing an IndexedBlocks hash")
      | some indexedHash =>
          if cursor = turn.head.number ∧ indexedHash = turn.head.hash then system.goto (.readBatch turn)
          else if cursor < turn.head.number ∧ system.chain.canonicalHash cursor = some indexedHash then system.goto (.readBatch turn)
          else
            let rewindFloor := min (turn.finalized.elim turn.jadeFirstBlock (fun finalized => max finalized turn.jadeFirstBlock)) candidate
            { system with phase := .repairing, point := .findAncestor turn rewindFloor candidate }

def findAncestorStep (system : System tree) (turn : TurnContext) (rewindFloor number : Nat) : System tree :=
  match system.db.indexedBlockHash number with
  | none => system.finishError (.corruptMetadata "indexed canonical range contains a block-hash gap")
  | some indexedHash =>
      if system.chain.canonicalHash number = some indexedHash then system.goto (.rollback turn number)
      else if number = rewindFloor then system.finishError (.manualRebuildRequired turn.jadeFirstBlock)
      else system.goto (.findAncestor turn rewindFloor (number - 1))

def rollbackStep (system : System tree) (turn : TurnContext) (ancestor : Nat) : System tree :=
  match rollbackBatch system.db (some ancestor) defaultBackfillBatchBlocks with
  | none => system.goto (.readBatch turn)
  | some db => { system with db := db }

def readBatchStep (system : System tree) (turn : TurnContext) : System tree :=
  let start := batchStart system.db turn
  if start > turn.head.number then system.finishOk .live
  else
    let stop := min (start + (defaultBackfillBatchBlocks - 1)) turn.head.number
    let blocks := system.chain.canonicalBlocks start stop
    let expectedLen := stop - start + 1
    let got := blocks.length
    let reading := { system with phase := .backfill }
    if got ≠ expectedLen then
      reading.finishError (.other s!"canonical block range {start}..={stop} returned {got} of {expectedLen} blocks")
    else reading.goto (.verifyBatch turn start stop blocks blocks)

def verifyBatchStep (system : System tree) (turn : TurnContext) (start stop : Nat) (blocks : List CanonicalBlock) :
    List CanonicalBlock → System tree
  | [] => system.goto (.commitBatch turn start stop blocks)
  | block :: remaining =>
      let expectedNumber := start + (blocks.length - (remaining.length + 1))
      if block.number ≠ expectedNumber ∨ system.chain.canonicalHash expectedNumber ≠ some block.hash then
        system.finishError (.other s!"canonical block changed while reading backfill batch at {expectedNumber}")
      else system.goto (.verifyBatch turn start stop blocks remaining)

def commitBatchStep (system : System tree) (turn : TurnContext) (start stop : Nat) (blocks : List CanonicalBlock) : System tree :=
  match commitCanonicalBatch system.db turn.jadeFirstBlock start blocks turn.finalized with
  | .error error => system.finishError error
  | .ok (db, _) => { system with db := db, point := .readCurrentHead stop blocks }

def readCurrentHeadStep (system : System tree) (stop : Nat) (blocks : List CanonicalBlock) : System tree :=
  let currentHead := system.chain.head
  if stop = currentHead.number ∧ blocks.getLast?.any (fun block => block.hash = currentHead.hash) then system.finishOk .live
  else system.finishOk system.phase

def step (config : ReferenceIndexConfig) (system : System tree) : System tree :=
  match system.point with
  | .idle => system
  | .readHead defer => system.readHeadStep config defer
  | .resolveJade head low high => system.resolveJadeStep config head low high
  | .readFinalized head jadeFirstBlock => system.goto (.reconcile ⟨head, jadeFirstBlock, system.finalized⟩)
  | .reconcile turn => system.reconcileStep turn
  | .findAncestor turn rewindFloor number => system.findAncestorStep turn rewindFloor number
  | .rollback turn ancestor => system.rollbackStep turn ancestor
  | .readBatch turn => system.readBatchStep turn
  | .verifyBatch turn start stop blocks remaining => system.verifyBatchStep turn start stop blocks remaining
  | .commitBatch turn start stop blocks => system.commitBatchStep turn start stop blocks
  | .readCurrentHead stop blocks => system.readCurrentHeadStep stop blocks

end System

-- A turn begins only when none is running. A provider failure ends the turn;
-- a crash loses everything but the committed index.
inductive SystemEvent (tree : BlockTree) where
  | chainChange (chain : CanonicalChain tree) (finalized : Option Nat)
  | beginTurn (defer : Bool)
  | proceed
  | providerFailure
  | crash

def System.apply (config : ReferenceIndexConfig) (system : System tree) : SystemEvent tree → System tree
  | .chainChange chain finalized => { system with chain := chain, finalized := finalized }
  | .beginTurn defer => if system.point = .idle then { system with result := none }.openDb config defer else system
  | .proceed => system.step config
  | .providerFailure => if system.point = .idle then system else system.finishError .provider
  | .crash => { system with installed := false, phase := .opening, point := .idle, result := none }

end MorphReth.ReferenceIndex
