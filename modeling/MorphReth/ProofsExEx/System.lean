import MorphReth.ProofsExEx.SyncTarget
import MorphReth.Proofs.History

set_option autoImplicit false

namespace MorphReth.ProofsExEx

open Proofs

-- What the ExEx and the pruner use of a proof store. An update is one write
-- transaction: it commits as a whole or leaves the store as it was.
class MorphProofsStore (σ : Type) where
  getEarliestBlockNumber : σ → Option NumHash
  getLatestBlockNumber : σ → Option NumHash
  update : σ → StoreOperation → Except MorphProofsStorageError σ

instance : MorphProofsStore ProofsDb where
  getEarliestBlockNumber db := db.earliestBlock
  getLatestBlockNumber db := db.latestBlockNumberHash
  update := ProofsDb.update

instance : MorphProofsStore History where
  getEarliestBlockNumber history := some history.earliest
  getLatestBlockNumber history := some history.latest
  update := History.update

inductive BatchBlock (tree : BlockTree) where
  | cached (block : ChainBlock tree)
  | execute (block : ChainBlock tree)

def BatchBlock.block {tree : BlockTree} : BatchBlock tree → ChainBlock tree
  | .cached block | .execute block => block

-- execute_and_store_batch inside its session: the blocks handed to the store in
-- order, and the error that ends the session. A block that is executed needs
-- its parent's state in the session; executing it gives its diff, and the
-- failures that may come instead are passed in.
def planSession {tree : BlockTree} (earliest : Nat) : Nat → List (BatchBlock tree) → Option MorphProofsStorageError →
    List (BlockWithParent × BlockStateDiff) × Option MorphProofsStorageError
  | _, [], failure => ([], failure)
  | _, .cached block :: rest, failure =>
      let later := planSession earliest block.number rest failure
      (block.entry :: later.1, later.2)
  | latestInSession, .execute block :: rest, failure =>
      let parentBlockNumber := block.number - 1
      if parentBlockNumber < earliest then ([], some .unknownParent)
      else if latestInSession < parentBlockNumber then ([], some (.missingParentBlock block.number parentBlockNumber latestInSession))
      else
        let later := planSession earliest block.number rest failure
        (block.entry :: later.1, later.2)

def isRetryableSyncError : MorphProofsStorageError → Bool
  | .databaseError | .providerError | .tryLockError => true
  | .noBlocksFound | .unknownParent | .outOfOrder _ _ _ | .missingParentBlock _ _ _ | .stateRootMismatch _ _ _
  | .noChangeSetForBlock _ | .missingAccountTrieHistory _ _ | .missingStorageTrieHistory _ _ _ | .missingHashedAccountHistory _ _
  | .missingHashedStorageHistory _ _ _ | .unwindBeyondEarliest _ _ | .pruneBeyondLatest _ _ | .executionError
  | .initializeStorageInconsistentState | .batchSessionClosed => false

def syncBlocksPerTurn : Nat :=
  50

def pruneBatchSize : Nat :=
  2000

structure ExExConfig where
  proofsHistoryWindow : Nat
  verificationInterval : Nat
  deriving DecidableEq, Repr

-- Where the sync loop stands. Each step from a point makes one read, takes one
-- lock or runs one write transaction. A revert carries the forward target that
-- follows it, if there is one.
inductive SyncPoint (tree : BlockTree) where
  | idle
  | readRevertLatest (revertTo : BlockWithParent) (syncTo : Option Nat)
  | unwind (revertTo : BlockWithParent) (syncTo : Option Nat)
  | unwound (revertTo : BlockWithParent) (syncTo : Option Nat)
  | reverted (revertTo : BlockWithParent) (syncTo : Option Nat)
  | forward (target : Nat)
  | readLatest (target : Nat)
  | takeCached (target : Nat) (batch : List (BatchBlock tree)) (number stop : Nat)
  | recoverBlock (target : Nat) (batch : List (BatchBlock tree)) (number stop : Nat)
  | storeBatch (target : Nat) (batch : List (BatchBlock tree))
  | stored (target : Nat)
  | requeue (target : Nat)

-- Where the notification handler stands: the blocks it has yet to cache and the
-- state it then hands to the sync loop.
inductive HandlerPoint (tree : BlockTree) where
  | starting
  | waiting
  | caching (blocks : List (ChainBlock tree)) (next : SyncTargetState)
  | stopped

inductive PrunerPoint where
  | idle
  | resolve (currentEarliestBlock targetEarliestBlock : Nat)
  | apply (targetEarliestBlock : Nat) (newEarliest : NumHash)
  deriving DecidableEq, Repr

structure System (σ : Type) (tree : BlockTree) where
  chain : CanonicalChain tree
  notifications : List (ExExNotification tree)
  handler : HandlerPoint tree
  syncTarget : SyncTarget tree
  loop : SyncPoint tree
  pruner : PrunerPoint
  store : σ

namespace System

variable {σ : Type} [MorphProofsStore σ] {tree : BlockTree}

open MorphProofsStore

def start (chain : CanonicalChain tree) (store : σ) : System σ tree where
  chain := chain
  notifications := []
  handler := .starting
  syncTarget := SyncTarget.new
  loop := .idle
  pruner := .idle
  store := store

def goto (system : System σ tree) (point : SyncPoint tree) : System σ tree :=
  { system with loop := point }

section Handler

variable (system : System σ tree)

def handleNotification : ExExNotification tree → System σ tree
  | .chainCommitted new => { system with handler := .caching new.blocks (.syncUpTo new.tip.number) }
  | .chainReorged old new =>
      if old.forkBlock ≠ new.forkBlock then { system with handler := .stopped }
      else
        let firstOld := old.first.blockWithParent
        { system with
          syncTarget := system.syncTarget.clearFrom firstOld.block.number
          handler := .caching new.blocks (.revertThenSync firstOld new.tip.number) }
  | .chainReverted old =>
      let firstOld := old.first.blockWithParent
      { system with
        syncTarget := system.syncTarget.clearFrom firstOld.block.number
        handler := .caching [] (.revert firstOld) }

-- A block is cached only if the notification has its trie data.
def handlerStep (hasTrieData : Bool) : System σ tree :=
  match system.handler with
  | .starting =>
      let latestStored := (getLatestBlockNumber system.store).elim 0 NumHash.number
      let bestBlock := system.chain.bestBlockNumber
      { system with handler := if latestStored < bestBlock then .caching [] (.syncUpTo bestBlock) else .waiting }
  | .waiting =>
      match system.notifications with
      | [] => system
      | notification :: rest => { system with notifications := rest }.handleNotification notification
  | .caching [] next => { system with syncTarget := system.syncTarget.updateState next, handler := .waiting }
  | .caching (block :: rest) next =>
      { system with
        syncTarget := if hasTrieData then system.syncTarget.insert block.number block else system.syncTarget
        handler := .caching rest next }
  | .stopped => system

end Handler

section Loop

variable (config : ExExConfig) (system : System σ tree)

def takeStateStep : System σ tree :=
  let taken := system.syncTarget.takeState
  let rest := { system with syncTarget := taken.2 }
  match taken.1 with
  | none => rest
  | some (.revert revertTo) => rest.goto (.readRevertLatest revertTo none)
  | some (.revertThenSync revertTo syncTo) => rest.goto (.readRevertLatest revertTo (some syncTo))
  | some (.syncUpTo target) => rest.goto (.forward target)

def readRevertLatestStep (revertTo : BlockWithParent) (syncTo : Option Nat) : System σ tree :=
  match getLatestBlockNumber system.store with
  | none => system.goto .idle
  | some latest =>
      if revertTo.block.number ≤ latest.number then system.goto (.unwind revertTo syncTo) else system.goto (.reverted revertTo syncTo)

def unwindStep (revertTo : BlockWithParent) (syncTo : Option Nat) : System σ tree :=
  match update system.store (.unwindHistory revertTo) with
  | .error _ => system.goto .idle
  | .ok store => { system with store := store, loop := .unwound revertTo syncTo }

def revertedStep (revertTo : BlockWithParent) (syncTo : Option Nat) : System σ tree :=
  { system with
    syncTarget := system.syncTarget.markRevertComplete revertTo
    loop := syncTo.elim .idle .forward }

def readLatestStep (target : Nat) : System σ tree :=
  match getLatestBlockNumber system.store with
  | none => system.goto .idle
  | some latest =>
      if target ≤ latest.number then system.goto .idle
      else system.goto (.takeCached target [] (latest.number + 1) (min (latest.number + syncBlocksPerTurn) target))

-- Cached data is used unless the block is due for verification; it has left the
-- cache in either case.
def takeCachedStep (target : Nat) (batch : List (BatchBlock tree)) (number stop : Nat) : System σ tree :=
  if stop < number then system.goto (.storeBatch target batch)
  else
    let taken := system.syncTarget.take number
    let rest := { system with syncTarget := taken.2 }
    let shouldVerify : Bool := 0 < config.verificationInterval ∧ number % config.verificationInterval = 0
    match taken.1, shouldVerify with
    | some block, false => rest.goto (.takeCached target (batch ++ [.cached block]) (number + 1) stop)
    | some _, true | none, _ => rest.goto (.recoverBlock target batch number stop)

def recoverBlockStep (target : Nat) (batch : List (BatchBlock tree)) (number stop : Nat) : System σ tree :=
  match system.chain.recoveredBlock number with
  | none => system.goto (.requeue target)
  | some block => system.goto (.takeCached target (batch ++ [.execute block]) (number + 1) stop)

def batchFailed (target : Nat) (error : MorphProofsStorageError) : System σ tree :=
  if isRetryableSyncError error then system.goto (.requeue target) else system.goto .idle

def storeBatchStep (target : Nat) (batch : List (BatchBlock tree)) (failure : Option MorphProofsStorageError) : System σ tree :=
  match getEarliestBlockNumber system.store, getLatestBlockNumber system.store with
  | some earliest, some latest =>
      let session := planSession earliest.number latest.number batch failure
      match update system.store (.batchSession session.1 session.2) with
      | .error error => system.batchFailed target error
      | .ok store => { system with store := store, loop := .stored target }
  | none, _ | some _, none => system.batchFailed target .noBlocksFound

def loopStep : System σ tree :=
  match system.loop with
  | .idle => system.takeStateStep
  | .readRevertLatest revertTo syncTo => system.readRevertLatestStep revertTo syncTo
  | .unwind revertTo syncTo => system.unwindStep revertTo syncTo
  | .unwound revertTo syncTo => system.goto (.reverted revertTo syncTo)
  | .reverted revertTo syncTo => system.revertedStep revertTo syncTo
  | .forward target => if system.syncTarget.hasPendingState then system.goto .idle else system.goto (.readLatest target)
  | .readLatest target => system.readLatestStep target
  | .takeCached target batch number stop => system.takeCachedStep config target batch number stop
  | .recoverBlock target batch number stop => system.recoverBlockStep target batch number stop
  | .storeBatch target batch => system.storeBatchStep target batch none
  | .stored target => system.goto (.forward target)
  | .requeue target => { system with syncTarget := system.syncTarget.requeueState (.syncUpTo target), loop := .idle }

-- A failed read or transaction of the loop. A batch fails with some of its
-- blocks staged; after a commit only the reading of the window for the metrics
-- can fail. A revert that fails in any way is not marked complete.
def loopFailure (staged : Nat) (error : MorphProofsStorageError) : System σ tree :=
  match system.loop with
  | .readRevertLatest _ _ | .unwind _ _ | .unwound _ _ => system.goto .idle
  | .readLatest target | .recoverBlock target _ _ _ | .stored target => system.goto (.requeue target)
  | .storeBatch target batch => system.storeBatchStep target (batch.take staged) (some error)
  | .idle | .reverted _ _ | .forward _ | .takeCached _ _ _ _ | .requeue _ => system

end Loop

section Pruner

variable (config : ExExConfig) (system : System σ tree)

def resolveStep (currentEarliestBlock targetEarliestBlock : Nat) : PrunerPoint :=
  if currentEarliestBlock < targetEarliestBlock then
    let batchEndBlock := min (currentEarliestBlock + pruneBatchSize) targetEarliestBlock
    if batchEndBlock = 0 then .resolve batchEndBlock targetEarliestBlock
    else match system.chain.blockHash batchEndBlock with
      | none => .idle
      | some hash => .apply targetEarliestBlock ⟨batchEndBlock, hash⟩
  else .idle

def prunerStep : System σ tree :=
  match system.pruner with
  | .idle =>
      match getEarliestBlockNumber system.store, getLatestBlockNumber system.store with
      | some earliest, some latest =>
          let targetEarliestBlock := latest.number - config.proofsHistoryWindow
          if targetEarliestBlock ≤ earliest.number then system
          else { system with pruner := .resolve earliest.number targetEarliestBlock }
      | none, _ | some _, none => system
  | .resolve currentEarliestBlock targetEarliestBlock =>
      { system with pruner := system.resolveStep currentEarliestBlock targetEarliestBlock }
  | .apply targetEarliestBlock newEarliest =>
      match update system.store (.pruneEarliestState ⟨default, newEarliest⟩) with
      | .error _ => { system with pruner := .idle }
      | .ok store => { system with store := store, pruner := .resolve newEarliest.number targetEarliestBlock }

end Pruner

end System

-- The canonical chain changes and the notification is queued; the handler, the
-- sync loop and the pruner take their steps or fail, in any order.
inductive SystemEvent (tree : BlockTree) where
  | chainChange (chain : CanonicalChain tree)
  | handler (hasTrieData : Bool)
  | sync
  | syncFailure (staged : Nat) (error : MorphProofsStorageError)
  | pruner
  | prunerFailure

def System.apply {σ : Type} [MorphProofsStore σ] {tree : BlockTree} (config : ExExConfig) (system : System σ tree) :
    SystemEvent tree → System σ tree
  | .chainChange chain =>
      { system with chain := chain, notifications := system.notifications ++ (system.chain.notification chain).toList }
  | .handler hasTrieData => system.handlerStep hasTrieData
  | .sync => system.loopStep config
  | .syncFailure staged error => system.loopFailure staged error
  | .pruner => system.prunerStep config
  | .prunerFailure => { system with pruner := .idle }

end MorphReth.ProofsExEx
