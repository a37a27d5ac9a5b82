import MorphReth.ProofsExEx.CatchUp
import MorphReth.Proofs.Snapshots

set_option autoImplicit false

namespace MorphReth.ProofsExEx

open Proofs MorphProofsStore

variable {tree : BlockTree}

def System.withStore {σ τ : Type} (system : System σ tree) (store : τ) : System τ tree where
  chain := system.chain
  notifications := system.notifications
  handler := system.handler
  syncTarget := system.syncTarget
  loop := system.loop
  pruner := system.pruner
  store := store

-- The system over the database is in the state of the system over the history
-- that its database refines.
structure Mirrors (concrete : System ProofsDb tree) (system : System History tree) : Prop where
  same : concrete = system.withStore concrete.store
  refines : Refines concrete.store system.store

theorem mirrors_chain {concrete : System ProofsDb tree} {system : System History tree} (mirrors : Mirrors concrete system) :
    concrete.chain = system.chain := by
  rw [mirrors.same]
  rfl

section Mirrors

variable (config : ExExConfig) (db : ProofsDb) (system : System History tree) (refines : Refines db system.store)

include refines

-- A write transaction has the same outcome on both stores.
theorem update_cases (operation : StoreOperation) (legal : LegalOperation system.store operation) :
    (∃ error, update db operation = .error error ∧ update system.store operation = .error error) ∨
      ∃ after history, update db operation = .ok after ∧ update system.store operation = .ok history ∧ Refines after history := by
  have agrees := update_agrees db system.store refines operation (well_numbered_of_legal system.store operation legal)
  change Agrees (update db operation) (update system.store operation) at agrees
  cases concrete : update db operation with
  | error error =>
      cases abstract : update system.store operation with
      | error other =>
          rw [concrete, abstract] at agrees
          exact .inl ⟨error, rfl, congrArg _ agrees.symm⟩
      | ok history =>
          rw [concrete, abstract] at agrees
          exact agrees.elim
  | ok after =>
      cases abstract : update system.store operation with
      | error other =>
          rw [concrete, abstract] at agrees
          exact agrees.elim
      | ok history =>
          rw [concrete, abstract] at agrees
          exact .inr ⟨after, history, rfl, rfl, agrees⟩

theorem earliest_agrees : getEarliestBlockNumber db = getEarliestBlockNumber system.store :=
  refines.earliest

theorem latest_agrees : getLatestBlockNumber db = getLatestBlockNumber system.store :=
  refines.latest

theorem mirrors_notification (notification : ExExNotification tree) :
    Mirrors ((system.withStore db).handleNotification notification) (system.handleNotification notification) := by
  cases notification with
  | chainCommitted new => exact ⟨rfl, refines⟩
  | chainReorged old new =>
      rw [System.handleNotification, System.handleNotification]
      split
      · exact ⟨rfl, refines⟩
      · exact ⟨rfl, refines⟩
  | chainReverted old => exact ⟨rfl, refines⟩

theorem mirrors_handler (hasTrieData : Bool) :
    Mirrors ((system.withStore db).handlerStep hasTrieData) (system.handlerStep hasTrieData) := by
  have latest := latest_agrees db system refines
  obtain ⟨chain, notifications, handler, syncTarget, loop, pruner, history⟩ := system
  cases handler with
  | starting =>
      refine ⟨?_, refines⟩
      simp only [System.handlerStep, System.withStore, latest]
  | waiting =>
      cases notifications with
      | nil => exact ⟨rfl, refines⟩
      | cons notification rest => exact mirrors_notification db ⟨chain, rest, .waiting, syncTarget, loop, pruner, history⟩ refines notification
  | caching blocks next =>
      cases blocks with
      | nil => exact ⟨rfl, refines⟩
      | cons block rest => exact ⟨rfl, refines⟩
  | stopped => exact ⟨rfl, refines⟩

theorem mirrors_take_state : Mirrors (system.withStore db).takeStateStep system.takeStateStep := by
  rw [System.takeStateStep, System.takeStateStep]
  dsimp only [System.withStore]
  split
  · exact ⟨rfl, refines⟩
  · exact ⟨rfl, refines⟩
  · exact ⟨rfl, refines⟩
  · exact ⟨rfl, refines⟩

theorem mirrors_read_revert_latest (revertTo : BlockWithParent) (syncTo : Option Nat) :
    Mirrors ((system.withStore db).readRevertLatestStep revertTo syncTo) (system.readRevertLatestStep revertTo syncTo) := by
  have latest := latest_agrees db system refines
  rw [System.readRevertLatestStep, System.readRevertLatestStep]
  dsimp only [System.withStore]
  rw [latest]
  split
  · exact ⟨rfl, refines⟩
  · split
    · exact ⟨rfl, refines⟩
    · exact ⟨rfl, refines⟩

theorem mirrors_read_latest (target : Nat) : Mirrors ((system.withStore db).readLatestStep target) (system.readLatestStep target) := by
  have latest := latest_agrees db system refines
  rw [System.readLatestStep, System.readLatestStep]
  dsimp only [System.withStore]
  rw [latest]
  split
  · exact ⟨rfl, refines⟩
  · split
    · exact ⟨rfl, refines⟩
    · exact ⟨rfl, refines⟩

theorem mirrors_take_cached (target : Nat) (batch : List (BatchBlock tree)) (number stop : Nat) :
    Mirrors ((system.withStore db).takeCachedStep config target batch number stop) (system.takeCachedStep config target batch number stop) := by
  rw [System.takeCachedStep, System.takeCachedStep]
  dsimp only [System.withStore]
  split
  · exact ⟨rfl, refines⟩
  · split
    · exact ⟨rfl, refines⟩
    · exact ⟨rfl, refines⟩
    · exact ⟨rfl, refines⟩

theorem mirrors_recover_block (target : Nat) (batch : List (BatchBlock tree)) (number stop : Nat) :
    Mirrors ((system.withStore db).recoverBlockStep target batch number stop) (system.recoverBlockStep target batch number stop) := by
  rw [System.recoverBlockStep, System.recoverBlockStep]
  dsimp only [System.withStore]
  split
  · exact ⟨rfl, refines⟩
  · exact ⟨rfl, refines⟩

theorem mirrors_batch_failed (target : Nat) (error : MorphProofsStorageError) :
    Mirrors ((system.withStore db).batchFailed target error) (system.batchFailed target error) := by
  rw [System.batchFailed, System.batchFailed]
  split
  · exact ⟨rfl, refines⟩
  · exact ⟨rfl, refines⟩

theorem mirrors_store_batch (target : Nat) (batch : List (BatchBlock tree)) (failure : Option MorphProofsStorageError)
    (numbered : NumberedFrom (system.store.latest.number + 1) (batchEntries batch)) :
    Mirrors ((system.withStore db).storeBatchStep target batch failure) (system.storeBatchStep target batch failure) := by
  have earliest : getEarliestBlockNumber db = some system.store.earliest := refines.earliest
  have latest : getLatestBlockNumber db = some system.store.latest := refines.latest
  have legal := session_numbered system.store.earliest.number system.store.latest.number batch failure numbered
  have history : getEarliestBlockNumber system.store = some system.store.earliest ∧ getLatestBlockNumber system.store = some system.store.latest :=
    ⟨rfl, rfl⟩
  rw [System.storeBatchStep, System.storeBatchStep, history.1, history.2]
  dsimp only [System.withStore]
  rw [earliest, latest]
  dsimp only
  obtain ⟨error, failed, same⟩ | ⟨after, next, committed, same, refined⟩ := update_cases db system refines (.batchSession _ _) legal
  · rw [failed, same]
    exact mirrors_batch_failed db system refines target error
  · rw [committed, same]
    exact ⟨rfl, refined⟩

theorem mirrors_unwind (revertTo : BlockWithParent) (syncTo : Option Nat) :
    Mirrors ((system.withStore db).unwindStep revertTo syncTo) (system.unwindStep revertTo syncTo) := by
  rw [System.unwindStep, System.unwindStep]
  dsimp only [System.withStore]
  obtain ⟨error, failed, same⟩ | ⟨after, next, committed, same, refined⟩ := update_cases db system refines (.unwindHistory revertTo) trivial
  · rw [failed, same]
    exact ⟨rfl, refines⟩
  · rw [committed, same]
    exact ⟨rfl, refined⟩

theorem mirrors_loop (batch : BatchFits system.store.latest.number system.loop) :
    Mirrors ((system.withStore db).loopStep config) (system.loopStep config) := by
  obtain ⟨chain, notifications, handler, syncTarget, loop, pruner, history⟩ := system
  cases loop with
  | idle => exact mirrors_take_state db _ refines
  | readRevertLatest revertTo syncTo => exact mirrors_read_revert_latest db _ refines revertTo syncTo
  | unwind revertTo syncTo => exact mirrors_unwind db _ refines revertTo syncTo
  | unwound revertTo syncTo => exact ⟨rfl, refines⟩
  | reverted revertTo syncTo => exact ⟨rfl, refines⟩
  | forward target =>
      change Mirrors (if syncTarget.hasPendingState = true then _ else _) (if syncTarget.hasPendingState = true then _ else _)
      by_cases pending : syncTarget.hasPendingState = true
      · rw [if_pos pending, if_pos pending]
        exact ⟨rfl, refines⟩
      · rw [if_neg pending, if_neg pending]
        exact ⟨rfl, refines⟩
  | readLatest target => exact mirrors_read_latest db _ refines target
  | takeCached target pending number stop => exact mirrors_take_cached config db _ refines target pending number stop
  | recoverBlock target pending number stop => exact mirrors_recover_block db _ refines target pending number stop
  | storeBatch target pending => exact mirrors_store_batch db _ refines target pending none batch
  | stored target => exact ⟨rfl, refines⟩
  | requeue target => exact ⟨rfl, refines⟩

theorem mirrors_failure (staged : Nat) (error : MorphProofsStorageError) (batch : BatchFits system.store.latest.number system.loop) :
    Mirrors ((system.withStore db).loopFailure staged error) (system.loopFailure staged error) := by
  obtain ⟨chain, notifications, handler, syncTarget, loop, pruner, history⟩ := system
  cases loop with
  | storeBatch target pending => exact mirrors_store_batch db _ refines target _ (some error) (numbered_take _ staged pending batch)
  | readRevertLatest | unwind | unwound | readLatest | recoverBlock | stored => exact ⟨rfl, refines⟩
  | idle | reverted | forward | takeCached | requeue => exact ⟨rfl, refines⟩

theorem mirrors_pruner : Mirrors ((system.withStore db).prunerStep config) (system.prunerStep config) := by
  have earliest := earliest_agrees db system refines
  have latest := latest_agrees db system refines
  obtain ⟨chain, notifications, handler, syncTarget, loop, pruner, history⟩ := system
  cases pruner with
  | idle =>
      rw [System.prunerStep, System.prunerStep]
      dsimp only [System.withStore]
      rw [earliest, latest]
      dsimp only [getEarliestBlockNumber, getLatestBlockNumber]
      by_cases nothing : history.latest.number - config.proofsHistoryWindow ≤ history.earliest.number
      · rw [if_pos nothing, if_pos nothing]
        exact ⟨rfl, refines⟩
      · rw [if_neg nothing, if_neg nothing]
        exact ⟨rfl, refines⟩
  | resolve currentEarliestBlock targetEarliestBlock => exact ⟨rfl, refines⟩
  | apply targetEarliestBlock newEarliest =>
      rw [System.prunerStep, System.prunerStep]
      dsimp only [System.withStore]
      obtain ⟨error, failed, same⟩ | ⟨after, next, committed, same, refined⟩ :=
        update_cases db ⟨chain, notifications, handler, syncTarget, loop, .idle, history⟩ refines (.pruneEarliestState ⟨default, newEarliest⟩) trivial
      · rw [failed, same]
        exact ⟨rfl, refines⟩
      · rw [committed, same]
        exact ⟨rfl, refined⟩

end Mirrors

variable (config : ExExConfig)

theorem apply_mirrors (concrete : System ProofsDb tree) (system : System History tree) (mirrors : Mirrors concrete system)
    (batch : BatchFits system.store.latest.number system.loop) (event : SystemEvent tree) :
    Mirrors (concrete.apply config event) (system.apply config event) := by
  have refines := mirrors.refines
  rw [mirrors.same]
  cases event with
  | chainChange chain => exact ⟨rfl, refines⟩
  | handler hasTrieData => exact mirrors_handler _ system refines hasTrieData
  | sync => exact mirrors_loop config _ system refines batch
  | syncFailure staged error => exact mirrors_failure _ system refines staged error batch
  | pruner => exact mirrors_pruner config _ system refines
  | prunerFailure => exact ⟨rfl, refines⟩

theorem run_mirrors (events : List (SystemEvent tree)) (concrete : System ProofsDb tree) (system : System History tree)
    (mirrors : Mirrors concrete system) (sound : Sound system) (fits : EachAllowed (System.apply config) UnwindFits system events) :
    Mirrors (runSteps (System.apply config) concrete events) (runSteps (System.apply config) system events) := by
  induction events generalizing concrete system with
  | nil => exact mirrors
  | cons event rest ih =>
      exact ih _ _ (apply_mirrors config concrete system mirrors sound.batch event) (apply_sound config system sound event fits.1) fits.2

-- The diffs of the canonical blocks above one number, up to another.
def canonicalDiffs (chain : CanonicalChain tree) (above upTo : Nat) : List BlockStateDiff :=
  ((chain.hashes.drop (above + 1)).take (upTo - above)).map (fun hash => (tree hash).diff)

theorem settled_diffs (history : History) (settled : Settled tree history) (chain : CanonicalChain tree)
    (anchor : chain.blockHash history.latest.number = some history.latest.hash) (number : Nat)
    (since : history.earliest.number ≤ number) (within : number ≤ history.latest.number) :
    ((retained history).take (number - history.earliest.number)).map Prod.snd = canonicalDiffs chain history.earliest.number number := by
  have anchored := settled.anchored
  rw [canonicalDiffs, List.map_take, List.map_take]
  refine List.ext_getElem? (fun index => ?_)
  by_cases inside : index < number - history.earliest.number
  · obtain ⟨hash, canonical, stored⟩ := settled_canonical history settled chain anchor (history.earliest.number + 1 + index) (by omega) (by omega)
    have position : history.earliest.number - history.anchor + index = history.earliest.number + 1 + index - history.anchor - 1 := by omega
    rw [storedBlock, ← position] at stored
    rw [CanonicalChain.blockHash] at canonical
    rw [List.getElem?_take_of_lt inside, List.getElem?_take_of_lt inside, List.getElem?_map, List.getElem?_map, retained, List.getElem?_drop,
      List.getElem?_drop, stored, canonical, Option.map_some]
  · rw [List.getElem?_eq_none (by rw [List.length_take]; omega), List.getElem?_eq_none (by rw [List.length_take]; omega)]

theorem state_above (history : History) (settled : Settled tree history) (number : Nat) (since : history.earliest.number ≤ number) :
    history.stateAt number =
      (((retained history).take (number - history.earliest.number)).map Prod.snd).foldl ProofState.applyDiff
        (history.stateAt history.earliest.number) := by
  have anchored := settled.anchored
  have split : number - history.anchor = (history.earliest.number - history.anchor) + (number - history.earliest.number) := by omega
  rw [History.stateAt, History.stateAt, retained, split, List.take_add, List.map_append, List.foldl_append]

-- What the node serves over its database: a request that passes the checks is
-- for a block of the window, which reads as the canonical diffs applied in order
-- to the state at the earliest block.
theorem served_states_canonical (chain : CanonicalChain tree) (db : ProofsDb) (history : History) (refines : Refines db history)
    (built : BuiltOn chain history) (events : List (SystemEvent tree))
    (fits : EachAllowed (System.apply config) UnwindFits (System.start chain history) events) :
    let node := runSteps (System.apply config) (System.start chain db) events
    ∃ window base, node.store.proofWindow = some window ∧ ∀ blockId number, node.stateProvider blockId = .ok number →
      (window.earliest.number ≤ number ∧ number ≤ window.latest.number) ∧
      Serves node.store number ((canonicalDiffs node.chain window.earliest.number number).foldl ProofState.applyDiff base) := by
  intro node
  have started := start_sound chain history built
  have sound := run_invariant (System.apply config) UnwindFits Sound (fun system event sound fits => apply_sound config system sound event fits)
    (System.start chain history) events started fits
  have mirrors := run_mirrors config events (System.start chain db) (System.start chain history) ⟨rfl, refines⟩ started fits
  let reached := (runSteps (System.apply config) (System.start chain history) events).store
  refine ⟨_, reached.stateAt reached.earliest.number, refined_window _ _ mirrors.refines, fun blockId number served => ?_⟩
  obtain ⟨since, within, canonical⟩ := state_provider_ok _ _ _ mirrors.refines.earliest mirrors.refines.latest blockId number served
  rw [mirrors_chain mirrors] at canonical ⊢
  refine ⟨⟨since, within⟩, ?_⟩
  rw [← settled_diffs _ sound.settled _ canonical number since within, ← state_above _ sound.settled number since]
  exact refined_serves _ _ mirrors.refines number since within

theorem catch_up_mirrors (events : List (SystemEvent tree)) (concrete : System ProofsDb tree) (system : System History tree)
    (mirrors : Mirrors concrete system) (catching : CatchingUp system)
    (legal : EachAllowed (System.apply config) (fun system event => FailureFree system event ∧ RevertsTimely system event) system events)
    (running : (runSteps (System.apply config) system events).handler ≠ .stopped) :
    Mirrors (runSteps (System.apply config) concrete events) (runSteps (System.apply config) system events) := by
  induction events generalizing concrete system with
  | nil => exact mirrors
  | cons event rest ih =>
      have next := apply_mirrors config concrete system mirrors catching.consistent.loop.numbered event
      obtain stopped | nextCatching := apply_catching config system catching event legal.1.1 legal.1.2
      · exact absurd (run_invariant _ _ _ (fun state event stopped allowed => apply_stopped config state event allowed.1 stopped) _ rest
          stopped legal.2)
          running
      · exact ih _ _ next nextCatching legal.2 running

-- The tip that the database records when the node is parked.
theorem parked_database_at_head (chain : CanonicalChain tree) (db : ProofsDb) (history : History) (refines : Refines db history)
    (built : BuiltOn chain history) (events : List (SystemEvent tree))
    (legal : EachAllowed (System.apply config) (fun system event => FailureFree system event ∧ RevertsTimely system event)
      (System.start chain history) events) (parked : Parked (runSteps (System.apply config) (System.start chain history) events)) :
    let node := runSteps (System.apply config) (System.start chain db) events
    ∃ hash, node.store.latestBlockNumberHash = some ⟨node.chain.bestBlockNumber, hash⟩ ∧
      node.chain.blockHash node.chain.bestBlockNumber = some hash := by
  intro node
  have started := start_catching chain history built.window built.latest
  have running : (runSteps (System.apply config) (System.start chain history) events).handler ≠ .stopped :=
    fun stopped => (by cases stopped.symm.trans parked.waiting)
  have mirrors := catch_up_mirrors config events (System.start chain db) (System.start chain history) ⟨rfl, refines⟩ started legal running
  obtain ⟨number, canonical⟩ :=
    parked_covered _ (run_catching config chain history built.window built.latest events legal parked.waiting) parked
  rw [mirrors_chain mirrors, ← number]
  exact ⟨_, mirrors.refines.latest, number ▸ canonical⟩

end MorphReth.ProofsExEx
