import MorphReth.ProofsExEx.Consistent

set_option autoImplicit false

namespace MorphReth.ProofsExEx

open Proofs

variable {tree : BlockTree}

def SyncPoint.target : SyncPoint tree → Option Nat
  | .idle => none
  | .readRevertLatest _ syncTo | .unwind _ syncTo | .unwound _ syncTo | .reverted _ syncTo => syncTo
  | .forward target | .readLatest target | .takeCached target _ _ _ | .recoverBlock target _ _ _ | .storeBatch target _ | .stored target
  | .requeue target => some target

-- The forward target that will be worked on: a pending state replaces the one
-- the loop is at.
def System.target {σ : Type} (system : System σ tree) : Option Nat :=
  system.syncTarget.state.elim system.loop.target SyncTargetState.syncTo

structure StoreAhead (system : System History tree) : Prop where
  reached : system.chain.bestBlockNumber ≤ system.store.latest.number
  kept : Clear system.chain.bestBlockNumber (system.loop.executing ++ pendingReverts system.syncTarget.state)

def Covered (system : System History tree) : Prop :=
  (∃ target ∈ system.target, system.chain.bestBlockNumber ≤ target) ∨ StoreAhead system

-- The state brings the store to the canonical head: it has the head as its
-- target, or the head is the parent of what it removes.
def SyncTargetState.Reaches (best : Nat) : SyncTargetState → Prop
  | .syncUpTo target | .revertThenSync _ target => best ≤ target
  | .revert revertTo => best < revertTo.block.number

theorem notification_reaches (before after : CanonicalChain tree) (notification : ExExNotification tree)
    (sent : before.notification after = some notification) : notification.state.Reaches after.bestBlockNumber := by
  have announced := notification_announced before after
  have someHash : 0 < after.hashes.length := List.length_pos_iff.mpr after.nonempty
  have length := List.length_drop (i := commonLength before.hashes after.hashes) (l := after.hashes)
  rw [sent] at announced
  rw [CanonicalChain.bestBlockNumber]
  generalize after.hashes.drop (commonLength before.hashes after.hashes) = new at announced length
  generalize before.hashes.drop (commonLength before.hashes after.hashes) = old at announced
  cases announced with
  | committed hash rest =>
      have tip := @blocks_from_tip tree (commonLength before.hashes after.hashes) (hash :: rest) _ _ rfl
      dsimp only [ExExNotification.state, SyncTargetState.Reaches]
      omega
  | reverted hash rest =>
      dsimp only [ExExNotification.state, SyncTargetState.Reaches, ChainBlock.of]
      rw [List.length_nil] at length
      omega
  | reorged oldHash oldRest newHash newRest =>
      have tip := @blocks_from_tip tree (commonLength before.hashes after.hashes) (newHash :: newRest) _ _ rfl
      dsimp only [ExExNotification.state, SyncTargetState.Reaches]
      omega

-- The last notification is a revert, and it is about to be merged.
def System.lastRevert {σ : Type} (system : System σ tree) : List BlockWithParent :=
  match system.handler, system.notifications with
  | .caching [] (.revert revertTo), [] => [revertTo]
  | _, _ => []

-- A revert without a forward target says nothing about the blocks below it, so
-- the store must have them already and must not be about to lose them.
def RevertTimely (system : System History tree) : Prop :=
  ∀ revertTo ∈ system.lastRevert, revertTo.block.number ≤ system.store.latest.number + 1 ∧
    ∀ other ∈ system.loop.executing ++ pendingReverts system.syncTarget.state, revertTo.block.number ≤ other.block.number

instance (system : System History tree) : Decidable (RevertTimely system) :=
  inferInstanceAs (Decidable (∀ revertTo ∈ system.lastRevert, _ ∧ ∀ other ∈ _, _))

def FailureFree (system : System History tree) : SystemEvent tree → Prop
  | .sync => WithinWindow system.store system.loop
  | .syncFailure _ _ => False
  | .chainChange _ | .handler _ | .pruner | .prunerFailure => True

def RevertsTimely (system : System History tree) : SystemEvent tree → Prop
  | .handler _ => RevertTimely system
  | .chainChange _ | .sync | .syncFailure _ _ | .pruner | .prunerFailure => True

instance (system : System History tree) : (event : SystemEvent tree) → Decidable (FailureFree system event)
  | .sync => inferInstanceAs (Decidable (WithinWindow system.store system.loop))
  | .syncFailure _ _ => isFalse id
  | .chainChange _ | .handler _ | .pruner | .prunerFailure => isTrue trivial

instance (system : System History tree) : (event : SystemEvent tree) → Decidable (RevertsTimely system event)
  | .handler _ => inferInstanceAs (Decidable (RevertTimely system))
  | .chainChange _ | .sync | .syncFailure _ _ | .pruner | .prunerFailure => isTrue trivial

structure CatchingUp (system : System History tree) : Prop where
  consistent : Consistent system
  started : system.handler = .starting → system.syncTarget.state = none ∧ system.loop = .idle
  last : ∀ notification ∈ system.notifications.getLast?, notification.state.Reaches system.chain.bestBlockNumber
  handed : system.notifications = [] → ∀ next ∈ system.handler.state, next.Reaches system.chain.bestBlockNumber
  covered : system.notifications = [] → system.handler = .waiting → Covered system

section Batch

-- A batch of canonical blocks on a canonical tip is a chain of children.
theorem append_all_canonical (chain : CanonicalChain tree) (blocks : List (BlockWithParent × BlockStateDiff)) (history : History)
    (latest : chain.blockHash history.latest.number = some history.latest.hash) (numbered : NumberedFrom (history.latest.number + 1) blocks)
    (own : ∀ block ∈ blocks, OwnBlock tree block)
    (canonical : ∀ block ∈ blocks, chain.blockHash block.1.block.number = some block.1.block.hash) :
    ∃ after, history.appendAll blocks = .ok after := by
  induction blocks generalizing history with
  | nil => exact ⟨history, rfl⟩
  | cons block rest ih =>
      have number : block.1.block.number = history.latest.number + 1 := numbered.1
      have here := canonical block List.mem_cons_self
      have child : history.latest.hash = block.1.parent := by
        rw [number] at here
        have parent := linked_step tree.parentOf chain.hashes chain.linked _ _ here
        rw [(own block List.mem_cons_self).parent]
        exact Option.some.inj (latest.symm.trans parent)
      obtain ⟨after, appended⟩ := ih { history with stored := history.stored ++ [block], latest := block.1.block } here
        (number.symm ▸ numbered.2) (fun other member => own other (List.mem_cons_of_mem block member))
        (fun other member => canonical other (List.mem_cons_of_mem block member))
      refine ⟨after, ?_⟩
      rw [History.appendAll, List.foldlM_cons, History.append, if_neg (not_not.mpr child)]
      exact appended

theorem plan_session_all (earliest latest : Nat) (batch : List (BatchBlock tree)) (window : earliest ≤ latest)
    (numbered : NumberedFrom (latest + 1) (batchEntries batch)) : planSession earliest latest batch none = (batchEntries batch, none) := by
  induction batch generalizing latest with
  | nil => rfl
  | cons first rest ih =>
      have number : first.block.number = latest + 1 := numbered.1
      have later := ih (latest + 1) (by omega) numbered.2
      cases first with
      | cached block =>
          rw [planSession, show block.number = latest + 1 from number, later]
          rfl
      | execute block =>
          have position : block.number = latest + 1 := number
          rw [planSession, position, if_neg (by omega), if_neg (by omega), later]
          rfl

theorem canonical_batch_commits (system : System History tree) (consistent : Consistent system) (target : Nat)
    (batch : List (BatchBlock tree)) (atStore : system.loop = .storeBatch target batch) (clear : system.waitingReverts = []) :
    ∃ store, MorphProofsStore.update system.store
      (.batchSession (planSession system.store.earliest.number system.store.latest.number batch none).1
        (planSession system.store.earliest.number system.store.latest.number batch none).2) = .ok store := by
  have loop := consistent.loop
  rw [atStore, clear] at loop
  obtain ⟨after, appended⟩ := append_all_canonical system.chain (batchEntries batch) system.store (loop.latest (clear_nil _)) loop.numbered
    (fun block member => by
      obtain ⟨entry, _, rfl⟩ := List.mem_map.mp member
      exact entry_own entry.block)
    (fun block member => by
      obtain ⟨entry, inBatch, rfl⟩ := List.mem_map.mp member
      exact loop.batch entry inBatch (clear_nil _))
  refine ⟨after, ?_⟩
  rw [plan_session_all _ _ batch consistent.window loop.numbered]
  change (do let staged ← system.store.appendAll (batchEntries batch); Except.ok staged) = Except.ok after
  rw [appended]
  rfl

end Batch

section Covered

variable (config : ExExConfig) (system : System History tree) (covered : Covered system)

include covered

theorem goto_covered (point : SyncPoint tree) (same : point.target = system.loop.target)
    (fewer : ∀ revertTo ∈ point.executing, revertTo ∈ system.loop.executing) : Covered (system.goto point) := by
  obtain ⟨target, pending, enough⟩ | ahead := covered
  · refine .inl ⟨target, ?_, enough⟩
    rw [System.target, System.goto, same]
    exact pending
  · obtain ⟨executing, pending⟩ := (clear_append _ _ _).mp ahead.kept
    exact .inr ⟨ahead.reached, (clear_append _ _ _).mpr ⟨fun revertTo member => executing revertTo (fewer revertTo member), pending⟩⟩

-- The loop gives up its own target: either something else is pending, or the
-- store has what the target asked for.
theorem goto_idle_covered (enough : system.syncTarget.state = none → ∀ target ∈ system.loop.target,
      system.chain.bestBlockNumber ≤ target → system.chain.bestBlockNumber ≤ system.store.latest.number) : Covered (system.goto .idle) := by
  obtain ⟨target, pending, reaches⟩ | ahead := covered
  · rw [System.target] at pending
    cases state : system.syncTarget.state with
    | none =>
        rw [state] at pending
        refine .inr ⟨enough state target pending reaches, ?_⟩
        dsimp only [System.goto]
        rw [state]
        exact clear_nil _
    | some newer =>
        rw [state] at pending
        refine .inl ⟨target, ?_, reaches⟩
        rw [System.target]
        dsimp only [System.goto]
        rw [state]
        exact pending
  · obtain ⟨_, pending⟩ := (clear_append _ _ _).mp ahead.kept
    exact .inr ⟨ahead.reached, (clear_append _ _ _).mpr ⟨clear_nil _, pending⟩⟩

theorem take_state_covered (atIdle : system.loop = .idle) : Covered system.takeStateStep := by
  rw [System.takeStateStep, SyncTarget.takeState]
  rw [Covered, System.target] at covered
  cases state : system.syncTarget.state with
  | none =>
      rw [state, atIdle] at covered
      refine .inr ?_
      obtain ⟨_, absurd, _⟩ | ahead := covered
      · cases absurd
      · refine ⟨ahead.reached, ?_⟩
        dsimp only
        rw [atIdle]
        exact clear_nil _
  | some taken =>
      have kept (ahead : StoreAhead system) : Clear system.chain.bestBlockNumber taken.revertTo.toList := by
        have kept := ahead.kept
        rw [atIdle, state] at kept
        exact ((clear_append _ _ _).mp kept).2
      rw [state] at covered
      cases taken with
      | syncUpTo target => exact covered.imp id (fun ahead => ⟨ahead.reached, clear_nil _⟩)
      | revertThenSync revertTo syncTo => exact covered.imp id (fun ahead => ⟨ahead.reached, kept ahead⟩)
      | revert revertTo => exact covered.imp id (fun ahead => ⟨ahead.reached, kept ahead⟩)

theorem unwind_covered (revertTo : BlockWithParent) (syncTo : Option Nat) (atUnwind : system.loop = .unwind revertTo syncTo)
    (within : system.store.earliest.number < revertTo.block.number) : Covered (system.unwindStep revertTo syncTo) := by
  have same : system.target = system.syncTarget.state.elim syncTo SyncTargetState.syncTo := by
    rw [System.target, atUnwind]
    rfl
  have unwound : MorphProofsStore.update system.store (.unwindHistory revertTo) = system.store.unwind revertTo := rfl
  rw [Covered, same] at covered
  have clears (ahead : StoreAhead system) :
      system.chain.bestBlockNumber < revertTo.block.number ∧ Clear system.chain.bestBlockNumber (pendingReverts system.syncTarget.state) := by
    have kept := ahead.kept
    rw [atUnwind] at kept
    obtain ⟨executing, pending⟩ := (clear_append _ _ _).mp kept
    exact ⟨(clear_singleton _ _).mp executing, pending⟩
  rw [System.unwindStep, unwound, History.unwind]
  by_cases beyond : system.store.latest.number < revertTo.block.number
  · rw [if_pos beyond]
    exact covered.imp id (fun ahead => ⟨ahead.reached, (clears ahead).2⟩)
  · rw [if_neg beyond, if_neg (by omega)]
    refine covered.imp id (fun ahead => ⟨?_, (clears ahead).2⟩)
    have below := (clears ahead).1
    dsimp only [History.cut]
    omega

-- Stripping a pending revert keeps its forward target, and one without a target
-- was pending only because the store is ahead.
theorem reverted_covered (revertTo : BlockWithParent) (syncTo : Option Nat) (atReverted : system.loop = .reverted revertTo syncTo) :
    Covered (system.revertedStep revertTo syncTo) := by
  have forward : (syncTo.elim SyncPoint.idle SyncPoint.forward : SyncPoint tree).target = syncTo ∧
      (syncTo.elim SyncPoint.idle SyncPoint.forward : SyncPoint tree).executing = [] := by
    cases syncTo <;> exact ⟨rfl, rfl⟩
  have marked := mark_reverts system.syncTarget revertTo
  have kept (ahead : StoreAhead system) : StoreAhead (system.revertedStep revertTo syncTo) := by
    refine ⟨ahead.reached, ?_⟩
    have pending := ((clear_append _ _ _).mp ahead.kept).2
    dsimp only [System.revertedStep]
    rw [forward.2]
    obtain same | ⟨stripped, _⟩ := marked
    · rw [same]
      exact pending
    · rw [stripped]
      exact clear_nil _
  obtain ⟨target, pending, reaches⟩ | ahead := covered
  · refine .inl ⟨target, ?_, reaches⟩
    rw [System.target, atReverted] at pending
    rw [System.target]
    dsimp only [System.revertedStep]
    rw [forward.1, SyncTarget.markRevertComplete]
    cases state : system.syncTarget.state with
    | none =>
        rw [state] at pending
        dsimp only
        rw [state]
        exact pending
    | some newer =>
        rw [state] at pending
        cases newer with
        | syncUpTo syncTo =>
            dsimp only
            rw [state]
            exact pending
        | revertThenSync other syncTo =>
            dsimp only
            split
            · exact pending
            · rw [state]
              exact pending
        | revert other => cases pending
  · exact .inr (kept ahead)

theorem requeue_covered (target : Nat) (atRequeue : system.loop = .requeue target) :
    Covered { system with syncTarget := system.syncTarget.requeueState (.syncUpTo target), loop := .idle } := by
  have aheadKept (ahead : StoreAhead system) :
      StoreAhead { system with syncTarget := system.syncTarget.requeueState (.syncUpTo target), loop := .idle } := by
    refine ⟨ahead.reached, ?_⟩
    dsimp only
    rw [requeue_reverts]
    exact (clear_append _ _ _).mpr ⟨clear_nil _, ((clear_append _ _ _).mp ahead.kept).2⟩
  obtain ⟨reaching, pending, reaches⟩ | ahead := covered
  · rw [System.target, atRequeue] at pending
    refine .inl ?_
    rw [System.target]
    dsimp only [SyncTarget.requeueState]
    cases state : system.syncTarget.state with
    | none =>
        rw [state] at pending
        exact ⟨reaching, pending, reaches⟩
    | some newer =>
        rw [state] at pending
        cases newer with
        | syncUpTo syncTo =>
            cases pending
            refine ⟨_, rfl, ?_⟩
            dsimp only [SyncTargetState.furtherSync]
            split
            · exact reaches
            · next further => exact Nat.le_trans reaches (Nat.le_of_not_le further)
        | revertThenSync other syncTo => exact ⟨reaching, pending, reaches⟩
        | revert other => cases pending
  · exact .inr (aheadKept ahead)

theorem take_cached_covered (target : Nat) (batch : List (BatchBlock tree)) (number stop : Nat)
    (atTake : system.loop = .takeCached target batch number stop) : Covered (system.takeCachedStep config target batch number stop) := by
  have same : system.loop.target = some target := by
    rw [atTake]
    rfl
  have taken : Covered { system with syncTarget := (system.syncTarget.take number).2 } :=
    covered.imp id (fun ahead => ⟨ahead.reached, ahead.kept⟩)
  rw [System.takeCachedStep]
  split
  · exact goto_covered system covered _ same.symm (fun _ absurd => (by cases absurd))
  · dsimp only
    split
    · exact goto_covered _ taken _ same.symm (fun _ absurd => (by cases absurd))
    · exact goto_covered _ taken _ same.symm (fun _ absurd => (by cases absurd))
    · exact goto_covered _ taken _ same.symm (fun _ absurd => (by cases absurd))

theorem store_batch_covered (consistent : Consistent system) (handled : system.notifications = []) (waiting : system.handler = .waiting)
    (target : Nat) (batch : List (BatchBlock tree)) (atStore : system.loop = .storeBatch target batch) :
    Covered (system.storeBatchStep target batch none) := by
  have same : system.loop.target = some target := by
    rw [atStore]
    rfl
  have numbered := consistent.loop.numbered
  rw [atStore] at numbered
  rw [System.storeBatchStep]
  dsimp only [MorphProofsStore.getLatestBlockNumber, MorphProofsStore.getEarliestBlockNumber]
  split
  · next error failed =>
      rw [System.batchFailed]
      split
      · exact goto_covered system covered _ same.symm (fun _ absurd => (by cases absurd))
      · refine goto_idle_covered system covered (fun state => ?_)
        -- With nothing pending the batch is canonical, so it was not refused.
        have clear : system.waitingReverts = [] := by
          rw [System.waitingReverts, state, handled, waiting]
          rfl
        obtain ⟨store, committed⟩ := canonical_batch_commits system consistent target batch atStore clear
        rw [committed] at failed
        cases failed
  · next store committed =>
      have appended := batch_session_ok system.store _ _ store committed
      have grown := (append_all_latest _ system.store (session_numbered _ _ batch none numbered) store appended).2.1
      rw [Covered, System.target, same] at covered
      refine covered.imp id (fun ahead => ⟨Nat.le_trans ahead.reached grown, ?_⟩)
      exact (clear_append _ _ _).mpr ⟨clear_nil _, ((clear_append _ _ _).mp ahead.kept).2⟩

theorem loop_covered (consistent : Consistent system) (handled : system.notifications = []) (waiting : system.handler = .waiting)
    (within : WithinWindow system.store system.loop) : Covered (system.loopStep config) := by
  rw [System.loopStep]
  cases point : system.loop with
  | idle => exact take_state_covered system covered point
  | readRevertLatest revertTo syncTo =>
      dsimp only
      rw [System.readRevertLatestStep]
      dsimp only [MorphProofsStore.getLatestBlockNumber]
      split
      · exact goto_covered system covered _ (by rw [point]; rfl) (fun other member => by rw [point]; exact member)
      · exact goto_covered system covered _ (by rw [point]; rfl) (fun _ absurd => (by cases absurd))
  | unwind revertTo syncTo =>
      rw [point] at within
      exact unwind_covered system covered revertTo syncTo point within
  | unwound revertTo syncTo => exact goto_covered system covered _ (by rw [point]; rfl) (fun _ absurd => (by cases absurd))
  | reverted revertTo syncTo => exact reverted_covered system covered revertTo syncTo point
  | forward target =>
      dsimp only
      split
      · next pending =>
          refine goto_idle_covered system covered (fun state => ?_)
          rw [SyncTarget.hasPendingState, state] at pending
          cases pending
      · exact goto_covered system covered _ (by rw [point]; rfl) (fun _ absurd => (by cases absurd))
  | readLatest target =>
      dsimp only
      rw [System.readLatestStep]
      dsimp only [MorphProofsStore.getLatestBlockNumber]
      split
      · next reached =>
          refine goto_idle_covered system covered (fun _ other isTarget reaches => ?_)
          rw [point] at isTarget
          cases isTarget
          exact Nat.le_trans reaches reached
      · exact goto_covered system covered _ (by rw [point]; rfl) (fun _ absurd => (by cases absurd))
  | takeCached target batch number stop => exact take_cached_covered config system covered target batch number stop point
  | recoverBlock target batch number stop =>
      dsimp only
      rw [System.recoverBlockStep]
      split
      · exact goto_covered system covered _ (by rw [point]; rfl) (fun _ absurd => (by cases absurd))
      · exact goto_covered system covered _ (by rw [point]; rfl) (fun _ absurd => (by cases absurd))
  | storeBatch target batch => exact store_batch_covered system covered consistent handled waiting target batch point
  | stored target => exact goto_covered system covered _ (by rw [point]; rfl) (fun _ absurd => (by cases absurd))
  | requeue target => exact requeue_covered system covered target point

end Covered

theorem apply_next_target (current next : SyncTargetState) (target : Nat) (brings : next.syncTo = some target) :
    ∃ merged ∈ (current.applyNext next).syncTo, target ≤ merged := by
  have further (older : Nat) : target ≤ SyncTargetState.furtherSync older target := by
    rw [SyncTargetState.furtherSync]
    split
    · exact Nat.le_refl target
    · next above => exact Nat.le_of_not_le above
  cases next with
  | syncUpTo newTarget =>
      cases brings
      cases current with
      | syncUpTo older => exact ⟨_, rfl, further older⟩
      | revertThenSync revertTo older => exact ⟨_, rfl, further older⟩
      | revert revertTo => exact ⟨_, rfl, Nat.le_refl target⟩
  | revertThenSync newRevert newTarget =>
      cases brings
      cases current with
      | syncUpTo older => exact ⟨_, rfl, Nat.le_refl target⟩
      | revertThenSync revertTo older => exact ⟨_, rfl, Nat.le_refl target⟩
      | revert revertTo => exact ⟨_, rfl, Nat.le_refl target⟩
  | revert newRevert => cases brings

section Steps

variable (config : ExExConfig) (system : System History tree)

theorem merge_covered (next : SyncTargetState) (held : system.handler = .caching [] next) (handled : system.notifications = [])
    (reaches : next.Reaches system.chain.bestBlockNumber) (timely : RevertTimely system) :
    Covered { system with syncTarget := system.syncTarget.updateState next, handler := .waiting } := by
  have forward (target : Nat) (brings : next.syncTo = some target) (enough : system.chain.bestBlockNumber ≤ target) :
      Covered { system with syncTarget := system.syncTarget.updateState next, handler := .waiting } := by
    refine .inl ?_
    rw [System.target]
    dsimp only [SyncTarget.updateState]
    cases system.syncTarget.state with
    | none => exact ⟨target, brings, enough⟩
    | some current =>
        obtain ⟨merged, found, atLeast⟩ := apply_next_target current next target brings
        exact ⟨merged, found, Nat.le_trans enough atLeast⟩
  cases next with
  | syncUpTo target => exact forward target rfl reaches
  | revertThenSync revertTo syncTo => exact forward syncTo rfl reaches
  | revert revertTo =>
      have last : system.lastRevert = [revertTo] := by
        rw [System.lastRevert, held, handled]
      obtain ⟨stored, shallow⟩ := timely revertTo (by rw [last]; exact List.mem_singleton.mpr rfl)
      have below : system.chain.bestBlockNumber < revertTo.block.number := reaches
      refine .inr ⟨by dsimp only; omega, (clear_append _ _ _).mpr ⟨fun other member => ?_, fun other member => ?_⟩⟩
      · exact Nat.lt_of_lt_of_le below (shallow other (List.mem_append_left _ member))
      · dsimp only [SyncTarget.updateState] at member ⊢
        cases state : system.syncTarget.state with
        | none =>
            rw [state] at member
            rw [List.mem_singleton.mp member]
            exact below
        | some current =>
            rw [state] at member shallow
            obtain newer | ⟨older, _⟩ := apply_next_revert current (.revert revertTo) other (Option.mem_toList.mp member)
            · cases newer
              exact below
            · exact Nat.lt_of_lt_of_le below (shallow other (List.mem_append_right _ (Option.mem_toList.mpr older)))

-- What the loop and the pruner leave alone.
theorem loop_writes :
    ∃ target point store, system.loopStep config = { system with syncTarget := target, loop := point, store := store } := by
  rw [System.loopStep]
  cases system.loop with
  | idle =>
      dsimp only [System.takeStateStep]
      split <;> exact ⟨_, _, _, rfl⟩
  | readRevertLatest revertTo syncTo =>
      dsimp only [System.readRevertLatestStep]
      split
      · exact ⟨_, _, _, rfl⟩
      · split <;> exact ⟨_, _, _, rfl⟩
  | unwind revertTo syncTo =>
      dsimp only [System.unwindStep]
      split <;> exact ⟨_, _, _, rfl⟩
  | forward target =>
      dsimp only
      split <;> exact ⟨_, _, _, rfl⟩
  | readLatest target =>
      dsimp only [System.readLatestStep]
      split
      · exact ⟨_, _, _, rfl⟩
      · split <;> exact ⟨_, _, _, rfl⟩
  | takeCached target batch number stop =>
      dsimp only [System.takeCachedStep]
      split
      · exact ⟨_, _, _, rfl⟩
      · split <;> exact ⟨_, _, _, rfl⟩
  | recoverBlock target batch number stop =>
      dsimp only [System.recoverBlockStep]
      split <;> exact ⟨_, _, _, rfl⟩
  | storeBatch target batch =>
      dsimp only [System.storeBatchStep, System.batchFailed]
      split
      · split
        · split <;> exact ⟨_, _, _, rfl⟩
        · exact ⟨_, _, _, rfl⟩
      · split <;> exact ⟨_, _, _, rfl⟩
      · split <;> exact ⟨_, _, _, rfl⟩
  | unwound | reverted | stored | requeue => exact ⟨_, _, _, rfl⟩

theorem pruner_writes :
    ∃ pruner store, system.prunerStep config = { system with pruner := pruner, store := store } ∧ store.latest = system.store.latest := by
  rw [System.prunerStep]
  dsimp only [MorphProofsStore.getLatestBlockNumber, MorphProofsStore.getEarliestBlockNumber]
  split
  · split <;> exact ⟨_, _, rfl, rfl⟩
  · exact ⟨_, _, rfl, rfl⟩
  · next newEarliest _ =>
      split
      · exact ⟨_, _, rfl, rfl⟩
      · next store pruned => exact ⟨_, store, rfl, prune_latest system.store newEarliest store pruned⟩

theorem apply_stopped (event : SystemEvent tree) (free : FailureFree system event) (stopped : system.handler = .stopped) :
    (system.apply config event).handler = .stopped := by
  cases event with
  | chainChange chain => exact stopped
  | handler hasTrieData =>
      rw [System.apply, System.handlerStep, stopped]
      exact stopped
  | sync =>
      obtain ⟨target, point, store, written⟩ := loop_writes config system
      rw [System.apply, written]
      exact stopped
  | syncFailure staged error => exact free.elim
  | pruner =>
      obtain ⟨pruner, store, written, _⟩ := pruner_writes config system
      rw [System.apply, written]
      exact stopped
  | prunerFailure => exact stopped

variable (catching : CatchingUp system)

include catching

theorem chain_change_catching (after : CanonicalChain tree) : CatchingUp (system.apply config (.chainChange after)) := by
  have consistent := chain_change_consistent config system catching.consistent after
  cases sent : system.chain.notification after with
  | none =>
      have same : after.bestBlockNumber = system.chain.bestBlockNumber := by
        rw [CanonicalChain.bestBlockNumber, CanonicalChain.bestBlockNumber, unannounced_same system.chain after sent]
      have queue : (system.apply config (.chainChange after)).notifications = system.notifications := by
        rw [System.apply, sent]
        exact List.append_nil _
      refine ⟨consistent, catching.started, ?_, ?_, ?_⟩
      · rw [queue]
        exact same ▸ catching.last
      · rw [queue]
        exact same ▸ catching.handed
      · rw [queue]
        intro handled waiting
        refine (catching.covered handled waiting).imp ?_ (fun ahead => ⟨same ▸ ahead.reached, same ▸ ahead.kept⟩)
        rintro ⟨target, pending, enough⟩
        exact ⟨target, pending, same ▸ enough⟩
  | some notification =>
      have queue : (system.apply config (.chainChange after)).notifications = system.notifications ++ [notification] := by
        rw [System.apply, sent]
        rfl
      have filled : (system.apply config (.chainChange after)).notifications ≠ [] := by
        rw [queue]
        simp
      refine ⟨consistent, catching.started, ?_, fun empty => absurd empty filled, fun empty => absurd empty filled⟩
      rw [queue, List.getLast?_concat]
      rintro _ ⟨⟩
      exact notification_reaches system.chain after notification sent

theorem starting_catching (hasTrieData : Bool) (held : system.handler = .starting)
    (consistent : Consistent (system.handlerStep hasTrieData)) : CatchingUp (system.handlerStep hasTrieData) := by
  rw [System.handlerStep, held] at consistent ⊢
  refine ⟨consistent, ?_, catching.last, ?_, ?_⟩
  · dsimp only
    intro still
    split at still <;> cases still
  · dsimp only
    intro _ next given
    split at given
    · cases given
      exact Nat.le_refl _
    · cases given
  · dsimp only
    intro _ waiting
    split at waiting
    · cases waiting
    · next reached =>
        obtain ⟨state, idle⟩ := catching.started held
        refine .inr ⟨Nat.le_of_not_lt reached, ?_⟩
        dsimp only
        rw [state, idle]
        exact clear_nil _

theorem take_notification_catching (hasTrieData : Bool) (held : system.handler = .waiting) (notification : ExExNotification tree)
    (rest : List (ExExNotification tree)) (queued : system.notifications = notification :: rest)
    (consistent : Consistent (system.handlerStep hasTrieData)) :
    (system.handlerStep hasTrieData).handler = .stopped ∨ CatchingUp (system.handlerStep hasTrieData) := by
  rw [System.handlerStep, held, queued] at consistent ⊢
  dsimp only at consistent ⊢
  obtain stopped | ⟨target, handled, _, _⟩ :=
    handle_notification_cases { system with notifications := rest, handler := .waiting } notification
  · exact .inl stopped
  · have last := catching.last
    rw [queued] at last
    rw [handled] at consistent ⊢
    refine .inr ⟨consistent, fun absurd => (by cases absurd), ?_, ?_, fun _ absurd => (by cases absurd)⟩
    · intro other isLast
      refine last other ?_
      rw [List.getLast?_cons]
      dsimp only at isLast
      rw [Option.mem_def] at isLast
      rw [isLast]
      rfl
    · intro alone next given
      cases given
      refine last notification ?_
      dsimp only at alone
      rw [alone]
      rfl

theorem handler_catching (hasTrieData : Bool) (timely : RevertTimely system) :
    (system.handlerStep hasTrieData).handler = .stopped ∨ CatchingUp (system.handlerStep hasTrieData) := by
  obtain stopped | consistent := handler_consistent system catching.consistent hasTrieData
  · exact .inl stopped
  cases held : system.handler with
  | starting => exact .inr (starting_catching system catching hasTrieData held consistent)
  | waiting =>
      cases queued : system.notifications with
      | nil =>
          rw [System.handlerStep, held, queued]
          exact .inr catching
      | cons notification rest => exact take_notification_catching system catching hasTrieData held notification rest queued consistent
  | caching blocks next =>
      have handed := catching.handed
      rw [held] at handed
      rw [System.handlerStep, held] at consistent ⊢
      cases blocks with
      | nil =>
          refine .inr ⟨consistent, fun absurd => (by cases absurd), catching.last, fun _ _ absurd => (by cases absurd), fun handled _ => ?_⟩
          exact merge_covered system next held handled (handed handled next rfl) timely
      | cons block rest =>
          exact .inr ⟨consistent, fun absurd => (by cases absurd), catching.last, handed, fun _ absurd => (by cases absurd)⟩
  | stopped =>
      rw [System.handlerStep, held]
      exact .inl held

theorem loop_catching (within : WithinWindow system.store system.loop) : CatchingUp (system.loopStep config) := by
  have consistent := loop_consistent config system catching.consistent within
  have covered (handled : system.notifications = []) (waiting : system.handler = .waiting) : Covered (system.loopStep config) :=
    loop_covered config system (catching.covered handled waiting) catching.consistent handled waiting within
  have started (starting : system.handler = .starting) : (system.loopStep config).syncTarget.state = none ∧
      (system.loopStep config).loop = .idle := by
    obtain ⟨state, idle⟩ := catching.started starting
    rw [System.loopStep, idle]
    dsimp only
    rw [System.takeStateStep, SyncTarget.takeState, state]
    exact ⟨rfl, idle⟩
  obtain ⟨target, point, store, written⟩ := loop_writes config system
  rw [written] at consistent covered started ⊢
  exact ⟨consistent, started, catching.last, catching.handed, covered⟩

theorem pruner_catching : CatchingUp (system.prunerStep config) := by
  have consistent := pruner_consistent config system catching.consistent
  obtain ⟨pruner, store, written, latest⟩ := pruner_writes config system
  rw [written] at consistent ⊢
  refine ⟨consistent, catching.started, catching.last, catching.handed, fun handled waiting => ?_⟩
  refine (catching.covered handled waiting).imp id (fun ahead => ⟨?_, ahead.kept⟩)
  dsimp only
  rw [latest]
  exact ahead.reached

theorem apply_catching (event : SystemEvent tree) (free : FailureFree system event) (timely : RevertsTimely system event) :
    (system.apply config event).handler = .stopped ∨ CatchingUp (system.apply config event) := by
  cases event with
  | chainChange chain => exact .inr (chain_change_catching config system catching chain)
  | handler hasTrieData => exact handler_catching system catching hasTrieData timely
  | sync => exact .inr (loop_catching config system catching free)
  | syncFailure staged error => exact free.elim
  | pruner => exact .inr (pruner_catching config system catching)
  | prunerFailure =>
      obtain ⟨⟨window, feed, loop⟩, started, last, handed, covered⟩ := catching
      refine .inr ⟨⟨window, feed, loop⟩, started, last, handed, fun handled waiting => ?_⟩
      exact (covered handled waiting).imp id (fun ahead => ⟨ahead.reached, ahead.kept⟩)

end Steps

-- Everything that was sent is handled and the loop waits with nothing to do.
structure Parked {σ : Type} (system : System σ tree) : Prop where
  handled : system.notifications = []
  waiting : system.handler = .waiting
  nothing : system.syncTarget.state = none
  idle : system.loop = .idle

instance : (handler : HandlerPoint tree) → Decidable (handler = .waiting)
  | .waiting => isTrue rfl
  | .starting | .caching _ _ | .stopped => isFalse (fun same => nomatch same)

instance : (point : SyncPoint tree) → Decidable (point = .idle)
  | .idle => isTrue rfl
  | .readRevertLatest _ _ | .unwind _ _ | .unwound _ _ | .reverted _ _ | .forward _ | .readLatest _ | .takeCached _ _ _ _
  | .recoverBlock _ _ _ _ | .storeBatch _ _ | .stored _ | .requeue _ => isFalse (fun same => nomatch same)

instance {σ : Type} (system : System σ tree) : Decidable (Parked system) :=
  decidable_of_iff (system.notifications = [] ∧ system.handler = .waiting ∧ system.syncTarget.state = none ∧ system.loop = .idle)
    ⟨fun ⟨handled, waiting, nothing, idle⟩ => ⟨handled, waiting, nothing, idle⟩,
      fun parked => ⟨parked.handled, parked.waiting, parked.nothing, parked.idle⟩⟩

theorem start_catching (chain : CanonicalChain tree) (history : History) (window : history.earliest.number ≤ history.latest.number)
    (canonical : chain.blockHash history.latest.number = some history.latest.hash) : CatchingUp (System.start chain history) where
  consistent :=
    { window := window
      feed := ⟨trivial, fun _ absurd => (by cases absurd), fun _ absurd => (by cases absurd), fun _ absurd => (by cases absurd),
        fun _ absurd => (by cases absurd), fun _ absurd => (by cases absurd)⟩
      loop := plain_point_fits _ _ _ _ rfl rfl rfl trivial (fun _ => canonical) }
  started := fun _ => ⟨rfl, rfl⟩
  last := fun _ absurd => (by cases absurd)
  handed := fun _ _ absurd => (by cases absurd)
  covered := fun _ absurd => (by cases absurd)

theorem parked_covered (system : System History tree) (catching : CatchingUp system) (parked : Parked system) :
    system.store.latest.number = system.chain.bestBlockNumber ∧
      system.chain.blockHash system.chain.bestBlockNumber = some system.store.latest.hash := by
  have clear : system.loop.executing ++ system.waitingReverts = [] := by
    rw [System.waitingReverts, parked.handled, parked.waiting, parked.nothing, parked.idle]
    rfl
  have latest := catching.consistent.loop.latest
  rw [clear] at latest
  have canonical := latest (clear_nil _)
  have inside : system.store.latest.number < system.chain.hashes.length := (List.getElem?_eq_some_iff.mp canonical).1
  have reached : system.chain.bestBlockNumber ≤ system.store.latest.number := by
    obtain ⟨target, pending, _⟩ | ahead := catching.covered parked.handled parked.waiting
    · rw [System.target, parked.nothing, parked.idle] at pending
      cases pending
    · exact ahead.reached
  have same : system.store.latest.number = system.chain.bestBlockNumber := by
    rw [CanonicalChain.bestBlockNumber] at reached ⊢
    omega
  exact ⟨same, same ▸ canonical⟩

theorem run_catching (config : ExExConfig) (chain : CanonicalChain tree) (history : History)
    (window : history.earliest.number ≤ history.latest.number)
    (canonical : chain.blockHash history.latest.number = some history.latest.hash) (events : List (SystemEvent tree))
    (legal : EachAllowed (System.apply config) (fun system event => FailureFree system event ∧ RevertsTimely system event)
      (System.start chain history) events)
    (running : (runSteps (System.apply config) (System.start chain history) events).handler = .waiting) :
    CatchingUp (runSteps (System.apply config) (System.start chain history) events) := by
  have reached := run_invariant (System.apply config) _ (fun system => system.handler = .stopped ∨ CatchingUp system)
    (fun system event invariant allowed => invariant.elim
      (fun stopped => .inl (apply_stopped config system event allowed.1 stopped))
      (fun catching => apply_catching config system catching event allowed.1 allowed.2))
    (System.start chain history) events (.inr (start_catching chain history window canonical)) legal
  cases reached with
  | inl stopped => cases stopped.symm.trans running
  | inr catching => exact catching

theorem parked_store_at_head (config : ExExConfig) (chain : CanonicalChain tree) (history : History)
    (window : history.earliest.number ≤ history.latest.number)
    (canonical : chain.blockHash history.latest.number = some history.latest.hash) (events : List (SystemEvent tree))
    (legal : EachAllowed (System.apply config) (fun system event => FailureFree system event ∧ RevertsTimely system event)
      (System.start chain history) events) (parked : Parked (runSteps (System.apply config) (System.start chain history) events)) :
    (runSteps (System.apply config) (System.start chain history) events).store.latest.number =
        (runSteps (System.apply config) (System.start chain history) events).chain.bestBlockNumber ∧
      (runSteps (System.apply config) (System.start chain history) events).chain.blockHash
          (runSteps (System.apply config) (System.start chain history) events).chain.bestBlockNumber =
        some (runSteps (System.apply config) (System.start chain history) events).store.latest.hash :=
  parked_covered _ (run_catching config chain history window canonical events legal parked.waiting) parked

section CatchUpSample

-- The branch of A with its last block taken off.
def shortenedChain : CanonicalChain sampleTree where
  hashes := [0x10, 0xA1, 0xA2]
  nonempty := by decide
  linked := by unfold Linked; decide

def behindHistory : History where
  anchor := 1
  initial := ⟨fun _ => none, fun _ => none, fun _ => none, fun _ => none⟩
  stored := []
  earliest := ⟨1, 0xA1⟩
  latest := ⟨1, 0xA1⟩

-- The store is at block one when block three leaves the chain: the pending
-- target three gives way to the revert of block three, which is skipped.
def droppedTargetEvents : List (SystemEvent sampleTree) :=
  [.handler true, .handler true, .chainChange shortenedChain, .handler true, .handler true, .sync, .sync, .sync]

theorem revert_drops_pending_target :
    BuiltOn chainA behindHistory ∧
      EachAllowed (System.apply sampleConfig) FailureFree (System.start chainA behindHistory) droppedTargetEvents ∧
      Parked (sampleRun behindHistory droppedTargetEvents) ∧
      (sampleRun behindHistory droppedTargetEvents).store.latest = ⟨1, 0xA1⟩ ∧
      (sampleRun behindHistory droppedTargetEvents).chain.bestBlockNumber = 2 :=
  ⟨⟨by decide, by decide, by decide, by decide, by decide, rfl⟩, by decide +kernel, by decide +kernel, by decide +kernel, by decide +kernel⟩

-- A reorg of block three, its removal once the store has it, and a commit.
def keptUpEvents : List (SystemEvent sampleTree) :=
  List.flatten [[.handler true, .chainChange chainD], List.replicate 3 (.handler true), List.replicate 13 .sync,
    [.chainChange shortenedChain], List.replicate 2 (.handler true), List.replicate 5 .sync,
    [.chainChange chainA], List.replicate 3 (.handler true), List.replicate 9 .sync]

theorem parked_store_at_head_sample :
    (sampleRun sampleHistory keptUpEvents).store.latest.number =
        (sampleRun sampleHistory keptUpEvents).chain.bestBlockNumber ∧
      (sampleRun sampleHistory keptUpEvents).chain.blockHash
          (sampleRun sampleHistory keptUpEvents).chain.bestBlockNumber =
        some (sampleRun sampleHistory keptUpEvents).store.latest.hash :=
  parked_store_at_head sampleConfig chainA sampleHistory (by decide) (by decide) keptUpEvents (by decide +kernel) (by decide +kernel)

end CatchUpSample

end MorphReth.ProofsExEx
