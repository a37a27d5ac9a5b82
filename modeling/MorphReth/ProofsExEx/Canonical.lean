import MorphReth.ProofsExEx.Settled
import MorphReth.ProofsExEx.StateProvider

set_option autoImplicit false

namespace MorphReth.ProofsExEx

open Proofs

variable {tree : BlockTree}

def batchEntries (batch : List (BatchBlock tree)) : List (BlockWithParent × BlockStateDiff) :=
  batch.map (fun entry => entry.block.entry)

theorem numbered_snoc (start : Nat) (batch : List (BatchBlock tree)) (next : BatchBlock tree)
    (numbered : NumberedFrom start (batchEntries batch)) (follows : next.block.number = start + batch.length) :
    NumberedFrom start (batchEntries (batch ++ [next])) := by
  induction batch generalizing start with
  | nil => exact ⟨follows, trivial⟩
  | cons first rest ih => exact ⟨numbered.1, ih (start + 1) numbered.2 (by rw [List.length_cons] at follows; omega)⟩

theorem numbered_take (start count : Nat) (batch : List (BatchBlock tree)) (numbered : NumberedFrom start (batchEntries batch)) :
    NumberedFrom start (batchEntries (batch.take count)) := by
  induction batch generalizing start count with
  | nil =>
      rw [List.take_nil]
      trivial
  | cons first rest ih =>
      cases count with
      | zero => trivial
      | succ count => exact ⟨numbered.1, ih (start + 1) count numbered.2⟩

-- A session stores the blocks of its batch in order, all of them or the ones
-- before the first whose parent state it lacks.
theorem plan_session_taken (earliest latest : Nat) (batch : List (BatchBlock tree)) (failure : Option MorphProofsStorageError) :
    ∃ count, (planSession earliest latest batch failure).1 = batchEntries (batch.take count) := by
  induction batch generalizing latest with
  | nil => exact ⟨0, rfl⟩
  | cons first rest ih =>
      obtain ⟨count, taken⟩ := ih first.block.number
      have continues : first.block.entry :: (planSession earliest first.block.number rest failure).1 =
          batchEntries ((first :: rest).take (count + 1)) := by
        rw [taken]
        rfl
      cases first with
      | cached block => exact ⟨count + 1, continues⟩
      | execute block =>
          rw [planSession]
          split
          · exact ⟨0, rfl⟩
          · split
            · exact ⟨0, rfl⟩
            · exact ⟨count + 1, continues⟩

theorem session_numbered (earliest latest : Nat) (batch : List (BatchBlock tree)) (failure : Option MorphProofsStorageError)
    (numbered : NumberedFrom (latest + 1) (batchEntries batch)) :
    NumberedFrom (latest + 1) (planSession earliest latest batch failure).1 := by
  obtain ⟨count, taken⟩ := plan_session_taken earliest latest batch failure
  rw [taken]
  exact numbered_take (latest + 1) count batch numbered

theorem session_own (earliest latest : Nat) (batch : List (BatchBlock tree)) (failure : Option MorphProofsStorageError) :
    ∀ block ∈ (planSession earliest latest batch failure).1, OwnBlock tree block := by
  intro block member
  obtain ⟨count, taken⟩ := plan_session_taken earliest latest batch failure
  rw [taken] at member
  obtain ⟨entry, _, rfl⟩ := List.mem_map.mp member
  exact entry_own entry.block

theorem batch_session_ok (history : History) (blocks : List (BlockWithParent × BlockStateDiff)) (failure : Option MorphProofsStorageError)
    (store : History) (committed : history.update (.batchSession blocks failure) = .ok store) : history.appendAll blocks = .ok store := by
  obtain ⟨staged, appended, finished⟩ := (bind_ok _ _ _).mp committed
  cases failure with
  | none => exact Except.ok.inj finished ▸ appended
  | some error => cases finished

-- The batch under construction continues the store: no one else moves its
-- latest block.
def BatchFits (latest : Nat) : SyncPoint tree → Prop
  | .takeCached _ batch number _ | .recoverBlock _ batch number _ =>
      NumberedFrom (latest + 1) (batchEntries batch) ∧ number = latest + 1 + batch.length
  | .storeBatch _ batch => NumberedFrom (latest + 1) (batchEntries batch)
  | .idle | .readRevertLatest _ _ | .unwind _ _ | .unwound _ _ | .reverted _ _ | .forward _ | .readLatest _ | .stored _ | .requeue _ => True

structure Sound (system : System History tree) : Prop where
  settled : Settled tree system.store
  cached : CachedByNumber system.syncTarget
  batch : BatchFits system.store.latest.number system.loop

-- The one step the source does not guard: an unwind must land on the block that
-- the notification names as the parent.
def PointFits (history : History) : SyncPoint tree → Prop
  | .unwind revertTo _ => LandsOnParent history revertTo
  | .idle | .readRevertLatest _ _ | .unwound _ _ | .reverted _ _ | .forward _ | .readLatest _ | .takeCached _ _ _ _
  | .recoverBlock _ _ _ _ | .storeBatch _ _ | .stored _ | .requeue _ => True

def UnwindFits (system : System History tree) : SystemEvent tree → Prop
  | .sync => PointFits system.store system.loop
  | .chainChange _ | .handler _ | .syncFailure _ _ | .pruner | .prunerFailure => True

instance (history : History) : (point : SyncPoint tree) → Decidable (PointFits history point)
  | .unwind revertTo _ => inferInstanceAs (Decidable (LandsOnParent history revertTo))
  | .idle | .readRevertLatest _ _ | .unwound _ _ | .reverted _ _ | .forward _ | .readLatest _ | .takeCached _ _ _ _
  | .recoverBlock _ _ _ _ | .storeBatch _ _ | .stored _ | .requeue _ => isTrue trivial

instance (system : System History tree) : (event : SystemEvent tree) → Decidable (UnwindFits system event)
  | .sync => inferInstanceAs (Decidable (PointFits system.store system.loop))
  | .chainChange _ | .handler _ | .syncFailure _ _ | .pruner | .prunerFailure => isTrue trivial

section Steps

variable (config : ExExConfig) (system : System History tree) (sound : Sound system)

include sound

theorem goto_sound (point : SyncPoint tree) (fits : BatchFits system.store.latest.number point) : Sound (system.goto point) :=
  ⟨sound.settled, sound.cached, fits⟩

theorem handle_notification_sound (notification : ExExNotification tree) : Sound (system.handleNotification notification) := by
  cases notification with
  | chainCommitted new => exact ⟨sound.settled, sound.cached, sound.batch⟩
  | chainReorged old new =>
      rw [System.handleNotification]
      split
      · exact ⟨sound.settled, sound.cached, sound.batch⟩
      · exact ⟨sound.settled, clear_from_cached _ sound.cached _, sound.batch⟩
  | chainReverted old => exact ⟨sound.settled, clear_from_cached _ sound.cached _, sound.batch⟩

theorem handler_step_sound (hasTrieData : Bool) : Sound (system.handlerStep hasTrieData) := by
  rw [System.handlerStep]
  split
  · exact ⟨sound.settled, sound.cached, sound.batch⟩
  · split
    · exact sound
    · next notification rest _ =>
        exact handle_notification_sound { system with notifications := rest } ⟨sound.settled, sound.cached, sound.batch⟩ notification
  · exact ⟨sound.settled, sound.cached, sound.batch⟩
  · refine ⟨sound.settled, ?_, sound.batch⟩
    dsimp only
    split
    · exact insert_cached _ sound.cached _
    · exact sound.cached
  · exact sound

theorem take_state_sound : Sound system.takeStateStep := by
  have rest : Sound { system with syncTarget := system.syncTarget.takeState.2 } := ⟨sound.settled, sound.cached, sound.batch⟩
  rw [System.takeStateStep]
  split
  · exact rest
  · exact goto_sound _ rest _ trivial
  · exact goto_sound _ rest _ trivial
  · exact goto_sound _ rest _ trivial

variable (revertTo : BlockWithParent)

theorem read_revert_latest_sound (syncTo : Option Nat) : Sound (system.readRevertLatestStep revertTo syncTo) := by
  rw [System.readRevertLatestStep]
  split
  · exact goto_sound system sound _ trivial
  · split
    · exact goto_sound system sound _ trivial
    · exact goto_sound system sound _ trivial

theorem unwind_sound (syncTo : Option Nat) (lands : LandsOnParent system.store revertTo) : Sound (system.unwindStep revertTo syncTo) := by
  rw [System.unwindStep]
  split
  · exact goto_sound system sound _ trivial
  · next store unwound => exact ⟨unwind_settled system.store sound.settled revertTo lands store unwound, sound.cached, trivial⟩

theorem mark_cached : CachedByNumber (system.syncTarget.markRevertComplete revertTo) := by
  rw [CachedByNumber, mark_cache]
  exact sound.cached

theorem reverted_sound (syncTo : Option Nat) : Sound (system.revertedStep revertTo syncTo) := by
  refine ⟨sound.settled, mark_cached system sound revertTo, ?_⟩
  cases syncTo with
  | none => trivial
  | some target => trivial

theorem read_latest_sound (target : Nat) : Sound (system.readLatestStep target) := by
  rw [System.readLatestStep]
  split
  · exact goto_sound system sound _ trivial
  · next latest recorded =>
      cases recorded
      split
      · exact goto_sound system sound _ trivial
      · exact goto_sound system sound _ ⟨trivial, rfl⟩

theorem take_cached_sound (target : Nat) (batch : List (BatchBlock tree)) (number stop : Nat)
    (numbered : NumberedFrom (system.store.latest.number + 1) (batchEntries batch))
    (position : number = system.store.latest.number + 1 + batch.length) :
    Sound (system.takeCachedStep config target batch number stop) := by
  rw [System.takeCachedStep]
  split
  · exact goto_sound system sound _ numbered
  · have rest : Sound { system with syncTarget := (system.syncTarget.take number).2 } :=
      ⟨sound.settled, take_cached _ sound.cached number, sound.batch⟩
    dsimp only
    split
    · next block hit _ =>
        have own := take_number _ sound.cached number block hit
        refine goto_sound _ rest _ ⟨numbered_snoc _ batch _ numbered (own.trans position), ?_⟩
        rw [List.length_append, List.length_singleton, position, Nat.add_assoc]
    · exact goto_sound _ rest _ ⟨numbered, position⟩
    · exact goto_sound _ rest _ ⟨numbered, position⟩

theorem recover_block_sound (target : Nat) (batch : List (BatchBlock tree)) (number stop : Nat)
    (numbered : NumberedFrom (system.store.latest.number + 1) (batchEntries batch))
    (position : number = system.store.latest.number + 1 + batch.length) : Sound (system.recoverBlockStep target batch number stop) := by
  rw [System.recoverBlockStep]
  split
  · exact goto_sound system sound _ trivial
  · next block recovered =>
      obtain ⟨hash, _, rfl⟩ := Option.map_eq_some_iff.mp recovered
      refine goto_sound system sound _ ⟨numbered_snoc _ batch _ numbered position, ?_⟩
      rw [List.length_append, List.length_singleton, position, Nat.add_assoc]

theorem batch_failed_sound (target : Nat) (error : MorphProofsStorageError) : Sound (system.batchFailed target error) := by
  rw [System.batchFailed]
  split
  · exact goto_sound system sound _ trivial
  · exact goto_sound system sound _ trivial

theorem store_batch_sound (target : Nat) (batch : List (BatchBlock tree)) (failure : Option MorphProofsStorageError)
    (numbered : NumberedFrom (system.store.latest.number + 1) (batchEntries batch)) :
    Sound (system.storeBatchStep target batch failure) := by
  rw [System.storeBatchStep]
  split
  · next earliest latest readEarliest readLatest =>
      cases readEarliest
      cases readLatest
      dsimp only
      split
      · exact batch_failed_sound system sound target _
      · next store committed =>
          refine ⟨?_, sound.cached, trivial⟩
          exact append_all_settled _ system.store sound.settled (session_own _ _ batch failure) (session_numbered _ _ batch failure numbered) store
            (batch_session_ok system.store _ _ store committed)
  · exact batch_failed_sound system sound target _
  · exact batch_failed_sound system sound target _

theorem loop_step_sound (fits : UnwindFits system .sync) : Sound (system.loopStep config) := by
  have batch := sound.batch
  rw [UnwindFits] at fits
  rw [System.loopStep]
  cases point : system.loop with
  | idle => exact take_state_sound system sound
  | readRevertLatest revertTo syncTo => exact read_revert_latest_sound system sound revertTo syncTo
  | unwind revertTo syncTo =>
      rw [point] at fits
      exact unwind_sound system sound revertTo syncTo fits
  | unwound revertTo syncTo => exact goto_sound system sound _ trivial
  | reverted revertTo syncTo => exact reverted_sound system sound revertTo syncTo
  | forward target =>
      dsimp only
      split
      · exact goto_sound system sound _ trivial
      · exact goto_sound system sound _ trivial
  | readLatest target => exact read_latest_sound system sound target
  | takeCached target pending number stop =>
      rw [point] at batch
      exact take_cached_sound config system sound target pending number stop batch.1 batch.2
  | recoverBlock target pending number stop =>
      rw [point] at batch
      exact recover_block_sound system sound target pending number stop batch.1 batch.2
  | storeBatch target pending =>
      rw [point] at batch
      exact store_batch_sound system sound target pending none batch
  | stored target => exact goto_sound system sound _ trivial
  | requeue target => exact ⟨sound.settled, sound.cached, trivial⟩

theorem loop_failure_sound (staged : Nat) (error : MorphProofsStorageError) : Sound (system.loopFailure staged error) := by
  have batch := sound.batch
  rw [System.loopFailure]
  cases point : system.loop with
  | storeBatch target pending =>
      rw [point] at batch
      exact store_batch_sound system sound target _ _ (numbered_take _ staged pending batch)
  | readRevertLatest | unwind | unwound | readLatest | recoverBlock | stored => exact goto_sound system sound _ trivial
  | idle | reverted | forward | takeCached | requeue => exact sound

theorem pruner_step_sound : Sound (system.prunerStep config) := by
  rw [System.prunerStep]
  split
  · split
    · dsimp only
      split
      · exact sound
      · exact ⟨sound.settled, sound.cached, sound.batch⟩
    · exact sound
    · exact sound
  · exact ⟨sound.settled, sound.cached, sound.batch⟩
  · next target newEarliest _ =>
      split
      · exact ⟨sound.settled, sound.cached, sound.batch⟩
      · next store pruned =>
          obtain ⟨settled, latest⟩ := prune_settled system.store sound.settled newEarliest store pruned
          exact ⟨settled, sound.cached, latest.symm ▸ sound.batch⟩

theorem apply_sound (event : SystemEvent tree) (fits : UnwindFits system event) : Sound (system.apply config event) := by
  cases event with
  | chainChange chain => exact ⟨sound.settled, sound.cached, sound.batch⟩
  | handler hasTrieData => exact handler_step_sound system sound hasTrieData
  | sync => exact loop_step_sound config system sound fits
  | syncFailure staged error => exact loop_failure_sound system sound staged error
  | pruner => exact pruner_step_sound config system sound
  | prunerFailure => exact ⟨sound.settled, sound.cached, sound.batch⟩

end Steps

-- A store built on the canonical chain: it holds the canonical blocks above its
-- anchor, up to its latest block.
structure BuiltOn (chain : CanonicalChain tree) (history : History) : Prop where
  anchored : history.anchor ≤ history.earliest.number
  window : history.earliest.number ≤ history.latest.number
  length : history.latest.number = history.anchor + history.stored.length
  earliest : chain.blockHash history.earliest.number = some history.earliest.hash
  latest : chain.blockHash history.latest.number = some history.latest.hash
  blocks : history.stored =
    (blocksFrom (history.anchor + 1) ((chain.hashes.drop (history.anchor + 1)).take history.stored.length)).map (@ChainBlock.entry tree)

theorem blocks_from_hashes (number : Nat) (hashes : List B256) :
    ((blocksFrom number hashes).map (@ChainBlock.entry tree)).map (fun block => block.1.block.hash) = hashes := by
  induction hashes generalizing number with
  | nil => rfl
  | cons hash rest ih => exact congrArg (List.cons hash) (ih (number + 1))

section BuiltOn

variable (chain : CanonicalChain tree) (history : History) (built : BuiltOn chain history)

include built

theorem built_hashes :
    history.stored.map (fun block => block.1.block.hash) = (chain.hashes.drop (history.anchor + 1)).take history.stored.length := by
  conv_lhs => rw [built.blocks]
  exact blocks_from_hashes _ _

theorem built_settled : Settled tree history := by
  have hashes := built_hashes chain history built
  refine ⟨built.anchored, built.window, built.length, fun block member => ?_, ?_, fun above => ?_⟩
  · have stored : block ∈ history.stored := List.mem_of_mem_drop member
    rw [built.blocks] at stored
    obtain ⟨source, _, rfl⟩ := List.mem_map.mp stored
    exact entry_own source
  · rw [retainedHashes, retained, List.map_drop, hashes]
    exact linked_drop _ _ (linked_take _ _ (linked_drop _ _ chain.linked _) _) _
  · have anchored := built.anchored
    have length := built.length
    have position : history.anchor + 1 + (history.latest.number - history.anchor - 1) = history.latest.number := by omega
    rw [storedHash, storedBlock, ← List.getElem?_map, hashes, List.getElem?_take_of_lt (by omega), List.getElem?_drop, position]
    exact built.latest

theorem start_sound : Sound (System.start chain history) :=
  ⟨built_settled chain history built, fun _ member => (by cases member), trivial⟩

end BuiltOn

theorem anchored_window_canonical (config : ExExConfig) (chain : CanonicalChain tree) (history : History) (built : BuiltOn chain history)
    (events : List (SystemEvent tree)) (fits : EachAllowed (System.apply config) UnwindFits (System.start chain history) events)
    (anchor : (runSteps (System.apply config) (System.start chain history) events).canonicalAnchor = .ok ()) (number : Nat)
    (above : (runSteps (System.apply config) (System.start chain history) events).store.earliest.number < number)
    (within : number ≤ (runSteps (System.apply config) (System.start chain history) events).store.latest.number) :
    ∃ hash, (runSteps (System.apply config) (System.start chain history) events).chain.blockHash number = some hash ∧
      (storedBlock (runSteps (System.apply config) (System.start chain history) events).store number).map Prod.snd =
        some (tree hash).diff := by
  have sound := run_invariant (System.apply config) UnwindFits Sound (fun system event sound fits => apply_sound config system sound event fits)
    (System.start chain history) events (start_sound chain history built) fits
  exact settled_canonical _ sound.settled _ ((canonical_anchor_ok _ _ rfl).mp anchor) number above within

section Sample

-- Two branches above genesis 0x10, the second with two blocks of number three.
def sampleParents : List (B256 × B256) :=
  [(0xA1, 0x10), (0xA2, 0xA1), (0xA3, 0xA2), (0xB1, 0x10), (0xB2, 0xB1), (0xB3, 0xB2), (0xC3, 0xB2), (0xD3, 0xA2)]

def sampleTree : BlockTree := fun hash =>
  { parent := (sampleParents.lookup hash).getD 0
    diff := ⟨Table.empty, Table.empty, Table.empty.put hash none, Table.empty⟩ }

def chainA : CanonicalChain sampleTree where
  hashes := [0x10, 0xA1, 0xA2, 0xA3]
  nonempty := by decide
  linked := by unfold Linked; decide

def chainB : CanonicalChain sampleTree where
  hashes := [0x10, 0xB1, 0xB2, 0xB3]
  nonempty := by decide
  linked := by unfold Linked; decide

def chainC : CanonicalChain sampleTree where
  hashes := [0x10, 0xB1, 0xB2, 0xC3]
  nonempty := by decide
  linked := by unfold Linked; decide

def chainD : CanonicalChain sampleTree where
  hashes := [0x10, 0xA1, 0xA2, 0xD3]
  nonempty := by decide
  linked := by unfold Linked; decide

def sampleHistory : History where
  anchor := 1
  initial := ⟨fun _ => none, fun _ => none, fun _ => none, fun _ => none⟩
  stored := [(@ChainBlock.of sampleTree 2 0xA2).entry, (@ChainBlock.of sampleTree 3 0xA3).entry]
  earliest := ⟨1, 0xA1⟩
  latest := ⟨3, 0xA3⟩

def sampleConfig : ExExConfig where
  proofsHistoryWindow := 604800
  verificationInterval := 0

theorem sample_built : BuiltOn chainA sampleHistory :=
  ⟨by decide, by decide, by decide, by decide, by decide, rfl⟩

-- The reorg from genesis reaches below the earliest block and is refused. The
-- next one only replaces block three of the new branch.
def refusedEvents : List (SystemEvent sampleTree) :=
  [.handler true, .chainChange chainB] ++ List.replicate 5 (.handler true) ++ List.replicate 3 .sync ++
    [.chainChange chainC] ++ List.replicate 3 (.handler true) ++ List.replicate 10 .sync

-- The reorg replaces block three, which the store has.
def acceptedEvents : List (SystemEvent sampleTree) :=
  [.handler true, .chainChange chainD] ++ List.replicate 3 (.handler true) ++ List.replicate 10 .sync

def sampleRun (history : History) (events : List (SystemEvent sampleTree)) : System History sampleTree :=
  runSteps (System.apply sampleConfig) (System.start chainA history) events

-- The store serves again at the tip, and what it serves for block two is the
-- diff of the abandoned branch.
theorem refused_revert_serves_abandoned_block :
    BuiltOn chainA sampleHistory ∧
      (sampleRun sampleHistory refusedEvents).canonicalAnchor = .ok () ∧
      (sampleRun sampleHistory refusedEvents).store.earliest.number < 2 ∧
      2 ≤ (sampleRun sampleHistory refusedEvents).store.latest.number ∧
      (sampleRun sampleHistory refusedEvents).chain.blockHash 2 = some 0xB2 ∧
      (storedBlock (sampleRun sampleHistory refusedEvents).store 2).map Prod.snd ≠
        some (sampleTree 0xB2).diff := by
  refine ⟨sample_built, by decide +kernel, by decide +kernel, by decide +kernel, by decide +kernel, fun same => ?_⟩
  have keys := congrArg (Option.map (fun diff => diff.accounts.rows.map Prod.fst)) same
  revert keys
  decide +kernel

theorem anchored_window_canonical_sample :
    (sampleRun sampleHistory acceptedEvents).store.latest = ⟨3, 0xD3⟩ ∧
      ∃ hash, (sampleRun sampleHistory acceptedEvents).chain.blockHash 3 = some hash ∧
        (storedBlock (sampleRun sampleHistory acceptedEvents).store 3).map Prod.snd =
          some (sampleTree hash).diff :=
  ⟨by decide +kernel, anchored_window_canonical sampleConfig chainA sampleHistory sample_built acceptedEvents (by decide +kernel)
    (by decide +kernel) 3 (by decide +kernel) (by decide +kernel)⟩

end Sample

end MorphReth.ProofsExEx
