import MorphReth.Eventually
import MorphReth.ReferenceIndex.Rebuild

set_option autoImplicit false

namespace MorphReth.ReferenceIndex

variable {tree : BlockTree}

structure Following (system : System tree) (cursor : Nat) : Prop where
  stored : system.db.indexedTo = some cursor
  inside : cursor ≤ system.chain.head.number
  canonical : system.chain.canonicalHash cursor = system.db.indexedBlockHash cursor

-- A turn that did its work: the index follows the chain, and is at its head or
-- has taken a whole batch from the given block on.
structure Advanced (first : Nat) (system : System tree) : Prop where
  idle : system.point = .idle
  succeeded : system.result = some (.ok ())
  installed : system.installed = true
  cursor : ∃ cursor, Following system cursor ∧
    (system.phase = .live ∧ cursor = system.chain.head.number ∨
      system.phase = .backfill ∧ first + defaultBackfillBatchBlocks ≤ cursor + 1)

section Batches

variable (chain : CanonicalChain tree)

theorem canonical_block_at (number : Nat) (inside : number < chain.hashes.length) :
    ∃ hash, chain.canonicalHash number = some hash ∧ chain.canonicalBlock number = some (blockOf tree number hash) := by
  refine ⟨chain.hashes[number], List.getElem?_eq_getElem inside, ?_⟩
  rw [CanonicalChain.canonicalBlock, CanonicalChain.canonicalHash, List.getElem?_eq_getElem inside]
  rfl

theorem canonical_range_cons (start count : Nat) (inside : start + count < chain.hashes.length) :
    ∃ hash, chain.canonicalHash start = some hash ∧ (List.range' start (count + 1)).filterMap chain.canonicalBlock =
      blockOf tree start hash :: (List.range' (start + 1) count).filterMap chain.canonicalBlock := by
  obtain ⟨hash, present, block⟩ := canonical_block_at chain start (by omega)
  exact ⟨hash, present, by rw [List.range'_succ, List.filterMap_cons_some block]⟩

theorem canonical_range_length (start count : Nat) (inside : start + count ≤ chain.hashes.length) :
    ((List.range' start count).filterMap chain.canonicalBlock).length = count := by
  induction count generalizing start with
  | zero => rfl
  | succ count ih =>
      obtain ⟨hash, _, blocks⟩ := canonical_range_cons chain start count (by omega)
      rw [blocks, List.length_cons, ih (start + 1) (by omega)]

theorem canonical_range_contiguous (start count : Nat) (inside : start + count ≤ chain.hashes.length) :
    checkContiguous start ((List.range' start count).filterMap chain.canonicalBlock) = .ok () := by
  induction count generalizing start with
  | zero => rfl
  | succ count ih =>
      obtain ⟨hash, _, blocks⟩ := canonical_range_cons chain start count (by omega)
      rw [blocks, checkContiguous]
      simp only [blockOf, ne_eq, not_true_eq_false, if_false]
      exact ih (start + 1) (by omega)

theorem last_canonical_block (start stop : Nat) (ordered : start ≤ stop) (inside : stop < chain.hashes.length) :
    ∃ hash, chain.canonicalHash stop = some hash ∧ (chain.canonicalBlocks start stop).getLast? = some (blockOf tree stop hash) := by
  obtain ⟨hash, present, block⟩ := canonical_block_at chain stop inside
  refine ⟨hash, present, ?_⟩
  rw [CanonicalChain.canonicalBlocks, show stop + 1 - start = stop - start + 1 by omega, List.range'_1_concat, List.filterMap_append,
    show start + (stop - start) = stop by omega, List.filterMap_cons_some block, List.filterMap_nil, List.getLast?_append,
    List.getLast?_singleton, Option.some_or]

end Batches

section Batch

variable (config : ReferenceIndexConfig) (system : System tree) (first start stop : Nat) (ordered : start ≤ stop)
  (inside : stop ≤ system.chain.head.number) (far : stop = system.chain.head.number ∨ first + defaultBackfillBatchBlocks ≤ stop + 1)
  (phase : system.phase = .backfill) (installed : system.installed = true)

include ordered inside far phase installed

theorem current_head_advances (following : Following system stop)
    (here : system.point = .readCurrentHead stop (system.chain.canonicalBlocks start stop)) :
    Eventually (System.step config) (Advanced first) system := by
  apply eventually_step
  apply eventually_now
  have length := chain_length system.chain
  obtain ⟨hash, present, last⟩ := last_canonical_block system.chain start stop ordered (by omega)
  simp only [System.step, here, System.readCurrentHeadStep, last, Option.any_some, decide_eq_true_eq]
  split
  · next atHead => exact ⟨rfl, rfl, installed, stop, ⟨following.stored, following.inside, following.canonical⟩, .inl ⟨rfl, atHead.1⟩⟩
  · next behind =>
      refine ⟨rfl, rfl, installed, stop, ⟨following.stored, following.inside, following.canonical⟩, .inr ⟨phase, ?_⟩⟩
      rcases far with atHead | beyond
      · have same : system.chain.head.hash = hash := by
          have head := head_present system.chain
          rw [← atHead] at head
          exact Option.some.inj (head.symm.trans present)
        exact absurd ⟨atHead, same.symm⟩ behind
      · exact beyond

theorem commit_advances (turn : TurnContext) (lowest : Nat) (jade : turn.jadeFirstBlock = system.chain.jadeStart config.jadeTimestamp)
    (continues : Continues config.jadeTimestamp system.db system.chain lowest start)
    (here : system.point = .commitBatch turn start stop (system.chain.canonicalBlocks start stop)) :
    Eventually (System.step config) (Advanced first) system := by
  apply eventually_step
  have length := chain_length system.chain
  obtain ⟨hash, present, last⟩ := last_canonical_block system.chain start stop ordered (by omega)
  have contiguous := canonical_range_contiguous system.chain start (stop + 1 - start) (by omega)
  rw [← CanonicalChain.canonicalBlocks] at contiguous
  obtain ⟨after, committed⟩ : ∃ after, commitCanonicalBatch system.db (system.chain.jadeStart config.jadeTimestamp) start
      (system.chain.canonicalBlocks start stop) turn.finalized = .ok after := by
    rw [commitCanonicalBatch, last]
    exact ⟨_, (bind_ok _ _ _).mpr ⟨(), contiguous, rfl⟩⟩
  obtain ⟨raised, _, indexed⟩ := commit_indexes config.jadeTimestamp system.db after.1 after.2 system.chain lowest start stop turn.finalized
    continues ordered (by omega) committed
  have headNumber := truncate_head system.chain stop (by omega)
  have cursor := indexed.cursor
  have breadcrumb := indexed_head _ raised after.1 _ indexed
  have headHash : system.chain.canonicalHash stop = some (system.chain.truncate stop).head.hash := by
    have head := head_present (system.chain.truncate stop)
    rw [headNumber] at head
    rw [← head, CanonicalChain.canonicalHash]
    exact (List.getElem?_take_of_lt (Nat.lt_succ_self stop)).symm
  rw [headNumber] at cursor breadcrumb
  simp only [System.step, here, System.commitBatchStep, jade, committed]
  exact current_head_advances config _ first start stop ordered inside far phase installed
    ⟨cursor, inside, headHash.trans breadcrumb.symm⟩ rfl

theorem verify_advances (turn : TurnContext) (lowest : Nat) (jade : turn.jadeFirstBlock = system.chain.jadeStart config.jadeTimestamp)
    (continues : Continues config.jadeTimestamp system.db system.chain lowest start) (number remaining : Nat) (started : start ≤ number)
    (ends : number + remaining = stop + 1) (here : system.point = .verifyBatch turn start stop (system.chain.canonicalBlocks start stop)
      ((List.range' number remaining).filterMap system.chain.canonicalBlock)) :
    Eventually (System.step config) (Advanced first) system := by
  induction remaining generalizing system number with
  | zero =>
      apply eventually_step
      simp only [System.step, here, List.range'_zero, List.filterMap_nil, System.verifyBatchStep]
      exact commit_advances config _ first start stop ordered inside far phase installed turn lowest jade continues rfl
  | succ remaining ih =>
      apply eventually_step
      have length := chain_length system.chain
      obtain ⟨hash, present, blocks⟩ := canonical_range_cons system.chain number remaining (by omega)
      have whole : (system.chain.canonicalBlocks start stop).length = stop + 1 - start :=
        canonical_range_length system.chain start (stop + 1 - start) (by omega)
      have rest := canonical_range_length system.chain (number + 1) remaining (by omega)
      have expected : start + (stop + 1 - start - (remaining + 1)) = number := by omega
      rw [blocks] at here
      simp only [System.step, here, System.verifyBatchStep, whole, rest, expected, blockOf, present, ne_eq, not_true_eq_false, or_self,
        if_false]
      exact ih _ inside far phase installed jade continues (number + 1) (by omega) (by omega) rfl

end Batch

section Turn

variable (config : ReferenceIndexConfig) (system : System tree)

-- The turn runs undisturbed, on the chain whose head it has read.
structure Undisturbed (config : ReferenceIndexConfig) (system : System tree) : Prop where
  sound : Sound config system
  agrees : TurnOk config system
  reached : config.jadeTimestamp ≤ system.chain.head.timestamp

theorem undisturbed_step (undisturbed : Undisturbed config system) : Undisturbed config (system.step config) := by
  refine ⟨sound_step config system undisturbed.sound, turn_ok_step config system undisturbed.agrees undisturbed.sound, ?_⟩
  rw [(step_keeps_chain config system).1]
  exact undisturbed.reached

theorem jade_started (reached : config.jadeTimestamp ≤ system.chain.head.timestamp) :
    system.chain.jadeStart config.jadeTimestamp ≤ system.chain.head.number := by
  apply jade_start_at_most system.chain config.jadeTimestamp _ system.chain.head.timestamp _ reached
  rw [CanonicalChain.blockTimestamp, CanonicalChain.canonicalHash, head_present]
  rfl

theorem cursor_at_head (turn : TurnContext) (fits : BatchFits config system turn)
    (content : OneBranch tree config.jadeTimestamp system.db) (jade : turn.jadeFirstBlock ≤ system.chain.head.number)
    (beyond : system.chain.head.number < batchStart system.db turn) : Following system system.chain.head.number := by
  cases stored : system.db.indexedTo with
  | none =>
      rw [batchStart, stored] at beyond
      exact absurd beyond (Nat.not_lt.mpr jade)
  | some cursor =>
      rw [batchStart, stored, Option.elim_some] at beyond
      simp only [BatchFits, stored] at fits
      obtain ⟨branch, lowest, indexed, rfl⟩ := cursor_content _ cursor system.db content stored
      have breadcrumb := indexed_head _ lowest system.db branch indexed
      have bound := (List.getElem?_eq_some_iff.mp (fits.trans breadcrumb)).1
      rw [chain_length] at bound
      have same : branch.head.number = system.chain.head.number := by omega
      rw [same] at stored fits
      exact ⟨stored, Nat.le_refl _, fits⟩

theorem read_batch_advances (first : Nat) (undisturbed : Undisturbed config system) (turn : TurnContext)
    (head : turn.head = system.chain.head) (here : system.point = .readBatch turn) (later : first ≤ batchStart system.db turn) :
    Eventually (System.step config) (Advanced first) system := by
  have fits := undisturbed.sound.steady.point
  have recorded := undisturbed.sound.steady.safe.point
  rw [here] at fits recorded
  obtain ⟨lowest, jade, continues⟩ := continues_of_fits config system undisturbed.sound.steady.safe turn recorded fits
  have started := jade_started config system undisturbed.reached
  have installed := undisturbed.sound.running (by rw [here]; nofun)
  apply eventually_step
  simp only [System.step, here, System.readBatchStep]
  split
  · next beyond =>
      rw [head] at beyond
      have following := cursor_at_head config system turn fits undisturbed.sound.steady.safe.content (jade ▸ started) beyond
      exact eventually_now _ _ _ ⟨rfl, rfl, installed, _, ⟨following.stored, following.inside, following.canonical⟩, .inl ⟨rfl, rfl⟩⟩
  · next more =>
      rw [head] at more ⊢
      generalize stopEq : min (batchStart system.db turn + (defaultBackfillBatchBlocks - 1)) system.chain.head.number = stop
      have length := chain_length system.chain
      have batch : defaultBackfillBatchBlocks = 512 := rfl
      have whole : (system.chain.canonicalBlocks (batchStart system.db turn) stop).length = stop - batchStart system.db turn + 1 := by
        rw [CanonicalChain.canonicalBlocks, canonical_range_length system.chain _ _ (by omega)]
        omega
      rw [if_neg (not_not.mpr whole)]
      exact verify_advances config _ first (batchStart system.db turn) stop (by omega) (by change stop ≤ system.chain.head.number; omega)
        (by change stop = system.chain.head.number ∨ _; omega) rfl installed turn lowest jade continues (batchStart system.db turn)
        (stop + 1 - batchStart system.db turn) (Nat.le_refl _) (by omega) rfl

-- Rolling back ends at the ancestor, from where the batch is read.
theorem rollback_advances (undisturbed : Undisturbed config system) (turn : TurnContext) (ancestor : Nat)
    (head : turn.head = system.chain.head) (here : system.point = .rollback turn ancestor) :
    Eventually (System.step config) (Advanced 0) system := by
  apply eventually_by_measure (System.step config) (Advanced 0)
    (fun reached => Undisturbed config reached ∧ reached.point = .rollback turn ancestor ∧ turn.head = reached.chain.head)
    (fun reached => reached.db.indexedTo.elim 0 id) _ system ⟨undisturbed, here, head⟩
  intro reached current
  obtain ⟨running, point, sameHead⟩ := current
  have next := undisturbed_step config reached running
  have chain := (step_keeps_chain config reached).1
  cases rolled : rollbackBatch reached.db (some ancestor) defaultBackfillBatchBlocks with
  | none =>
      left
      apply read_batch_advances config _ 0 next turn (by rw [chain]; exact sameHead) _ (Nat.zero_le _)
      simp only [System.step, point, System.rollbackStep, rolled, System.goto]
  | some db =>
      right
      have stepped : reached.step config = { reached with db := db } := by
        simp only [System.step, point, System.rollbackStep, rolled]
      refine ⟨⟨next, ?_, by rw [chain]; exact sameHead⟩, ?_⟩
      · rw [stepped]
        exact point
      · cases stored : reached.db.indexedTo with
        | none =>
            rw [rollbackBatch, stored] at rolled
            cases rolled
        | some cursor =>
            obtain ⟨tip, _, lower, result⟩ := rollback_batch_cases reached.db db ancestor _ cursor stored rolled
            rw [stepped]
            simp only [result, Option.elim_some, id]
            exact lower

-- A turn on a state that needs no rebuild never ends in an error that asks
-- for one.
theorem no_rebuild_error (undisturbed : Undisturbed config system) (error : ReferenceIndexError)
    (failed : system.step config = system.finishError error) (unrepairable : error.requiresManualRebuild = true) : False := by
  have clean := (undisturbed_step config system undisturbed).agrees.result error
  rw [failed] at clean
  cases (clean rfl).symm.trans unrepairable

theorem rewind_floor_below (undisturbed : Undisturbed config system) (turn : TurnContext) (rewindFloor number : Nat)
    (here : system.point = .findAncestor turn rewindFloor number) : rewindFloor ≤ number := by
  have point := undisturbed.agrees.point
  rw [here] at point
  obtain ⟨_, ⟨cursor, stored⟩, within⟩ := point
  obtain ⟨branch, lowest, indexed, _⟩ := cursor_content _ cursor system.db undisturbed.sound.steady.safe.content stored
  exact (within branch lowest indexed).2.1

theorem find_ancestor_advances (undisturbed : Undisturbed config system) (turn : TurnContext) (rewindFloor number : Nat)
    (head : turn.head = system.chain.head) (here : system.point = .findAncestor turn rewindFloor number) :
    Eventually (System.step config) (Advanced 0) system := by
  induction number using Nat.strongRecOn generalizing system with
  | ind number ih =>
      have next := undisturbed_step config system undisturbed
      have chain := (step_keeps_chain config system).1
      have above := rewind_floor_below config system undisturbed turn rewindFloor number here
      apply eventually_step
      have stepped : system.step config = system.findAncestorStep turn rewindFloor number := by simp only [System.step, here]
      cases stored : system.db.indexedBlockHash number with
      | none =>
          simp only [System.findAncestorStep, stored] at stepped
          exact False.elim (no_rebuild_error config system undisturbed _ stepped rfl)
      | some indexedHash =>
          simp only [System.findAncestorStep, stored] at stepped
          by_cases canonical : system.chain.canonicalHash number = some indexedHash
          · rw [if_pos canonical] at stepped
            exact rollback_advances config _ next turn number (by rw [chain]; exact head) (by rw [stepped]; rfl)
          · rw [if_neg canonical] at stepped
            by_cases atFloor : number = rewindFloor
            · rw [if_pos atFloor] at stepped
              exact False.elim (no_rebuild_error config system undisturbed _ stepped rfl)
            · rw [if_neg atFloor] at stepped
              exact ih (number - 1) (by omega) _ next (by rw [chain]; exact head) (by rw [stepped]; rfl)

-- Where the index stands before a turn reads its batch: anywhere, or at a
-- block of the canonical chain from which it goes on.
def Ahead (first : Nat) (system : System tree) : Prop :=
  first = 0 ∨ ∃ cursor, Following system cursor ∧ first ≤ cursor + 1

theorem ahead_same (first : Nat) (after : System tree) (chain : after.chain = system.chain)
    (cursor : after.db.indexedTo = system.db.indexedTo) (blocks : after.db.indexedBlocks = system.db.indexedBlocks)
    (ahead : Ahead first system) : Ahead first after := by
  refine ahead.imp id (fun found => ?_)
  obtain ⟨number, following, atMost⟩ := found
  refine ⟨number, ⟨cursor.trans following.stored, ?_, ?_⟩, atMost⟩
  · rw [chain]
    exact following.inside
  · rw [chain, ReferenceIndexDb.indexedBlockHash, blocks]
    exact following.canonical

theorem ahead_goto (first : Nat) (point : SyncPoint) (ahead : Ahead first system) : Ahead first (system.goto point) :=
  ahead_same system first _ rfl rfl rfl ahead

variable (first : Nat) (undisturbed : Undisturbed config system) (ahead : Ahead first system)

include undisturbed ahead

theorem reconcile_advances (turn : TurnContext) (head : turn.head = system.chain.head) (here : system.point = .reconcile turn) :
    Eventually (System.step config) (Advanced first) system := by
  have next := undisturbed_step config system undisturbed
  have chain := (step_keeps_chain config system).1
  apply eventually_step
  have stepped : system.step config = system.reconcileStep turn := by simp only [System.step, here]
  cases stored : system.db.indexedTo with
  | none =>
      simp only [System.reconcileStep, stored] at stepped
      rcases ahead with rfl | ⟨cursor, following, _⟩
      · exact read_batch_advances config _ 0 next turn (by rw [chain]; exact head) (by rw [stepped]; rfl) (Nat.zero_le _)
      · cases stored.symm.trans following.stored
  | some cursor =>
      have later : first ≤ batchStart system.db turn := by
        rw [batchStart, stored, Option.elim_some]
        rcases ahead with rfl | ⟨other, following, atMost⟩
        · exact Nat.zero_le _
        · cases stored.symm.trans following.stored
          exact atMost
      simp only [System.reconcileStep, stored, head] at stepped
      cases breadcrumb : system.db.indexedBlockHash (min cursor system.chain.head.number) with
      | none =>
          simp only [breadcrumb] at stepped
          exact False.elim (no_rebuild_error config system undisturbed _ stepped rfl)
      | some indexedHash =>
          simp only [breadcrumb] at stepped
          by_cases atHead : cursor = system.chain.head.number ∧ indexedHash = system.chain.head.hash
          · rw [if_pos atHead] at stepped
            exact read_batch_advances config _ first next turn (by rw [chain]; exact head) (by rw [stepped]; rfl) (by rw [stepped]; exact later)
          · rw [if_neg atHead] at stepped
            by_cases below : cursor < system.chain.head.number ∧ system.chain.canonicalHash cursor = some indexedHash
            · rw [if_pos below] at stepped
              exact read_batch_advances config _ first next turn (by rw [chain]; exact head) (by rw [stepped]; rfl)
                (by rw [stepped]; exact later)
            · rw [if_neg below] at stepped
              rcases ahead with rfl | ⟨other, following, _⟩
              · exact find_ancestor_advances config _ next turn _ _ (by rw [chain]; exact head) (by rw [stepped])
              · cases stored.symm.trans following.stored
                rw [Nat.min_eq_left following.inside] at breadcrumb
                have canonical := following.canonical.trans breadcrumb
                rcases Nat.eq_or_lt_of_le following.inside with same | lower
                · rw [same] at canonical
                  exact absurd ⟨same, Option.some.inj (canonical.symm.trans (head_present system.chain))⟩ atHead
                · exact absurd ⟨lower, canonical⟩ below

theorem finalized_advances (jadeFirstBlock : Nat) (here : system.point = .readFinalized system.chain.head jadeFirstBlock) :
    Eventually (System.step config) (Advanced first) system := by
  have next := undisturbed_step config system undisturbed
  have stepped : system.step config = system.goto (.reconcile ⟨system.chain.head, jadeFirstBlock, system.finalized⟩) := by
    simp only [System.step, here]
  apply eventually_step
  rw [stepped] at next ⊢
  exact reconcile_advances config _ first next (ahead_goto system first _ ahead) _ rfl rfl

theorem resolve_jade_advances (low high : Nat) (here : system.point = .resolveJade system.chain.head low high) :
    Eventually (System.step config) (Advanced first) system := by
  induction size : high - low using Nat.strongRecOn generalizing system low high with
  | ind size ih =>
      have next := undisturbed_step config system undisturbed
      have within := undisturbed.sound.steady.point
      rw [here] at within
      obtain ⟨_, _, _, inside⟩ := within
      have stepped : system.step config = system.resolveJadeStep config system.chain.head low high := by simp only [System.step, here]
      apply eventually_step
      by_cases more : low < high
      · simp only [System.resolveJadeStep, if_pos more] at stepped
        have length := chain_length system.chain
        have present : system.chain.blockTimestamp (low + (high - low) / 2) =
            some (tree (system.chain.hashes.get ⟨low + (high - low) / 2, by omega⟩)).timestamp := by
          rw [CanonicalChain.blockTimestamp, CanonicalChain.canonicalHash, List.getElem?_eq_getElem (by omega)]
          rfl
        simp only [present] at stepped
        split at stepped
        · rw [stepped] at next ⊢
          exact ih (high - (low + (high - low) / 2 + 1)) (by omega) _ next (ahead_goto system first _ ahead) _ _ rfl rfl
        · rw [stepped] at next ⊢
          exact ih (low + (high - low) / 2 - low) (by omega) _ next (ahead_goto system first _ ahead) _ _ rfl rfl
      · simp only [System.resolveJadeStep, if_neg more] at stepped
        rw [stepped] at next ⊢
        exact finalized_advances config _ first next (ahead_goto system first _ ahead) low rfl

theorem read_head_advances (here : system.point = .readHead false) : Eventually (System.step config) (Advanced first) system := by
  have next := undisturbed_step config system undisturbed
  have stepped : system.step config = system.readHeadStep config false := by simp only [System.step, here]
  apply eventually_step
  simp only [System.readHeadStep, if_neg (Nat.not_lt.mpr undisturbed.reached), Bool.false_eq_true, if_false] at stepped
  split at stepped
  · next block _ =>
      rw [stepped] at next ⊢
      exact finalized_advances config _ first next (ahead_goto system first _ ahead) block rfl
  · rw [stepped] at next ⊢
    exact resolve_jade_advances config _ first next (ahead_goto system first _ ahead) 0 _ rfl

omit undisturbed ahead

theorem open_keeps_index (defer : Bool) :
    (system.openDb config defer).db.indexedTo = system.db.indexedTo ∧
      (system.openDb config defer).db.indexedBlocks = system.db.indexedBlocks := by
  rw [System.openDb]
  split
  · exact ⟨rfl, rfl⟩
  · split
    · exact ⟨rfl, rfl⟩
    · next db opened =>
        cases validate_identity_cases _ _ _ _ opened with
        | inl same =>
            rw [same]
            exact ⟨rfl, rfl⟩
        | inr initialised =>
            rw [initialised]
            exact ⟨rfl, rfl⟩

theorem turn_advances (first : Nat) (sound : Sound config system) (idle : system.point = .idle) (agrees : AgreesAtFloor config system)
    (reached : config.jadeTimestamp ≤ system.chain.head.timestamp) (ahead : Ahead first system) :
    Eventually (System.step config) (Advanced first) (system.apply config (.beginTurn false)) := by
  have begun := turn_ok_begin config system false sound idle (fun _ _ => agrees)
  have kept := sound_apply config system sound (.beginTurn false) trivial
  obtain ⟨db, opened, _⟩ := open_cases config _ (sound_cleared config system sound) false
  have sameIndex := open_keeps_index config { system with result := none } false
  rw [System.apply, if_pos idle] at begun kept ⊢
  have sameChain := (open_keeps_chain config { system with result := none } false).1
  refine read_head_advances config _ first ⟨kept, begun, ?_⟩ (ahead_same system first _ sameChain sameIndex.1 sameIndex.2 ahead) ?_
  · rw [sameChain]
    exact reached
  · rw [opened]

theorem following_agrees (cursor : Nat) (following : Following system cursor) : AgreesAtFloor config system := by
  intro branch lowest indexed
  cases following.stored.symm.trans indexed.cursor
  have holds := following.canonical.trans (indexed_head _ lowest system.db branch indexed)
  have above := indexed.above
  have below := indexed.below
  have inside := following.inside
  refine ⟨by omega, ?_⟩
  have floor : rewindFloorOf (branch.jadeStart config.jadeTimestamp) system.finalized (min branch.head.number system.chain.head.number) ≤
      branch.head.number := Nat.le_trans (Nat.min_le_right _ _) (Nat.min_le_left _ _)
  rw [CanonicalChain.canonicalHash, CanonicalChain.canonicalHash, branch_taken branch system.chain holds]
  exact (List.getElem?_take_of_lt (Nat.lt_succ_of_le floor)).symm

end Turn

end MorphReth.ReferenceIndex
