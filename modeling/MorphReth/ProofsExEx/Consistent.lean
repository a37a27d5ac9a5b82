import MorphReth.ProofsExEx.Outstanding

set_option autoImplicit false

namespace MorphReth.ProofsExEx

open Proofs

variable {tree : BlockTree}

section Feed

variable (chain : CanonicalChain tree)

-- What has arrived but has not reached the loop.
structure FeedFits (notifications : List (ExExNotification tree)) (handler : HandlerPoint tree) (target : SyncTarget tree) : Prop where
  queue : QueueFits chain notifications
  blocks : ∀ block ∈ handler.blocks, CanonicalUnless chain (queuedReverts notifications) block.blockWithParent.block
  handed : ∀ revertTo ∈ handler.state.bind SyncTargetState.revertTo, ParentCanonical chain (queuedReverts notifications) revertTo
  byNumber : CachedByNumber target
  cached : ∀ row ∈ target.cache.rows, CanonicalUnless chain (queuedReverts notifications) row.2.blockWithParent.block
  pending : ∀ revertTo ∈ target.state.bind SyncTargetState.revertTo, ParentCanonical chain (handedReverts handler notifications) revertTo

-- What the loop works on, and the tip of the store.
structure LoopFits (reverts : List BlockWithParent) (latest : NumHash) (point : SyncPoint tree) : Prop where
  executing : ∀ revertTo ∈ point.executing, ParentCanonical chain reverts revertTo
  completed : ∀ revertTo ∈ point.completed, latest.number < revertTo.block.number
  batch : ∀ entry ∈ point.batch, CanonicalUnless chain reverts entry.block.blockWithParent.block
  numbered : BatchFits latest.number point
  latest : CanonicalUnless chain (point.executing ++ reverts) latest

end Feed

-- Everything the system holds is canonical unless an outstanding revert is about
-- to remove it.
structure Consistent (system : System History tree) : Prop where
  window : system.store.earliest.number ≤ system.store.latest.number
  feed : FeedFits system.chain system.notifications system.handler system.syncTarget
  loop : LoopFits system.chain system.waitingReverts system.store.latest system.loop

theorem chain_change_consistent (config : ExExConfig) (system : System History tree) (consistent : Consistent system)
    (after : CanonicalChain tree) : Consistent (system.apply config (.chainChange after)) := by
  obtain ⟨window, feed, loop⟩ := consistent
  have handed : handedReverts system.handler (system.notifications ++ (system.chain.notification after).toList) =
      handedReverts system.handler system.notifications ++ queuedReverts (system.chain.notification after).toList := by
    simp [handedReverts, queued_append]
  have waiting : (system.apply config (.chainChange after)).waitingReverts =
      system.waitingReverts ++ queuedReverts (system.chain.notification after).toList := by
    simp [System.waitingReverts, System.apply, handed]
  refine ⟨window, ⟨?_, ?_, ?_, feed.byNumber, ?_, ?_⟩, ?_⟩
  · exact queue_fits_changed system.chain after system.notifications feed.queue
  · intro block member
    simp only [System.apply, queued_append]
    exact canonical_unless_changed system.chain after _ _ (feed.blocks block member)
  · intro revertTo member
    simp only [System.apply, queued_append]
    exact parent_canonical_changed system.chain after _ revertTo (feed.handed revertTo member)
  · intro row member
    simp only [System.apply, queued_append]
    exact canonical_unless_changed system.chain after _ _ (feed.cached row member)
  · intro revertTo member
    simp only [System.apply, handed]
    exact parent_canonical_changed system.chain after _ revertTo (feed.pending revertTo member)
  · rw [waiting]
    refine ⟨?_, loop.completed, ?_, loop.numbered, ?_⟩
    · exact fun revertTo member => parent_canonical_changed system.chain after _ revertTo (loop.executing revertTo member)
    · exact fun entry member => canonical_unless_changed system.chain after _ _ (loop.batch entry member)
    · rw [← List.append_assoc]
      exact canonical_unless_changed system.chain after _ _ loop.latest

-- A notification that is handled leaves the queue; the cache loses the blocks
-- that it removes from the chain.
theorem handle_notification_cases {σ : Type} (system : System σ tree) (notification : ExExNotification tree) :
    (system.handleNotification notification).handler = .stopped ∨
      ∃ target, system.handleNotification notification =
          { system with syncTarget := target, handler := .caching notification.newBlocks notification.state } ∧
        target.state = system.syncTarget.state ∧
        ∀ row ∈ target.cache.rows, row ∈ system.syncTarget.cache.rows ∧ ∀ revertTo ∈ notification.state.revertTo, row.1 < revertTo.block.number := by
  have cleared (revertTo : BlockWithParent) (row : Nat × ChainBlock tree)
      (member : row ∈ (system.syncTarget.clearFrom revertTo.block.number).cache.rows) :
      row ∈ system.syncTarget.cache.rows ∧ ∀ other ∈ some revertTo, row.1 < other.block.number := by
    obtain ⟨kept, below⟩ := List.mem_filter.mp member
    refine ⟨kept, fun other same => ?_⟩
    cases same
    simpa using below
  cases notification with
  | chainCommitted new => exact .inr ⟨system.syncTarget, rfl, rfl, fun row member => ⟨member, fun _ absurd => (by cases absurd)⟩⟩
  | chainReorged old new =>
      rw [System.handleNotification]
      split
      · exact .inl rfl
      · exact .inr ⟨_, rfl, rfl, cleared old.first.blockWithParent⟩
  | chainReverted old => exact .inr ⟨_, rfl, rfl, cleared old.first.blockWithParent⟩

section Handler

variable (system : System History tree) (consistent : Consistent system)

include consistent

theorem take_notification_consistent (notification : ExExNotification tree) (rest : List (ExExNotification tree))
    (idle : system.handler = .waiting) (queued : system.notifications = notification :: rest) :
    ({ system with notifications := rest }.handleNotification notification).handler = .stopped ∨
      Consistent ({ system with notifications := rest }.handleNotification notification) := by
  obtain ⟨window, feed, loop⟩ := consistent
  obtain ⟨revert, blocks, queue⟩ := queued ▸ feed.queue
  have reverts : handedReverts system.handler system.notifications = notification.state.revertTo.toList ++ queuedReverts rest := by
    rw [idle, queued, handedReverts, queued_cons]
    rfl
  obtain stopped | ⟨target, handled, state, cached⟩ := handle_notification_cases { system with notifications := rest } notification
  · exact .inl stopped
  · refine .inr ?_
    rw [handled]
    have waiting : pendingReverts target.state ++ (notification.state.revertTo.toList ++ queuedReverts rest) = system.waitingReverts := by
      rw [System.waitingReverts, reverts, state]
    refine ⟨window, ⟨queue, blocks, revert, fun row member => feed.byNumber row (cached row member).1, ?_, ?_⟩, ?_⟩
    · intro row member clear
      obtain ⟨before, below⟩ := cached row member
      refine feed.cached row before ?_
      rw [queued, queued_cons, clear_append]
      refine ⟨fun revertTo found => ?_, clear⟩
      have own : row.2.blockWithParent.block.number = row.1 := feed.byNumber row before
      rw [own]
      exact below revertTo (Option.mem_toList.mp found)
    · intro revertTo member
      have pending := feed.pending revertTo (state ▸ member)
      rw [reverts] at pending
      exact pending
    · change LoopFits system.chain (pendingReverts target.state ++ (notification.state.revertTo.toList ++ queuedReverts rest)) _ _
      rw [waiting]
      exact loop

theorem merge_consistent (next : SyncTargetState) (held : system.handler = .caching [] next) :
    Consistent { system with syncTarget := system.syncTarget.updateState next, handler := .waiting } := by
  obtain ⟨window, feed, loop⟩ := consistent
  have handed : handedReverts system.handler system.notifications = next.revertTo.toList ++ queuedReverts system.notifications := by
    rw [held]
    rfl
  have clears (number : Nat) (clear : Clear number
      (pendingReverts (system.syncTarget.updateState next).state ++ queuedReverts system.notifications)) :
      Clear number system.waitingReverts := by
    rw [System.waitingReverts, handed]
    obtain ⟨merged, queued⟩ := (clear_append _ _ _).mp clear
    cases state : system.syncTarget.state with
    | none =>
        simp only [SyncTarget.updateState, state] at merged
        exact (clear_append _ _ _).mpr ⟨clear_nil number, (clear_append _ _ _).mpr ⟨merged, queued⟩⟩
    | some current =>
        simp only [SyncTarget.updateState, state] at merged
        obtain ⟨older, newer⟩ := apply_next_clear current next number merged
        exact (clear_append _ _ _).mpr ⟨older, (clear_append _ _ _).mpr ⟨newer, queued⟩⟩
  have nextFits : ∀ revertTo ∈ next.revertTo, ParentCanonical system.chain (queuedReverts system.notifications) revertTo := by
    intro revertTo member
    refine feed.handed revertTo ?_
    rw [held]
    exact member
  refine ⟨window, ⟨feed.queue, fun _ absurd => (by cases absurd), fun _ absurd => (by cases absurd), feed.byNumber, feed.cached, ?_⟩, ?_⟩
  · intro revertTo member
    change ParentCanonical system.chain (queuedReverts system.notifications) revertTo
    cases state : system.syncTarget.state with
    | none =>
        simp only [SyncTarget.updateState, state] at member
        exact nextFits revertTo member
    | some current =>
        simp only [SyncTarget.updateState, state] at member
        obtain newer | ⟨older, deeper⟩ := apply_next_revert current next revertTo member
        · exact nextFits revertTo newer
        · intro positive clear
          refine feed.pending revertTo ?_ positive ?_
          · rw [state]
            exact older
          · rw [handed, clear_append]
            refine ⟨fun other found => ?_, clear⟩
            have above := deeper other (Option.mem_toList.mp found)
            dsimp only [parentBlock]
            omega
  · refine ⟨fun revertTo member positive clear => loop.executing revertTo member positive (clears _ clear), loop.completed,
      fun entry member clear => loop.batch entry member (clears _ clear), loop.numbered, fun clear => loop.latest ?_⟩
    obtain ⟨executing, waiting⟩ := (clear_append _ _ _).mp clear
    exact (clear_append _ _ _).mpr ⟨executing, clears _ waiting⟩

theorem cache_block_consistent (block : ChainBlock tree) (rest : List (ChainBlock tree)) (next : SyncTargetState)
    (held : system.handler = .caching (block :: rest) next) (target : SyncTarget tree) (state : target.state = system.syncTarget.state)
    (byNumber : CachedByNumber target) (rows : ∀ row ∈ target.cache.rows, row = (block.number, block) ∨ row ∈ system.syncTarget.cache.rows) :
    Consistent { system with syncTarget := target, handler := .caching rest next } := by
  obtain ⟨window, feed, loop⟩ := consistent
  obtain ⟨queue, blocks, handed, _, cached, pending⟩ := feed
  have waiting : system.waitingReverts = pendingReverts target.state ++ handedReverts (.caching rest next) system.notifications := by
    rw [System.waitingReverts, held, state]
    rfl
  rw [waiting] at loop
  rw [held] at blocks handed pending
  refine ⟨window, ⟨queue, fun other member => blocks other (List.mem_cons_of_mem block member), handed, byNumber, fun row member => ?_,
    fun revertTo member => pending revertTo (state ▸ member)⟩, loop⟩
  cases rows row member with
  | inl inserted =>
      rw [inserted]
      exact blocks block List.mem_cons_self
  | inr older => exact cached row older

theorem handler_consistent (hasTrieData : Bool) :
    (system.handlerStep hasTrieData).handler = .stopped ∨ Consistent (system.handlerStep hasTrieData) := by
  have parts := consistent
  obtain ⟨window, feed, loop⟩ := parts
  rw [System.handlerStep]
  cases held : system.handler with
  | starting =>
      right
      have same : system.waitingReverts = pendingReverts system.syncTarget.state ++ queuedReverts system.notifications := by
        rw [System.waitingReverts, held]
        rfl
      have pending := feed.pending
      rw [same] at loop
      rw [held] at pending
      dsimp only
      split
      · exact ⟨window, ⟨feed.queue, fun _ absurd => (by cases absurd), fun _ absurd => (by cases absurd), feed.byNumber, feed.cached, pending⟩, loop⟩
      · exact ⟨window, ⟨feed.queue, fun _ absurd => (by cases absurd), fun _ absurd => (by cases absurd), feed.byNumber, feed.cached, pending⟩, loop⟩
  | waiting =>
      dsimp only
      cases queued : system.notifications with
      | nil => exact .inr consistent
      | cons notification rest => exact take_notification_consistent system consistent notification rest held queued
  | caching blocks next =>
      cases blocks with
      | nil => exact .inr (merge_consistent system consistent next held)
      | cons block rest =>
          right
          dsimp only
          split
          · exact cache_block_consistent system consistent block rest next held (system.syncTarget.insert block.number block)
              (insert_state _ _ _) (insert_cached _ feed.byNumber block) (mem_insert system.syncTarget block)
          · exact cache_block_consistent system consistent block rest next held system.syncTarget rfl feed.byNumber (fun _ => .inr)
  | stopped => exact .inl held

end Handler

-- The store takes a revert unless it reaches the earliest block.
def WithinWindow (history : History) : SyncPoint tree → Prop
  | .unwind revertTo _ => history.earliest.number < revertTo.block.number
  | .idle | .readRevertLatest _ _ | .unwound _ _ | .reverted _ _ | .forward _ | .readLatest _ | .takeCached _ _ _ _
  | .recoverBlock _ _ _ _ | .storeBatch _ _ | .stored _ | .requeue _ => True

instance (history : History) : (point : SyncPoint tree) → Decidable (WithinWindow history point)
  | .unwind revertTo _ => inferInstanceAs (Decidable (history.earliest.number < revertTo.block.number))
  | .idle | .readRevertLatest _ _ | .unwound _ _ | .reverted _ _ | .forward _ | .readLatest _ | .takeCached _ _ _ _
  | .recoverBlock _ _ _ _ | .storeBatch _ _ | .stored _ | .requeue _ => isTrue trivial

theorem requeue_reverts (target : SyncTarget tree) (syncTo : Nat) :
    pendingReverts (target.requeueState (.syncUpTo syncTo)).state = pendingReverts target.state := by
  cases state : target.state with
  | none => simp [SyncTarget.requeueState, pendingReverts, state, SyncTargetState.revertTo]
  | some newer => cases newer <;> simp [SyncTarget.requeueState, pendingReverts, state, SyncTargetState.revertTo, SyncTargetState.applyNext]

-- A completed revert strips a pending one only if it removed at least as much.
theorem mark_reverts (target : SyncTarget tree) (revertedTo : BlockWithParent) :
    pendingReverts (target.markRevertComplete revertedTo).state = pendingReverts target.state ∨
      (pendingReverts (target.markRevertComplete revertedTo).state = [] ∧
        ∀ revertTo ∈ pendingReverts target.state, revertedTo.block.number ≤ revertTo.block.number) := by
  have covered (revertTo : BlockWithParent) (isCovered : SyncTarget.revertIsCovered revertTo revertedTo = true) :
      ∀ other ∈ [revertTo], revertedTo.block.number ≤ other.block.number := by
    simp only [SyncTarget.revertIsCovered, decide_eq_true_eq, List.mem_singleton, forall_eq] at isCovered ⊢
    omega
  rw [SyncTarget.markRevertComplete]
  cases state : target.state with
  | none => exact .inl (by rw [state])
  | some pending =>
      cases pending with
      | syncUpTo syncTo => exact .inl (by rw [state])
      | revertThenSync revertTo syncTo =>
          dsimp only
          split
          · next isCovered => exact .inr ⟨rfl, covered revertTo isCovered⟩
          · exact .inl (by rw [state])
      | revert revertTo =>
          dsimp only
          split
          · next isCovered => exact .inr ⟨rfl, covered revertTo isCovered⟩
          · exact .inl (by rw [state])

theorem plain_point_fits (chain : CanonicalChain tree) (reverts : List BlockWithParent) (latest : NumHash) (point : SyncPoint tree)
    (executing : point.executing = []) (completed : point.completed = []) (batch : point.batch = [])
    (numbered : BatchFits latest.number point) (canonical : CanonicalUnless chain reverts latest) :
    LoopFits chain reverts latest point := by
  refine ⟨?_, ?_, ?_, numbered, ?_⟩
  · simp [executing]
  · simp [completed]
  · simp [batch]
  · rw [executing]
    exact canonical

theorem append_all_latest (blocks : List (BlockWithParent × BlockStateDiff)) (history : History)
    (numbered : NumberedFrom (history.latest.number + 1) blocks) (after : History) (appended : history.appendAll blocks = .ok after) :
    after.earliest = history.earliest ∧ history.latest.number ≤ after.latest.number ∧
      (after.latest = history.latest ∨ ∃ block ∈ blocks, after.latest = block.1.block) := by
  induction blocks generalizing history with
  | nil =>
      cases appended
      exact ⟨rfl, Nat.le_refl _, .inl rfl⟩
  | cons block rest ih =>
      rw [History.appendAll, List.foldlM_cons, bind_ok] at appended
      obtain ⟨next, first, later⟩ := appended
      rw [History.append] at first
      split at first
      · cases first
      · cases first
        have number : block.1.block.number = history.latest.number + 1 := numbered.1
        obtain ⟨earliest, grown, top⟩ := ih { history with stored := history.stored ++ [block], latest := block.1.block }
          (number.symm ▸ numbered.2) later
        refine ⟨earliest, ?_, .inr ?_⟩
        · dsimp only at grown
          omega
        · cases top with
          | inl same => exact ⟨block, List.mem_cons_self, same⟩
          | inr found =>
              obtain ⟨other, member, same⟩ := found
              exact ⟨other, List.mem_cons_of_mem block member, same⟩

section Loop

variable (config : ExExConfig) (system : System History tree) (consistent : Consistent system)

include consistent

theorem goto_consistent (point : SyncPoint tree) (fits : LoopFits system.chain system.waitingReverts system.store.latest point) :
    Consistent (system.goto point) :=
  ⟨consistent.window, consistent.feed, fits⟩

theorem goto_plain_consistent (point : SyncPoint tree) (executing : point.executing = []) (completed : point.completed = [])
    (batch : point.batch = []) (numbered : BatchFits system.store.latest.number point) (ran : system.loop.executing = []) :
    Consistent (system.goto point) := by
  refine goto_consistent system consistent point (plain_point_fits _ _ _ point executing completed batch numbered ?_)
  have latest := consistent.loop.latest
  rw [ran] at latest
  exact latest

-- Taking the pending state moves its revert to the loop.
theorem take_state_consistent (atIdle : system.loop = .idle) : Consistent system.takeStateStep := by
  obtain ⟨window, feed, loop⟩ := consistent
  rw [System.takeStateStep, SyncTarget.takeState]
  have latest : CanonicalUnless system.chain system.waitingReverts system.store.latest := by
    have latest := loop.latest
    rw [atIdle] at latest
    exact latest
  have rest : FeedFits system.chain system.notifications system.handler { system.syncTarget with state := none } :=
    ⟨feed.queue, feed.blocks, feed.handed, feed.byNumber, feed.cached, fun _ absurd => (by cases absurd)⟩
  have pending := feed.pending
  rw [System.waitingReverts] at latest
  cases state : system.syncTarget.state with
  | none =>
      rw [state] at latest
      exact ⟨window, rest, plain_point_fits _ _ _ _ (congrArg _ atIdle) (congrArg _ atIdle) (congrArg _ atIdle) (by rw [atIdle]; trivial) latest⟩
  | some taken =>
      rw [state] at latest pending
      have revert (revertTo : BlockWithParent) (syncTo : Option Nat) (carried : taken.revertTo = some revertTo) :
          LoopFits system.chain (handedReverts system.handler system.notifications) system.store.latest (.readRevertLatest revertTo syncTo) := by
        refine ⟨fun other member => ?_, fun _ absurd => (by cases absurd), fun _ absurd => (by cases absurd), trivial, ?_⟩
        · exact pending other (carried.trans (congrArg some (List.mem_singleton.mp member).symm))
        · have same : pendingReverts (some taken) = [revertTo] := by
            rw [pendingReverts, Option.bind_some, carried]
            rfl
          rw [same] at latest
          exact latest
      cases taken with
      | syncUpTo target => exact ⟨window, rest, plain_point_fits _ _ _ _ rfl rfl rfl trivial latest⟩
      | revertThenSync revertTo syncTo => exact ⟨window, rest, revert revertTo _ rfl⟩
      | revert revertTo => exact ⟨window, rest, revert revertTo _ rfl⟩

theorem read_revert_latest_consistent (revertTo : BlockWithParent) (syncTo : Option Nat)
    (atRead : system.loop = .readRevertLatest revertTo syncTo) : Consistent (system.readRevertLatestStep revertTo syncTo) := by
  have loop := consistent.loop
  rw [atRead] at loop
  rw [System.readRevertLatestStep]
  dsimp only [MorphProofsStore.getLatestBlockNumber]
  split
  · exact goto_consistent system consistent _ ⟨loop.executing, loop.completed, loop.batch, trivial, loop.latest⟩
  · next above =>
      refine goto_consistent system consistent _ ⟨fun _ absurd => (by cases absurd), fun other member => ?_, loop.batch, trivial, fun clear => ?_⟩
      · rw [List.mem_singleton.mp member]
        omega
      · exact loop.latest ((clear_append _ _ _).mpr ⟨(clear_singleton _ _).mpr (by omega), clear⟩)

theorem unwind_consistent (revertTo : BlockWithParent) (syncTo : Option Nat) (atUnwind : system.loop = .unwind revertTo syncTo)
    (within : system.store.earliest.number < revertTo.block.number) : Consistent (system.unwindStep revertTo syncTo) := by
  obtain ⟨window, feed, loop⟩ := consistent
  rw [atUnwind] at loop
  have unwound : MorphProofsStore.update system.store (.unwindHistory revertTo) = system.store.unwind revertTo := rfl
  rw [System.unwindStep, unwound, History.unwind]
  by_cases beyond : system.store.latest.number < revertTo.block.number
  · rw [if_pos beyond]
    refine ⟨window, feed, fun _ absurd => (by cases absurd), fun other member => ?_, loop.batch, trivial, fun clear => ?_⟩
    · rw [List.mem_singleton.mp member]
      exact beyond
    · exact loop.latest ((clear_append _ _ _).mpr ⟨(clear_singleton _ _).mpr beyond, clear⟩)
  · rw [if_neg beyond, if_neg (by omega)]
    refine ⟨?_, feed, fun _ absurd => (by cases absurd), fun other member => ?_, loop.batch, trivial, ?_⟩
    · dsimp only [History.cut]
      omega
    · rw [List.mem_singleton.mp member]
      dsimp only [History.cut]
      omega
    · exact loop.executing revertTo (List.mem_singleton.mpr rfl) (by omega)

theorem reverted_consistent (revertTo : BlockWithParent) (syncTo : Option Nat) (atReverted : system.loop = .reverted revertTo syncTo) :
    Consistent (system.revertedStep revertTo syncTo) := by
  obtain ⟨window, feed, loop⟩ := consistent
  rw [atReverted] at loop
  have below : system.store.latest.number < revertTo.block.number := loop.completed revertTo (List.mem_singleton.mpr rfl)
  have marked := mark_reverts system.syncTarget revertTo
  have cache := mark_cache system.syncTarget revertTo
  refine ⟨window, ⟨feed.queue, feed.blocks, feed.handed, ?_, ?_, ?_⟩, ?_⟩
  · intro row member
    exact feed.byNumber row (cache ▸ member)
  · intro row member
    exact feed.cached row (cache ▸ member)
  · intro other member
    obtain same | ⟨stripped, _⟩ := marked
    · refine feed.pending other (Option.mem_toList.mp ?_)
      have found : other ∈ pendingReverts (system.syncTarget.markRevertComplete revertTo).state := Option.mem_toList.mpr member
      rw [same] at found
      exact found
    · have found : other ∈ pendingReverts (system.syncTarget.markRevertComplete revertTo).state := Option.mem_toList.mpr member
      rw [stripped] at found
      cases found
  · have latest : CanonicalUnless system.chain (system.revertedStep revertTo syncTo).waitingReverts system.store.latest := by
      intro clear
      obtain ⟨pending, handed⟩ := (clear_append _ _ _).mp clear
      refine loop.latest ((clear_append _ _ _).mpr ⟨clear_nil _, (clear_append _ _ _).mpr ⟨?_, handed⟩⟩)
      obtain same | ⟨_, covered⟩ := marked
      · exact same ▸ pending
      · exact fun other member => Nat.lt_of_lt_of_le below (covered other member)
    cases syncTo with
    | none => exact plain_point_fits _ _ _ _ rfl rfl rfl trivial latest
    | some target => exact plain_point_fits _ _ _ _ rfl rfl rfl trivial latest

theorem read_latest_consistent (target : Nat) (atRead : system.loop = .readLatest target) : Consistent (system.readLatestStep target) := by
  have ran : system.loop.executing = [] := by
    rw [atRead]
    rfl
  rw [System.readLatestStep]
  dsimp only [MorphProofsStore.getLatestBlockNumber]
  split
  · exact goto_plain_consistent system consistent _ rfl rfl rfl trivial ran
  · exact goto_plain_consistent system consistent _ rfl rfl rfl ⟨trivial, rfl⟩ ran

theorem take_cached_consistent (target : Nat) (batch : List (BatchBlock tree)) (number stop : Nat)
    (atTake : system.loop = .takeCached target batch number stop) : Consistent (system.takeCachedStep config target batch number stop) := by
  have loop := consistent.loop
  rw [atTake] at loop
  obtain ⟨executing, completed, held, ⟨numbered, position⟩, latest⟩ := loop
  rw [System.takeCachedStep]
  split
  · exact goto_consistent system consistent _ ⟨executing, completed, held, numbered, latest⟩
  · have feed := consistent.feed
    have rest : FeedFits system.chain system.notifications system.handler (system.syncTarget.take number).2 :=
      ⟨feed.queue, feed.blocks, feed.handed, take_cached _ feed.byNumber number, fun row member => feed.cached row (List.mem_of_mem_filter member),
        feed.pending⟩
    dsimp only
    split
    · next block hit _ =>
        have own := take_number _ feed.byNumber number block hit
        refine ⟨consistent.window, rest, executing, completed, fun entry member => ?_,
          ⟨numbered_snoc _ batch _ numbered (own.trans position), ?_⟩, latest⟩
        · cases List.mem_append.mp member with
          | inl older => exact held entry older
          | inr newest =>
              rw [List.mem_singleton.mp newest]
              intro clear
              refine feed.cached (number, block) ((Table.get_eq_some _ number block).mp hit) ?_
              exact ((clear_append _ _ _).mp ((clear_append _ _ _).mp clear).2).2
        · dsimp only [System.goto]
          rw [List.length_append, List.length_singleton, position, Nat.add_assoc]
    · exact ⟨consistent.window, rest, executing, completed, held, ⟨numbered, position⟩, latest⟩
    · exact ⟨consistent.window, rest, executing, completed, held, ⟨numbered, position⟩, latest⟩

theorem recover_block_consistent (target : Nat) (batch : List (BatchBlock tree)) (number stop : Nat)
    (atRecover : system.loop = .recoverBlock target batch number stop) : Consistent (system.recoverBlockStep target batch number stop) := by
  have loop := consistent.loop
  rw [atRecover] at loop
  obtain ⟨executing, completed, held, ⟨numbered, position⟩, latest⟩ := loop
  rw [System.recoverBlockStep]
  split
  · exact goto_consistent system consistent _ ⟨executing, completed, fun _ absurd => (by cases absurd), trivial, latest⟩
  · next block recovered =>
      obtain ⟨hash, found, rfl⟩ := Option.map_eq_some_iff.mp recovered
      refine goto_consistent system consistent _
        ⟨executing, completed, fun entry member => ?_, ⟨numbered_snoc _ batch _ numbered position, ?_⟩, latest⟩
      · cases List.mem_append.mp member with
        | inl older => exact held entry older
        | inr newest =>
            rw [List.mem_singleton.mp newest]
            exact fun _ => found
      · rw [List.length_append, List.length_singleton, position, Nat.add_assoc]

theorem store_batch_consistent (target : Nat) (batch : List (BatchBlock tree)) (atStore : system.loop = .storeBatch target batch) :
    Consistent (system.storeBatchStep target batch none) := by
  have loop := consistent.loop
  have ran : system.loop.executing = [] := by
    rw [atStore]
    rfl
  rw [atStore] at loop
  rw [System.storeBatchStep]
  dsimp only [MorphProofsStore.getLatestBlockNumber, MorphProofsStore.getEarliestBlockNumber]
  split
  · rw [System.batchFailed]
    split
    · exact goto_plain_consistent system consistent _ rfl rfl rfl trivial ran
    · exact goto_plain_consistent system consistent _ rfl rfl rfl trivial ran
  · next store committed =>
      have appended := batch_session_ok system.store _ _ store committed
      obtain ⟨earliest, grown, top⟩ := append_all_latest _ system.store (session_numbered _ _ batch none loop.numbered) store appended
      refine ⟨?_, consistent.feed, plain_point_fits _ _ _ _ rfl rfl rfl trivial ?_⟩
      · dsimp only
        rw [earliest]
        exact Nat.le_trans consistent.window grown
      · dsimp only
        cases top with
        | inl same =>
            rw [same]
            exact loop.latest
        | inr found =>
            obtain ⟨block, member, same⟩ := found
            obtain ⟨count, taken⟩ := plan_session_taken system.store.earliest.number system.store.latest.number batch none
            rw [taken] at member
            obtain ⟨entry, inBatch, rfl⟩ := List.mem_map.mp member
            rw [same]
            exact loop.batch entry (List.mem_of_mem_take inBatch)

theorem requeue_consistent (target : Nat) (atRequeue : system.loop = .requeue target) :
    Consistent { system with syncTarget := system.syncTarget.requeueState (.syncUpTo target), loop := .idle } := by
  obtain ⟨window, feed, loop⟩ := consistent
  rw [atRequeue] at loop
  have same := requeue_reverts system.syncTarget target
  refine ⟨window, ⟨feed.queue, feed.blocks, feed.handed, feed.byNumber, feed.cached, fun other member => ?_⟩,
    plain_point_fits _ _ _ _ rfl rfl rfl trivial ?_⟩
  · refine feed.pending other (Option.mem_toList.mp ?_)
    have found : other ∈ pendingReverts (system.syncTarget.requeueState (.syncUpTo target)).state := Option.mem_toList.mpr member
    rw [same] at found
    exact found
  · rw [System.waitingReverts, same]
    exact loop.latest

theorem loop_consistent (within : WithinWindow system.store system.loop) : Consistent (system.loopStep config) := by
  rw [System.loopStep]
  cases point : system.loop with
  | idle => exact take_state_consistent system consistent point
  | readRevertLatest revertTo syncTo => exact read_revert_latest_consistent system consistent revertTo syncTo point
  | unwind revertTo syncTo =>
      rw [point] at within
      exact unwind_consistent system consistent revertTo syncTo point within
  | unwound revertTo syncTo =>
      have loop := consistent.loop
      rw [point] at loop
      exact goto_consistent system consistent _ ⟨loop.executing, loop.completed, loop.batch, trivial, loop.latest⟩
  | reverted revertTo syncTo => exact reverted_consistent system consistent revertTo syncTo point
  | forward target =>
      dsimp only
      split
      · exact goto_plain_consistent system consistent _ rfl rfl rfl trivial (by rw [point]; rfl)
      · exact goto_plain_consistent system consistent _ rfl rfl rfl trivial (by rw [point]; rfl)
  | readLatest target => exact read_latest_consistent system consistent target point
  | takeCached target batch number stop => exact take_cached_consistent config system consistent target batch number stop point
  | recoverBlock target batch number stop => exact recover_block_consistent system consistent target batch number stop point
  | storeBatch target batch => exact store_batch_consistent system consistent target batch point
  | stored target => exact goto_plain_consistent system consistent _ rfl rfl rfl trivial (by rw [point]; rfl)
  | requeue target => exact requeue_consistent system consistent target point

theorem pruner_consistent : Consistent (system.prunerStep config) := by
  obtain ⟨window, feed, loop⟩ := consistent
  rw [System.prunerStep]
  dsimp only [MorphProofsStore.getLatestBlockNumber, MorphProofsStore.getEarliestBlockNumber]
  split
  · split
    · exact ⟨window, feed, loop⟩
    · exact ⟨window, feed, loop⟩
  · exact ⟨window, feed, loop⟩
  · next newEarliest _ =>
      split
      · exact ⟨window, feed, loop⟩
      · next store pruned =>
          refine ⟨prune_window system.store newEarliest store window pruned, feed, ?_⟩
          dsimp only
          rw [prune_latest system.store newEarliest store pruned]
          exact loop

end Loop

end MorphReth.ProofsExEx
