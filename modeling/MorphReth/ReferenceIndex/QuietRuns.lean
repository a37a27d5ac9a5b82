import MorphReth.ReferenceIndex.RunLoop

set_option autoImplicit false

namespace MorphReth.ReferenceIndex

variable {tree : BlockTree}

def Quiet : LoopEvent tree → Prop
  | .advance | .elapse _ => True
  | _ => False

-- The turn comes back without an error and leaves an index that needs no
-- rebuild.
def TurnGoes (config : ReferenceIndexConfig) (system : System tree) : Prop :=
  Eventually (System.step config) (fun after => after.point = .idle ∧ after.result = some (.ok ()) ∧ AgreesAtFloor config after) system

structure QuietBase (config : ReferenceIndexConfig) (chain : CanonicalChain tree) (runtime : IndexRuntime tree) : Prop where
  kept : LoopSound config runtime
  chain : runtime.system.chain = chain
  going : match runtime.point with
    | .turn => TurnGoes config runtime.system
    | .stopped => False
    | _ => AgreesAtFloor config runtime.system

section Turns

variable (config : ReferenceIndexConfig) (system : System tree)

theorem idle_step (idle : system.point = .idle) : system.step config = system := by
  rw [System.step, idle]

theorem idle_steps (idle : system.point = .idle) (steps : Nat) : (System.step config)^[steps] system = system :=
  Function.iterate_fixed (idle_step config system idle) steps

theorem eventually_idle (goal : System tree → Prop) (idle : system.point = .idle) (reached : Eventually (System.step config) goal system) :
    goal system := by
  obtain ⟨steps, met⟩ := reached
  rw [idle_steps config system idle steps] at met
  exact met

theorem eventually_running (goal : System tree → Prop) (rests : ∀ after, goal after → after.point = .idle) (running : system.point ≠ .idle)
    (reached : Eventually (System.step config) goal system) : Eventually (System.step config) goal (system.step config) := by
  obtain ⟨steps, met⟩ := reached
  cases steps with
  | zero => exact absurd (rests _ met) running
  | succ steps => exact ⟨steps, met⟩

theorem turn_goes_begin (defer : Bool) (sound : Sound config system) (idle : system.point = .idle) (agrees : AgreesAtFloor config system)
    (reached : config.jadeTimestamp ≤ system.chain.head.timestamp) : TurnGoes config (system.apply config (.beginTurn defer)) := by
  cases defer with
  | false =>
      refine eventually_mono _ _ _ (fun after advanced => ?_) _ (turn_advances config system 0 sound idle agrees reached (.inl rfl))
      obtain ⟨cursor, following, _⟩ := advanced.cursor
      exact ⟨advanced.idle, advanced.succeeded, following_agrees config after cursor following⟩
  | true =>
      have sameChain := (open_keeps_chain config { system with result := none } true).1
      obtain ⟨db, opened, _, held⟩ := open_cases config _ (sound_cleared config system sound) true
      rw [System.apply, if_pos idle]
      rw [opened] at sameChain ⊢
      apply eventually_step
      apply eventually_now
      have late : ¬system.chain.head.timestamp < config.jadeTimestamp := Nat.not_lt.mpr reached
      simp only [System.step, System.readHeadStep, if_neg late, if_true]
      exact ⟨rfl, rfl, fun branch lowest indexed => agrees branch lowest (held branch lowest indexed)⟩

end Turns

-- The points of the loop at which no turn runs or is about to begin.
def Waiting : LoopPoint → Prop
  | .drain | .deferCheck | .sleeping _ | .select => True
  | .request | .turn | .stopped => False

def Between : LoopPoint → Prop
  | .turn | .stopped => False
  | _ => True

theorem waiting_advance (config : ReferenceIndexConfig) (runtime : IndexRuntime tree) (waiting : Waiting runtime.point) :
    (runtime.advance config).system = runtime.system ∧ Between (runtime.advance config).point := by
  cases here : runtime.point with
  | drain =>
      simp only [IndexRuntime.advance, here]
      split
      · exact ⟨rfl, trivial⟩
      · exact ⟨rfl, trivial⟩
  | deferCheck =>
      simp only [IndexRuntime.advance, here, IndexRuntime.deferCheckStep]
      split
      · exact ⟨rfl, trivial⟩
      · exact ⟨rfl, trivial⟩
  | sleeping wake =>
      simp only [IndexRuntime.advance, here]
      split
      · exact ⟨rfl, trivial⟩
      · exact ⟨rfl, by rw [here]; trivial⟩
  | select =>
      simp only [IndexRuntime.advance, here, IndexRuntime.selectStep, IndexRuntime.awaitPoll]
      repeat' split
      all_goals first
        | exact ⟨rfl, trivial⟩
        | exact ⟨rfl, by rw [here]; trivial⟩
  | request | turn | stopped =>
      rw [here] at waiting
      cases waiting

section Base

variable (config : ReferenceIndexConfig) (chain : CanonicalChain tree) (runtime : IndexRuntime tree) (base : QuietBase config chain runtime)

theorem quiet_base_between (after : IndexRuntime tree) (kept : LoopSound config after) (sameChain : after.system.chain = chain)
    (between : Between after.point) (agrees : AgreesAtFloor config after.system) : QuietBase config chain after := by
  refine ⟨kept, sameChain, ?_⟩
  cases here : after.point with
  | turn | stopped =>
      rw [here] at between
      cases between
  | _ => exact agrees

include base

theorem quiet_base_agrees (between : Between runtime.point) : AgreesAtFloor config runtime.system := by
  have going := base.going
  cases here : runtime.point with
  | turn | stopped =>
      rw [here] at between
      cases between
  | _ =>
      simp only [here] at going
      exact going

theorem quiet_base_turn (here : runtime.point = .turn) : QuietBase config chain (runtime.advance config) := by
  have going := base.going
  have kept := loop_sound_advance base.kept
  simp only [here] at going
  simp only [IndexRuntime.advance, here] at kept ⊢
  by_cases idle : runtime.system.point = .idle
  · obtain ⟨_, succeeded, agrees⟩ := eventually_idle config runtime.system _ idle going
    simp only [if_pos idle, IndexRuntime.finishTurn, succeeded] at kept ⊢
    by_cases backfill : runtime.system.phase = .backfill
    · simp only [if_pos backfill] at kept ⊢
      exact ⟨kept, base.chain, agrees⟩
    · simp only [if_neg backfill] at kept ⊢
      exact ⟨kept, base.chain, agrees⟩
  · simp only [if_neg idle] at kept ⊢
    exact ⟨kept, (step_keeps_chain config runtime.system).1.trans base.chain,
      eventually_running config runtime.system _ (fun _ goal => goal.1) idle going⟩

variable (reached : config.jadeTimestamp ≤ chain.head.timestamp)

include reached

theorem quiet_base_request (here : runtime.point = .request) : QuietBase config chain (runtime.advance config) := by
  have agrees := quiet_base_agrees config chain runtime base (by rw [here]; trivial)
  have idle := base.kept.between (by rw [here]; nofun)
  have kept := loop_sound_advance base.kept
  simp only [IndexRuntime.advance, here] at kept ⊢
  by_cases requested : runtime.syncRequested = true
  · simp only [IndexRuntime.requestStep, if_pos requested] at kept ⊢
    have arrived : config.jadeTimestamp ≤ runtime.system.chain.head.timestamp := by
      rw [base.chain]
      exact reached
    refine ⟨kept, ?_, turn_goes_begin config runtime.system _ base.kept.sound idle agrees arrived⟩
    rw [System.apply, if_pos idle, (open_keeps_chain config _ _).1]
    exact base.chain
  · simp only [IndexRuntime.requestStep, if_neg requested] at kept ⊢
    exact ⟨kept, base.chain, agrees⟩

theorem quiet_base_advance : QuietBase config chain (runtime.advance config) := by
  by_cases waiting : Waiting runtime.point
  · obtain ⟨same, between⟩ := waiting_advance config runtime waiting
    have agrees := quiet_base_agrees config chain runtime base (by cases here : runtime.point <;> rw [here] at waiting <;> trivial)
    exact quiet_base_between config chain _ (loop_sound_advance base.kept) (by rw [same]; exact base.chain) between
      (by rw [same]; exact agrees)
  · cases here : runtime.point with
    | request => exact quiet_base_request config chain runtime base reached here
    | turn => exact quiet_base_turn config chain runtime base here
    | stopped =>
        have going := base.going
        simp only [here] at going
    | drain | deferCheck | sleeping | select =>
        rw [here] at waiting
        exact absurd trivial waiting

theorem quiet_base_step (event : LoopEvent tree) (quiet : Quiet event) : QuietBase config chain (runtime.step config event) := by
  cases event with
  | advance => exact quiet_base_advance config chain runtime base reached
  | elapse duration => exact ⟨⟨base.kept.sound, base.kept.between⟩, base.chain, base.going⟩
  | _ => cases quiet

end Base

section Calm

-- No notification is left to be read, and what was counted no longer defers.
structure Calm (runtime : IndexRuntime tree) : Prop where
  drained : runtime.notificationsOpen = true → runtime.pending = []
  slow : runtime.detector.blocksInWindow ≤ rapidSyncBlockThreshold ∨ runtime.detector.windowStarted + rapidSyncWindow ≤ runtime.now

variable (config : ReferenceIndexConfig) (runtime : IndexRuntime tree)

theorem reset_slow (now : Nat) (detector : RapidSyncDetector)
    (slow : detector.blocksInWindow ≤ rapidSyncBlockThreshold ∨ detector.windowStarted + rapidSyncWindow ≤ now) :
    (detector.resetExpiredWindow now).blocksInWindow ≤ rapidSyncBlockThreshold := by
  rw [RapidSyncDetector.resetExpiredWindow]
  split
  · exact Nat.zero_le _
  · next inWindow =>
      rcases slow with few | expired
      · exact few
      · omega

theorem calm_never_defers (calm : Calm runtime) : (runtime.detector.shouldDefer runtime.now).1 = false :=
  decide_eq_false (Nat.not_lt.mpr (reset_slow runtime.now runtime.detector calm.slow))

theorem advance_now : (runtime.advance config).now = runtime.now := by
  cases here : runtime.point with
  | stopped => rw [IndexRuntime.advance, here]
  | _ =>
      simp only [IndexRuntime.advance, here, IndexRuntime.deferCheckStep, IndexRuntime.requestStep, IndexRuntime.finishTurn,
        IndexRuntime.selectStep, IndexRuntime.awaitPoll]
      repeat' split
      all_goals rfl

-- Once drained, the channel stays empty and the detector is only ever reset.
theorem drained_advance (drained : runtime.notificationsOpen = true → runtime.pending = []) :
    ((runtime.advance config).notificationsOpen = true → (runtime.advance config).pending = []) ∧
      ((runtime.advance config).detector = runtime.detector ∨
        (runtime.advance config).detector = runtime.detector.resetExpiredWindow runtime.now) := by
  cases here : runtime.point with
  | drain =>
      simp only [IndexRuntime.advance, here]
      split
      · next opened =>
          refine ⟨fun _ => rfl, .inl ?_⟩
          rw [IndexRuntime.drainReadyBroadcast, drained opened]
          rfl
      · exact ⟨drained, .inl rfl⟩
  | deferCheck =>
      simp only [IndexRuntime.advance, here, IndexRuntime.deferCheckStep]
      split
      · exact ⟨drained, .inr rfl⟩
      · exact ⟨drained, .inl rfl⟩
  | request =>
      simp only [IndexRuntime.advance, here, IndexRuntime.requestStep]
      split
      · exact ⟨drained, .inr rfl⟩
      · exact ⟨drained, .inl rfl⟩
  | turn =>
      simp only [IndexRuntime.advance, here, IndexRuntime.finishTurn]
      repeat' split
      all_goals exact ⟨drained, .inl rfl⟩
  | sleeping wake =>
      simp only [IndexRuntime.advance, here]
      split
      · exact ⟨drained, .inl rfl⟩
      · exact ⟨drained, .inl rfl⟩
  | select =>
      simp only [IndexRuntime.advance, here, IndexRuntime.selectStep, IndexRuntime.awaitPoll]
      by_cases opened : runtime.notificationsOpen = true
      · simp only [if_pos opened, drained opened]
        split
        · exact ⟨fun _ => rfl, .inl rfl⟩
        · split
          · exact ⟨fun _ => drained opened, .inl rfl⟩
          · exact ⟨fun _ => drained opened, .inl rfl⟩
      · simp only [if_neg opened]
        split
        · exact ⟨drained, .inl rfl⟩
        · exact ⟨drained, .inl rfl⟩
  | stopped =>
      rw [IndexRuntime.advance, here]
      exact ⟨drained, .inl rfl⟩

theorem calm_step (calm : Calm runtime) (event : LoopEvent tree) (quiet : Quiet event) : Calm (runtime.step config event) := by
  cases event with
  | advance =>
      obtain ⟨drained, detector⟩ := drained_advance config runtime calm.drained
      refine ⟨drained, ?_⟩
      change (runtime.advance config).detector.blocksInWindow ≤ _ ∨ (runtime.advance config).detector.windowStarted + _ ≤
        (runtime.advance config).now
      rcases detector with same | reset
      · rw [same, advance_now]
        exact calm.slow
      · rw [reset]
        exact .inl (reset_slow runtime.now runtime.detector calm.slow)
  | elapse duration => exact ⟨calm.drained, calm.slow.imp id (fun expired => Nat.le_trans expired (Nat.le_add_right _ _))⟩
  | _ => cases quiet

end Calm

section Synced

def SyncedPoint (chain : CanonicalChain tree) : SyncPoint → Prop
  | .idle | .readHead false => True
  | .readFinalized head _ => head = chain.head
  | .reconcile turn | .readBatch turn => turn.head = chain.head
  | _ => False

-- The index is at the canonical head, and stays there while turns come and go.
structure Synced (config : ReferenceIndexConfig) (system : System tree) : Prop where
  sound : Sound config system
  reached : config.jadeTimestamp ≤ system.chain.head.timestamp
  live : system.phase = .live
  installed : system.installed = true
  following : Following system system.chain.head.number
  point : SyncedPoint system.chain system.point

variable (config : ReferenceIndexConfig) (system : System tree) (synced : Synced config system)

include synced

theorem synced_head_hash : system.db.indexedBlockHash system.chain.head.number = some system.chain.head.hash :=
  synced.following.canonical.symm.trans (head_present system.chain)

theorem synced_goto (point : SyncPoint) (same : system.step config = system.goto point) (fits : SyncedPoint system.chain point) :
    Synced config (system.step config) := by
  have sound := sound_step config system synced.sound
  rw [same] at sound ⊢
  exact ⟨sound, synced.reached, synced.live, synced.installed,
    ⟨synced.following.stored, synced.following.inside, synced.following.canonical⟩, fits⟩

theorem synced_step : Synced config (system.step config) := by
  have point := synced.point
  cases here : system.point with
  | idle =>
      rw [idle_step config system here]
      exact synced
  | readHead defer =>
      rw [here] at point
      cases defer with
      | true => cases point
      | false =>
          obtain ⟨branch, lowest, indexed, _⟩ := cursor_content _ _ system.db synced.sound.steady.safe.content synced.following.stored
          apply synced_goto config system synced (.readFinalized system.chain.head (branch.jadeStart config.jadeTimestamp)) _ rfl
          simp only [System.step, here, System.readHeadStep, if_neg (Nat.not_lt.mpr synced.reached), Bool.false_eq_true, if_false, indexed.jade]
  | readFinalized head jadeFirstBlock =>
      rw [here] at point
      apply synced_goto config system synced (.reconcile ⟨head, jadeFirstBlock, system.finalized⟩) _ point
      simp only [System.step, here]
  | reconcile turn =>
      rw [here] at point
      apply synced_goto config system synced (.readBatch turn) _ point
      have head : turn.head = system.chain.head := point
      simp only [System.step, here, System.reconcileStep, synced.following.stored, head, Nat.min_self, synced_head_hash config system synced,
        and_self, if_true]
  | readBatch turn =>
      rw [here] at point
      have head : turn.head = system.chain.head := point
      have beyond : system.chain.head.number < batchStart system.db turn := by
        rw [batchStart, synced.following.stored, Option.elim_some]
        exact Nat.lt_succ_self _
      have sound := sound_step config system synced.sound
      have stepped : system.step config = system.finishOk .live := by
        simp only [System.step, here, System.readBatchStep, head, if_pos beyond]
      rw [stepped] at sound ⊢
      exact ⟨sound, synced.reached, rfl, synced.installed,
        ⟨synced.following.stored, synced.following.inside, synced.following.canonical⟩, trivial⟩
  | _ =>
      rw [here] at point
      cases point

theorem synced_begin : Synced config (system.apply config (.beginTurn false)) := by
  have sound := sound_apply config system synced.sound (.beginTurn false) trivial
  by_cases idle : system.point = .idle
  · have begun : system.apply config (.beginTurn false) = { system with result := none, point := .readHead false } := by
      rw [System.apply, if_pos idle, System.openDb, if_pos synced.installed]
      rfl
    rw [begun] at sound ⊢
    exact ⟨sound, synced.reached, synced.live, synced.installed,
      ⟨synced.following.stored, synced.following.inside, synced.following.canonical⟩, trivial⟩
  · rw [System.apply, if_neg idle]
    exact synced

theorem synced_answers (query : ReferenceQuery) :
    system.queryAt query system.chain.head = .ok (query.page (system.chain.referenceList config.jadeTimestamp query.reference)) := by
  obtain ⟨branch, lowest, indexed, _⟩ := cursor_content _ _ system.db synced.sound.steady.safe.content synced.following.stored
  have breadcrumb := synced_head_hash config system synced
  have answered : ∃ results, system.db.queryAt query system.chain.head = .ok results := by
    simp only [ReferenceIndexDb.queryAt, synced.following.stored, breadcrumb, ne_eq, not_true_eq_false, or_self, if_false]
    exact ⟨_, rfl⟩
  obtain ⟨results, answer⟩ := answered
  obtain ⟨number, hash, page⟩ := query_page query config.jadeTimestamp lowest system.db branch system.chain.head results indexed answer
  have available : system.phase ≠ .unavailable := by simp [synced.live]
  rw [System.queryAt, if_neg available, if_neg (by simp [synced.installed]), answer, page, chain_eq_of_head branch system.chain number.symm hash.symm]

end Synced

end MorphReth.ReferenceIndex
