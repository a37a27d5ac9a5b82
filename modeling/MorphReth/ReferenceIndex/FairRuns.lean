import MorphReth.ReferenceIndex.QuietRuns

set_option autoImplicit false

namespace MorphReth.ReferenceIndex

variable {tree : BlockTree}

section Schedule

variable (config : ReferenceIndexConfig)

theorem select_cases (runtime : IndexRuntime tree) (here : runtime.point = .select) :
    runtime.advance config = runtime ∧ runtime.now < runtime.nextPoll ∨
      (runtime.advance config).point = .drain ∧ (runtime.advance config).syncRequested = true ∧
        (runtime.advance config).system = runtime.system := by
  simp only [IndexRuntime.advance, here, IndexRuntime.selectStep, IndexRuntime.awaitPoll]
  by_cases opened : runtime.notificationsOpen = true
  · rw [if_pos opened]
    split
    · exact .inr ⟨rfl, rfl, rfl⟩
    · split
      · exact .inr ⟨rfl, rfl, rfl⟩
      · split
        · exact .inr ⟨rfl, rfl, rfl⟩
        · next early => exact .inl ⟨rfl, Nat.lt_of_not_le early⟩
  · rw [if_neg opened]
    split
    · exact .inr ⟨rfl, rfl, rfl⟩
    · next early => exact .inl ⟨rfl, Nat.lt_of_not_le early⟩

abbrev loopTrace (start : IndexRuntime tree) (schedule : Nat → LoopEvent tree) : Nat → IndexRuntime tree :=
  stateAt (IndexRuntime.step config) start schedule

-- An endless run in which only the runtime and the clock move, the runtime is
-- never left out for good, and time passes.
structure FairQuiet (config : ReferenceIndexConfig) (start : IndexRuntime tree) (schedule : Nat → LoopEvent tree) : Prop where
  quiet : ∀ time, Quiet (schedule time)
  fair : ∀ time, ∃ later, time ≤ later ∧ schedule later = .advance
  clock : ∀ bound, ∃ time, bound ≤ (loopTrace config start schedule time).now

variable {config} {start : IndexRuntime tree} {schedule : Nat → LoopEvent tree} (run : FairQuiet config start schedule)

include run

theorem clock_later (bound time : Nat) : ∃ later, time ≤ later ∧ bound ≤ (loopTrace config start schedule later).now := by
  have grows : ∀ early late, early ≤ late → (loopTrace config start schedule early).now ≤
      (loopTrace config start schedule late).now := by
    intro early late order
    induction late, order using Nat.le_induction with
    | base => exact Nat.le_refl _
    | succ late _ ih =>
        refine Nat.le_trans ih ?_
        have quiet := run.quiet late
        change _ ≤ (IndexRuntime.step config (loopTrace config start schedule late) (schedule late)).now
        cases event : schedule late with
        | advance => exact (advance_now config _).symm.le
        | elapse duration => exact Nat.le_add_right _ _
        | _ =>
            rw [event] at quiet
            cases quiet
  obtain ⟨moment, late⟩ := run.clock bound
  exact ⟨max time moment, Nat.le_max_left _ _, Nat.le_trans late (grows moment _ (Nat.le_max_right _ _))⟩

theorem stage_leads_to (early late : IndexRuntime tree → Prop)
    (waits : ∀ runtime duration, early runtime → early { runtime with now := runtime.now + duration })
    (moves : ∀ runtime, early runtime → late (runtime.advance config)) : LeadsTo (loopTrace config start schedule) early late := by
  refine leads_to_fair (IndexRuntime.step config) start schedule (· = .advance) Quiet early late run.quiet run.fair ?_ ?_
  · intro runtime event holds quiet other
    cases event with
    | advance => exact absurd rfl other
    | elapse duration => exact waits runtime duration holds
    | _ => cases quiet
  · intro runtime event holds _ taken
    rw [taken]
    exact moves runtime holds

-- A condition that persists until it is left meets any moment of the clock.
theorem moment_leads_to (early late : IndexRuntime tree → Prop) (moment : Nat)
    (waits : ∀ runtime duration, early runtime → early { runtime with now := runtime.now + duration })
    (moves : ∀ runtime, early runtime → early (runtime.advance config) ∨ late (runtime.advance config)) :
    LeadsTo (loopTrace config start schedule) early (fun runtime => late runtime ∨ early runtime ∧ moment ≤ runtime.now) := by
  refine leads_to_meeting (fun runtime : IndexRuntime tree => moment ≤ runtime.now) (fun time holds => ?_) (clock_later run moment)
  have quiet := run.quiet time
  change early (IndexRuntime.step config (loopTrace config start schedule time) (schedule time)) ∨
    late (IndexRuntime.step config (loopTrace config start schedule time) (schedule time))
  cases event : schedule time with
  | advance => exact moves _ holds
  | elapse duration => exact .inl (waits _ duration holds)
  | _ =>
      rw [event] at quiet
      cases quiet

theorem timed_leads_to (early late : IndexRuntime tree → Prop) (wake : IndexRuntime tree → Nat)
    (waits : ∀ runtime duration, early runtime → early { runtime with now := runtime.now + duration } ∧
      wake { runtime with now := runtime.now + duration } = wake runtime)
    (moves : ∀ runtime, early runtime → runtime.advance config = runtime ∧ runtime.now < wake runtime ∨ late (runtime.advance config)) :
    LeadsTo (loopTrace config start schedule) early late := by
  intro time holds
  generalize due : wake (loopTrace config start schedule time) = moment
  have meeting : LeadsTo (loopTrace config start schedule) (fun runtime => early runtime ∧ wake runtime = moment)
      (fun runtime => late runtime ∨ (early runtime ∧ wake runtime = moment) ∧ moment ≤ runtime.now) := by
    refine moment_leads_to run _ late moment (fun runtime duration waiting => ?_) (fun runtime waiting => ?_)
    · obtain ⟨kept, same⟩ := waits runtime duration waiting.1
      exact ⟨kept, same.trans waiting.2⟩
    · rcases moves runtime waiting.1 with ⟨same, _⟩ | left
      · rw [same]
        exact .inl waiting
      · exact .inr left
  have ends : LeadsTo (loopTrace config start schedule) (fun runtime => early runtime ∧ wake runtime ≤ runtime.now) late := by
    refine stage_leads_to run _ late (fun runtime duration due => ?_) (fun runtime due => ?_)
    · obtain ⟨kept, same⟩ := waits runtime duration due.1
      exact ⟨kept, same ▸ Nat.le_trans due.2 (Nat.le_add_right _ _)⟩
    · exact (moves runtime due.1).resolve_left (fun early => absurd due.2 (Nat.not_le.mpr early.2))
  have left : LeadsTo (loopTrace config start schedule) late late := leads_to_of_imp (fun _ left => left)
  refine leads_to_trans meeting (leads_to_or left (leads_to_mono (fun _ waiting => ?_) ends (fun _ left => left))) time ⟨holds, due⟩
  exact ⟨waiting.1.1, waiting.1.2 ▸ waiting.2⟩

-- What the stages of the loop carry along.
variable {held : IndexRuntime tree → Prop}
  (stable : ∀ runtime event, held runtime → Quiet event → held (runtime.step config event))

include stable

theorem held_leads_to (early late : IndexRuntime tree → Prop)
    (waits : ∀ runtime duration, early runtime → early { runtime with now := runtime.now + duration })
    (moves : ∀ runtime, held runtime → early runtime → late (runtime.advance config)) :
    LeadsTo (loopTrace config start schedule) (fun runtime => held runtime ∧ early runtime) (fun runtime => held runtime ∧ late runtime) := by
  refine stage_leads_to run _ _ (fun runtime duration now => ?_) (fun runtime now => ?_)
  · exact ⟨stable runtime (.elapse duration) now.1 trivial, waits runtime duration now.2⟩
  · exact ⟨stable runtime .advance now.1 trivial, moves runtime now.1 now.2⟩

-- The select ends at a notification, or at the latest at the next poll tick.
theorem select_leads_to (also : System tree → Prop) :
    LeadsTo (loopTrace config start schedule) (fun runtime => held runtime ∧ runtime.point = .select ∧ also runtime.system)
      (fun runtime => held runtime ∧ runtime.point = .drain ∧ runtime.syncRequested = true ∧ also runtime.system) := by
  refine timed_leads_to run _ _ (fun runtime => runtime.nextPoll) (fun runtime duration early => ?_) (fun runtime early => ?_)
  · exact ⟨⟨stable runtime (.elapse duration) early.1 trivial, early.2⟩, rfl⟩
  · obtain ⟨kept, here, fits⟩ := early
    rcases select_cases config runtime here with waits | ⟨point, requested, same⟩
    · exact .inl waits
    · exact .inr ⟨stable runtime .advance kept trivial, point, requested, by rw [same]; exact fits⟩

def wakeTime : LoopPoint → Nat
  | .sleeping wake => wake
  | _ => 0

theorem sleeping_leads_to :
    LeadsTo (loopTrace config start schedule) (fun runtime => held runtime ∧ ∃ wake, runtime.point = .sleeping wake)
      (fun runtime => held runtime ∧ runtime.point = .drain) := by
  refine timed_leads_to run _ _ (fun runtime => wakeTime runtime.point) (fun runtime duration early => ?_) (fun runtime early => ?_)
  · exact ⟨⟨stable runtime (.elapse duration) early.1 trivial, early.2⟩, rfl⟩
  · obtain ⟨kept, wake, here⟩ := early
    have next := stable runtime .advance kept trivial
    simp only [IndexRuntime.step, IndexRuntime.advance, here] at next ⊢
    by_cases due : wake ≤ runtime.now
    · rw [if_pos due] at next ⊢
      exact .inr ⟨next, rfl⟩
    · rw [if_neg due]
      exact .inl ⟨rfl, Nat.lt_of_not_le due⟩

theorem turn_leads_to (goal : System tree → Prop) :
    LeadsTo (loopTrace config start schedule)
      (fun runtime => held runtime ∧ runtime.point = .turn ∧ Eventually (System.step config) goal runtime.system)
      (fun runtime => held runtime ∧ runtime.point = .turn ∧ goal runtime.system) := by
  intro time holds
  obtain ⟨kept, here, steps, met⟩ := holds
  induction steps generalizing time with
  | zero => exact ⟨time, Nat.le_refl _, kept, here, met⟩
  | succ steps ih =>
      by_cases idle : (loopTrace config start schedule time).system.point = .idle
      · exact ⟨time, Nat.le_refl _, kept, here, eventually_idle config _ goal idle ⟨steps + 1, met⟩⟩
      · obtain ⟨between, order, kept', here', met'⟩ := held_leads_to run stable
          (fun runtime => runtime.point = .turn ∧ runtime.system.point ≠ .idle ∧ goal ((System.step config)^[steps + 1] runtime.system))
          (fun runtime => runtime.point = .turn ∧ goal ((System.step config)^[steps] runtime.system)) (fun _ _ early => early)
          (fun runtime _ early => by
            simp only [IndexRuntime.advance, early.1, if_neg early.2.1]
            exact ⟨trivial, early.2.2⟩)
          time ⟨kept, here, idle, met⟩
        obtain ⟨later, order', final⟩ := ih between kept' here' met'
        exact ⟨later, Nat.le_trans order order', final⟩

theorem select_returns :
    LeadsTo (loopTrace config start schedule) (fun runtime => held runtime ∧ (runtime.point = .drain ∨ runtime.point = .select))
      (fun runtime => held runtime ∧ runtime.point = .drain) := by
  intro time holds
  rcases holds.2 with here | here
  · exact ⟨time, Nat.le_refl _, holds.1, here⟩
  · obtain ⟨later, order, kept, there, _⟩ := select_leads_to run stable (fun _ => True) time ⟨holds.1, here, trivial⟩
    exact ⟨later, order, kept, there⟩

variable {chain : CanonicalChain tree} (based : ∀ runtime, held runtime → QuietBase config chain runtime)

include based

theorem turn_returns :
    LeadsTo (loopTrace config start schedule) (fun runtime => held runtime ∧ runtime.point = .turn)
      (fun runtime => held runtime ∧ (runtime.point = .drain ∨ runtime.point = .select)) := by
  refine leads_to_trans (fun time holds => ?_)
    (held_leads_to run stable
      (fun runtime => runtime.point = .turn ∧ runtime.system.point = .idle ∧ runtime.system.result = some (.ok ())) _
      (fun _ _ early => early) (fun runtime _ early => ?_))
  · have going := (based _ holds.1).going
    simp only [holds.2] at going
    obtain ⟨later, order, kept, here, idle, succeeded, _⟩ := turn_leads_to run stable _ time ⟨holds.1, holds.2, going⟩
    exact ⟨later, order, kept, here, idle, succeeded⟩
  · obtain ⟨here, idle, succeeded⟩ := early
    simp only [IndexRuntime.advance, here, if_pos idle, IndexRuntime.finishTurn, succeeded]
    by_cases backfill : runtime.system.phase = .backfill
    · rw [if_pos backfill]
      exact .inl rfl
    · rw [if_neg backfill]
      exact .inr rfl

theorem request_returns :
    LeadsTo (loopTrace config start schedule) (fun runtime => held runtime ∧ runtime.point = .request)
      (fun runtime => held runtime ∧ runtime.point = .drain) := by
  refine leads_to_trans (held_leads_to run stable _ (fun runtime => runtime.point = .turn ∨ runtime.point = .select)
    (fun _ _ early => early) (fun runtime _ here => ?_)) (fun time holds => ?_)
  · simp only [IndexRuntime.advance, here, IndexRuntime.requestStep]
    split
    · exact .inl rfl
    · exact .inr rfl
  · rcases holds.2 with here | here
    · exact leads_to_trans (turn_returns run stable based) (select_returns run stable) time ⟨holds.1, here⟩
    · exact select_returns run stable time ⟨holds.1, .inr here⟩

theorem loop_returns : LeadsTo (loopTrace config start schedule) held (fun runtime => held runtime ∧ runtime.point = .drain) := by
  intro time holds
  have returns := request_returns run stable based
  cases here : (loopTrace config start schedule time).point with
  | drain => exact ⟨time, Nat.le_refl _, holds, here⟩
  | deferCheck =>
      refine leads_to_trans (held_leads_to run stable (fun runtime => runtime.point = .deferCheck) _ (fun _ _ early => early)
        (fun runtime _ here => ?_)) returns time ⟨holds, here⟩
      simp only [IndexRuntime.advance, here, IndexRuntime.deferCheckStep]
      split
      · rfl
      · rfl
  | request => exact returns time ⟨holds, here⟩
  | turn => exact leads_to_trans (turn_returns run stable based) (select_returns run stable) time ⟨holds, here⟩
  | sleeping wake => exact sleeping_leads_to run stable time ⟨holds, wake, here⟩
  | select => exact select_returns run stable time ⟨holds, .inr here⟩
  | stopped =>
      have going := (based _ holds).going
      simp only [here] at going

end Schedule

section CatchingUp

variable {config : ReferenceIndexConfig} {chain : CanonicalChain tree} (reached : config.jadeTimestamp ≤ chain.head.timestamp)
  {start : IndexRuntime tree} {schedule : Nat → LoopEvent tree} (run : FairQuiet config start schedule)

include reached run

theorem base_drains :
    LeadsTo (loopTrace config start schedule) (QuietBase config chain)
      (fun runtime => QuietBase config chain runtime ∧ (runtime.notificationsOpen = true → runtime.pending = [])) := by
  have stable : ∀ (runtime : IndexRuntime tree) event, QuietBase config chain runtime → Quiet event →
      QuietBase config chain (runtime.step config event) :=
    fun runtime event base quiet => quiet_base_step config chain runtime base reached event quiet
  refine leads_to_trans (loop_returns run stable (fun _ base => base))
    (held_leads_to run stable _ _ (fun _ _ early => early) (fun runtime _ here => ?_))
  simp only [IndexRuntime.advance, here]
  by_cases opened : runtime.notificationsOpen = true
  · rw [if_pos opened]
    exact fun _ => rfl
  · rw [if_neg opened]
    exact fun still => absurd still opened

-- Once the window of the last counted blocks is over, nothing is deferred.
theorem base_calms :
    LeadsTo (loopTrace config start schedule)
      (fun runtime => QuietBase config chain runtime ∧ (runtime.notificationsOpen = true → runtime.pending = []))
      (fun runtime => QuietBase config chain runtime ∧ Calm runtime) := by
  intro time holds
  generalize window : (loopTrace config start schedule time).detector.windowStarted = started
  have meeting : LeadsTo (loopTrace config start schedule)
      (fun runtime => QuietBase config chain runtime ∧ (runtime.notificationsOpen = true → runtime.pending = []) ∧
        runtime.detector.windowStarted = started)
      (fun runtime => (QuietBase config chain runtime ∧ Calm runtime) ∨
        (QuietBase config chain runtime ∧ (runtime.notificationsOpen = true → runtime.pending = []) ∧
          runtime.detector.windowStarted = started) ∧ started + rapidSyncWindow ≤ runtime.now) := by
    refine moment_leads_to run _ _ _ (fun runtime duration early => ?_) (fun runtime early => ?_)
    · exact ⟨quiet_base_step config chain runtime early.1 reached (.elapse duration) trivial, early.2⟩
    · obtain ⟨base, drained, same⟩ := early
      have next := quiet_base_step config chain runtime base reached .advance trivial
      obtain ⟨drainedNext, unchanged | reset⟩ := drained_advance config runtime drained
      · exact .inl ⟨next, drainedNext, by rw [unchanged]; exact same⟩
      · rw [RapidSyncDetector.resetExpiredWindow] at reset
        split at reset
        · exact .inr ⟨next, drainedNext, .inl (by rw [reset]; exact Nat.zero_le _)⟩
        · exact .inl ⟨next, drainedNext, by rw [reset]; exact same⟩
  obtain ⟨later, order, met⟩ := meeting time ⟨holds.1, holds.2, window⟩
  refine ⟨later, order, ?_⟩
  rcases met with calm | ⟨⟨base, drained, same⟩, expired⟩
  · exact calm
  · exact ⟨base, drained, .inr (by rw [same]; exact expired)⟩

def Steered (config : ReferenceIndexConfig) (chain : CanonicalChain tree) (runtime : IndexRuntime tree) : Prop :=
  QuietBase config chain runtime ∧ Calm runtime

omit run in
theorem steered_step (runtime : IndexRuntime tree) (event : LoopEvent tree) (steered : Steered config chain runtime) (quiet : Quiet event) :
    Steered config chain (runtime.step config event) :=
  ⟨quiet_base_step config chain runtime steered.1 reached event quiet, calm_step config runtime steered.2 event quiet⟩

def Begun (config : ReferenceIndexConfig) (chain : CanonicalChain tree) (first : Nat) (runtime : IndexRuntime tree) : Prop :=
  Steered config chain runtime ∧ runtime.point = .turn ∧ Eventually (System.step config) (Advanced first) runtime.system

variable (first : Nat)

theorem drain_leads_to_request (requested : Prop) :
    LeadsTo (loopTrace config start schedule)
      (fun runtime => Steered config chain runtime ∧ runtime.point = .drain ∧ Ahead first runtime.system ∧
        (requested → runtime.syncRequested = true))
      (fun runtime => Steered config chain runtime ∧ runtime.point = .request ∧ Ahead first runtime.system ∧
        (requested → runtime.syncRequested = true)) := by
  refine leads_to_trans
    (held_leads_to run (steered_step reached) _ (fun runtime => runtime.point = .deferCheck ∧ Ahead first runtime.system ∧
      (requested → runtime.syncRequested = true)) (fun _ _ early => early) (fun runtime _ early => ?_))
    (held_leads_to run (steered_step reached) _ _ (fun _ _ early => early) (fun runtime steered early => ?_))
  · obtain ⟨here, ahead, asked⟩ := early
    simp only [IndexRuntime.advance, here]
    by_cases opened : runtime.notificationsOpen = true
    · rw [if_pos opened]
      refine ⟨rfl, ahead, fun wanted => ?_⟩
      simp only [IndexRuntime.drainReadyBroadcast, asked wanted, Bool.true_or]
    · rw [if_neg opened]
      exact ⟨rfl, ahead, asked⟩
  · obtain ⟨here, ahead, asked⟩ := early
    simp only [IndexRuntime.advance, here, IndexRuntime.deferCheckStep, calm_never_defers runtime steered.2, Bool.false_and, Bool.not_false]
    by_cases already : runtime.syncRequested = true
    · rw [if_pos already]
      exact ⟨rfl, ahead, fun _ => rfl⟩
    · rw [if_neg already]
      exact ⟨rfl, ahead, asked⟩

omit run in
theorem request_begins (runtime : IndexRuntime tree) (steered : Steered config chain runtime) (here : runtime.point = .request)
    (ahead : Ahead first runtime.system) (asked : runtime.syncRequested = true) : Begun config chain first (runtime.advance config) := by
  have next := steered_step reached runtime .advance steered trivial
  have agrees := quiet_base_agrees config chain runtime steered.1 (by rw [here]; trivial)
  have idle := steered.1.kept.between (by rw [here]; nofun)
  have arrived : config.jadeTimestamp ≤ runtime.system.chain.head.timestamp := by
    rw [steered.1.chain]
    exact reached
  simp only [IndexRuntime.step, IndexRuntime.advance, here, IndexRuntime.requestStep, if_pos asked, calm_never_defers runtime steered.2] at next ⊢
  exact ⟨next, rfl, turn_advances config runtime.system first steered.1.kept.sound idle agrees arrived ahead⟩

theorem requested_turn_begins :
    LeadsTo (loopTrace config start schedule)
      (fun runtime => Steered config chain runtime ∧ runtime.point = .drain ∧ runtime.syncRequested = true ∧ Ahead first runtime.system)
      (Begun config chain first) := by
  refine leads_to_trans
    (leads_to_mono (fun _ holds => ?_) (drain_leads_to_request reached run first True) (fun _ met => met))
    (stage_leads_to run _ _ (fun runtime duration early => ?_) (fun runtime early => ?_))
  · obtain ⟨steered, here, asked, ahead⟩ := holds
    exact ⟨steered, here, ahead, fun _ => asked⟩
  · exact ⟨steered_step reached runtime (.elapse duration) early.1 trivial, early.2⟩
  · obtain ⟨steered, here, ahead, asked⟩ := early
    exact request_begins reached first runtime steered here ahead (asked trivial)

-- Where no turn is asked for, the next poll asks for one.
theorem turn_begins :
    LeadsTo (loopTrace config start schedule)
      (fun runtime => Steered config chain runtime ∧ runtime.point = .drain ∧ Ahead first runtime.system) (Begun config chain first) := by
  have stable := steered_step reached
  have asks : LeadsTo (loopTrace config start schedule)
      (fun runtime => Steered config chain runtime ∧ runtime.point = .request ∧ Ahead first runtime.system)
      (fun runtime => Begun config chain first runtime ∨ Steered config chain runtime ∧ runtime.point = .select ∧ Ahead first runtime.system) := by
    refine stage_leads_to run _ _ (fun runtime duration early => ?_) (fun runtime early => ?_)
    · exact ⟨stable runtime (.elapse duration) early.1 trivial, early.2⟩
    · obtain ⟨steered, here, ahead⟩ := early
      by_cases asked : runtime.syncRequested = true
      · exact .inl (request_begins reached first runtime steered here ahead asked)
      · have next := stable runtime .advance steered trivial
        simp only [IndexRuntime.step, IndexRuntime.advance, here, IndexRuntime.requestStep, if_neg asked] at next ⊢
        exact .inr ⟨next, rfl, ahead⟩
  have polls := leads_to_trans (select_leads_to run stable (Ahead first)) (requested_turn_begins reached run first)
  refine leads_to_trans
    (leads_to_mono (fun _ holds => ?_) (drain_leads_to_request reached run first False) (fun _ met => ⟨met.1, met.2.1, met.2.2.1⟩))
    (leads_to_trans asks (leads_to_or (leads_to_of_imp (fun _ begun => begun)) polls))
  exact ⟨holds.1, holds.2.1, holds.2.2, False.elim⟩

def LoopSynced (config : ReferenceIndexConfig) (chain : CanonicalChain tree) (runtime : IndexRuntime tree) : Prop :=
  Synced config runtime.system ∧ Calm runtime ∧ runtime.system.chain = chain

-- A turn that began ends at the head, or is followed by another one a batch
-- further on.
theorem begun_leads_to :
    LeadsTo (loopTrace config start schedule) (Begun config chain first)
      (fun runtime => LoopSynced config chain runtime ∨ Begun config chain (first + defaultBackfillBatchBlocks) runtime ∧
        first + defaultBackfillBatchBlocks ≤ chain.head.number + 1) := by
  have stable := steered_step reached
  have ends : LeadsTo (loopTrace config start schedule)
      (fun runtime => Steered config chain runtime ∧ runtime.point = .turn ∧ Advanced first runtime.system)
      (fun runtime => LoopSynced config chain runtime ∨ (Steered config chain runtime ∧ runtime.point = .drain ∧ runtime.syncRequested = true ∧
        Ahead (first + defaultBackfillBatchBlocks) runtime.system) ∧ first + defaultBackfillBatchBlocks ≤ chain.head.number + 1) := by
    refine stage_leads_to run _ _ (fun runtime duration early => ?_) (fun runtime early => ?_)
    · exact ⟨stable runtime (.elapse duration) early.1 trivial, early.2⟩
    · obtain ⟨steered, here, advanced⟩ := early
      have next := stable runtime .advance steered trivial
      obtain ⟨cursor, following, phase⟩ := advanced.cursor
      simp only [IndexRuntime.step, IndexRuntime.advance, here, if_pos advanced.idle, IndexRuntime.finishTurn, advanced.succeeded] at next ⊢
      rcases phase with ⟨live, atHead⟩ | ⟨backfill, further⟩
      · have other : runtime.system.phase ≠ .backfill := by simp [live]
        rw [if_neg other] at next ⊢
        rw [atHead] at following
        refine .inl ⟨⟨next.1.kept.sound, ?_, live, advanced.installed, following, ?_⟩, next.2, next.1.chain⟩
        · rw [next.1.chain]
          exact reached
        · change SyncedPoint _ runtime.system.point
          rw [advanced.idle]
          trivial
      · rw [if_pos backfill] at next ⊢
        have inside := following.inside
        rw [steered.1.chain] at inside
        exact .inr ⟨⟨next, rfl, rfl, .inr ⟨cursor, following, further⟩⟩, by omega⟩
  have again := requested_turn_begins reached run (first + defaultBackfillBatchBlocks)
  refine leads_to_trans (turn_leads_to run stable (Advanced first)) (leads_to_trans ends (fun time holds => ?_))
  rcases holds with synced | ⟨drain, within⟩
  · exact ⟨time, Nat.le_refl _, .inl synced⟩
  · obtain ⟨later, order, begun⟩ := again time drain
    exact ⟨later, order, .inr ⟨begun, within⟩⟩

theorem begun_catches_up : LeadsTo (loopTrace config start schedule) (Begun config chain first) (LoopSynced config chain) := by
  induction gap : chain.head.number + 1 - first using Nat.strongRecOn generalizing first with
  | ind gap ih =>
      intro time holds
      obtain ⟨between, order, met⟩ := begun_leads_to reached run first time holds
      rcases met with synced | ⟨begun, within⟩
      · exact ⟨between, order, synced⟩
      · have batch : defaultBackfillBatchBlocks = 512 := rfl
        obtain ⟨later, order', synced⟩ := ih (chain.head.number + 1 - (first + defaultBackfillBatchBlocks)) (by omega) _ rfl between begun
        exact ⟨later, Nat.le_trans order order', synced⟩

theorem base_catches_up : LeadsTo (loopTrace config start schedule) (QuietBase config chain) (LoopSynced config chain) := by
  have returns : LeadsTo (loopTrace config start schedule) (Steered config chain)
      (fun runtime => Steered config chain runtime ∧ runtime.point = .drain ∧ Ahead 0 runtime.system) :=
    leads_to_mono (fun _ steered => steered) (loop_returns run (steered_step reached) (fun _ steered => steered.1))
      (fun _ drained => ⟨drained.1, drained.2, .inl rfl⟩)
  have calms := leads_to_trans (base_drains reached run) (base_calms reached run)
  exact leads_to_trans calms (leads_to_trans returns (leads_to_trans (turn_begins reached run 0) (begun_catches_up reached run 0)))

end CatchingUp

theorem finish_turn_system (runtime : IndexRuntime tree) : runtime.finishTurn.system = runtime.system := by
  rw [IndexRuntime.finishTurn]
  repeat' split
  all_goals rfl

theorem synced_advance (config : ReferenceIndexConfig) (runtime : IndexRuntime tree) (synced : Synced config runtime.system)
    (calm : Calm runtime) :
    Synced config (runtime.advance config).system ∧ (runtime.advance config).system.chain = runtime.system.chain := by
  by_cases waiting : Waiting runtime.point
  · rw [(waiting_advance config runtime waiting).1]
    exact ⟨synced, rfl⟩
  · cases here : runtime.point with
    | request =>
        simp only [IndexRuntime.advance, here, IndexRuntime.requestStep, calm_never_defers runtime calm]
        split
        · refine ⟨synced_begin config runtime.system synced, ?_⟩
          rw [System.apply]
          split
          · exact (open_keeps_chain config _ false).1
          · rfl
        · exact ⟨synced, rfl⟩
    | turn =>
        simp only [IndexRuntime.advance, here]
        split
        · rw [finish_turn_system]
          exact ⟨synced, rfl⟩
        · exact ⟨synced_step config runtime.system synced, (step_keeps_chain config runtime.system).1⟩
    | stopped =>
        rw [IndexRuntime.advance, here]
        exact ⟨synced, rfl⟩
    | drain | deferCheck | sleeping | select =>
        rw [here] at waiting
        exact absurd trivial waiting

theorem loop_synced_step {config : ReferenceIndexConfig} {chain : CanonicalChain tree} {runtime : IndexRuntime tree}
    {event : LoopEvent tree} (synced : LoopSynced config chain runtime) (quiet : Quiet event) :
    LoopSynced config chain (runtime.step config event) := by
  obtain ⟨atHead, calm, sameChain⟩ := synced
  have next := calm_step config runtime calm event quiet
  cases event with
  | elapse duration => exact ⟨atHead, next, sameChain⟩
  | advance =>
      obtain ⟨kept, same⟩ := synced_advance config runtime atHead calm
      exact ⟨kept, next, same.trans sameChain⟩
  | _ => cases quiet

theorem loop_stays_synced {config : ReferenceIndexConfig} {chain : CanonicalChain tree} {start : IndexRuntime tree}
    {schedule : Nat → LoopEvent tree} (quiet : ∀ time, Quiet (schedule time)) {time later : Nat} (order : time ≤ later)
    (synced : LoopSynced config chain (loopTrace config start schedule time)) :
    LoopSynced config chain (loopTrace config start schedule later) := by
  induction later, order using Nat.le_induction with
  | base => exact synced
  | succ later _ ih => exact loop_synced_step ih (quiet later)

def runtimeAfter (config : ReferenceIndexConfig) (chain : CanonicalChain tree) (finalized : Option Nat) (history : List (LoopEvent tree)) :
    IndexRuntime tree :=
  runSteps (IndexRuntime.step config) (IndexRuntime.start (System.start chain finalized) 0 [] false) history

theorem quiet_chain_is_caught_up (config : ReferenceIndexConfig) (chain : CanonicalChain tree) (finalized : Option Nat)
    (history : List (LoopEvent tree)) (schedule : Nat → LoopEvent tree) (initial : LegalStart chain finalized)
    (legal : EachAllowed (IndexRuntime.step config) LoopAllowed (IndexRuntime.start (System.start chain finalized) 0 [] false) history)
    (between : Between (runtimeAfter config chain finalized history).point)
    (agrees : AgreesAtFloor config (runtimeAfter config chain finalized history).system)
    (reached : config.jadeTimestamp ≤ (runtimeAfter config chain finalized history).system.chain.head.timestamp)
    (run : FairQuiet config (runtimeAfter config chain finalized history) schedule) :
    ∃ time, ∀ later, time ≤ later → ∀ query,
      (loopTrace config (runtimeAfter config chain finalized history) schedule later).system.queryAt query
          (runtimeAfter config chain finalized history).system.chain.head =
        .ok (query.page ((runtimeAfter config chain finalized history).system.chain.referenceList config.jadeTimestamp query.reference)) := by
  have kept := loop_sound_run initial legal
  have base := quiet_base_between config _ (runtimeAfter config chain finalized history) kept rfl between agrees
  obtain ⟨time, _, synced⟩ := base_catches_up reached run 0 base
  refine ⟨time, fun later order query => ?_⟩
  obtain ⟨atHead, _, sameChain⟩ := loop_stays_synced run.quiet order synced
  rw [← sameChain]
  exact synced_answers config _ atHead query

section Sample

-- The clock and the runtime move in turns.
def alternating (time : Nat) : LoopEvent forkedTree :=
  if time % 2 = 0 then .elapse second else .advance

theorem alternating_now (start : IndexRuntime forkedTree) (rounds : Nat) :
    (loopTrace sampleConfig start alternating (2 * rounds)).now = start.now + rounds * second := by
  induction rounds with
  | zero => simp [loopTrace, stateAt]
  | succ rounds ih =>
      have even : alternating (2 * rounds) = .elapse second := if_pos (by omega)
      have odd : alternating (2 * rounds + 1) = .advance := if_neg (by omega)
      have unfolded : loopTrace sampleConfig start alternating (2 * (rounds + 1)) =
          ((loopTrace sampleConfig start alternating (2 * rounds)).step sampleConfig (alternating (2 * rounds))).step sampleConfig
            (alternating (2 * rounds + 1)) := rfl
      rw [unfolded, even, odd, IndexRuntime.step, advance_now, IndexRuntime.step]
      change (loopTrace sampleConfig start alternating (2 * rounds)).now + second = _
      rw [ih, Nat.add_mul, Nat.one_mul, Nat.add_assoc]

theorem alternating_fair (start : IndexRuntime forkedTree) : FairQuiet sampleConfig start alternating := by
  refine ⟨fun time => ?_, fun time => ⟨2 * time + 1, by omega, if_neg (by omega)⟩, fun bound => ⟨2 * bound, ?_⟩⟩
  · rw [alternating]
    split
    · trivial
    · trivial
  · rw [alternating_now, second]
    omega

-- The first poll has the short chain indexed; then the chain is reorganised.
def reorgHistory : List (LoopEvent forkedTree) :=
  List.replicate 3 .advance ++ .elapse second :: (List.replicate 24 .advance ++ [.chainChange secondBranch none])

theorem quiet_chain_is_caught_up_sample :
    (runtimeAfter sampleConfig shortChain none reorgHistory).system.db.indexedBlockHash 1 = some 0xA1 ∧ ∃ time, ∀ later, time ≤ later →
      (loopTrace sampleConfig (runtimeAfter sampleConfig shortChain none reorgHistory) alternating later).system.queryAt sampleQuery
        secondBranch.head = .ok [canonicalResult] := by
  have point : (runtimeAfter sampleConfig shortChain none reorgHistory).point = .select := by decide +kernel
  obtain ⟨time, answered⟩ := quiet_chain_is_caught_up sampleConfig shortChain none reorgHistory alternating ⟨by decide +kernel, by decide⟩
    (by decide +kernel) (by rw [point]; trivial)
    (agrees_at_genesis _ (by decide +kernel) (by decide +kernel) (by decide +kernel) (by decide +kernel)) (Nat.zero_le _) (alternating_fair _)
  exact ⟨by decide +kernel, time, fun later order => (answered later order sampleQuery).trans (congrArg Except.ok second_branch_page)⟩

end Sample

end MorphReth.ReferenceIndex
