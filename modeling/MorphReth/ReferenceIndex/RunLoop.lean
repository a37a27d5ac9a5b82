import MorphReth.ReferenceIndex.CatchUp

set_option autoImplicit false

namespace MorphReth.ReferenceIndex

-- Times are in nanoseconds.
def second : Nat := 1000000000

def rapidSyncBlockThreshold : Nat := 64

def rapidSyncWindow : Nat := 2 * second

def reconcilePollInterval : Nat := second

def maxRetryBackoff : Nat := 30 * second

structure RapidSyncDetector where
  windowStarted : Nat
  blocksInWindow : Nat
  deriving DecidableEq, Repr

namespace RapidSyncDetector

def new (now : Nat) : RapidSyncDetector where
  windowStarted := now
  blocksInWindow := 0

def resetExpiredWindow (now : Nat) (detector : RapidSyncDetector) : RapidSyncDetector :=
  if rapidSyncWindow ≤ now - detector.windowStarted then { windowStarted := now, blocksInWindow := 0 } else detector

def recordBlocks (now blocks : Nat) (detector : RapidSyncDetector) : RapidSyncDetector :=
  let current := detector.resetExpiredWindow now
  { current with blocksInWindow := min (current.blocksInWindow + blocks) (2 ^ 64 - 1) }

def recordLagged (now : Nat) (detector : RapidSyncDetector) : RapidSyncDetector :=
  { detector.resetExpiredWindow now with blocksInWindow := rapidSyncBlockThreshold + 1 }

def shouldDefer (now : Nat) (detector : RapidSyncDetector) : Bool × RapidSyncDetector :=
  let current := detector.resetExpiredWindow now
  (rapidSyncBlockThreshold < current.blocksInWindow, current)

end RapidSyncDetector

-- What the receiver of canonical state notifications gets: the numbers of
-- committed and reverted blocks, or the number of notifications it missed.
inductive PendingBroadcastEvent where
  | item (committed reverted : Nat)
  | lagged (skipped : Nat)
  deriving DecidableEq, Repr

def observe (now : Nat) (detector : RapidSyncDetector) : PendingBroadcastEvent → RapidSyncDetector
  | .item committed reverted => detector.recordBlocks now (committed + reverted)
  | .lagged _ => detector.recordLagged now

inductive LoopPoint where
  | drain
  | deferCheck
  | request
  | turn
  | sleeping (wake : Nat)
  | select
  | stopped
  deriving DecidableEq, Repr

-- The runtime task with what it shares with the rest of the node: the chain
-- and the index, the clock, and the channel of notifications.
structure IndexRuntime (tree : BlockTree) where
  system : System tree
  now : Nat
  pending : List PendingBroadcastEvent
  closed : Bool
  detector : RapidSyncDetector
  notificationsOpen : Bool
  syncRequested : Bool
  retryBackoff : Nat
  nextPoll : Nat
  point : LoopPoint

variable {tree : BlockTree}

namespace IndexRuntime

-- The first tick of the poll interval is consumed before the loop.
def start (system : System tree) (now : Nat) (pending : List PendingBroadcastEvent) (closed : Bool) : IndexRuntime tree where
  system := system
  now := now
  pending := pending
  closed := closed
  detector := RapidSyncDetector.new now
  notificationsOpen := true
  syncRequested := false
  retryBackoff := second
  nextPoll := now + reconcilePollInterval
  point := .drain

def goto (runtime : IndexRuntime tree) (point : LoopPoint) : IndexRuntime tree :=
  { runtime with point := point }

def drainReadyBroadcast (runtime : IndexRuntime tree) : IndexRuntime tree :=
  { runtime with
    detector := runtime.pending.foldl (observe runtime.now) runtime.detector
    syncRequested := runtime.syncRequested || !runtime.pending.isEmpty
    pending := []
    notificationsOpen := !runtime.closed
    point := .deferCheck }

-- While a rapid sync lasts and the last turn was deferred, the index is left
-- alone.
def deferCheckStep (runtime : IndexRuntime tree) : IndexRuntime tree :=
  if runtime.syncRequested then
    let checked := runtime.detector.shouldDefer runtime.now
    { runtime with
      detector := checked.2
      syncRequested := !(checked.1 && decide (runtime.system.phase = .deferred))
      point := .request }
  else runtime.goto .request

def requestStep (config : ReferenceIndexConfig) (runtime : IndexRuntime tree) : IndexRuntime tree :=
  if runtime.syncRequested then
    let checked := runtime.detector.shouldDefer runtime.now
    { runtime with
      detector := checked.2
      system := runtime.system.apply config (.beginTurn checked.1)
      point := .turn }
  else runtime.goto .select

def finishTurn (runtime : IndexRuntime tree) : IndexRuntime tree :=
  match runtime.system.result with
  | none => runtime
  | some (.ok _) =>
      if runtime.system.phase = .backfill then { runtime with retryBackoff := second, syncRequested := true, point := .drain }
      else { runtime with retryBackoff := second, syncRequested := false, point := .select }
  | some (.error error) =>
      if error.requiresManualRebuild then runtime.goto .stopped
      else
        { runtime with
          retryBackoff := min (runtime.retryBackoff * 2) maxRetryBackoff
          syncRequested := true
          point := .sleeping (runtime.now + runtime.retryBackoff) }

-- A poll tick that comes late is not made up for.
def pollTick (runtime : IndexRuntime tree) : IndexRuntime tree :=
  { runtime with
    syncRequested := true
    nextPoll := runtime.now + reconcilePollInterval - (runtime.now - runtime.nextPoll) % reconcilePollInterval
    point := .drain }

def awaitPoll (runtime : IndexRuntime tree) : IndexRuntime tree :=
  if runtime.nextPoll ≤ runtime.now then runtime.pollTick else runtime

-- Notifications are taken before poll ticks.
def selectStep (runtime : IndexRuntime tree) : IndexRuntime tree :=
  if runtime.notificationsOpen then
    match runtime.pending with
    | event :: rest =>
        { runtime with
          detector := observe runtime.now runtime.detector event
          syncRequested := true
          pending := rest
          point := .drain }
    | [] => if runtime.closed then { runtime with notificationsOpen := false, syncRequested := true, point := .drain } else runtime.awaitPoll
  else runtime.awaitPoll

-- One step of the loop; during a turn, one step of the blocking task.
def advance (config : ReferenceIndexConfig) (runtime : IndexRuntime tree) : IndexRuntime tree :=
  match runtime.point with
  | .drain => if runtime.notificationsOpen then runtime.drainReadyBroadcast else runtime.goto .deferCheck
  | .deferCheck => runtime.deferCheckStep
  | .request => runtime.requestStep config
  | .turn => if runtime.system.point = .idle then runtime.finishTurn else { runtime with system := runtime.system.step config }
  | .sleeping wake => if wake ≤ runtime.now then runtime.goto .drain else runtime
  | .select => runtime.selectStep
  | .stopped => runtime

end IndexRuntime

-- A lost job is one that panicked, or was cancelled at shutdown. A crash is
-- followed by a new process on the same index.
inductive LoopEvent (tree : BlockTree) where
  | advance
  | elapse (duration : Nat)
  | notify (event : PendingBroadcastEvent)
  | close
  | chainChange (chain : CanonicalChain tree) (finalized : Option Nat)
  | providerFailure
  | jobLost (cancelled : Bool)
  | crash

namespace IndexRuntime

def loseJob (runtime : IndexRuntime tree) (cancelled : Bool) : IndexRuntime tree :=
  if runtime.system.point = .idle then runtime
  else
    { runtime with
      system := { runtime.system with phase := if cancelled then runtime.system.phase else .unavailable, point := .idle }
      point := .stopped }

def step (config : ReferenceIndexConfig) (runtime : IndexRuntime tree) : LoopEvent tree → IndexRuntime tree
  | .advance => runtime.advance config
  | .elapse duration => { runtime with now := runtime.now + duration }
  | .notify event => if runtime.closed then runtime else { runtime with pending := runtime.pending ++ [event] }
  | .close => { runtime with closed := true }
  | .chainChange chain finalized => { runtime with system := runtime.system.apply config (.chainChange chain finalized) }
  | .providerFailure => { runtime with system := runtime.system.apply config .providerFailure }
  | .jobLost cancelled => runtime.loseJob cancelled
  | .crash => start (runtime.system.apply config .crash) runtime.now [] false

end IndexRuntime

def LoopAllowed (runtime : IndexRuntime tree) : LoopEvent tree → Prop
  | .chainChange chain finalized => LegalEvent runtime.system (.chainChange chain finalized)
  | _ => True

instance (runtime : IndexRuntime tree) : (event : LoopEvent tree) → Decidable (LoopAllowed runtime event)
  | .chainChange chain finalized => inferInstanceAs (Decidable (LegalEvent runtime.system (.chainChange chain finalized)))
  | .advance | .elapse _ | .notify _ | .close | .providerFailure | .jobLost _ | .crash => isTrue trivial

-- The blocking task runs only while the loop waits for it.
structure LoopSound (config : ReferenceIndexConfig) (runtime : IndexRuntime tree) : Prop where
  sound : Sound config runtime.system
  between : runtime.point ≠ .turn → runtime.system.point = .idle

theorem turn_sound {config : ReferenceIndexConfig} {system : System tree} (sound : Sound config system) (phase : ReferenceIndexPhase) :
    Sound config { system with phase := phase, point := .idle } :=
  ⟨⟨⟨sound.steady.safe.content, trivial⟩, sound.steady.ordered, trivial⟩, sound.final, sound.known, sound.opened,
    fun running => absurd rfl running, sound.bounded, trivial⟩

theorem loop_sound_advance {config : ReferenceIndexConfig} {runtime : IndexRuntime tree} (kept : LoopSound config runtime) :
    LoopSound config (runtime.advance config) := by
  cases here : runtime.point with
  | drain =>
      have idle := kept.between (by rw [here]; nofun)
      simp only [IndexRuntime.advance, here]
      split
      · exact ⟨kept.sound, fun _ => idle⟩
      · exact ⟨kept.sound, fun _ => idle⟩
  | deferCheck =>
      have idle := kept.between (by rw [here]; nofun)
      simp only [IndexRuntime.advance, here, IndexRuntime.deferCheckStep]
      split
      · exact ⟨kept.sound, fun _ => idle⟩
      · exact ⟨kept.sound, fun _ => idle⟩
  | request =>
      have idle := kept.between (by rw [here]; nofun)
      simp only [IndexRuntime.advance, here, IndexRuntime.requestStep]
      split
      · exact ⟨sound_apply config runtime.system kept.sound (.beginTurn _) trivial, fun outside => absurd rfl outside⟩
      · exact ⟨kept.sound, fun _ => idle⟩
  | turn =>
      simp only [IndexRuntime.advance, here]
      split
      · next idle =>
          rw [IndexRuntime.finishTurn]
          split
          · exact kept
          · split
            · exact ⟨kept.sound, fun _ => idle⟩
            · exact ⟨kept.sound, fun _ => idle⟩
          · split
            · exact ⟨kept.sound, fun _ => idle⟩
            · exact ⟨kept.sound, fun _ => idle⟩
      · exact ⟨sound_step config runtime.system kept.sound, fun outside => absurd rfl outside⟩
  | sleeping wake =>
      have idle := kept.between (by rw [here]; nofun)
      simp only [IndexRuntime.advance, here]
      split
      · exact ⟨kept.sound, fun _ => idle⟩
      · exact kept
  | select =>
      have idle := kept.between (by rw [here]; nofun)
      simp only [IndexRuntime.advance, here, IndexRuntime.selectStep, IndexRuntime.awaitPoll]
      repeat' split
      all_goals exact ⟨kept.sound, fun _ => idle⟩
  | stopped =>
      simp only [IndexRuntime.advance, here]
      exact kept

theorem loop_sound_step (config : ReferenceIndexConfig) (runtime : IndexRuntime tree) (event : LoopEvent tree)
    (kept : LoopSound config runtime) (allowed : LoopAllowed runtime event) : LoopSound config (runtime.step config event) := by
  cases event with
  | advance => exact loop_sound_advance kept
  | elapse | close => exact ⟨kept.sound, kept.between⟩
  | notify event =>
      simp only [IndexRuntime.step]
      split
      · exact kept
      · exact ⟨kept.sound, kept.between⟩
  | chainChange chain finalized => exact ⟨sound_apply config runtime.system kept.sound (.chainChange chain finalized) allowed, kept.between⟩
  | providerFailure =>
      refine ⟨sound_apply config runtime.system kept.sound .providerFailure trivial, fun outside => ?_⟩
      have idle := kept.between outside
      simp only [IndexRuntime.step, System.apply, if_pos idle]
      exact idle
  | jobLost cancelled =>
      simp only [IndexRuntime.step, IndexRuntime.loseJob]
      split
      · exact kept
      · exact ⟨turn_sound kept.sound _, fun _ => rfl⟩
  | crash => exact ⟨sound_apply config runtime.system kept.sound .crash trivial, fun _ => rfl⟩

theorem loop_sound_run {config : ReferenceIndexConfig} {chain : CanonicalChain tree} {finalized : Option Nat} {now : Nat}
    {history : List (LoopEvent tree)} (initial : LegalStart chain finalized)
    (legal : EachAllowed (IndexRuntime.step config) LoopAllowed (IndexRuntime.start (System.start chain finalized) now [] false) history) :
    LoopSound config (runSteps (IndexRuntime.step config) (IndexRuntime.start (System.start chain finalized) now [] false) history) :=
  run_invariant _ _ (LoopSound config) (fun runtime event kept allowed => loop_sound_step config runtime event kept allowed) _ history
    ⟨sound_start config chain finalized initial, fun _ => rfl⟩ legal

end MorphReth.ReferenceIndex
