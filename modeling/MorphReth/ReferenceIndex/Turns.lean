import MorphReth.ReferenceIndex.Branches

set_option autoImplicit false

namespace MorphReth.ReferenceIndex

variable {tree : BlockTree}

section JadeSearch

variable (chain : CanonicalChain tree) (jadeTimestamp number timestamp : Nat) (found : chain.blockTimestamp number = some timestamp)

include found

theorem block_timestamp_at : ∃ inside : number < chain.hashes.length, (tree chain.hashes[number]).timestamp = timestamp := by
  obtain ⟨hash, present, same⟩ := Option.map_eq_some_iff.mp found
  obtain ⟨inside, rfl⟩ := List.getElem?_eq_some_iff.mp present
  exact ⟨inside, same⟩

theorem jade_start_at_most (reached : jadeTimestamp ≤ timestamp) : chain.jadeStart jadeTimestamp ≤ number := by
  obtain ⟨inside, rfl⟩ := block_timestamp_at chain number timestamp found
  by_contra later
  have early := List.not_of_lt_findIdx (Nat.lt_of_not_le later)
  exact absurd reached (by simpa using early)

-- Timestamps never decrease, so no block up to an early one reaches Jade.
theorem jade_start_above (ordered : chain.TimestampsOrdered) (early : timestamp < jadeTimestamp) :
    number < chain.jadeStart jadeTimestamp := by
  obtain ⟨inside, rfl⟩ := block_timestamp_at chain number timestamp found
  by_contra notAbove
  have atMost : chain.jadeStart jadeTimestamp ≤ number := Nat.le_of_not_lt notAbove
  have started : chain.jadeStart jadeTimestamp < chain.hashes.length := Nat.lt_of_le_of_lt atMost inside
  have reached : jadeTimestamp ≤ (tree chain.hashes[chain.jadeStart jadeTimestamp]).timestamp := by
    have first := List.findIdx_getElem (w := started)
    exact of_decide_eq_true first
  rcases Nat.eq_or_lt_of_le atMost with same | before
  · simp only [same] at reached
    omega
  · have later := List.pairwise_iff_getElem.mp ordered _ _ started inside before
    omega

end JadeSearch

-- What a turn knows about the chain it runs on, while that chain stays as it is.
def PointFixed (config : ReferenceIndexConfig) (system : System tree) : SyncPoint → Prop
  | .idle | .readHead _ | .verifyBatch _ _ _ _ _ | .commitBatch _ _ _ _ | .readCurrentHead _ _ => True
  | .resolveJade head low high => head = system.chain.head ∧ low ≤ system.chain.jadeStart config.jadeTimestamp ∧
      system.chain.jadeStart config.jadeTimestamp ≤ high ∧ high ≤ head.number
  | .readFinalized head jadeFirstBlock => head = system.chain.head ∧
      (system.db.indexedTo = none → jadeFirstBlock = system.chain.jadeStart config.jadeTimestamp)
  | .reconcile turn | .findAncestor turn _ _ => turn.head = system.chain.head ∧
      (system.db.indexedTo = none → turn.jadeFirstBlock = system.chain.jadeStart config.jadeTimestamp)
  | .rollback _ ancestor => system.chain.canonicalHash ancestor = system.db.indexedBlockHash ancestor
  | .readBatch turn => BatchFits config system turn

structure Steady (config : ReferenceIndexConfig) (system : System tree) : Prop where
  safe : Safe config system
  ordered : system.chain.TimestampsOrdered
  point : PointFixed config system system.point

theorem recorded_cursor (jadeTimestamp jadeFirstBlock : Nat) (db : ReferenceIndexDb) (content : OneBranch tree jadeTimestamp db)
    (recorded : db.jadeFirstBlockNumber = some jadeFirstBlock) : db.indexedTo ≠ none := by
  intro missing
  cases content with
  | inl blank => cases blank.jade.symm.trans recorded
  | inr branched =>
      obtain ⟨branch, lowest, indexed⟩ := branched
      cases missing.symm.trans indexed.cursor

section FixedSteps

variable (config : ReferenceIndexConfig) (system : System tree)

theorem fixed_reconcile (turn : TurnContext) (point : PointFixed config system (.reconcile turn)) :
    PointFixed config (system.reconcileStep turn) (system.reconcileStep turn).point := by
  obtain ⟨sameHead, resolved⟩ := point
  simp only [System.reconcileStep]
  split
  · next missing =>
      simp only [System.goto, PointFixed, BatchFits, missing]
      exact resolved missing
  · next cursor stored =>
      split
      · trivial
      · next indexedHash breadcrumb =>
          split
          · next atHead =>
              simp only [System.goto, PointFixed, BatchFits, stored]
              rw [← atHead.1, Nat.min_self] at breadcrumb
              rw [breadcrumb, atHead.2, atHead.1, sameHead]
              exact head_present system.chain
          · split
            · next onChain =>
                simp only [System.goto, PointFixed, BatchFits, stored]
                rw [Nat.min_eq_left (Nat.le_of_lt onChain.1)] at breadcrumb
                rw [breadcrumb, onChain.2]
            · exact ⟨sameHead, resolved⟩

theorem fixed_find_ancestor (turn : TurnContext) (rewindFloor number : Nat)
    (point : PointFixed config system (.findAncestor turn rewindFloor number)) :
    PointFixed config (system.findAncestorStep turn rewindFloor number) (system.findAncestorStep turn rewindFloor number).point := by
  simp only [System.findAncestorStep]
  split
  · trivial
  · next hash stored =>
      split
      · next canonical => exact canonical.trans stored.symm
      · split
        · trivial
        · exact point

theorem fixed_read_batch (turn : TurnContext) : PointFixed config (system.readBatchStep turn) (system.readBatchStep turn).point := by
  simp only [System.readBatchStep]
  split
  · trivial
  · split
    · trivial
    · trivial

theorem fixed_verify_batch (turn : TurnContext) (start stop : Nat) (blocks remaining : List CanonicalBlock) :
    PointFixed config (system.verifyBatchStep turn start stop blocks remaining)
      (system.verifyBatchStep turn start stop blocks remaining).point := by
  cases remaining with
  | nil => trivial
  | cons block rest =>
      simp only [System.verifyBatchStep]
      split
      · trivial
      · trivial

theorem fixed_commit_batch (turn : TurnContext) (start stop : Nat) (blocks : List CanonicalBlock) :
    PointFixed config (system.commitBatchStep turn start stop blocks) (system.commitBatchStep turn start stop blocks).point := by
  simp only [System.commitBatchStep]
  split
  · trivial
  · trivial

theorem fixed_read_current_head (stop : Nat) (blocks : List CanonicalBlock) :
    PointFixed config (system.readCurrentHeadStep stop blocks) (system.readCurrentHeadStep stop blocks).point := by
  simp only [System.readCurrentHeadStep]
  split
  · trivial
  · trivial

variable (steady : Steady config system)

include steady

theorem fixed_read_head (defer : Bool) : PointFixed config (system.readHeadStep config defer) (system.readHeadStep config defer).point := by
  simp only [System.readHeadStep]
  split
  · trivial
  · next reached =>
      split
      · trivial
      · split
        · next block recorded =>
            exact ⟨rfl, fun missing => absurd missing (recorded_cursor _ block system.db steady.safe.content recorded)⟩
        · refine ⟨rfl, Nat.zero_le _, ?_, Nat.le_refl _⟩
          apply jade_start_at_most system.chain config.jadeTimestamp _ system.chain.head.timestamp _ (Nat.le_of_not_lt reached)
          rw [CanonicalChain.blockTimestamp, CanonicalChain.canonicalHash, head_present]
          rfl

theorem fixed_resolve_jade (head : CanonicalTip) (low high : Nat) (point : PointFixed config system (.resolveJade head low high)) :
    PointFixed config (system.resolveJadeStep config head low high) (system.resolveJadeStep config head low high).point := by
  obtain ⟨sameHead, below, above, inside⟩ := point
  simp only [System.resolveJadeStep]
  split
  · split
    · trivial
    · next timestamp probed =>
        split
        · next early => exact ⟨sameHead, jade_start_above system.chain _ _ timestamp probed steady.ordered early, above, inside⟩
        · next late =>
            refine ⟨sameHead, below, jade_start_at_most system.chain _ _ timestamp probed (Nat.le_of_not_lt late), ?_⟩
            omega
  · exact ⟨sameHead, fun _ => by change low = system.chain.jadeStart config.jadeTimestamp; omega⟩

theorem fixed_rollback (turn : TurnContext) (ancestor : Nat) (here : system.point = .rollback turn ancestor) :
    PointFixed config (system.rollbackStep turn ancestor) (system.rollbackStep turn ancestor).point := by
  have safePoint := steady.safe.point
  have canonical := steady.point
  rw [here] at safePoint canonical
  obtain ⟨_, hash, stored⟩ := safePoint
  cases steady.safe.content with
  | inl blank =>
      rw [blank_breadcrumb system.db blank] at stored
      cases stored
  | inr branched =>
      obtain ⟨branch, lowest, indexed⟩ := branched
      obtain ⟨kept, within, _⟩ := indexed_breadcrumb _ _ _ _ branch hash indexed stored
      simp only [System.rollbackStep]
      split
      · next done =>
          have reached := rollback_done system.db _ ancestor _ indexed.cursor done
          simp only [System.goto, PointFixed, BatchFits, indexed.cursor]
          rw [Nat.le_antisymm reached within]
          exact canonical
      · next db rolled =>
          obtain ⟨_, _, _, _, _, sameHash⟩ := rollback_indexes _ lowest ancestor _ system.db db branch indexed kept rolled
          change PointFixed config { system with db := db } system.point
          rw [here]
          exact canonical.trans sameHash.symm

theorem fixed_step : PointFixed config (system.step config) (system.step config).point := by
  have point := steady.point
  cases here : system.point with
  | idle =>
      rw [System.step, here]
      exact point
  | readHead defer =>
      rw [System.step, here]
      exact fixed_read_head config system steady defer
  | resolveJade head low high =>
      rw [here] at point
      rw [System.step, here]
      exact fixed_resolve_jade config system steady head low high point
  | readFinalized head jadeFirstBlock =>
      rw [here] at point
      rw [System.step, here]
      exact point
  | reconcile turn =>
      rw [here] at point
      rw [System.step, here]
      exact fixed_reconcile config system turn point
  | findAncestor turn rewindFloor number =>
      rw [here] at point
      rw [System.step, here]
      exact fixed_find_ancestor config system turn rewindFloor number point
  | rollback turn ancestor =>
      rw [System.step, here]
      exact fixed_rollback config system steady turn ancestor here
  | readBatch turn =>
      rw [System.step, here]
      exact fixed_read_batch config system turn
  | verifyBatch turn start stop blocks remaining =>
      rw [System.step, here]
      exact fixed_verify_batch config system turn start stop blocks remaining
  | commitBatch turn start stop blocks =>
      rw [System.step, here]
      exact fixed_commit_batch config system turn start stop blocks
  | readCurrentHead stop blocks =>
      rw [System.step, here]
      exact fixed_read_current_head config system stop blocks

end FixedSteps

-- Finality only grows, and a finalized block stays canonical.
def FinalityKept (before : System tree) (chain : CanonicalChain tree) (finalized : Option Nat) : Prop :=
  (∀ number ∈ finalized, number ≤ chain.head.number) ∧
    ∀ old ∈ before.finalized, (∃ number ∈ finalized, old ≤ number) ∧ chain.canonicalHash old = before.chain.canonicalHash old

-- The chain changes only between turns; turns may be deferred, fail or be cut
-- off by a crash at any point.
def LegalEvent (system : System tree) : SystemEvent tree → Prop
  | .chainChange chain finalized => system.point = .idle ∧ chain.TimestampsOrdered ∧ FinalityKept system chain finalized
  | _ => True

structure LegalStart (chain : CanonicalChain tree) (finalized : Option Nat) : Prop where
  ordered : chain.TimestampsOrdered
  reached : ∀ number ∈ finalized, number ≤ chain.head.number

instance (system : System tree) : (event : SystemEvent tree) → Decidable (LegalEvent system event)
  | .chainChange chain finalized =>
      inferInstanceAs (Decidable (system.point = .idle ∧ chain.TimestampsOrdered ∧
        (∀ number ∈ finalized, number ≤ chain.head.number) ∧
          ∀ old ∈ system.finalized, (∃ number ∈ finalized, old ≤ number) ∧ chain.canonicalHash old = system.chain.canonicalHash old))
  | .beginTurn _ | .proceed | .providerFailure | .crash => isTrue trivial

variable (config : ReferenceIndexConfig) (system : System tree)

theorem step_keeps_chain : (system.step config).chain = system.chain ∧ (system.step config).finalized = system.finalized := by
  cases here : system.point with
  | idle | readFinalized => simp [System.step, here, System.goto]
  | readHead =>
      simp only [System.step, here, System.readHeadStep]
      repeat' split
      all_goals exact ⟨rfl, rfl⟩
  | resolveJade =>
      simp only [System.step, here, System.resolveJadeStep]
      repeat' split
      all_goals exact ⟨rfl, rfl⟩
  | reconcile =>
      simp only [System.step, here, System.reconcileStep]
      repeat' split
      all_goals exact ⟨rfl, rfl⟩
  | findAncestor =>
      simp only [System.step, here, System.findAncestorStep]
      repeat' split
      all_goals exact ⟨rfl, rfl⟩
  | rollback =>
      simp only [System.step, here, System.rollbackStep]
      repeat' split
      all_goals exact ⟨rfl, rfl⟩
  | readBatch =>
      simp only [System.step, here, System.readBatchStep]
      repeat' split
      all_goals exact ⟨rfl, rfl⟩
  | verifyBatch turn start stop blocks remaining =>
      cases remaining with
      | nil =>
          simp only [System.step, here]
          exact ⟨rfl, rfl⟩
      | cons block rest =>
          simp only [System.step, here, System.verifyBatchStep]
          split
          all_goals exact ⟨rfl, rfl⟩
  | commitBatch =>
      simp only [System.step, here, System.commitBatchStep]
      repeat' split
      all_goals exact ⟨rfl, rfl⟩
  | readCurrentHead =>
      simp only [System.step, here, System.readCurrentHeadStep]
      repeat' split
      all_goals exact ⟨rfl, rfl⟩

theorem open_keeps_chain (defer : Bool) :
    (system.openDb config defer).chain = system.chain ∧ (system.openDb config defer).finalized = system.finalized := by
  rw [System.openDb]
  split
  · exact ⟨rfl, rfl⟩
  · split
    · exact ⟨rfl, rfl⟩
    · exact ⟨rfl, rfl⟩

theorem open_point (defer : Bool) : (system.openDb config defer).point = .idle ∨ (system.openDb config defer).point = .readHead defer := by
  rw [System.openDb]
  split
  · exact .inr rfl
  · split
    · exact .inl rfl
    · exact .inr rfl

theorem steady_reads_fit (steady : Steady config system) : ReadFits config system system.point := by
  have point := steady.point
  cases here : system.point with
  | readBatch turn =>
      rw [here] at point
      exact point
  | _ => trivial

theorem steady_apply (event : SystemEvent tree) (steady : Steady config system) (legal : LegalEvent system event) :
    Steady config (system.apply config event) := by
  have fits := steady_reads_fit config system steady
  cases event with
  | chainChange chain finalized =>
      obtain ⟨idle, ordered, _⟩ := legal
      refine ⟨safe_apply config system steady.safe _ trivial, ordered, ?_⟩
      change PointFixed config _ system.point
      rw [idle]
      trivial
  | beginTurn defer =>
      refine ⟨safe_apply config system steady.safe _ trivial, ?_, ?_⟩
      · rw [System.apply]
        split
        · rw [(open_keeps_chain config _ defer).1]
          exact steady.ordered
        · exact steady.ordered
      · rw [System.apply]
        split
        · rcases open_point config { system with result := none } defer with idle | reading
          · rw [idle]
            trivial
          · rw [reading]
            trivial
        · exact steady.point
  | proceed =>
      refine ⟨safe_apply config system steady.safe _ fits, ?_, fixed_step config system steady⟩
      rw [System.apply, (step_keeps_chain config system).1]
      exact steady.ordered
  | providerFailure =>
      rw [System.apply]
      split
      · exact steady
      · exact ⟨safe_finish_error config system steady.safe _, steady.ordered, trivial⟩
  | crash => exact ⟨⟨steady.safe.content, trivial⟩, steady.ordered, trivial⟩

theorem steady_start (chain : CanonicalChain tree) (finalized : Option Nat) (ordered : chain.TimestampsOrdered) :
    Steady config (System.start chain finalized) :=
  ⟨safe_start config chain finalized, ordered, trivial⟩

end MorphReth.ReferenceIndex
