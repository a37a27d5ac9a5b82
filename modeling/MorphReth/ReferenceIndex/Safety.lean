import MorphReth.ReferenceIndex.Consistency

set_option autoImplicit false

namespace MorphReth.ReferenceIndex

variable {tree : BlockTree}

-- Either nothing is indexed yet, or the index is one parent-linked chain.
def OneBranch (tree : BlockTree) (jadeTimestamp : Nat) (db : ReferenceIndexDb) : Prop :=
  Blank db ∨ ∃ (branch : CanonicalChain tree) (lowest : Nat), Indexed jadeTimestamp db branch lowest

-- The Jade block a turn works with is the recorded one, once there is one.
def TurnJade (db : ReferenceIndexDb) (jadeFirstBlock : Nat) : Prop :=
  ∀ recorded, db.jadeFirstBlockNumber = some recorded → jadeFirstBlock = recorded

-- A batch in flight was read from one chain that continues the index.
def BatchFrom (tree : BlockTree) (jadeTimestamp : Nat) (db : ReferenceIndexDb) (turn : TurnContext) (start stop : Nat)
    (blocks : List CanonicalBlock) : Prop :=
  TurnJade db turn.jadeFirstBlock ∧
    ∃ (chain : CanonicalChain tree) (lowest : Nat), blocks = chain.canonicalBlocks start stop ∧ start = batchStart db turn ∧ start ≤ stop ∧
      stop < chain.hashes.length ∧ turn.jadeFirstBlock = chain.jadeStart jadeTimestamp ∧ Continues jadeTimestamp db chain lowest start

def PointSafe (tree : BlockTree) (jadeTimestamp : Nat) (db : ReferenceIndexDb) : SyncPoint → Prop
  | .idle | .readHead _ | .readCurrentHead _ _ => True
  | .resolveJade _ _ _ => db.jadeFirstBlockNumber = none
  | .readFinalized _ jadeFirstBlock => TurnJade db jadeFirstBlock
  | .reconcile turn | .findAncestor turn _ _ | .readBatch turn => TurnJade db turn.jadeFirstBlock
  | .rollback turn ancestor => TurnJade db turn.jadeFirstBlock ∧ ∃ hash, db.indexedBlockHash ancestor = some hash
  | .verifyBatch turn start stop blocks _ | .commitBatch turn start stop blocks => BatchFrom tree jadeTimestamp db turn start stop blocks

structure Safe (config : ReferenceIndexConfig) (system : System tree) : Prop where
  content : OneBranch tree config.jadeTimestamp system.db
  point : PointSafe tree config.jadeTimestamp system.db system.point

-- When a batch is read, the chain still holds the cursor block, or starts at
-- the block resolved as the first one of Jade.
def BatchFits (config : ReferenceIndexConfig) (system : System tree) (turn : TurnContext) : Prop :=
  match system.db.indexedTo with
  | some cursor => system.chain.canonicalHash cursor = system.db.indexedBlockHash cursor
  | none => turn.jadeFirstBlock = system.chain.jadeStart config.jadeTimestamp

def ReadFits (config : ReferenceIndexConfig) (system : System tree) : SyncPoint → Prop
  | .readBatch turn => BatchFits config system turn
  | _ => True

def ReadsFit (config : ReferenceIndexConfig) (system : System tree) : SystemEvent tree → Prop
  | .proceed => ReadFits config system system.point
  | _ => True

instance (config : ReferenceIndexConfig) (system : System tree) (turn : TurnContext) : Decidable (BatchFits config system turn) :=
  match stored : system.db.indexedTo with
  | some cursor => decidable_of_iff (system.chain.canonicalHash cursor = system.db.indexedBlockHash cursor) (by simp [BatchFits, stored])
  | none => decidable_of_iff (turn.jadeFirstBlock = system.chain.jadeStart config.jadeTimestamp) (by simp [BatchFits, stored])

instance (config : ReferenceIndexConfig) (system : System tree) : (point : SyncPoint) → Decidable (ReadFits config system point)
  | .readBatch turn => inferInstanceAs (Decidable (BatchFits config system turn))
  | .idle | .readHead _ | .resolveJade _ _ _ | .readFinalized _ _ | .reconcile _ | .findAncestor _ _ _ | .rollback _ _
  | .verifyBatch _ _ _ _ _ | .commitBatch _ _ _ _ | .readCurrentHead _ _ => isTrue trivial

instance (config : ReferenceIndexConfig) (system : System tree) : (event : SystemEvent tree) → Decidable (ReadsFit config system event)
  | .proceed => inferInstanceAs (Decidable (ReadFits config system system.point))
  | .chainChange _ _ | .beginTurn _ | .providerFailure | .crash => isTrue trivial

theorem validate_identity_cases (db after : ReferenceIndexDb) (chainId : Nat) (genesisHash : B256)
    (opened : validateOrInitChainIdentity db chainId genesisHash = .ok after) :
    after = db ∨ after = { db with chainId := some chainId, genesisHash := some genesisHash, schemaVersion := some currentSchemaVersion } := by
  simp only [validateOrInitChainIdentity] at opened
  split at opened
  · split at opened
    · cases opened
      exact .inr rfl
    · cases opened
  · split at opened
    · cases opened
    · split at opened
      · cases opened
      · split at opened
        · cases opened
        · cases opened
          exact .inl rfl
  · cases opened

theorem one_branch_identity (jadeTimestamp : Nat) (db : ReferenceIndexDb) (chainId : Option Nat) (genesisHash : Option B256)
    (schemaVersion : Option Nat) (content : OneBranch tree jadeTimestamp db) :
    OneBranch tree jadeTimestamp { db with chainId := chainId, genesisHash := genesisHash, schemaVersion := schemaVersion } := by
  cases content with
  | inl blank => exact .inl ⟨blank.cursor, blank.jade, blank.blocks, blank.references, blank.blockReferences⟩
  | inr branched =>
      obtain ⟨branch, lowest, indexed⟩ := branched
      exact .inr ⟨branch, lowest, indexed.cursor, indexed.jade, indexed.above, indexed.below,
        ⟨indexed.rows.breadcrumbs, indexed.rows.blockReferences, indexed.rows.references⟩⟩

theorem batch_complete (chain : CanonicalChain tree) (start stop : Nat) (ordered : start ≤ stop)
    (complete : (chain.canonicalBlocks start stop).length = stop - start + 1) : stop < chain.hashes.length := by
  have full : ((List.range' start (stop + 1 - start)).filterMap chain.canonicalBlock).length =
      (List.range' start (stop + 1 - start)).length := by
    rw [List.length_range', ← CanonicalChain.canonicalBlocks, complete]
    omega
  have present := List.filterMap_length_eq_length.mp full stop (List.mem_range'_1.mpr (by omega))
  rw [CanonicalChain.canonicalBlock, Option.isSome_map, CanonicalChain.canonicalHash] at present
  obtain ⟨hash, found⟩ := Option.isSome_iff_exists.mp present
  exact (List.getElem?_eq_some_iff.mp found).1

section Steps

variable (config : ReferenceIndexConfig) (system : System tree) (safe : Safe config system)

include safe

theorem safe_finish_error (error : ReferenceIndexError) : Safe config (system.finishError error) :=
  ⟨safe.content, trivial⟩

theorem safe_finish_ok (phase : ReferenceIndexPhase) : Safe config (system.finishOk phase) :=
  ⟨safe.content, trivial⟩

theorem safe_open (defer : Bool) : Safe config (system.openDb config defer) := by
  rw [System.openDb]
  split
  · exact ⟨safe.content, trivial⟩
  · split
    · next error _ => exact safe_finish_error config system safe error
    · next db opened =>
        refine ⟨?_, trivial⟩
        cases validate_identity_cases _ _ _ _ opened with
        | inl same =>
            rw [same]
            exact safe.content
        | inr initialised =>
            rw [initialised]
            exact one_branch_identity _ _ _ _ _ safe.content

theorem safe_read_head (defer : Bool) : Safe config (system.readHeadStep config defer) := by
  simp only [System.readHeadStep]
  split
  · exact safe_finish_ok config system safe _
  · split
    · exact safe_finish_ok config system safe _
    · split
      · next block recorded =>
          refine ⟨safe.content, fun found same => ?_⟩
          exact Option.some.inj (recorded.symm.trans same)
      · next unrecorded => exact ⟨safe.content, unrecorded⟩

theorem safe_resolve_jade (head : CanonicalTip) (low high : Nat) (unrecorded : system.db.jadeFirstBlockNumber = none) :
    Safe config (system.resolveJadeStep config head low high) := by
  simp only [System.resolveJadeStep]
  split
  · split
    · exact safe_finish_error config system safe _
    · split
      · exact ⟨safe.content, unrecorded⟩
      · exact ⟨safe.content, unrecorded⟩
  · refine ⟨safe.content, fun recorded same => ?_⟩
    cases unrecorded.symm.trans same

variable (turn : TurnContext)

theorem safe_reconcile (jade : TurnJade system.db turn.jadeFirstBlock) : Safe config (system.reconcileStep turn) := by
  simp only [System.reconcileStep]
  split
  · exact ⟨safe.content, jade⟩
  · split
    · exact safe_finish_error config system safe _
    · split
      · exact ⟨safe.content, jade⟩
      · split
        · exact ⟨safe.content, jade⟩
        · exact ⟨safe.content, jade⟩

theorem safe_find_ancestor (rewindFloor number : Nat) (jade : TurnJade system.db turn.jadeFirstBlock) :
    Safe config (system.findAncestorStep turn rewindFloor number) := by
  simp only [System.findAncestorStep]
  split
  · exact safe_finish_error config system safe _
  · next hash stored =>
      split
      · exact ⟨safe.content, jade, hash, stored⟩
      · split
        · exact safe_finish_error config system safe _
        · exact ⟨safe.content, jade⟩

theorem safe_rollback (ancestor : Nat) (here : system.point = .rollback turn ancestor) :
    Safe config (system.rollbackStep turn ancestor) := by
  have point := safe.point
  rw [here] at point
  obtain ⟨jade, hash, stored⟩ := point
  simp only [System.rollbackStep]
  split
  · exact ⟨safe.content, jade⟩
  · next db rolled =>
      cases safe.content with
      | inl blank =>
          rw [blank_breadcrumb system.db blank] at stored
          cases stored
      | inr branched =>
          obtain ⟨branch, lowest, indexed⟩ := branched
          obtain ⟨kept, _, _⟩ := indexed_breadcrumb _ _ _ _ branch hash indexed stored
          obtain ⟨tip, _, _, shorter, sameJade, sameHash⟩ := rollback_indexes _ lowest ancestor _ system.db db branch indexed kept rolled
          refine ⟨.inr ⟨branch.truncate tip, lowest, shorter⟩, ?_⟩
          change PointSafe tree config.jadeTimestamp db system.point
          rw [here]
          refine ⟨?_, hash, sameHash.trans stored⟩
          rw [TurnJade, sameJade]
          exact jade

theorem continues_of_fits (jade : TurnJade system.db turn.jadeFirstBlock) (fits : BatchFits config system turn) :
    ∃ lowest, turn.jadeFirstBlock = system.chain.jadeStart config.jadeTimestamp ∧
      Continues config.jadeTimestamp system.db system.chain lowest (batchStart system.db turn) := by
  cases safe.content with
  | inl blank =>
      simp only [BatchFits, blank.cursor] at fits
      refine ⟨system.chain.jadeStart config.jadeTimestamp, fits, ?_⟩
      rw [batchStart, blank.cursor, Option.elim_none, fits]
      exact blank_continues config.jadeTimestamp system.db system.chain blank
  | inr branched =>
      obtain ⟨branch, lowest, indexed⟩ := branched
      simp only [BatchFits, indexed.cursor] at fits
      rw [indexed_head _ lowest system.db branch indexed] at fits
      have reached := Nat.le_trans indexed.above indexed.below
      refine ⟨lowest, ?_, ?_⟩
      · rw [jade _ indexed.jade, prefix_jade_start branch system.chain config.jadeTimestamp fits reached]
      · rw [batchStart, indexed.cursor, Option.elim_some]
        exact indexed_continues config.jadeTimestamp lowest system.db branch system.chain indexed fits

theorem safe_read_batch (jade : TurnJade system.db turn.jadeFirstBlock) (fits : BatchFits config system turn) :
    Safe config (system.readBatchStep turn) := by
  obtain ⟨lowest, sameJade, continues⟩ := continues_of_fits config system safe turn jade fits
  simp only [System.readBatchStep]
  split
  · exact safe_finish_ok config system safe _
  · next started =>
      split
      · exact ⟨safe.content, trivial⟩
      · next complete =>
          have ordered : batchStart system.db turn ≤ min (batchStart system.db turn + (defaultBackfillBatchBlocks - 1)) turn.head.number := by
            rw [defaultBackfillBatchBlocks]
            omega
          exact ⟨safe.content, jade, system.chain, lowest, rfl, rfl, ordered,
            batch_complete system.chain _ _ ordered (not_not.mp complete), sameJade, continues⟩

theorem safe_verify_batch (start stop : Nat) (blocks remaining : List CanonicalBlock)
    (read : BatchFrom tree config.jadeTimestamp system.db turn start stop blocks) :
    Safe config (system.verifyBatchStep turn start stop blocks remaining) := by
  cases remaining with
  | nil => exact ⟨safe.content, read⟩
  | cons block rest =>
      simp only [System.verifyBatchStep]
      split
      · exact safe_finish_error config system safe _
      · exact ⟨safe.content, read⟩

theorem safe_commit_batch (start stop : Nat) (blocks : List CanonicalBlock)
    (read : BatchFrom tree config.jadeTimestamp system.db turn start stop blocks) :
    Safe config (system.commitBatchStep turn start stop blocks) := by
  obtain ⟨_, chain, lowest, rfl, _, ordered, inside, jade, continues⟩ := read
  simp only [System.commitBatchStep]
  split
  · exact safe_finish_error config system safe _
  · next db written committed =>
      rw [jade] at committed
      obtain ⟨raised, _, indexed⟩ := commit_indexes config.jadeTimestamp system.db db written chain lowest start stop turn.finalized
        continues ordered inside committed
      exact ⟨.inr ⟨chain.truncate stop, raised, indexed⟩, trivial⟩

theorem safe_read_current_head (stop : Nat) (blocks : List CanonicalBlock) : Safe config (system.readCurrentHeadStep stop blocks) := by
  simp only [System.readCurrentHeadStep]
  split
  · exact safe_finish_ok config system safe _
  · exact safe_finish_ok config system safe _

theorem safe_step (fits : ReadFits config system system.point) : Safe config (system.step config) := by
  have point := safe.point
  cases here : system.point with
  | idle =>
      rw [System.step, here]
      exact safe
  | readHead defer =>
      rw [System.step, here]
      exact safe_read_head config system safe defer
  | resolveJade head low high =>
      rw [here] at point
      rw [System.step, here]
      exact safe_resolve_jade config system safe head low high point
  | readFinalized head jadeFirstBlock =>
      rw [here] at point
      rw [System.step, here]
      exact ⟨safe.content, point⟩
  | reconcile turn =>
      rw [here] at point
      rw [System.step, here]
      exact safe_reconcile config system safe turn point
  | findAncestor turn rewindFloor number =>
      rw [here] at point
      rw [System.step, here]
      exact safe_find_ancestor config system safe turn rewindFloor number point
  | rollback turn ancestor =>
      rw [System.step, here]
      exact safe_rollback config system safe turn ancestor here
  | readBatch turn =>
      rw [here] at point fits
      rw [System.step, here]
      exact safe_read_batch config system safe turn point fits
  | verifyBatch turn start stop blocks remaining =>
      rw [here] at point
      rw [System.step, here]
      exact safe_verify_batch config system safe turn start stop blocks remaining point
  | commitBatch turn start stop blocks =>
      rw [here] at point
      rw [System.step, here]
      exact safe_commit_batch config system safe turn start stop blocks point
  | readCurrentHead stop blocks =>
      rw [System.step, here]
      exact safe_read_current_head config system safe stop blocks

theorem safe_apply (event : SystemEvent tree) (fits : ReadsFit config system event) : Safe config (system.apply config event) := by
  cases event with
  | chainChange chain finalized => exact ⟨safe.content, safe.point⟩
  | beginTurn defer =>
      rw [System.apply]
      split
      · exact safe_open config { system with result := none } ⟨safe.content, safe.point⟩ defer
      · exact safe
  | proceed => exact safe_step config system safe fits
  | providerFailure =>
      rw [System.apply]
      split
      · exact safe
      · exact safe_finish_error config system safe _
  | crash => exact ⟨safe.content, trivial⟩

end Steps

theorem safe_start (config : ReferenceIndexConfig) (chain : CanonicalChain tree) (finalized : Option Nat) :
    Safe config (System.start chain finalized) :=
  ⟨.inl ⟨rfl, rfl, rfl, rfl, rfl⟩, trivial⟩

theorem safe_run (config : ReferenceIndexConfig) (chain : CanonicalChain tree) (finalized : Option Nat) (events : List (SystemEvent tree))
    (fits : EachAllowed (System.apply config) (ReadsFit config) (System.start chain finalized) events) :
    Safe config (runSteps (System.apply config) (System.start chain finalized) events) :=
  run_invariant _ _ (Safe config) (fun system event safe allowed => safe_apply config system safe event allowed) _ events
    (safe_start config chain finalized) fits

end MorphReth.ReferenceIndex
