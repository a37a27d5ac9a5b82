import MorphReth.ReferenceIndex.Turns

set_option autoImplicit false

namespace MorphReth.ReferenceIndex

variable {tree : BlockTree}

section Identity

def identity (db : ReferenceIndexDb) : Option Nat × Option B256 × Option Nat :=
  (db.chainId, db.genesisHash, db.schemaVersion)

def expectedIdentity (config : ReferenceIndexConfig) : Option Nat × Option B256 × Option Nat :=
  (some config.chainId, some config.genesisHash, some currentSchemaVersion)

theorem foldl_keeps {α β γ : Type} (measure : β → γ) (step : β → α → β) (keeps : ∀ state item, measure (step state item) = measure state)
    (items : List α) (state : β) : measure (items.foldl step state) = measure state := by
  induction items generalizing state with
  | nil => rfl
  | cons item rest ih => exact (ih (step state item)).trans (keeps state item)

theorem write_block_identity (db : ReferenceIndexDb) (block : CanonicalBlock) : identity (writeBlock db block).1 = identity db :=
  foldl_keeps identity (writeEntry block.number block.timestamp) (fun _ _ => rfl) (referenceEntries block.transactions)
    { db with indexedBlocks := db.indexedBlocks.put block.number block.hash }

theorem prune_finalized_identity (db : ReferenceIndexDb) (jadeFirst lastNumber : Nat) (finalized : Option Nat) :
    identity (pruneFinalized db jadeFirst lastNumber finalized) = identity db := by
  cases finalized with
  | none => rfl
  | some finalized =>
      simp only [pruneFinalized, pruneIndexedBlocksBefore]
      split
      · split
        · rfl
        · rfl
      · rfl

theorem commit_identity (db after : ReferenceIndexDb) (written jadeFirst start : Nat) (blocks : List CanonicalBlock)
    (finalized : Option Nat) (committed : commitCanonicalBatch db jadeFirst start blocks finalized = .ok (after, written)) :
    identity after = identity db := by
  rw [commitCanonicalBatch] at committed
  split at committed
  · cases committed
    rfl
  · obtain ⟨_, _, result⟩ := (bind_ok _ _ _).mp committed
    cases result
    rw [prune_finalized_identity]
    change identity (writeBatch db blocks).1 = identity db
    rw [written_db]
    exact foldl_keeps identity _ write_block_identity blocks db

theorem rollback_identity (db after : ReferenceIndexDb) (ancestor batchSize : Nat)
    (rolled : rollbackBatch db (some ancestor) batchSize = some after) : identity after = identity db := by
  rw [rollbackBatch] at rolled
  split at rolled
  · cases rolled
  · simp only at rolled
    split at rolled
    · cases rolled
    · cases rolled
      exact foldl_keeps identity deleteBlock (fun _ _ => rfl) _ db

-- An empty database takes the configured identity, and one that has it is
-- accepted.
theorem validate_identity_succeeds (config : ReferenceIndexConfig) (db : ReferenceIndexDb)
    (known : identity db = expectedIdentity config ∨ identity db = (none, none, none) ∧ Blank db) :
    ∃ after, validateOrInitChainIdentity db config.chainId config.genesisHash = .ok after ∧ identity after = expectedIdentity config := by
  cases known with
  | inl present =>
      have chainId : db.chainId = some config.chainId := congrArg (fun known => known.1) present
      have genesisHash : db.genesisHash = some config.genesisHash := congrArg (fun known => known.2.1) present
      have schemaVersion : db.schemaVersion = some currentSchemaVersion := congrArg (fun known => known.2.2) present
      refine ⟨db, ?_, present⟩
      simp [validateOrInitChainIdentity, chainId, genesisHash, schemaVersion]
  | inr fresh =>
      obtain ⟨absent, blank⟩ := fresh
      have chainId : db.chainId = none := congrArg (fun known => known.1) absent
      have genesisHash : db.genesisHash = none := congrArg (fun known => known.2.1) absent
      have schemaVersion : db.schemaVersion = none := congrArg (fun known => known.2.2) absent
      refine ⟨{ db with chainId := some config.chainId, genesisHash := some config.genesisHash, schemaVersion := some currentSchemaVersion }, ?_, rfl⟩
      simp [validateOrInitChainIdentity, chainId, genesisHash, schemaVersion, blank.cursor, blank.jade, blank.blocks, blank.references,
        blank.blockReferences, Table.empty]

end Identity

-- Breadcrumbs are pruned no higher than the first Jade block or the finalized
-- block of the time.
def Bounded (config : ReferenceIndexConfig) (finalized : Option Nat) (tree : BlockTree) (db : ReferenceIndexDb) : Prop :=
  ∀ (branch : CanonicalChain tree) (lowest : Nat), Indexed config.jadeTimestamp db branch lowest →
    lowest ≤ pruneFloor (branch.jadeStart config.jadeTimestamp) finalized

theorem indexed_unique (jadeTimestamp leftLowest rightLowest : Nat) (db : ReferenceIndexDb) (left right : CanonicalChain tree)
    (indexedLeft : Indexed jadeTimestamp db left leftLowest) (indexedRight : Indexed jadeTimestamp db right rightLowest) :
    left.jadeStart jadeTimestamp = right.jadeStart jadeTimestamp ∧ left.head.number = right.head.number ∧ leftLowest ≤ rightLowest := by
  have sameJade := Option.some.inj (indexedLeft.jade.symm.trans indexedRight.jade)
  have sameCursor := Option.some.inj (indexedLeft.cursor.symm.trans indexedRight.cursor)
  refine ⟨sameJade, sameCursor, ?_⟩
  have inside : rightLowest < right.hashes.length := by
    rw [chain_length]
    exact Nat.lt_succ_of_le indexedRight.below
  have stored : db.indexedBlockHash rightLowest = some right.hashes[rightLowest] := by
    rw [ReferenceIndexDb.indexedBlockHash, indexedRight.rows.breadcrumbs, if_pos (Nat.le_refl _), List.getElem?_eq_getElem inside]
  exact (indexed_breadcrumb _ _ _ _ left _ indexedLeft stored).1

theorem bounded_of_indexed (config : ReferenceIndexConfig) (finalized : Option Nat) (db : ReferenceIndexDb) (branch : CanonicalChain tree)
    (lowest : Nat) (indexed : Indexed config.jadeTimestamp db branch lowest)
    (atMost : lowest ≤ pruneFloor (branch.jadeStart config.jadeTimestamp) finalized) : Bounded config finalized tree db := by
  intro other otherLowest otherIndexed
  obtain ⟨sameJade, _, ordered⟩ := indexed_unique _ _ _ db other branch otherIndexed indexed
  rw [sameJade]
  exact Nat.le_trans ordered atMost

theorem bounded_blank (config : ReferenceIndexConfig) (finalized : Option Nat) (db : ReferenceIndexDb) (blank : Blank db) :
    Bounded config finalized tree db := by
  intro branch lowest indexed
  cases blank.cursor.symm.trans indexed.cursor

theorem prune_floor_mono (jadeFirst : Nat) (earlier later : Option Nat) (grows : ∀ old ∈ earlier, ∃ number ∈ later, old ≤ number) :
    pruneFloor jadeFirst earlier ≤ pruneFloor jadeFirst later := by
  cases earlier with
  | none =>
      cases later with
      | none => exact Nat.le_refl _
      | some number => exact Nat.le_max_right _ _
  | some old =>
      obtain ⟨number, found, atMost⟩ := grows old rfl
      cases found
      simp only [pruneFloor, Option.elim_some]
      omega

theorem commit_bounded (config : ReferenceIndexConfig) (finalized : Option Nat) (db after : ReferenceIndexDb) (written : Nat)
    (chain : CanonicalChain tree) (lowest start stop : Nat) (turn : TurnContext) (content : OneBranch tree config.jadeTimestamp db)
    (bounded : Bounded config finalized tree db) (recorded : TurnJade db turn.jadeFirstBlock) (first : start = batchStart db turn)
    (jade : turn.jadeFirstBlock = chain.jadeStart config.jadeTimestamp)
    (continues : Continues config.jadeTimestamp db chain lowest start) (ordered : start ≤ stop) (inside : stop < chain.hashes.length)
    (committed : commitCanonicalBatch db (chain.jadeStart config.jadeTimestamp) start (chain.canonicalBlocks start stop) finalized =
      .ok (after, written)) : Bounded config finalized tree after := by
  obtain ⟨raised, atMost, indexed⟩ := commit_indexes config.jadeTimestamp db after written chain lowest start stop finalized continues ordered
    inside committed
  have reached := continues.jade
  have jadeStart := truncate_jade_start chain stop config.jadeTimestamp (by omega)
  apply bounded_of_indexed config finalized after (chain.truncate stop) raised indexed
  rw [jadeStart]
  have before : lowest ≤ pruneFloor (chain.jadeStart config.jadeTimestamp) finalized := by
    cases content with
    | inl blank =>
        rw [batchStart, blank.cursor, Option.elim_none, jade] at first
        have below := continues.below
        have least : chain.jadeStart config.jadeTimestamp ≤ pruneFloor (chain.jadeStart config.jadeTimestamp) finalized := by
          cases finalized with
          | none => exact Nat.le_refl _
          | some number => exact Nat.le_max_right _ _
        omega
    | inr branched =>
        obtain ⟨branch, kept, held⟩ := branched
        have atKept := bounded branch kept held
        rw [← recorded _ held.jade, jade] at atKept
        have stored := held.rows.breadcrumbs kept
        rw [continues.rows.breadcrumbs, if_pos (Nat.le_refl kept)] at stored
        by_contra above
        rw [if_neg (by omega), List.getElem?_eq_getElem (by rw [chain_length]; exact Nat.lt_succ_of_le held.below)] at stored
        cases stored
  omega

def TurnFinalized (finalized : Option Nat) : SyncPoint → Prop
  | .reconcile turn | .findAncestor turn _ _ | .rollback turn _ | .readBatch turn | .verifyBatch turn _ _ _ _ | .commitBatch turn _ _ _ =>
      turn.finalized = finalized
  | .idle | .readHead _ | .resolveJade _ _ _ | .readFinalized _ _ | .readCurrentHead _ _ => True

-- What a legal history keeps beyond the contents of the index.
structure Sound (config : ReferenceIndexConfig) (system : System tree) : Prop where
  steady : Steady config system
  final : ∀ number ∈ system.finalized, number ≤ system.chain.head.number
  known : identity system.db = expectedIdentity config ∨ identity system.db = (none, none, none) ∧ Blank system.db
  opened : system.installed = true → identity system.db = expectedIdentity config
  running : system.point ≠ .idle → system.installed = true
  bounded : Bounded config system.finalized tree system.db
  turn : TurnFinalized system.finalized system.point

-- The parts of a step that neither the contents nor the chain depend on.
structure Frame (config : ReferenceIndexConfig) (before after : System tree) : Prop where
  installed : after.installed = before.installed
  identity : ReferenceIndex.identity before.db = expectedIdentity config → ReferenceIndex.identity after.db = expectedIdentity config
  bounded : Bounded config before.finalized tree after.db
  turn : TurnFinalized before.finalized after.point

section SoundSteps

variable (config : ReferenceIndexConfig) (system : System tree) (sound : Sound config system)

include sound

theorem frame_of_same_db (after : System tree) (sameDb : after.db = system.db) (sameInstalled : after.installed = system.installed)
    (turn : TurnFinalized system.finalized after.point) : Frame config system after := by
  refine ⟨sameInstalled, ?_, ?_, turn⟩
  · rw [sameDb]
    exact id
  · rw [sameDb]
    exact sound.bounded

theorem frame_rollback (turn : TurnContext) (ancestor : Nat) (here : system.point = .rollback turn ancestor) :
    Frame config system (system.rollbackStep turn ancestor) := by
  have final := sound.turn
  have safePoint := sound.steady.safe.point
  rw [here] at final safePoint
  obtain ⟨_, hash, stored⟩ := safePoint
  simp only [System.rollbackStep]
  split
  · exact frame_of_same_db config system sound _ rfl rfl final
  · next db rolled =>
      refine ⟨rfl, (rollback_identity system.db db ancestor _ rolled).trans, ?_, sound.turn⟩
      cases sound.steady.safe.content with
      | inl blank =>
          rw [blank_breadcrumb system.db blank] at stored
          cases stored
      | inr branched =>
          obtain ⟨branch, lowest, indexed⟩ := branched
          obtain ⟨kept, _, _⟩ := indexed_breadcrumb _ _ _ _ branch hash indexed stored
          obtain ⟨tip, atLeast, _, shorter, _, _⟩ := rollback_indexes _ lowest ancestor _ system.db db branch indexed kept rolled
          have above := indexed.above
          have jadeStart := truncate_jade_start branch tip config.jadeTimestamp (by omega)
          apply bounded_of_indexed config system.finalized db (branch.truncate tip) lowest shorter
          rw [jadeStart]
          exact sound.bounded branch lowest indexed

theorem frame_commit_batch (turn : TurnContext) (start stop : Nat) (blocks : List CanonicalBlock)
    (here : system.point = .commitBatch turn start stop blocks) : Frame config system (system.commitBatchStep turn start stop blocks) := by
  have final := sound.turn
  have safePoint := sound.steady.safe.point
  rw [here] at final safePoint
  obtain ⟨recorded, chain, lowest, rfl, first, ordered, inside, jade, continues⟩ := safePoint
  simp only [System.commitBatchStep]
  split
  · exact frame_of_same_db config system sound _ rfl rfl trivial
  · next db written committed =>
      refine ⟨rfl, (commit_identity system.db db written _ start _ _ committed).trans, ?_, trivial⟩
      rw [jade, final] at committed
      exact commit_bounded config system.finalized system.db db written chain lowest start stop turn sound.steady.safe.content sound.bounded
        recorded first jade continues ordered inside committed

theorem frame_step : Frame config system (system.step config) := by
  have final := sound.turn
  cases here : system.point with
  | idle =>
      simp only [System.step, here]
      exact frame_of_same_db config system sound _ rfl rfl final
  | readFinalized =>
      simp only [System.step, here]
      exact frame_of_same_db config system sound _ rfl rfl rfl
  | readHead =>
      simp only [System.step, here, System.readHeadStep]
      repeat' split
      all_goals exact frame_of_same_db config system sound _ rfl rfl trivial
  | resolveJade =>
      simp only [System.step, here, System.resolveJadeStep]
      repeat' split
      all_goals exact frame_of_same_db config system sound _ rfl rfl trivial
  | reconcile turn =>
      rw [here] at final
      simp only [System.step, here, System.reconcileStep]
      repeat' split
      all_goals first | exact frame_of_same_db config system sound _ rfl rfl final | exact frame_of_same_db config system sound _ rfl rfl trivial
  | findAncestor turn rewindFloor number =>
      rw [here] at final
      simp only [System.step, here, System.findAncestorStep]
      repeat' split
      all_goals first | exact frame_of_same_db config system sound _ rfl rfl final | exact frame_of_same_db config system sound _ rfl rfl trivial
  | rollback turn ancestor =>
      simp only [System.step, here]
      exact frame_rollback config system sound turn ancestor here
  | readBatch turn =>
      rw [here] at final
      simp only [System.step, here, System.readBatchStep]
      repeat' split
      all_goals first | exact frame_of_same_db config system sound _ rfl rfl final | exact frame_of_same_db config system sound _ rfl rfl trivial
  | verifyBatch turn start stop blocks remaining =>
      rw [here] at final
      cases remaining with
      | nil =>
          simp only [System.step, here, System.verifyBatchStep]
          exact frame_of_same_db config system sound _ rfl rfl final
      | cons block rest =>
          simp only [System.step, here, System.verifyBatchStep]
          split
          · exact frame_of_same_db config system sound _ rfl rfl trivial
          · exact frame_of_same_db config system sound _ rfl rfl final
  | commitBatch turn start stop blocks =>
      simp only [System.step, here]
      exact frame_commit_batch config system sound turn start stop blocks here
  | readCurrentHead =>
      simp only [System.step, here, System.readCurrentHeadStep]
      split
      all_goals exact frame_of_same_db config system sound _ rfl rfl trivial

theorem sound_step : Sound config (system.step config) := by
  by_cases idle : system.point = .idle
  · rw [System.step, idle]
    exact sound
  · have frame := frame_step config system sound
    have installed := sound.running idle
    have same := frame.identity (sound.opened installed)
    obtain ⟨sameChain, sameFinalized⟩ := step_keeps_chain config system
    refine ⟨steady_apply config system .proceed sound.steady trivial, ?_, .inl same, fun _ => same, fun _ => frame.installed.trans installed, ?_, ?_⟩
    · rw [sameChain, sameFinalized]
      exact sound.final
    · rw [sameFinalized]
      exact frame.bounded
    · rw [sameFinalized]
      exact frame.turn

theorem open_cases (defer : Bool) :
    ∃ db, system.openDb config defer = { system with db := db, installed := true, point := .readHead defer } ∧
      identity db = expectedIdentity config ∧ ∀ (branch : CanonicalChain tree) (lowest : Nat),
        Indexed config.jadeTimestamp db branch lowest → Indexed config.jadeTimestamp system.db branch lowest := by
  by_cases already : system.installed = true
  · refine ⟨system.db, ?_, sound.opened already, fun _ _ => id⟩
    rw [System.openDb, if_pos already, ← already]
    rfl
  · obtain ⟨db, validated, same⟩ := validate_identity_succeeds config system.db sound.known
    refine ⟨db, ?_, same, ?_⟩
    · rw [System.openDb, if_neg already, validated]
    · intro branch lowest indexed
      cases validate_identity_cases _ _ _ _ validated with
      | inl unchanged =>
          rw [unchanged] at indexed
          exact indexed
      | inr initialised =>
          rw [initialised] at indexed
          exact ⟨indexed.cursor, indexed.jade, indexed.above, indexed.below,
            ⟨indexed.rows.breadcrumbs, indexed.rows.blockReferences, indexed.rows.references⟩⟩

theorem sound_cleared : Sound config { system with result := none } :=
  ⟨⟨⟨sound.steady.safe.content, sound.steady.safe.point⟩, sound.steady.ordered, sound.steady.point⟩, sound.final, sound.known, sound.opened,
    sound.running, sound.bounded, sound.turn⟩

theorem sound_apply (event : SystemEvent tree) (legal : LegalEvent system event) : Sound config (system.apply config event) := by
  have steady := steady_apply config system event sound.steady legal
  cases event with
  | chainChange chain finalized =>
      obtain ⟨idle, _, reached, grows⟩ := legal
      refine ⟨steady, reached, sound.known, sound.opened, sound.running, ?_, ?_⟩
      · intro branch lowest indexed
        exact Nat.le_trans (sound.bounded branch lowest indexed) (prune_floor_mono _ _ _ (fun old member => (grows old member).1))
      · change TurnFinalized finalized system.point
        rw [idle]
        trivial
  | beginTurn defer =>
      by_cases idle : system.point = .idle
      · obtain ⟨db, opened, same, held⟩ := open_cases config _ (sound_cleared config system sound) defer
        rw [System.apply, if_pos idle, opened] at steady ⊢
        exact ⟨steady, sound.final, .inl same, fun _ => same, fun _ => rfl,
          fun branch lowest indexed => sound.bounded branch lowest (held branch lowest indexed), trivial⟩
      · rw [System.apply, if_neg idle]
        exact sound
  | proceed => exact sound_step config system sound
  | providerFailure =>
      by_cases idle : system.point = .idle
      · rw [System.apply, if_pos idle]
        exact sound
      · rw [System.apply, if_neg idle] at steady ⊢
        exact ⟨steady, sound.final, sound.known, sound.opened, fun running => absurd rfl running, sound.bounded, trivial⟩
  | crash => exact ⟨steady, sound.final, sound.known, fun impossible => (by cases impossible), fun running => absurd rfl running,
      sound.bounded, trivial⟩

end SoundSteps

theorem blank_new : Blank ReferenceIndexDb.new :=
  ⟨rfl, rfl, rfl, rfl, rfl⟩

theorem sound_start (config : ReferenceIndexConfig) (chain : CanonicalChain tree) (finalized : Option Nat)
    (initial : LegalStart chain finalized) : Sound config (System.start chain finalized) :=
  ⟨steady_start config chain finalized initial.ordered, initial.reached, .inr ⟨rfl, blank_new⟩,
    fun impossible => (by cases impossible), fun running => absurd rfl running, bounded_blank config _ _ blank_new, trivial⟩

-- The lowest height a rewind looks at.
def rewindFloorOf (jadeFirst : Nat) (finalized : Option Nat) (candidate : Nat) : Nat :=
  min (pruneFloor jadeFirst finalized) candidate

-- The canonical chain still reaches the first Jade block and has, at the
-- lowest height a rewind looks at, the block that is indexed there.
def AgreesAtFloor (config : ReferenceIndexConfig) (system : System tree) : Prop :=
  ∀ (branch : CanonicalChain tree) (lowest : Nat), Indexed config.jadeTimestamp system.db branch lowest →
    branch.jadeStart config.jadeTimestamp ≤ system.chain.head.number ∧
      system.chain.canonicalHash (rewindFloorOf (branch.jadeStart config.jadeTimestamp) system.finalized
        (min branch.head.number system.chain.head.number)) =
        branch.canonicalHash (rewindFloorOf (branch.jadeStart config.jadeTimestamp) system.finalized
          (min branch.head.number system.chain.head.number))

-- A deferred turn and one before Jade look at no indexed block.
def NeededAgrees (config : ReferenceIndexConfig) (system : System tree) (defer : Bool) : Prop :=
  defer = false → config.jadeTimestamp ≤ system.chain.head.timestamp → AgreesAtFloor config system

def PointAgrees (config : ReferenceIndexConfig) (system : System tree) : SyncPoint → Prop
  | .readHead defer => NeededAgrees config system defer
  | .resolveJade _ _ _ | .readFinalized _ _ | .reconcile _ => AgreesAtFloor config system
  | .findAncestor _ rewindFloor number => AgreesAtFloor config system ∧ (∃ cursor, system.db.indexedTo = some cursor) ∧
      ∀ (branch : CanonicalChain tree) (lowest : Nat), Indexed config.jadeTimestamp system.db branch lowest →
        rewindFloor = rewindFloorOf (branch.jadeStart config.jadeTimestamp) system.finalized (min branch.head.number system.chain.head.number) ∧
          rewindFloor ≤ number ∧ number ≤ min branch.head.number system.chain.head.number
  | .idle | .rollback _ _ | .readBatch _ | .verifyBatch _ _ _ _ _ | .commitBatch _ _ _ _ | .readCurrentHead _ _ => True

def NoRebuild (system : System tree) : Prop :=
  ∀ error, system.result = some (.error error) → error.requiresManualRebuild = false

variable (config : ReferenceIndexConfig)

theorem floor_kept (system : System tree) (branch : CanonicalChain tree) (lowest : Nat) (sound : Sound config system)
    (indexed : Indexed config.jadeTimestamp system.db branch lowest)
    (reached : branch.jadeStart config.jadeTimestamp ≤ system.chain.head.number) :
    lowest ≤ rewindFloorOf (branch.jadeStart config.jadeTimestamp) system.finalized (min branch.head.number system.chain.head.number) := by
  have bounded := sound.bounded branch lowest indexed
  have below := indexed.below
  have final := sound.final
  cases stored : system.finalized with
  | none =>
      rw [stored] at bounded
      simp only [rewindFloorOf, pruneFloor, Option.elim_none] at bounded ⊢
      omega
  | some number =>
      rw [stored] at bounded final
      have within := final number rfl
      simp only [rewindFloorOf, pruneFloor, Option.elim_some] at bounded ⊢
      omega

theorem kept_breadcrumb (jadeTimestamp lowest number : Nat) (db : ReferenceIndexDb) (branch : CanonicalChain tree)
    (indexed : Indexed jadeTimestamp db branch lowest) (kept : lowest ≤ number) :
    db.indexedBlockHash number = branch.canonicalHash number := by
  rw [ReferenceIndexDb.indexedBlockHash, indexed.rows.breadcrumbs, if_pos kept]
  rfl

theorem cursor_content (jadeTimestamp cursor : Nat) (db : ReferenceIndexDb) (content : OneBranch tree jadeTimestamp db)
    (stored : db.indexedTo = some cursor) :
    ∃ (branch : CanonicalChain tree) (lowest : Nat), Indexed jadeTimestamp db branch lowest ∧ cursor = branch.head.number := by
  cases content with
  | inl blank => cases blank.cursor.symm.trans stored
  | inr branched =>
      obtain ⟨branch, lowest, indexed⟩ := branched
      exact ⟨branch, lowest, indexed, Option.some.inj (stored.symm.trans indexed.cursor)⟩

structure TurnOk (config : ReferenceIndexConfig) (system : System tree) : Prop where
  point : PointAgrees config system system.point
  result : NoRebuild system

theorem turn_ok_finish_ok (system : System tree) (phase : ReferenceIndexPhase) : TurnOk config (system.finishOk phase) :=
  ⟨trivial, fun error failed => (by cases failed)⟩

theorem turn_ok_finish_error (system : System tree) (error : ReferenceIndexError) (repairable : error.requiresManualRebuild = false) :
    TurnOk config (system.finishError error) := by
  refine ⟨trivial, fun found failed => ?_⟩
  cases failed
  exact repairable

theorem check_contiguous_error (start : Nat) (blocks : List CanonicalBlock) (error : ReferenceIndexError)
    (failed : checkContiguous start blocks = .error error) : error.requiresManualRebuild = false := by
  induction blocks generalizing start with
  | nil => cases failed
  | cons block rest ih =>
      rw [checkContiguous] at failed
      split at failed
      · cases failed
        rfl
      · exact ih (start + 1) failed

section TurnSteps

variable (config : ReferenceIndexConfig) (system : System tree) (turnOk : TurnOk config system)

include turnOk

theorem turn_ok_read_head (defer : Bool) (here : system.point = .readHead defer) : TurnOk config (system.readHeadStep config defer) := by
  have agrees := turnOk.point
  rw [here] at agrees
  simp only [System.readHeadStep]
  split
  · exact turn_ok_finish_ok config system _
  · next reached =>
      split
      · exact turn_ok_finish_ok config system _
      · next going =>
          have needed := agrees (Bool.not_eq_true _ ▸ going) (Nat.not_lt.mp reached)
          split
          · exact ⟨needed, turnOk.result⟩
          · exact ⟨needed, turnOk.result⟩

theorem turn_ok_resolve_jade (head : CanonicalTip) (low high : Nat) (here : system.point = .resolveJade head low high) :
    TurnOk config (system.resolveJadeStep config head low high) := by
  have agrees := turnOk.point
  rw [here] at agrees
  simp only [System.resolveJadeStep]
  split
  · split
    · exact turn_ok_finish_error config system _ rfl
    · split
      · exact ⟨agrees, turnOk.result⟩
      · exact ⟨agrees, turnOk.result⟩
  · exact ⟨agrees, turnOk.result⟩

-- The breadcrumb at the lower of cursor and head has not been pruned.
theorem turn_ok_reconcile (sound : Sound config system) (turn : TurnContext) (here : system.point = .reconcile turn) :
    TurnOk config (system.reconcileStep turn) := by
  have agrees := turnOk.point
  have fixedPoint := sound.steady.point
  have final := sound.turn
  have safePoint := sound.steady.safe.point
  rw [here] at agrees fixedPoint final safePoint
  simp only [System.reconcileStep]
  split
  · exact ⟨trivial, turnOk.result⟩
  · next cursor stored =>
      obtain ⟨branch, lowest, indexed, rfl⟩ := cursor_content _ cursor system.db sound.steady.safe.content stored
      have kept := floor_kept config system branch lowest sound indexed (agrees branch lowest indexed).1
      have below : rewindFloorOf (branch.jadeStart config.jadeTimestamp) system.finalized (min branch.head.number system.chain.head.number) ≤
          min branch.head.number system.chain.head.number := Nat.min_le_right _ _
      split
      · next missing =>
          rw [kept_breadcrumb _ lowest _ system.db branch indexed (by rw [fixedPoint.1]; omega)] at missing
          have outside := List.getElem?_eq_none_iff.mp missing
          rw [chain_length] at outside
          omega
      · split
        · exact ⟨trivial, turnOk.result⟩
        · split
          · exact ⟨trivial, turnOk.result⟩
          · refine ⟨⟨agrees, ⟨_, stored⟩, fun other otherLowest otherIndexed => ?_⟩, turnOk.result⟩
            obtain ⟨sameJade, sameCursor, _⟩ := indexed_unique _ _ _ system.db other branch otherIndexed indexed
            rw [sameJade, sameCursor, safePoint _ indexed.jade, final, fixedPoint.1]
            exact ⟨rfl, Nat.min_le_right _ _, Nat.le_refl _⟩

theorem turn_ok_find_ancestor (sound : Sound config system) (turn : TurnContext) (rewindFloor number : Nat)
    (here : system.point = .findAncestor turn rewindFloor number) : TurnOk config (system.findAncestorStep turn rewindFloor number) := by
  have point := turnOk.point
  rw [here] at point
  obtain ⟨agrees, ⟨cursor, stored⟩, within⟩ := point
  obtain ⟨branch, lowest, indexed, _⟩ := cursor_content _ cursor system.db sound.steady.safe.content stored
  obtain ⟨reached, canonical⟩ := agrees branch lowest indexed
  obtain ⟨floorEq, above, atMost⟩ := within branch lowest indexed
  have kept := floor_kept config system branch lowest sound indexed reached
  rw [← floorEq] at canonical kept
  have breadcrumb := kept_breadcrumb _ lowest number system.db branch indexed (Nat.le_trans kept above)
  simp only [System.findAncestorStep]
  split
  · next missing =>
      rw [breadcrumb] at missing
      have outside := List.getElem?_eq_none_iff.mp missing
      rw [chain_length] at outside
      omega
  · next hash present =>
      split
      · exact ⟨trivial, turnOk.result⟩
      · next replaced =>
          split
          · next atFloor =>
              rw [← atFloor, ← breadcrumb, present] at canonical
              exact absurd canonical replaced
          · next higher =>
              refine ⟨⟨agrees, ⟨cursor, stored⟩, fun other otherLowest otherIndexed => ?_⟩, turnOk.result⟩
              obtain ⟨otherFloor, otherAbove, otherAtMost⟩ := within other otherLowest otherIndexed
              exact ⟨otherFloor, by omega, Nat.le_trans (Nat.sub_le _ _) otherAtMost⟩

theorem turn_ok_commit_batch (turn : TurnContext) (start stop : Nat) (blocks : List CanonicalBlock) :
    TurnOk config (system.commitBatchStep turn start stop blocks) := by
  simp only [System.commitBatchStep]
  split
  · next error failed =>
      apply turn_ok_finish_error config system error
      rw [commitCanonicalBatch] at failed
      split at failed
      · cases failed
      · cases (bind_error _ _ _).mp failed with
        | inl gap => exact check_contiguous_error start blocks error gap
        | inr later =>
            obtain ⟨_, _, impossible⟩ := later
            cases impossible
  · exact ⟨trivial, turnOk.result⟩

theorem turn_ok_step (sound : Sound config system) : TurnOk config (system.step config) := by
  have agrees := turnOk.point
  cases here : system.point with
  | idle =>
      simp only [System.step, here]
      exact turnOk
  | readHead defer =>
      simp only [System.step, here]
      exact turn_ok_read_head config system turnOk defer here
  | resolveJade head low high =>
      simp only [System.step, here]
      exact turn_ok_resolve_jade config system turnOk head low high here
  | readFinalized =>
      rw [here] at agrees
      simp only [System.step, here]
      exact ⟨agrees, turnOk.result⟩
  | reconcile turn =>
      simp only [System.step, here]
      exact turn_ok_reconcile config system turnOk sound turn here
  | findAncestor turn rewindFloor number =>
      simp only [System.step, here]
      exact turn_ok_find_ancestor config system turnOk sound turn rewindFloor number here
  | rollback turn ancestor =>
      simp only [System.step, here, System.rollbackStep]
      split
      · exact ⟨trivial, turnOk.result⟩
      · exact ⟨trivial, turnOk.result⟩
  | readBatch =>
      simp only [System.step, here, System.readBatchStep]
      split
      · exact turn_ok_finish_ok config system _
      · split
        · exact turn_ok_finish_error config _ _ rfl
        · exact ⟨trivial, turnOk.result⟩
  | verifyBatch turn start stop blocks remaining =>
      cases remaining with
      | nil =>
          simp only [System.step, here, System.verifyBatchStep]
          exact ⟨trivial, turnOk.result⟩
      | cons block rest =>
          simp only [System.step, here, System.verifyBatchStep]
          split
          · exact turn_ok_finish_error config system _ rfl
          · exact ⟨trivial, turnOk.result⟩
  | commitBatch turn start stop blocks =>
      simp only [System.step, here]
      exact turn_ok_commit_batch config system turnOk turn start stop blocks
  | readCurrentHead =>
      simp only [System.step, here, System.readCurrentHeadStep]
      split
      · exact turn_ok_finish_ok config system _
      · exact turn_ok_finish_ok config system _

end TurnSteps

-- What can happen inside one turn on a fixed chain.
def TurnEvent (_ : System tree) : SystemEvent tree → Prop
  | .proceed | .providerFailure | .crash => True
  | .chainChange _ _ | .beginTurn _ => False

instance (system : System tree) : (event : SystemEvent tree) → Decidable (TurnEvent system event)
  | .proceed | .providerFailure | .crash => isTrue trivial
  | .chainChange _ _ | .beginTurn _ => isFalse id

theorem turn_ok_apply (config : ReferenceIndexConfig) (system : System tree) (event : SystemEvent tree)
    (running : Sound config system ∧ TurnOk config system) (allowed : TurnEvent system event) :
    Sound config (system.apply config event) ∧ TurnOk config (system.apply config event) := by
  obtain ⟨sound, turnOk⟩ := running
  cases event with
  | chainChange chain finalized => cases allowed
  | beginTurn defer => cases allowed
  | proceed => exact ⟨sound_apply config system sound .proceed trivial, turn_ok_step config system turnOk sound⟩
  | providerFailure =>
      refine ⟨sound_apply config system sound .providerFailure trivial, ?_⟩
      rw [System.apply]
      split
      · exact turnOk
      · exact turn_ok_finish_error config system _ rfl
  | crash => exact ⟨sound_apply config system sound .crash trivial, trivial, fun error failed => (by cases failed)⟩

theorem turn_ok_begin (config : ReferenceIndexConfig) (system : System tree) (defer : Bool) (sound : Sound config system)
    (idle : system.point = .idle) (agrees : NeededAgrees config system defer) : TurnOk config (system.apply config (.beginTurn defer)) := by
  obtain ⟨db, opened, _, held⟩ := open_cases config _ (sound_cleared config system sound) defer
  rw [System.apply, if_pos idle, opened]
  exact ⟨fun going reached branch lowest indexed => agrees going reached branch lowest (held branch lowest indexed),
    fun error failed => (by cases failed)⟩

theorem turns_need_no_rebuild (config : ReferenceIndexConfig) (chain : CanonicalChain tree) (finalized : Option Nat)
    (history turn : List (SystemEvent tree)) (defer : Bool) (initial : LegalStart chain finalized)
    (legal : EachAllowed (System.apply config) LegalEvent (System.start chain finalized) history)
    (idle : (runSteps (System.apply config) (System.start chain finalized) history).point = .idle)
    (agrees : NeededAgrees config (runSteps (System.apply config) (System.start chain finalized) history) defer)
    (alone : EachAllowed (System.apply config) TurnEvent
      ((runSteps (System.apply config) (System.start chain finalized) history).apply config (.beginTurn defer)) turn) :
    ∀ error, (runSteps (System.apply config) ((runSteps (System.apply config) (System.start chain finalized) history).apply config
      (.beginTurn defer)) turn).result = some (.error error) → error.requiresManualRebuild = false := by
  have sound := run_invariant _ LegalEvent (Sound config) (fun system event sound allowed => sound_apply config system sound event allowed)
    _ history (sound_start config chain finalized initial) legal
  have begun := turn_ok_begin config _ defer sound idle agrees
  exact (run_invariant _ TurnEvent (fun system => Sound config system ∧ TurnOk config system)
    (fun system event running allowed => turn_ok_apply config system event running allowed) _ turn
    ⟨sound_apply config _ sound (.beginTurn defer) trivial, begun⟩ alone).2.result

-- Jade starts at the first block of either branch, so a reorganisation that
-- replaces it leaves no indexed ancestor to rewind to.
def lateJadeConfig : ReferenceIndexConfig where
  chainId := 2818
  genesisHash := 0xF0
  jadeTimestamp := 1

def reorgAfterTurn : List (SystemEvent forkedTree) :=
  wholeTurn ++ [.chainChange secondBranch none]

theorem reorg_at_jade_start_needs_rebuild :
    LegalStart shortChain none ∧
      EachAllowed (System.apply lateJadeConfig) LegalEvent (System.start shortChain none) (reorgAfterTurn ++ wholeTurn) ∧
      (runSteps (System.apply lateJadeConfig) (System.start shortChain none) (reorgAfterTurn ++ wholeTurn)).result =
        some (.error (.manualRebuildRequired 1)) ∧
      (ReferenceIndexError.manualRebuildRequired 1).requiresManualRebuild = true :=
  ⟨⟨by decide +kernel, by decide⟩, by decide +kernel, by decide +kernel, rfl⟩

-- Jade from the genesis block on, which every chain of the sample has.
theorem agrees_at_genesis (system : System forkedTree) (first : system.db.jadeFirstBlockNumber = some 0)
    (unfinalized : system.finalized = none) (stored : system.db.indexedBlockHash 0 = some 0xF0)
    (canonical : system.chain.canonicalHash 0 = some 0xF0) : AgreesAtFloor sampleConfig system := by
  intro branch lowest indexed
  have jade : branch.jadeStart sampleConfig.jadeTimestamp = 0 := Option.some_inj.mp (indexed.jade.symm.trans first)
  have shared := indexed_breadcrumb _ lowest 0 _ branch 0xF0 indexed stored
  rw [jade, unfinalized, rewindFloorOf, show pruneFloor 0 none = 0 from rfl, Nat.zero_min, shared.2.2]
  exact ⟨Nat.zero_le _, canonical⟩

theorem turns_need_no_rebuild_sample :
    (sampleRun (reorgAfterTurn ++ wholeTurn)).result = some (.ok ()) ∧
      ∀ error, (runSteps (System.apply sampleConfig) ((sampleRun reorgAfterTurn).apply
        sampleConfig (.beginTurn false)) (List.replicate 16 .proceed)).result = some (.error error) → error.requiresManualRebuild = false :=
  ⟨by decide +kernel,
    turns_need_no_rebuild sampleConfig shortChain none reorgAfterTurn (List.replicate 16 .proceed) false ⟨by decide +kernel, by decide⟩
      (by decide +kernel) (by decide +kernel)
        (fun _ _ => agrees_at_genesis _ (by decide +kernel) (by decide +kernel) (by decide +kernel) (by decide +kernel)) (by decide +kernel)⟩

end MorphReth.ReferenceIndex
