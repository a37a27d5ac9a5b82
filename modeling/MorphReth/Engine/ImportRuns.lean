import MorphReth.Engine.Imports

set_option autoImplicit false

namespace MorphReth.Engine

open Rlp Transaction Consensus Evm Payload Concurrent

structure Extends (parent block : SealedHeader) : Prop where
  parentHash : block.header.parentHash = parent.hash
  number : block.header.number = parent.header.number + 1

section Events

variable (hashHeader : Consensus.Header → B256) (initial : SealedHeader → Prop)

def Present (events : List ImportEvent) (block : SealedHeader) : Prop := initial block ∨ .submitted block ∈ events

def latestFinalized : List ImportEvent → B256
  | [] => 0
  | .finalized block _ :: _ => block.hash
  | _ :: earlier => latestFinalized earlier

-- The head a tag update read was the tree's, and the block is not above it.
def AtMostHead (events : List ImportEvent) (canonicalHead : CanonicalHead) (block : SealedHeader) : Prop :=
  ∃ head, .tagsChecked head ∈ events ∧ canonicalHead.hash = head.hash ∧ canonicalHead.number = head.header.number ∧
    block.header.number ≤ head.header.number

-- What an event may rest on: only on what came before it.
def ImportEvent.Justified (earlier : List ImportEvent) : ImportEvent → Prop
  | .submitted block => block.hash = hashSlow hashHeader block.header ∧ ∃ parent, Present initial earlier parent ∧ Extends parent block
  | .validated block => .submitted block ∈ earlier
  | .forkchoice state =>
      (∃ block, .validated block ∈ earlier ∧ block.hash = state.headBlockHash) ∧
        (state.safeBlockHash = 0 ∨ state.safeBlockHash = state.headBlockHash) ∧ state.finalizedBlockHash = latestFinalized earlier
  | .adopted state => .forkchoice state ∈ earlier
  | .tagsChecked head => Present initial earlier head
  | .finalized block canonicalHead => Present initial earlier block ∧ AtMostHead earlier canonicalHead block

def AllJustified : List ImportEvent → Prop
  | [] => True
  | event :: earlier => event.Justified hashHeader initial earlier ∧ AllJustified earlier

-- A chain of hashes and consecutive numbers down to a block held from the
-- start.
inductive Grounded : SealedHeader → Prop
  | initial (block : SealedHeader) (held : initial block) : Grounded block
  | extend (parent block : SealedHeader) (below : Grounded parent) (link : Extends parent block)
      (sealed : block.hash = hashSlow hashHeader block.header) : Grounded block

theorem present_later {events later : List ImportEvent} (grown : events ⊆ later) {block : SealedHeader}
    (present : Present initial events block) : Present initial later block :=
  present.imp id (fun submitted => grown submitted)

theorem present_grounded (events : List ImportEvent) (justified : AllJustified hashHeader initial events) (block : SealedHeader)
    (present : Present initial events block) : Grounded hashHeader initial block := by
  induction events generalizing block with
  | nil =>
      rcases present with held | submitted
      · exact .initial block held
      · cases submitted
  | cons event earlier ih =>
      rcases present with held | submitted
      · exact .initial block held
      · rcases List.mem_cons.mp submitted with rfl | before
        · obtain ⟨sealed, parent, present, link⟩ := justified.1
          exact .extend parent block (ih justified.2 parent present) link sealed
        · exact ih justified.2 block (.inr before)

end Events

section Checks

variable {Tree State Receipt : Type} (engine : EngineTree Tree) (node : RealMorphL2EngineApi State Receipt)

def OnHeld (holds : SealedHeader → Prop) (data : ExecutableL2Data) : Prop :=
  ∃ parent, holds parent ∧ data.parentHash = parent.hash ∧ data.number = parent.header.number + 1

variable (tree : Tree)

theorem current_head_ok (head : CanonicalHead) (found : currentHead (engine.provider tree) = .ok head) :
    head.hash = (engine.head tree).hash ∧ head.number = (engine.head tree).header.number := by
  rw [currentHead] at found
  split at found
  · cases found
  · cases found
  · next latest =>
      cases found
      rw [engine.latest latest]
      exact ⟨rfl, rfl⟩

theorem continuity_checked (data : ExecutableL2Data) (task : EngineTask) (checked : checkContinuity (engine.provider tree) data = .ok task) :
    task = .forwardPayload data ∧ data.parentHash = (engine.head tree).hash ∧ data.number = (engine.head tree).header.number + 1 := by
  simp only [checkContinuity, bind_ok, reject_if_ok, not_not, ne_eq, Except.ok.injEq] at checked
  obtain ⟨head, found, _, number, _, parent, rfl⟩ := checked
  obtain ⟨hash, numbered⟩ := current_head_ok engine tree head found
  exact ⟨rfl, parent.trans hash, number.trans (congrArg (· + 1) numbered)⟩

theorem new_block_checked (data : ExecutableL2Data) (task : EngineTask) (checked : checkNewBlock (engine.provider tree) data = .ok task) :
    (task = .finished (.ok .done) ∧ data.number < (engine.head tree).header.number + 1) ∨
      (task = .importL2BlockViaEngine data 0 false ∧ data.parentHash = (engine.head tree).hash ∧
        data.number = (engine.head tree).header.number + 1) := by
  obtain ⟨head, found, checked⟩ := (bind_ok _ _ _).mp checked
  obtain ⟨hash, numbered⟩ := current_head_ok engine tree head found
  rw [← hash, ← numbered]
  dsimp only at checked
  split at checked
  · split at checked
    · next past =>
        cases checked
        exact .inl ⟨rfl, past⟩
    · cases checked
  · next number =>
      simp only [bind_ok, reject_if_ok, not_not, ne_eq, Except.ok.injEq] at checked
      obtain ⟨_, parent, rfl⟩ := checked
      exact .inr ⟨rfl, parent, not_not.mp number⟩

theorem parent_checked (data : ExecutableL2Data) (task : EngineTask) (checked : checkParent (engine.provider tree) data = .ok task) :
    task = .importL2BlockViaEngine data 0 true ∧ OnHeld (engine.holds tree) data := by
  rw [checkParent] at checked
  split at checked
  · cases checked
  · cases checked
  · next parent lookup =>
      simp only [bind_ok, reject_if_ok, not_not, ne_eq, Except.ok.injEq] at checked
      obtain ⟨_, number, rfl⟩ := checked
      obtain ⟨hash, held⟩ := engine.found lookup
      exact ⟨rfl, parent, held, hash.symm, number⟩

theorem payload_on_parent (api : RealMorphL2EngineApi State Receipt) (builder : MorphPayloadBuilder) (args : BuildArguments)
    (payload : MorphBuiltPayload) (built : builder.tryBuild api.config api.recovery api.access args = .ok (.better payload)) :
    payload.executableData.parentHash = args.parent.hash ∧ payload.executableData.number = args.parent.header.number + 1 := by
  simp only [MorphPayloadBuilder.tryBuild, bind_ok, map_error_ok] at built
  obtain ⟨attributes, _, db, _, inner⟩ := built
  obtain ⟨last, _, finished⟩ := build_finished api.access payload inner
  obtain ⟨withdrawTrieRoot, stateRoot, rfl⟩ := finish_payload_ok api.access last payload finished
  refine ⟨rfl, ?_⟩
  have narrow (value : U64) : (value.setWidth 256).setWidth 64 = value := by
    rw [BitVec.setWidth_setWidth_of_le _ (by decide), BitVec.setWidth_eq]
  exact narrow _

theorem safe_block_built (service : PayloadService node.recovery) (tree : Tree) (parent : SealedHeader)
    (attributes : MorphPayloadAttributes) (payload : MorphBuiltPayload)
    (built : resolveKind (apiAt engine node service tree) parent attributes = .ok payload) :
    payload.executableData.parentHash = parent.hash ∧ payload.executableData.number = parent.header.number + 1 := by
  obtain ⟨builder, _, _, attempt⟩ := resolve_kind_ok parent attributes payload built
  exact payload_on_parent _ builder _ payload attempt

theorem payload_sent (service : PayloadService node.recovery) (tree : Tree) (parentHash : B256) (parent : SealedHeader)
    (sent : sendNewPayload (apiAt engine node service tree) parentHash = .ok parent) : engine.holds tree parent := by
  rw [sendNewPayload] at sent
  split at sent
  · cases sent
  · cases sent
  · next lookup =>
      cases sent
      exact (engine.found lookup).2

theorem resolve_tag_held (hash : B256) (tagName : String) (block : SealedHeader)
    (resolved : resolveTag (engine.provider tree) hash tagName = .ok (some block)) :
    block.hash = hash ∧ hash ≠ 0 ∧ engine.holds tree block := by
  rw [resolveTag] at resolved
  split at resolved
  · next nonzero =>
      cases lookup : resolveBlockTag (engine.provider tree) hash tagName with
      | error error =>
          rw [lookup] at resolved
          cases resolved
      | ok header =>
          rw [lookup] at resolved
          cases resolved
          rw [resolveBlockTag] at lookup
          split at lookup
          · cases lookup
          · cases lookup
          · next located =>
              cases lookup
              obtain ⟨same, held⟩ := engine.found located
              exact ⟨same, nonzero, held⟩
  · cases resolved

theorem validated_below_head (safe : Option U64) (finalized head : U64)
    (valid : validateResolvedBlockTags safe (some finalized) head = .ok ()) : finalized ≤ head := by
  cases safe with
  | none =>
      simp only [validateResolvedBlockTags, bind_ok, reject_if_ok] at valid
      obtain ⟨_, below, _⟩ := valid
      exact BitVec.not_lt.mp below
  | some safe =>
      simp only [validateResolvedBlockTags, bind_ok, reject_if_ok] at valid
      obtain ⟨_, _, _, below, _⟩ := valid
      exact BitVec.not_lt.mp below

theorem tags_resolved (safeBlockHash finalizedBlockHash : B256) (task : EngineTask)
    (resolved : resolveBlockTags (engine.provider tree) safeBlockHash finalizedBlockHash = .ok task) :
    task = .finished (.ok .done) ∨ ∃ safe finalized finalizedHash canonicalHead, task = .writeBlockTags safe finalized finalizedHash canonicalHead ∧
      finalizedHash = finalized.map (·.hash) ∧
      (canonicalHead.hash = (engine.head tree).hash ∧ canonicalHead.number = (engine.head tree).header.number) ∧
      ∀ block ∈ finalized, engine.holds tree block ∧ block.header.number ≤ (engine.head tree).header.number := by
  simp only [resolveBlockTags, bind_ok] at resolved
  obtain ⟨safe, _, finalized, found, resolved⟩ := resolved
  split at resolved
  · cases resolved
    exact .inl rfl
  · simp only [bind_ok, Except.ok.injEq] at resolved
    obtain ⟨head, located, _, valid, rfl⟩ := resolved
    have isHead := current_head_ok engine tree head located
    refine .inr ⟨safe, finalized, _, head, rfl, ?_⟩
    cases finalized with
    | none =>
        have zero : finalizedBlockHash = 0 := by
          by_contra nonzero
          rw [resolveTag, if_pos nonzero] at found
          cases lookup : resolveBlockTag (engine.provider tree) finalizedBlockHash "finalized" with
          | error error =>
              rw [lookup] at found
              cases found
          | ok header =>
              rw [lookup] at found
              cases found
        exact ⟨if_neg (not_not.mpr zero), isHead, fun block member => by cases member⟩
    | some block =>
        obtain ⟨hash, nonzero, held⟩ := resolve_tag_held engine tree finalizedBlockHash "finalized" block found
        refine ⟨?_, isHead, ?_⟩
        · rw [if_pos nonzero, Option.map_some, hash]
        · intro other member
          cases member
          rw [← isHead.2]
          exact ⟨held, validated_below_head _ _ _ valid⟩

-- The block of a payload is the data's, hash included.
theorem payload_converted (data : ExecutableL2Data) (payload : MorphExecutionData) (header : MorphHeader)
    (converted : executionPayloadFromExecutableData node data = .ok (payload, header)) :
    payload.block.sealedHeader = ⟨header, data.hash⟩ ∧ data.hash = hashSlow node.config.hashHeader header ∧
      header.parentHash = data.parentHash ∧ header.number = data.number := by
  simp only [executionPayloadFromExecutableData, bind_ok, reject_if_ok, not_not, ne_eq, Except.ok.injEq, Prod.mk.injEq] at converted
  obtain ⟨block, assembled, _, hash, rfl, rfl⟩ := converted
  simp only [headerAndBodyFromExecutableData, bind_ok, Except.ok.injEq] at assembled
  obtain ⟨_, _, _, _, _, _, rfl⟩ := assembled
  refine ⟨?_, hash.symm, rfl, rfl⟩
  rw [← hash]
  rfl

end Checks

section Runs

variable {Tree State Receipt : Type} (engine : EngineTree Tree) (node : RealMorphL2EngineApi State Receipt) (initial : SealedHeader → Prop)

structure NodeSound (state : EngineNode Tree) : Prop where
  justified : AllJustified node.config.hashHeader initial state.events
  tracked : state.l1FinalizedHash.getD 0 = latestFinalized state.events
  held : ∀ block, engine.holds state.tree block → Present initial state.events block

-- What a request has established where it stands.
def Settled (state : EngineNode Tree) : EngineTask → Prop
  | .importL2BlockViaEngine data safeBlockHash _ =>
      OnHeld (Present initial state.events) data ∧ (safeBlockHash = 0 ∨ safeBlockHash = data.hash)
  | .updateForkchoice header blockHash safeBlockHash _ =>
      .validated ⟨header, blockHash⟩ ∈ state.events ∧ (safeBlockHash = 0 ∨ safeBlockHash = blockHash)
  | .forwardPayload data => OnHeld (Present initial state.events) data
  | .resolveKind parent _ => Present initial state.events parent
  | .writeBlockTags _ finalized finalizedHash canonicalHead => finalizedHash = finalized.map (·.hash) ∧ ∀ block ∈ finalized,
      Present initial state.events block ∧ AtMostHead state.events canonicalHead block
  | .finished (.ok (.header header)) =>
      ∃ forkchoice, .adopted forkchoice ∈ state.events ∧ .validated ⟨header, forkchoice.headBlockHash⟩ ∈ state.events
  | _ => True

variable {engine node initial} {state : EngineNode Tree}

theorem settled_later (later : EngineNode Tree) (grown : state.events ⊆ later.events) (task : EngineTask)
    (settled : Settled initial state task) : Settled initial later task := by
  have still : ∀ block, Present initial state.events block → Present initial later.events block := fun _ => present_later initial grown
  cases task with
  | importL2BlockViaEngine data safeBlockHash returnsHeader =>
      obtain ⟨⟨parent, present, on⟩, safe⟩ := settled
      exact ⟨⟨parent, still parent present, on⟩, safe⟩
  | updateForkchoice header blockHash safeBlockHash returnsHeader => exact ⟨grown settled.1, settled.2⟩
  | forwardPayload data =>
      obtain ⟨parent, present, on⟩ := settled
      exact ⟨parent, still parent present, on⟩
  | resolveKind parent attributes => exact still parent settled
  | writeBlockTags safe finalized finalizedHash canonicalHead =>
      refine ⟨settled.1, fun block member => ?_⟩
      obtain ⟨present, head, checked, below⟩ := settled.2 block member
      exact ⟨still block present, head, grown checked, below⟩
  | finished response =>
      cases response with
      | error error => trivial
      | ok response =>
          cases response with
          | header header =>
              obtain ⟨forkchoice, adopted, validated⟩ := settled
              exact ⟨forkchoice, grown adopted, grown validated⟩
          | done => trivial
          | success value => trivial
  | newL2Block data => trivial
  | newL2BlockV2 data => trivial
  | newSafeL2Block data => trivial
  | sendNewPayload parentHash attributes => trivial
  | validateL2Block data => trivial
  | setBlockTags safeBlockHash finalizedBlockHash => trivial

variable (sound : NodeSound engine node initial state)

include sound

theorem held_present (data : ExecutableL2Data) (on : OnHeld (engine.holds state.tree) data) :
    OnHeld (Present initial state.events) data := by
  obtain ⟨parent, held, link⟩ := on
  exact ⟨parent, sound.held parent held, link⟩

theorem on_head (data : ExecutableL2Data) (parentHash : data.parentHash = (engine.head state.tree).hash)
    (number : data.number = (engine.head state.tree).header.number + 1) : OnHeld (Present initial state.events) data :=
  ⟨engine.head state.tree, sound.held _ (engine.headHeld state.tree), parentHash, number⟩

theorem submit_sound (data : ExecutableL2Data) (on : OnHeld (Present initial state.events) data) (payload : MorphExecutionData)
    (header : MorphHeader) (converted : executionPayloadFromExecutableData node data = .ok (payload, header)) :
    NodeSound engine node initial (state.submit engine payload).2 ∧ state.events ⊆ (state.submit engine payload).2.events ∧
      ((state.submit engine payload).1 = .ok .valid → .validated ⟨header, data.hash⟩ ∈ (state.submit engine payload).2.events) := by
  obtain ⟨block, sealed, parentHash, number⟩ := payload_converted node data payload header converted
  obtain ⟨parent, present, hash, next⟩ := on
  have submitted : ImportEvent.Justified node.config.hashHeader initial state.events (.submitted payload.block.sealedHeader) := by
    rw [block]
    exact ⟨sealed, parent, present, ⟨parentHash.trans hash, number.trans next⟩⟩
  have held : ∀ other, engine.holds (engine.newPayload state.tree payload).2 other →
      Present initial (.submitted payload.block.sealedHeader :: state.events) other := by
    intro other held
    rcases engine.payloadHeld held with before | rfl
    · exact present_later initial (List.subset_cons_self _ _) (sound.held other before)
    · exact .inr List.mem_cons_self
  simp only [EngineNode.submit]
  split
  · refine ⟨⟨⟨List.mem_cons_self, submitted, sound.justified⟩, sound.tracked, fun other isHeld => ?_⟩, ?_, fun _ => ?_⟩
    · exact present_later initial (List.subset_cons_self _ _) (held other isHeld)
    · exact fun event member => List.mem_cons_of_mem _ (List.mem_cons_of_mem _ member)
    · rw [← block]
      exact List.mem_cons_self
  · next refused => exact ⟨⟨⟨submitted, sound.justified⟩, sound.tracked, held⟩, List.subset_cons_self _ _, fun valid => absurd valid refused⟩

theorem update_sound (header : MorphHeader) (blockHash safeBlockHash : B256) (validated : .validated ⟨header, blockHash⟩ ∈ state.events)
    (safe : safeBlockHash = 0 ∨ safeBlockHash = blockHash) :
    let forkchoice : ForkchoiceState := ⟨blockHash, safeBlockHash, state.l1FinalizedHash.getD 0⟩
    NodeSound engine node initial (state.update engine forkchoice).2 ∧ state.events ⊆ (state.update engine forkchoice).2.events ∧
      ((state.update engine forkchoice).1 = .ok .valid → .adopted forkchoice ∈ (state.update engine forkchoice).2.events) := by
  intro forkchoice
  have sent : ImportEvent.Justified node.config.hashHeader initial state.events (.forkchoice forkchoice) :=
    ⟨⟨_, validated, rfl⟩, safe, sound.tracked⟩
  have held : ∀ other, engine.holds (engine.forkChoiceUpdated state.tree forkchoice).2 other →
      Present initial (.forkchoice forkchoice :: state.events) other :=
    fun other held => present_later initial (List.subset_cons_self _ _) (sound.held other (engine.updatedHeld held))
  simp only [EngineNode.update]
  split
  · refine ⟨⟨⟨List.mem_cons_self, sent, sound.justified⟩, sound.tracked, fun other isHeld => ?_⟩, ?_, fun _ => List.mem_cons_self⟩
    · exact present_later initial (List.subset_cons_self _ _) (held other isHeld)
    · exact fun event member => List.mem_cons_of_mem _ (List.mem_cons_of_mem _ member)
  · next refused => exact ⟨⟨⟨sent, sound.justified⟩, sound.tracked, held⟩, List.subset_cons_self _ _, fun valid => absurd valid refused⟩

omit sound

theorem execution_error_ok (context : String) (answer : Except String PayloadStatusEnum) (accepted : executionError context answer = .ok ()) :
    answer = .ok .valid := by
  cases answer with
  | error error => cases accepted
  | ok status =>
      cases status with
      | valid => rfl
      | invalid error => cases accepted
      | syncing => cases accepted
      | accepted => cases accepted

theorem or_fail_settled (outcome : Except MorphEngineApiError EngineTask)
    (settled : ∀ task, outcome = .ok task → Settled initial state task) : Settled initial state (orFail outcome) := by
  cases outcome with
  | error error => trivial
  | ok task => exact settled task rfl

theorem write_tags_tracked (log : TagLog) (safe finalized : Option SealedHeader) (hash : Option B256) :
    (writeTags log safe finalized hash).tags.finalizedHash = hash.or log.tags.finalizedHash := by
  rcases safe with _ | safe <;> rcases finalized with _ | finalized <;> rcases hash with _ | hash <;> rfl

theorem write_sound (sound : NodeSound engine node initial state) (service : PayloadService node.recovery)
    (safe finalized : Option SealedHeader) (finalizedHash : Option B256) (canonicalHead : CanonicalHead)
    (settled : Settled initial state (.writeBlockTags safe finalized finalizedHash canonicalHead)) :
    let moved := advance engine node service state (.writeBlockTags safe finalized finalizedHash canonicalHead)
    NodeSound engine node initial moved.1 ∧ Settled initial moved.1 moved.2 ∧ state.events ⊆ moved.1.events := by
  intro moved
  obtain ⟨rfl, checked⟩ := settled
  cases finalized with
  | none =>
      refine ⟨⟨sound.justified, ?_, sound.held⟩, trivial, List.Subset.refl _⟩
      exact (congrArg (Option.getD · 0) (write_tags_tracked state.tags safe none none)).trans sound.tracked
  | some block =>
      refine ⟨⟨⟨checked block rfl, sound.justified⟩, ?_, fun other held => ?_⟩, trivial, List.subset_cons_self _ _⟩
      · exact congrArg (Option.getD · 0) (write_tags_tracked state.tags safe (some block) (some block.hash))
      · exact present_later initial (List.subset_cons_self _ _) (sound.held other held)

theorem advance_sound (service : PayloadService node.recovery) (task : EngineTask) (sound : NodeSound engine node initial state)
    (settled : Settled initial state task) :
    let moved := advance engine node service state task
    NodeSound engine node initial moved.1 ∧ Settled initial moved.1 moved.2 ∧ state.events ⊆ moved.1.events := by
  intro moved
  have unmoved (next : EngineTask) (stays : moved = (state, next)) (settles : Settled initial state next) :
      NodeSound engine node initial moved.1 ∧ Settled initial moved.1 moved.2 ∧ state.events ⊆ moved.1.events := by
    rw [stays]
    exact ⟨sound, settles, List.Subset.refl _⟩
  cases task with
  | newL2Block data =>
      refine unmoved _ rfl (or_fail_settled _ (fun task checked => ?_))
      rcases new_block_checked engine state.tree data task checked with ⟨rfl, _⟩ | ⟨rfl, parentHash, number⟩
      · trivial
      · exact ⟨on_head sound data parentHash number, .inl rfl⟩
  | newL2BlockV2 data =>
      refine unmoved _ rfl (or_fail_settled _ (fun task checked => ?_))
      obtain ⟨rfl, on⟩ := parent_checked engine state.tree data task checked
      exact ⟨held_present sound data on, .inl rfl⟩
  | newSafeL2Block data =>
      refine unmoved _ rfl (or_fail_settled _ (fun task built => ?_))
      obtain ⟨_, _, requested⟩ := (bind_ok _ _ _).mp built
      cases requested
      trivial
  | sendNewPayload parentHash attributes =>
      refine unmoved _ rfl (or_fail_settled _ (fun task built => ?_))
      obtain ⟨parent, sent, started⟩ := (bind_ok _ _ _).mp built
      cases started
      exact sound.held parent (payload_sent engine node service state.tree parentHash parent sent)
  | resolveKind parent attributes =>
      refine unmoved _ rfl (or_fail_settled _ (fun task built => ?_))
      obtain ⟨payload, resolved, imported⟩ := (bind_ok _ _ _).mp built
      cases imported
      exact ⟨⟨parent, settled, safe_block_built engine node service state.tree parent attributes payload resolved⟩, .inr rfl⟩
  | validateL2Block data =>
      refine unmoved _ rfl (or_fail_settled _ (fun task checked => ?_))
      obtain ⟨rfl, parentHash, number⟩ := continuity_checked engine state.tree data task checked
      exact on_head sound data parentHash number
  | setBlockTags safeBlockHash finalizedBlockHash =>
      have grown := List.subset_cons_self (.tagsChecked (engine.head state.tree)) state.events
      refine ⟨⟨⟨sound.held _ (engine.headHeld state.tree), sound.justified⟩, sound.tracked, fun block held => ?_⟩,
        or_fail_settled _ (fun task resolved => ?_), grown⟩
      · exact present_later initial grown (sound.held block held)
      · rcases tags_resolved engine state.tree safeBlockHash finalizedBlockHash task resolved with
          rfl | ⟨safe, finalized, hash, canonicalHead, rfl, same, ⟨sameHash, sameNumber⟩, held⟩
        · trivial
        · refine ⟨same, fun block member => ?_⟩
          obtain ⟨isHeld, below⟩ := held block member
          exact ⟨present_later initial grown (sound.held block isHeld), _, List.mem_cons_self, sameHash, sameNumber, below⟩
  | importL2BlockViaEngine data safeBlockHash returnsHeader =>
      cases converted : executionPayloadFromExecutableData node data with
      | error error => exact unmoved (.finished (.error error)) (by simp only [moved, advance, converted]) trivial
      | ok pair =>
          obtain ⟨payload, header⟩ := pair
          obtain ⟨after, grown, validated⟩ := submit_sound sound data settled.1 payload header converted
          simp only [moved, advance, converted]
          cases answered : executionError "newPayload" (state.submit engine payload).1 with
          | error error => exact ⟨after, trivial, grown⟩
          | ok done => exact ⟨after, ⟨validated (execution_error_ok _ _ answered), settled.2⟩, grown⟩
  | updateForkchoice header blockHash safeBlockHash returnsHeader =>
      obtain ⟨after, grown, adopted⟩ := update_sound sound header blockHash safeBlockHash settled.1 settled.2
      simp only [moved, advance]
      cases answered : executionError "forkchoiceUpdated"
          (state.update engine ⟨blockHash, safeBlockHash, state.l1FinalizedHash.getD 0⟩).1 with
      | error error => exact ⟨after, trivial, grown⟩
      | ok done =>
          refine ⟨after, ?_, grown⟩
          cases returnsHeader with
          | false => trivial
          | true => exact ⟨_, adopted (execution_error_ok _ _ answered), grown settled.1⟩
  | forwardPayload data =>
      cases converted : executionPayloadFromExecutableData node data with
      | error error => exact unmoved (.finished (.ok (.success false))) (by simp only [moved, advance, converted]) trivial
      | ok pair =>
          obtain ⟨payload, header⟩ := pair
          obtain ⟨after, grown, _⟩ := submit_sound sound data settled payload header converted
          simp only [moved, advance, converted]
          cases (state.submit engine payload).1 with
          | error error => exact ⟨after, trivial, grown⟩
          | ok status => exact ⟨after, trivial, grown⟩
  | writeBlockTags safe finalized finalizedHash canonicalHead => exact write_sound sound service safe finalized finalizedHash canonicalHead settled
  | finished response => exact unmoved _ rfl settled

end Runs

section Sample

-- A tree that accepts every payload and follows every forkchoice it can.
structure MemoryTree where
  lookup : B256 → Option SealedHeader
  head : SealedHeader
  named : ∀ {hash block}, lookup hash = some block → block.hash = hash
  headHeld : lookup head.hash = some head

namespace MemoryTree

def insert (tree : MemoryTree) (block : SealedHeader) (absent : tree.lookup block.hash = none) : MemoryTree where
  lookup hash := if hash = block.hash then some block else tree.lookup hash
  head := tree.head
  named {hash other} found := by
    split at found
    · next same =>
        cases found
        exact same.symm
    · exact tree.named found
  headHeld := by
    rw [if_neg]
    · exact tree.headHeld
    · intro same
      rw [← same, tree.headHeld] at absent
      cases absent

def newPayload (tree : MemoryTree) (payload : MorphExecutionData) : Except String PayloadStatusEnum × MemoryTree :=
  match absent : tree.lookup payload.block.sealedHeader.hash with
  | none => (.ok .valid, tree.insert payload.block.sealedHeader absent)
  | some block => if block = payload.block.sealedHeader then (.ok .valid, tree) else (.error "another block has this hash", tree)

def forkChoiceUpdated (tree : MemoryTree) (state : ForkchoiceState) : Except String PayloadStatusEnum × MemoryTree :=
  match found : tree.lookup state.headBlockHash with
  | none => (.ok .syncing, tree)
  | some block => (.ok .valid, { tree with head := block, headHeld := (tree.named found).symm ▸ found })

theorem new_payload_cases (tree : MemoryTree) (payload : MorphExecutionData) :
    (∃ absent, tree.newPayload payload = (.ok .valid, tree.insert payload.block.sealedHeader absent)) ∨
      (tree.lookup payload.block.sealedHeader.hash = some payload.block.sealedHeader ∧ tree.newPayload payload = (.ok .valid, tree)) ∨
      tree.newPayload payload = (.error "another block has this hash", tree) := by
  rw [newPayload]
  split
  · next absent => exact .inl ⟨absent, rfl⟩
  · next block found =>
      split
      · next same => exact .inr (.inl ⟨same ▸ found, rfl⟩)
      · exact .inr (.inr rfl)

theorem update_cases (tree : MemoryTree) (state : ForkchoiceState) :
    tree.forkChoiceUpdated state = (.ok .syncing, tree) ∨
      ∃ block headHeld, tree.lookup state.headBlockHash = some block ∧
        tree.forkChoiceUpdated state = (.ok .valid, { tree with head := block, headHeld := headHeld }) := by
  rw [forkChoiceUpdated]
  split
  · exact .inl rfl
  · next block found => exact .inr ⟨block, (tree.named found).symm ▸ found, found, rfl⟩

end MemoryTree

def memoryEngine : EngineTree MemoryTree where
  sealedHeaderByHash tree hash := .ok (tree.lookup hash)
  latestHeader tree := .ok (some tree.head)
  newPayload := MemoryTree.newPayload
  forkChoiceUpdated := MemoryTree.forkChoiceUpdated
  holds tree block := tree.lookup block.hash = some block
  head := MemoryTree.head
  found {tree hash header} found := by
    have located := Except.ok.inj found
    have named := tree.named located
    exact ⟨named, named.symm ▸ located⟩
  latest {tree header} found := (Option.some.inj (Except.ok.inj found)).symm
  keyed {tree block other} held also same := Option.some.inj (held.symm.trans (same ▸ also))
  headHeld tree := tree.headHeld
  payloadHeld {tree payload block} held := by
    rcases tree.new_payload_cases payload with ⟨absent, result⟩ | ⟨_, result⟩ | result
    · rw [result] at held
      simp only [MemoryTree.insert] at held
      split at held
      · exact .inr (Option.some.inj held).symm
      · exact .inl held
    · rw [result] at held
      exact .inl held
    · rw [result] at held
      exact .inl held
  payloadValid {tree payload} valid := by
    rcases tree.new_payload_cases payload with ⟨absent, result⟩ | ⟨held, result⟩ | result
    · rw [result]
      exact if_pos rfl
    · rw [result]
      exact held
    · rw [result] at valid
      cases valid
  payloadHead tree payload := by
    rcases tree.new_payload_cases payload with ⟨absent, result⟩ | ⟨_, result⟩ | result
    · exact .inl (by rw [result]; rfl)
    · exact .inl (by rw [result])
    · exact .inl (by rw [result])
  updatedHeld {tree state block} held := by
    rcases tree.update_cases state with result | ⟨_, _, _, result⟩
    · rwa [result] at held
    · rwa [result] at held
  updatedHead tree state := by
    rcases tree.update_cases state with result | ⟨block, _, found, result⟩
    · exact .inl (by rw [result])
    · exact .inr (by rw [result]; exact tree.named found)
  updatedValid {tree state} valid := by
    rcases tree.update_cases state with result | ⟨block, _, found, result⟩
    · rw [result] at valid
      cases valid
    · exact .inl (by rw [result]; exact tree.named found)

def sampleTree : MemoryTree where
  lookup hash := if hash = sampleParent.hash then some sampleParent else none
  head := sampleParent
  named {hash block} found := by
    split at found
    · next same =>
        cases found
        exact same.symm
    · cases found
  headHeld := if_pos rfl

def sampleImport : ExecutableL2Data where
  parentHash := 0xA1
  miner := 0
  number := 2
  gasLimit := 30000000
  baseFeePerGas := some 7
  timestamp := 100
  transactions := []
  stateRoot := 0
  gasUsed := 0
  receiptsRoot := 0
  logsBloom := List.replicate 256 0
  withdrawTrieRoot := 0
  nextL1MessageIndex := 2
  hash := 0xB2

def sampleImporter : RealMorphL2EngineApi Nat U64 := sampleApi sampleWireTx (by decide)

def idleService : PayloadService sampleImporter.recovery := ⟨100, [], by simp⟩

-- The tags are written after the import was checked, and its forkchoice
-- carries them.
def sampleTurns : List (Turn EngineTask (PayloadService sampleImporter.recovery)) :=
  [.start (.setBlockTags 0xA1 0xA1), .start (.newL2Block sampleImport), .advance 0 idleService, .advance 1 idleService,
    .advance 0 idleService, .advance 1 idleService, .advance 0 idleService]

end Sample

end MorphReth.Engine
