import MorphReth.Interleaving
import MorphReth.Engine.BlockTags
import MorphReth.Engine.Reimport

set_option autoImplicit false

namespace MorphReth.Engine

open Rlp Transaction Consensus Evm Payload

inductive PayloadStatusEnum where
  | valid
  | invalid (validationError : String)
  | syncing
  | accepted
  deriving DecidableEq, Repr

structure ForkchoiceState where
  headBlockHash : B256
  safeBlockHash : B256
  finalizedBlockHash : B256
  deriving DecidableEq, Repr

structure SafeL2Data where
  number : U64
  gasLimit : U64
  baseFeePerGas : Option U128
  timestamp : U64
  transactions : List Bytes
  parentHash : Option B256

def payloadStatusIsValidated : PayloadStatusEnum → Bool
  | .valid => true
  | _ => false

def ensurePayloadStatusValid (status : PayloadStatusEnum) (context : String) : Except MorphEngineApiError Unit :=
  match status with
  | .valid => .ok ()
  | .accepted => .error (.executionFailed (context ++ " returned ACCEPTED before payload was validated"))
  | .syncing => .error (.executionFailed (context ++ " returned SYNCING for payload"))
  | .invalid validationError => .error (.validationFailed (context ++ " returned INVALID: " ++ validationError))

-- The engine tree with its database, which the API drives and reads. It may
-- answer anything. What the API relies on: blocks are found under their own
-- hash, one for each hash; a block is only held from the start or because a
-- payload brought it; and a message moves the head, if at all, to the block it
-- names.
structure EngineTree (Tree : Type) where
  sealedHeaderByHash : Tree → B256 → Except String (Option SealedHeader)
  latestHeader : Tree → Except String (Option SealedHeader)
  newPayload : Tree → MorphExecutionData → Except String PayloadStatusEnum × Tree
  forkChoiceUpdated : Tree → ForkchoiceState → Except String PayloadStatusEnum × Tree
  holds : Tree → SealedHeader → Prop
  head : Tree → SealedHeader
  found : ∀ {tree hash header}, sealedHeaderByHash tree hash = .ok (some header) → header.hash = hash ∧ holds tree header
  latest : ∀ {tree header}, latestHeader tree = .ok (some header) → header = head tree
  keyed : ∀ {tree block other}, holds tree block → holds tree other → block.hash = other.hash → block = other
  headHeld : ∀ tree, holds tree (head tree)
  payloadHeld : ∀ {tree payload block}, holds (newPayload tree payload).2 block → holds tree block ∨ block = payload.block.sealedHeader
  payloadValid : ∀ {tree payload}, (newPayload tree payload).1 = .ok .valid → holds (newPayload tree payload).2 payload.block.sealedHeader
  payloadHead : ∀ tree payload, head (newPayload tree payload).2 = head tree ∨ head (newPayload tree payload).2 = payload.block.sealedHeader
  updatedHeld : ∀ {tree state block}, holds (forkChoiceUpdated tree state).2 block → holds tree block
  updatedHead : ∀ tree state, head (forkChoiceUpdated tree state).2 = head tree ∨ (head (forkChoiceUpdated tree state).2).hash = state.headBlockHash
  updatedValid : ∀ {tree state}, (forkChoiceUpdated tree state).1 = .ok .valid →
    (head (forkChoiceUpdated tree state).2).hash = state.headBlockHash ∨
      ∃ block, holds tree block ∧ block.hash = state.headBlockHash ∧ block.header.number ≤ (head tree).header.number

def EngineTree.provider {Tree : Type} (engine : EngineTree Tree) (tree : Tree) : Provider :=
  ⟨engine.sealedHeaderByHash tree, engine.latestHeader tree⟩

inductive EngineResponse where
  | done
  | header (header : MorphHeader)
  | success (value : Bool)
  deriving DecidableEq, Repr

-- A request and where it stands between two awaits.
inductive EngineTask where
  | newL2Block (data : ExecutableL2Data)
  | newL2BlockV2 (data : ExecutableL2Data)
  | newSafeL2Block (data : SafeL2Data)
  | validateL2Block (data : ExecutableL2Data)
  | setBlockTags (safeBlockHash finalizedBlockHash : B256)
  | importL2BlockViaEngine (data : ExecutableL2Data) (safeBlockHash : B256) (returnsHeader : Bool)
  | updateForkchoice (header : MorphHeader) (blockHash safeBlockHash : B256) (returnsHeader : Bool)
  | forwardPayload (data : ExecutableL2Data)
  | sendNewPayload (parentHash : B256) (attributes : MorphPayloadAttributes)
  | resolveKind (parent : SealedHeader) (attributes : MorphPayloadAttributes)
  | writeBlockTags (safe finalized : Option SealedHeader) (finalizedHash : Option B256) (canonicalHead : CanonicalHead)
  | finished (response : Except MorphEngineApiError EngineResponse)

def EngineTask.isRequest : EngineTask → Bool
  | .newL2Block _ | .newL2BlockV2 _ | .newSafeL2Block _ | .validateL2Block _ | .setBlockTags _ _ => true
  | _ => false

inductive ImportEvent where
  | submitted (block : SealedHeader)
  | validated (block : SealedHeader)
  | forkchoice (state : ForkchoiceState)
  | adopted (state : ForkchoiceState)
  | tagsChecked (head : SealedHeader) -- the head of the tree at the check
  | finalized (block : SealedHeader) (canonicalHead : CanonicalHead)
  deriving DecidableEq, Repr

structure EngineNode (Tree : Type) where
  tree : Tree
  tags : TagLog
  events : List ImportEvent

-- What the payload service sees while one request builds a block.
structure PayloadService (recovery : TxRecovery) where
  now : U64
  attempts : List MorphPayloadBuilder
  held : ∀ builder ∈ attempts, ∀ offer ∈ builder.pool.offers, Encodable recovery.ethereum offer.recovered.tx

section Requests

variable {Tree State Receipt : Type} (engine : EngineTree Tree) (node : RealMorphL2EngineApi State Receipt)

def apiAt (service : PayloadService node.recovery) (tree : Tree) : RealMorphL2EngineApi State Receipt :=
  { node with provider := engine.provider tree, now := service.now, attempts := service.attempts, held := service.held }

def orFail (outcome : Except MorphEngineApiError EngineTask) : EngineTask :=
  match outcome with
  | .ok task => task
  | .error error => .finished (.error error)

def checkContinuity (provider : Provider) (data : ExecutableL2Data) : Except MorphEngineApiError EngineTask := do
  let currentHead ← currentHead provider
  rejectIf (data.number ≠ currentHead.number + 1) (.discontinuousBlockNumber (currentHead.number + 1) data.number)
  rejectIf (data.parentHash ≠ currentHead.hash) (.wrongParentHash currentHead.hash data.parentHash)
  .ok (.forwardPayload data)

def checkNewBlock (provider : Provider) (data : ExecutableL2Data) : Except MorphEngineApiError EngineTask := do
  let currentHead ← currentHead provider
  let expectedNumber := currentHead.number + 1
  if data.number ≠ expectedNumber then
    if data.number < expectedNumber then .ok (.finished (.ok .done))
    else .error (.discontinuousBlockNumber expectedNumber data.number)
  else
    rejectIf (data.parentHash ≠ currentHead.hash) (.wrongParentHash currentHead.hash data.parentHash)
    .ok (.importL2BlockViaEngine data 0 false)

def checkParent (provider : Provider) (data : ExecutableL2Data) : Except MorphEngineApiError EngineTask :=
  match provider.sealedHeaderByHash data.parentHash with
  | .error error => .error (.database error)
  | .ok none => .error (.internal ("parent block not found: " ++ toString data.parentHash))
  | .ok (some parent) => do
      rejectIf (data.number ≠ parent.header.number + 1) (.discontinuousBlockNumber (parent.header.number + 1) data.number)
      .ok (.importL2BlockViaEngine data 0 true)

def requestSafeBlock (api : RealMorphL2EngineApi State Receipt) (data : SafeL2Data) : Except MorphEngineApiError EngineTask := do
  let request ← buildNewPayload api ⟨data.number, data.transactions, some data.timestamp⟩ (some data.gasLimit) data.baseFeePerGas
    data.parentHash .excludePool
  .ok (.sendNewPayload request.1 request.2)

-- The reads of a tag update and the checks on them, which come before its
-- first write.
def resolveBlockTags (provider : Provider) (safeBlockHash finalizedBlockHash : B256) : Except MorphEngineApiError EngineTask := do
  let safe ← resolveTag provider safeBlockHash "safe"
  let finalized ← resolveTag provider finalizedBlockHash "finalized"
  if safe.isNone ∧ finalized.isNone then .ok (.finished (.ok .done))
  else
    let head ← currentHead provider
    validateResolvedBlockTags (safe.map (·.header.number)) (finalized.map (·.header.number)) head.number
    .ok (.writeBlockTags safe finalized (if finalizedBlockHash ≠ 0 then some finalizedBlockHash else none) head)

namespace EngineNode

-- The tracker is not kept over a restart.
def boot (tree : Tree) : EngineNode Tree := ⟨tree, TagLog.unset, []⟩

def log (state : EngineNode Tree) (event : ImportEvent) : EngineNode Tree := { state with events := event :: state.events }

def submit (state : EngineNode Tree) (payload : MorphExecutionData) : Except String PayloadStatusEnum × EngineNode Tree :=
  let answer := engine.newPayload state.tree payload
  let sent : EngineNode Tree := { state with tree := answer.2, events := .submitted payload.block.sealedHeader :: state.events }
  (answer.1, if answer.1 = .ok .valid then sent.log (.validated payload.block.sealedHeader) else sent)

def update (state : EngineNode Tree) (forkchoice : ForkchoiceState) : Except String PayloadStatusEnum × EngineNode Tree :=
  let answer := engine.forkChoiceUpdated state.tree forkchoice
  let sent : EngineNode Tree := { state with tree := answer.2, events := .forkchoice forkchoice :: state.events }
  (answer.1, if answer.1 = .ok .valid then sent.log (.adopted forkchoice) else sent)

def l1FinalizedHash (state : EngineNode Tree) : Option B256 := state.tags.tags.finalizedHash

end EngineNode

def executionError (context : String) : Except String PayloadStatusEnum → Except MorphEngineApiError Unit
  | .error error => .error (.executionFailed error)
  | .ok status => ensurePayloadStatusValid status context

-- One piece of a request, up to its next await.
def advance (service : PayloadService node.recovery) (state : EngineNode Tree) : EngineTask → EngineNode Tree × EngineTask
  | .newL2Block data => (state, orFail (checkNewBlock (engine.provider state.tree) data))
  | .newL2BlockV2 data => (state, orFail (checkParent (engine.provider state.tree) data))
  | .newSafeL2Block data => (state, orFail (requestSafeBlock (apiAt engine node service state.tree) data))
  | .sendNewPayload parentHash attributes => (state, orFail do
      let parent ← sendNewPayload (apiAt engine node service state.tree) parentHash
      .ok (.resolveKind parent attributes))
  | .resolveKind parent attributes => (state, orFail do
      let built ← resolveKind (apiAt engine node service state.tree) parent attributes
      .ok (.importL2BlockViaEngine built.executableData built.executableData.hash true))
  | .validateL2Block data => (state, orFail (checkContinuity (engine.provider state.tree) data))
  | .setBlockTags safeBlockHash finalizedBlockHash =>
      (state.log (.tagsChecked (engine.head state.tree)), orFail (resolveBlockTags (engine.provider state.tree) safeBlockHash finalizedBlockHash))
  | .importL2BlockViaEngine data safeBlockHash returnsHeader => match executionPayloadFromExecutableData node data with
      | .error error => (state, .finished (.error error))
      | .ok (payload, header) =>
          let answer := state.submit engine payload
          match executionError "newPayload" answer.1 with
          | .error error => (answer.2, .finished (.error error))
          | .ok () => (answer.2, .updateForkchoice header data.hash safeBlockHash returnsHeader)
  | .updateForkchoice header blockHash safeBlockHash returnsHeader =>
      let answer := state.update engine ⟨blockHash, safeBlockHash, state.l1FinalizedHash.getD 0⟩
      match executionError "forkchoiceUpdated" answer.1 with
      | .error error => (answer.2, .finished (.error error))
      | .ok () => (answer.2, .finished (.ok (if returnsHeader then .header header else .done)))
  | .forwardPayload data => match executionPayloadFromExecutableData node data with
      | .error _ => (state, .finished (.ok (.success false)))
      | .ok (payload, _) =>
          let answer := state.submit engine payload
          match answer.1 with
          | .error _ => (answer.2, .finished (.ok (.success false)))
          | .ok status => (answer.2, .finished (.ok (.success (payloadStatusIsValidated status))))
  | .writeBlockTags safe finalized finalizedHash canonicalHead =>
      let written := { state with tags := writeTags state.tags safe finalized finalizedHash }
      match finalized with
      | some block => (written.log (.finalized block canonicalHead), .finished (.ok .done))
      | none => (written, .finished (.ok .done))
  | .finished response => (state, .finished response)

end Requests

-- The two pieces of a tag update are the whole of it.
theorem set_block_tags_pieces (provider : Provider) (log : TagLog) (safeBlockHash finalizedBlockHash : B256) :
    setBlockTags provider log safeBlockHash finalizedBlockHash =
      match resolveBlockTags provider safeBlockHash finalizedBlockHash with
      | .error error => (.error error, log)
      | .ok (.writeBlockTags safe finalized finalizedHash _) => (.ok (), writeTags log safe finalized finalizedHash)
      | .ok _ => (.ok (), log) := by
  rw [setBlockTags, resolveBlockTags]
  cases resolveTag provider safeBlockHash "safe" with
  | error error => rfl
  | ok safe =>
      cases resolveTag provider finalizedBlockHash "finalized" with
      | error error => rfl
      | ok finalized =>
          simp only [bind, Except.bind]
          split
          · rfl
          · cases currentHead provider with
            | error error => rfl
            | ok head =>
                dsimp only
                cases validateResolvedBlockTags (safe.map (·.header.number)) (finalized.map (·.header.number)) head.number with
                | error error => rfl
                | ok done => rfl

end MorphReth.Engine
