import MorphReth.Consensus.L1Messages

set_option autoImplicit false

namespace MorphReth.Consensus

open Rlp Transaction

inductive InsertBlockErrorKind where
  | consensus (error : ConsensusError)
  | provider
  deriving DecidableEq, Repr

-- The engine tree validator: where it looks for a parent header.
structure MorphTreeEngineValidator where
  chainSpec : MorphChainSpec
  treeState : B256 → Option SealedHeader
  provider : B256 → Except InsertBlockErrorKind (Option SealedHeader)

def nextIndexMismatch (expected actual : U64) : ConsensusError :=
  .msg ("invalid block.NextL1MsgIndex: expected " ++ toString expected.toNat ++ ", got " ++ toString actual.toNat)

def sealedHeaderByHash (engine : MorphTreeEngineValidator) (hash : B256) : Except InsertBlockErrorKind (Option SealedHeader) :=
  match engine.treeState hash with
  | some parent => .ok (some parent)
  | none => engine.provider hash

-- The loop over the leading L1 messages; the first L2 transaction ends it.
def expectedNextIndex (actual : U64) (expected : U64) : List MorphTxEnvelope → Except ConsensusError U64
  | [] => .ok expected
  | tx :: txs =>
      if tx.isL1Msg = false then .ok expected
      else match tx.queueIndex with
        | none => .error (.msg "L1 message transaction is missing queue index")
        | some queueIndex => match checkedAdd queueIndex 1 with
            | none => .error (nextIndexMismatch (maxWord 64) actual)
            | some next => expectedNextIndex actual next txs

def validateNextL1MsgIndex (engine : MorphTreeEngineValidator) (block : SealedBlock) : Except InsertBlockErrorKind Unit := do
  if engine.chainSpec.isJadeActiveAtTimestamp block.header.timestamp = false then .ok ()
  else
    match ← sealedHeaderByHash engine block.header.parentHash with
    | none => .ok ()
    | some parent =>
        let actual := block.header.nextL1MsgIndex
        let expected ← (expectedNextIndex actual parent.header.nextL1MsgIndex block.transactions).mapError .consensus
        rejectIf (actual ≠ expected) (.consensus (nextIndexMismatch expected actual))

theorem expected_next_index (actual expected result : U64) (txs : List MorphTxEnvelope)
    (accepted : expectedNextIndex actual expected txs = .ok result) :
    result.toNat = match (l1Indices (leadingL1 txs)).getLast? with
      | none => expected.toNat
      | some last => last + 1 := by
  induction txs generalizing expected with
  | nil =>
      cases accepted
      rfl
  | cons tx txs hypothesis =>
      rw [expectedNextIndex] at accepted
      by_cases isL2 : tx.isL1Msg = false
      · rw [if_pos isL2] at accepted
        cases accepted
        rw [leadingL1, List.takeWhile_cons_of_neg (by rw [isL2]; decide)]
        rfl
      · rw [if_neg isL2] at accepted
        rw [Bool.not_eq_false] at isL2
        obtain ⟨index, found⟩ := queue_index_of_l1_msg tx isL2
        rw [found] at accepted
        simp only at accepted
        cases added : checkedAdd index 1 with
        | none => rw [added] at accepted; cases accepted
        | some next =>
            rw [added] at accepted
            have after := hypothesis next accepted
            have sum : next.toNat = index.toNat + 1 := checked_add_some index 1 next added
            rw [leadingL1, List.takeWhile_cons_of_pos isL2, l1_indices_cons_l1 tx _ index found, List.getLast?_cons]
            rw [leadingL1] at after
            cases reached : (l1Indices (List.takeWhile MorphTxEnvelope.isL1Msg txs)).getLast? with
            | none =>
                rw [reached] at after
                simp only [after, sum, Option.getD_none]
            | some last =>
                rw [reached] at after
                simp only [after, Option.getD_some]

theorem expected_next_index_accepts (actual expected : U64) (messages others : List MorphTxEnvelope)
    (l1 : ∀ tx ∈ messages, tx.isL1Msg = true) (l2 : ∀ tx ∈ others, tx.isL1Msg = false)
    (run : l1Indices messages = List.range' expected.toNat (l1Indices messages).length)
    (next : actual.toNat = expected.toNat + (l1Indices messages).length) :
    expectedNextIndex actual expected (messages ++ others) = .ok actual := by
  induction messages generalizing expected with
  | nil =>
      have same : expected = actual := BitVec.eq_of_toNat_eq next.symm
      rw [List.nil_append, same]
      cases others with
      | nil => rfl
      | cons tx others => rw [expectedNextIndex, if_pos (l2 tx List.mem_cons_self)]
  | cons tx messages hypothesis =>
      have isL1 := l1 tx List.mem_cons_self
      obtain ⟨index, found⟩ := queue_index_of_l1_msg tx isL1
      rw [l1_indices_cons_l1 tx messages index found, List.length_cons] at next
      rw [l1_indices_cons_l1 tx messages index found, List.length_cons, List.range'_succ, List.cons.injEq] at run
      have width := actual.isLt
      have sum : (index + 1).toNat = expected.toNat + 1 := by
        rw [BitVec.toNat_add, run.1]
        exact Nat.mod_eq_of_lt (by change expected.toNat + 1 < 2 ^ 64; omega)
      rw [List.cons_append, expectedNextIndex, if_neg (by rw [isL1]; decide), found]
      simp only [checked_succ index (index + 1) (by omega)]
      exact hypothesis (index + 1) (fun tx member => l1 tx (List.mem_cons_of_mem _ member)) (by rw [sum]; exact run.2) (by omega)

theorem next_index_accepted (engine : MorphTreeEngineValidator) (block : SealedBlock) (parent : SealedHeader)
    (ordered : L1First block.transactions) (found : sealedHeaderByHash engine block.header.parentHash = .ok (some parent))
    (run : l1Indices block.transactions = List.range' parent.header.nextL1MsgIndex.toNat (l1Indices block.transactions).length)
    (next : block.header.nextL1MsgIndex.toNat = parent.header.nextL1MsgIndex.toNat + (l1Indices block.transactions).length) :
    validateNextL1MsgIndex engine block = .ok () := by
  obtain ⟨messages, others, split, l1, l2⟩ := ordered
  have same : l1Indices block.transactions = l1Indices messages := by
    rw [split, l1_indices_append, l1_indices_of_l2 others l2, List.append_nil]
  rw [same] at run next
  have expected := expected_next_index_accepts block.header.nextL1MsgIndex parent.header.nextL1MsgIndex messages others l1 l2 run next
  rw [validateNextL1MsgIndex]
  split
  · rfl
  · refine (bind_ok _ _ _).mpr ⟨some parent, found, ?_⟩
    simp only [split, bind_ok, map_error_ok, reject_if_ok, not_not]
    exact ⟨_, expected, rfl⟩

-- One block on its parent: at or after Jade, and accepted by the three checks.
-- The engine's tree state may be another one at every block, as long as the
-- parent is found in it.
structure Accepted (consensus : MorphConsensus) (parent : SealedHeader) (block : SealedBlock) : Prop where
  jade : consensus.chainSpec.isJadeActiveAtTimestamp block.header.timestamp = true
  preExecution : validateBlockPreExecution consensus block = .ok ()
  againstParent : validateHeaderAgainstParent consensus block.sealedHeader parent = .ok ()
  engine : ∃ engine : MorphTreeEngineValidator, engine.chainSpec = consensus.chainSpec ∧
    sealedHeaderByHash engine block.header.parentHash = .ok (some parent) ∧ validateNextL1MsgIndex engine block = .ok ()

-- A property of every block of a chain together with the header before it.
def Along (holds : SealedHeader → SealedBlock → Prop) : SealedHeader → List SealedBlock → Prop
  | _, [] => True
  | parent, block :: blocks => holds parent block ∧ Along holds block.sealedHeader blocks

theorem Along.mono {weak strong : SealedHeader → SealedBlock → Prop} (implies : ∀ parent block, strong parent block → weak parent block)
    (parent : SealedHeader) (blocks : List SealedBlock) (holds : Along strong parent blocks) : Along weak parent blocks := by
  induction blocks generalizing parent with
  | nil => trivial
  | cons block blocks hypothesis => exact ⟨implies parent block holds.1, hypothesis block.sealedHeader holds.2⟩

theorem pre_execution_l1 (consensus : MorphConsensus) (block : SealedBlock) (accepted : validateBlockPreExecution consensus block = .ok ()) :
    validateL1MessagesInBlock block.transactions block.header.nextL1MsgIndex
      (consensus.chainSpec.isJadeActiveAtTimestamp block.header.timestamp) = .ok () := by
  simp only [validateBlockPreExecution, bind_ok] at accepted
  obtain ⟨_, _, _, _, _, _, _, _, _, _, _, _, l1⟩ := accepted
  exact l1

theorem against_parent_index (consensus : MorphConsensus) (header parent : SealedHeader)
    (accepted : validateHeaderAgainstParent consensus header parent = .ok ()) :
    parent.header.nextL1MsgIndex.toNat ≤ header.header.nextL1MsgIndex.toNat := by
  simp only [validateHeaderAgainstParent, bind_ok, reject_if_ok] at accepted
  obtain ⟨_, _, _, _, _, _, monotone⟩ := accepted
  rw [BitVec.lt_def] at monotone
  omega

theorem engine_expected (engine : MorphTreeEngineValidator) (block : SealedBlock) (parent : SealedHeader)
    (jade : engine.chainSpec.isJadeActiveAtTimestamp block.header.timestamp = true)
    (found : sealedHeaderByHash engine block.header.parentHash = .ok (some parent))
    (accepted : validateNextL1MsgIndex engine block = .ok ()) :
    expectedNextIndex block.header.nextL1MsgIndex parent.header.nextL1MsgIndex block.transactions = .ok block.header.nextL1MsgIndex := by
  rw [validateNextL1MsgIndex, if_neg (by rw [jade]; decide), bind_ok] at accepted
  obtain ⟨lookup, same, accepted⟩ := accepted
  rw [found] at same
  cases same
  simp only [bind_ok, map_error_ok, reject_if_ok, not_not] at accepted
  obtain ⟨expected, computed, same⟩ := accepted
  rwa [← same] at computed

-- What the three checks leave of one block: its indices are one run, the
-- header names the index after them, and nothing moves without messages.
structure BlockLaw (parent : SealedHeader) (block : SealedBlock) : Prop where
  run : ∃ first, l1Indices block.transactions = List.range' first (l1Indices block.transactions).length ∧
    (l1Indices block.transactions ≠ [] → block.header.nextL1MsgIndex.toNat = first + (l1Indices block.transactions).length)
  unmoved : l1Indices block.transactions = [] → block.header.nextL1MsgIndex = parent.header.nextL1MsgIndex
  monotone : parent.header.nextL1MsgIndex.toNat ≤ block.header.nextL1MsgIndex.toNat

theorem block_law (consensus : MorphConsensus) (parent : SealedHeader) (block : SealedBlock)
    (accepted : Accepted consensus parent block) : BlockLaw parent block := by
  have inBlock := pre_execution_l1 consensus block accepted.preExecution
  rw [accepted.jade] at inBlock
  have law := in_block_law block.transactions block.header.nextL1MsgIndex inBlock
  refine ⟨law.run, ?_, against_parent_index consensus block.sealedHeader parent accepted.againstParent⟩
  intro empty
  obtain ⟨engine, sameSpec, found, matched⟩ := accepted.engine
  have loop := engine_expected engine block parent (by rw [sameSpec]; exact accepted.jade) found matched
  have index := expected_next_index _ _ _ _ loop
  rw [law.leading, empty] at index
  exact BitVec.eq_of_toNat_eq index

def executed (blocks : List SealedBlock) : List Nat :=
  blocks.flatMap (fun block => l1Indices block.transactions)

def tipIndex : SealedHeader → List SealedBlock → Nat
  | parent, [] => parent.header.nextL1MsgIndex.toNat
  | _, block :: blocks => tipIndex block.sealedHeader blocks

def StartsAtOrAfter (parent : SealedHeader) (block : SealedBlock) : Prop :=
  ∀ first ∈ (l1Indices block.transactions).head?, parent.header.nextL1MsgIndex.toNat ≤ first

-- The queue indices a block passes over before its first L1 message.
def skipped (parent : SealedHeader) (block : SealedBlock) : Nat :=
  (l1Indices block.transactions).head?.getD parent.header.nextL1MsgIndex.toNat - parent.header.nextL1MsgIndex.toNat

def totalSkipped : SealedHeader → List SealedBlock → Nat
  | _, [] => 0
  | parent, block :: blocks => skipped parent block + totalSkipped block.sealedHeader blocks

def IndexAdvance (parent : SealedHeader) (block : SealedBlock) : Prop :=
  block.header.nextL1MsgIndex.toNat =
    parent.header.nextL1MsgIndex.toNat + skipped parent block + (l1Indices block.transactions).length

structure BlockRun (parent : SealedHeader) (block : SealedBlock) : Prop where
  indices : l1Indices block.transactions =
    List.range' (parent.header.nextL1MsgIndex.toNat + skipped parent block) (l1Indices block.transactions).length
  advance : IndexAdvance parent block

theorem skipped_without_messages (parent : SealedHeader) (block : SealedBlock) (empty : l1Indices block.transactions = []) :
    skipped parent block = 0 := by
  rw [skipped, empty]
  exact Nat.sub_self _

theorem block_run (parent : SealedHeader) (block : SealedBlock) (law : BlockLaw parent block) (starts : StartsAtOrAfter parent block) :
    BlockRun parent block := by
  obtain ⟨⟨first, run, next⟩, unmoved, _⟩ := law
  by_cases empty : l1Indices block.transactions = []
  · refine ⟨by rw [empty]; rfl, ?_⟩
    rw [IndexAdvance, unmoved empty, skipped_without_messages parent block empty, empty]
    rfl
  · have head : (l1Indices block.transactions).head? = some first := by
      have positive := List.length_pos_of_ne_nil empty
      rw [run, List.head?_range', if_neg (by omega)]
    have bound := starts first head
    have skip : parent.header.nextL1MsgIndex.toNat + skipped parent block = first := by
      rw [skipped, head, Option.getD_some]
      omega
    refine ⟨by rw [skip]; exact run, ?_⟩
    rw [IndexAdvance, skip, next empty]

section Runs

variable (parent : SealedHeader) (blocks : List SealedBlock) (runs : Along BlockRun parent blocks)

include runs

theorem advance_total :
    tipIndex parent blocks = parent.header.nextL1MsgIndex.toNat + totalSkipped parent blocks + (executed blocks).length := by
  induction blocks generalizing parent with
  | nil => rfl
  | cons block blocks hypothesis =>
      have rest := hypothesis block.sealedHeader runs.2
      have advance : block.header.nextL1MsgIndex.toNat = _ := runs.1.advance
      simp only [SealedBlock.sealedHeader] at rest
      rw [tipIndex, totalSkipped, executed, List.flatMap_cons, List.length_append]
      rw [executed] at rest
      simp only [SealedBlock.sealedHeader]
      omega

theorem executed_bounds (index : Nat) (member : index ∈ executed blocks) :
    parent.header.nextL1MsgIndex.toNat ≤ index ∧ index < tipIndex parent blocks := by
  induction blocks generalizing parent with
  | nil => cases member
  | cons block blocks hypothesis =>
      have total := advance_total block.sealedHeader blocks runs.2
      have advance : block.header.nextL1MsgIndex.toNat = _ := runs.1.advance
      rw [executed, List.flatMap_cons, List.mem_append] at member
      simp only [SealedBlock.sealedHeader] at total
      rw [tipIndex]
      rcases member with here | later
      · rw [runs.1.indices, List.mem_range'_1] at here
        simp only [SealedBlock.sealedHeader]
        omega
      · have bounds := hypothesis block.sealedHeader runs.2 later
        simp only [SealedBlock.sealedHeader] at bounds ⊢
        omega

theorem executed_increasing : (executed blocks).Pairwise (· < ·) := by
  induction blocks generalizing parent with
  | nil => exact List.Pairwise.nil
  | cons block blocks hypothesis =>
      rw [executed, List.flatMap_cons, List.pairwise_append]
      refine ⟨?_, hypothesis block.sealedHeader runs.2, ?_⟩
      · rw [runs.1.indices]
        exact List.pairwise_lt_range'
      · intro before here after later
        have bounds := executed_bounds block.sealedHeader blocks runs.2 after later
        have advance : block.header.nextL1MsgIndex.toNat = _ := runs.1.advance
        rw [runs.1.indices, List.mem_range'_1] at here
        simp only [SealedBlock.sealedHeader] at bounds
        omega

theorem executed_contiguous :
    executed blocks = List.range' parent.header.nextL1MsgIndex.toNat (executed blocks).length ↔
      Along (fun parent block => skipped parent block = 0) parent blocks := by
  induction blocks generalizing parent with
  | nil => exact ⟨fun _ => trivial, fun _ => rfl⟩
  | cons block blocks hypothesis =>
      have rest := hypothesis block.sealedHeader runs.2
      have advance : block.header.nextL1MsgIndex.toNat = _ := runs.1.advance
      have indices := runs.1.indices
      simp only [SealedBlock.sealedHeader] at rest
      rw [Along, executed, List.flatMap_cons, List.length_append, ← List.range'_append_1]
      change l1Indices block.transactions ++ executed blocks = _ ↔ _
      refine ⟨fun joined => ?_, fun gaps => ?_⟩
      · obtain ⟨here, later⟩ := List.append_inj joined List.length_range'.symm
        have noSkip : skipped parent block = 0 := by
          by_cases empty : l1Indices block.transactions = []
          · exact skipped_without_messages parent block empty
          · have positive := List.length_pos_of_ne_nil empty
            have heads := congrArg List.head? (indices.symm.trans here)
            rw [List.head?_range', List.head?_range', if_neg (by omega), if_neg (by omega)] at heads
            have := Option.some.inj heads
            omega
        refine ⟨noSkip, rest.mp ?_⟩
        rw [advance, noSkip]
        exact later
      · have tail := rest.mpr gaps.2
        rw [advance, gaps.1] at tail
        rw [gaps.1] at indices
        exact congrArg₂ (· ++ ·) indices tail

end Runs

-- Jade lets a block pass over queue indices before its first message, so the
-- messages of a chain are one increasing sequence and not always one run.
theorem l1_message_chain (consensus : MorphConsensus) (parent : SealedHeader) (blocks : List SealedBlock)
    (accepted : Along (Accepted consensus) parent blocks) :
    Along BlockLaw parent blocks ∧
      (Along StartsAtOrAfter parent blocks →
        Along IndexAdvance parent blocks ∧
        tipIndex parent blocks = parent.header.nextL1MsgIndex.toNat + totalSkipped parent blocks + (executed blocks).length ∧
        (executed blocks).Pairwise (· < ·) ∧
        (∀ index ∈ executed blocks, parent.header.nextL1MsgIndex.toNat ≤ index ∧ index < tipIndex parent blocks) ∧
        (executed blocks = List.range' parent.header.nextL1MsgIndex.toNat (executed blocks).length ↔
          Along (fun parent block => skipped parent block = 0) parent blocks)) := by
  have laws : Along BlockLaw parent blocks := Along.mono (block_law consensus) parent blocks accepted
  refine ⟨laws, fun starts => ?_⟩
  have runs : Along BlockRun parent blocks := by
    clear accepted
    induction blocks generalizing parent with
    | nil => trivial
    | cons block blocks hypothesis =>
        exact ⟨block_run parent block laws.1 starts.1, hypothesis block.sealedHeader laws.2 starts.2⟩
  exact ⟨Along.mono (fun _ _ run => run.advance) parent blocks runs, advance_total parent blocks runs,
    executed_increasing parent blocks runs, executed_bounds parent blocks runs, executed_contiguous parent blocks runs⟩

def sampleSpec : MorphChainSpec := ⟨fun _ => .timestamp 0, false⟩

def sampleConsensus : MorphConsensus where
  chainSpec := sampleSpec
  emptyOmmerRootHash := 0
  encode2718Len _ := 100
  validateAgainstParentHashNumber header parent := do
    rejectIf (parent.header.number + 1 ≠ header.number) (.parentBlockNumberMismatch parent.header.number header.number)
    rejectIf (parent.hash ≠ header.parentHash) (.parentHashMismatch header.parentHash parent.hash)
  calculateTransactionRoot _ := 0

def sampleHeader (number next : U64) (parentHash : B256) : MorphHeader where
  nextL1MsgIndex := next
  parentHash := parentHash
  ommersHash := 0
  beneficiary := 0
  stateRoot := 0
  transactionsRoot := 0
  receiptsRoot := 0
  withdrawalsRoot := none
  logsBloom := 0
  difficulty := 0
  number := number
  gasLimit := 30000000
  gasUsed := 0
  timestamp := 10
  extraData := []
  mixHash := some 0
  nonce := some 0
  baseFeePerGas := some 1
  blobGasUsed := none
  excessBlobGas := none
  parentBeaconBlockRoot := none
  requestsHash := none
  blockAccessListHash := none
  slotNumber := none

def sampleParent : SealedHeader := ⟨sampleHeader 1 2 0, 0xA1⟩

def sampleEngine : MorphTreeEngineValidator where
  chainSpec := sampleSpec
  treeState hash := if hash = 0xA1 then some sampleParent else none
  provider _ := .ok none

def sampleMessage (index : U64) : MorphTxEnvelope :=
  .l1Msg ⟨index, 100000, 0, 0, 0, []⟩

def skippingBlock : SealedBlock where
  header := sampleHeader 2 7 0xA1
  hash := 0xB2
  transactions := [sampleMessage 5, sampleMessage 6, .legacy [1]]
  ommers := []
  withdrawals := none

def followingBlock : SealedBlock where
  header := sampleHeader 3 8 0xB2
  hash := 0xC3
  transactions := [sampleMessage 7]
  ommers := []
  withdrawals := none

def sampleChain : List SealedBlock := [skippingBlock, followingBlock]

def followingEngine : MorphTreeEngineValidator :=
  { sampleEngine with treeState := fun hash => if hash = 0xB2 then some skippingBlock.sealedHeader else none }

theorem sample_chain_accepted : Along (Accepted sampleConsensus) sampleParent sampleChain :=
  ⟨⟨rfl, rfl, rfl, sampleEngine, rfl, rfl, rfl⟩, ⟨rfl, rfl, rfl, followingEngine, rfl, rfl, rfl⟩, trivial⟩

theorem l1_message_chain_sample :
    Along (Accepted sampleConsensus) sampleParent sampleChain ∧ executed sampleChain = [5, 6, 7] ∧
      tipIndex sampleParent sampleChain = 2 + 3 + 3 := by
  have starts : Along StartsAtOrAfter sampleParent sampleChain :=
    ⟨fun first member => by cases member; decide, fun first member => by cases member; decide, trivial⟩
  exact ⟨sample_chain_accepted, rfl, ((l1_message_chain sampleConsensus sampleParent sampleChain sample_chain_accepted).2 starts).2.1⟩

-- Indices 2, 3 and 4 are passed over: the first header moves by five for two
-- messages, and the executed indices do not start where the parent stopped.
theorem l1_chain_not_exact :
    ¬∀ (consensus : MorphConsensus) (parent : SealedHeader) (blocks : List SealedBlock), Along (Accepted consensus) parent blocks →
        Along (fun parent block => block.header.nextL1MsgIndex.toNat =
          parent.header.nextL1MsgIndex.toNat + (l1Indices block.transactions).length) parent blocks ∧
        executed blocks = List.range' parent.header.nextL1MsgIndex.toNat (executed blocks).length := by
  intro chainExact
  have both := chainExact sampleConsensus sampleParent sampleChain sample_chain_accepted
  exact absurd both.2 (by decide)

end MorphReth.Consensus
