import MorphReth.Consensus.L1Chain

set_option autoImplicit false

namespace MorphReth.Consensus

open Rlp Transaction

def hashSlow (hashHeader : Header → B256) (header : MorphHeader) : B256 :=
  hashHeader header.toHeader

def chainTip : SealedHeader → List SealedBlock → SealedHeader
  | parent, [] => parent
  | _, block :: blocks => chainTip block.sealedHeader blocks

-- One sealed Jade block on its parent, accepted by the two checks. As for the
-- chains above, the engine may be another one at every block.
structure JadeChild (consensus : MorphConsensus) (hashHeader : Header → B256) (parent : SealedHeader) (block : SealedBlock) : Prop where
  sealed : block.hash = hashSlow hashHeader block.header
  parentHash : block.header.parentHash = parent.hash
  number : block.header.number.toNat = parent.header.number.toNat + 1
  jade : consensus.chainSpec.isJadeActiveAtTimestamp block.header.timestamp = true
  preExecution : validateBlockPreExecution consensus block = .ok ()
  engine : ∃ engine : MorphTreeEngineValidator, engine.chainSpec = consensus.chainSpec ∧
    sealedHeaderByHash engine block.header.parentHash = .ok (some parent) ∧ validateNextL1MsgIndex engine block = .ok ()

-- No hash function is injective, so the assumption is about the headers and
-- transaction lists at hand.
structure CollisionFree (consensus : MorphConsensus) (hashHeader : Header → B256) (headers : List MorphHeader)
    (bodies : List (List MorphTxEnvelope)) : Prop where
  header : ∀ left ∈ headers, ∀ right ∈ headers, hashSlow hashHeader left = hashSlow hashHeader right → left.toHeader = right.toHeader
  transactions : ∀ left ∈ bodies, ∀ right ∈ bodies,
    consensus.calculateTransactionRoot left = consensus.calculateTransactionRoot right → left = right

theorem along_snoc (holds : SealedHeader → SealedBlock → Prop) (parent : SealedHeader) (blocks : List SealedBlock) (last : SealedBlock) :
    Along holds parent (blocks ++ [last]) ↔ Along holds parent blocks ∧ holds (chainTip parent blocks) last := by
  induction blocks generalizing parent with
  | nil => simp [Along, chainTip]
  | cons block blocks hypothesis => simp [Along, chainTip, hypothesis, and_assoc]

theorem chain_tip_snoc (parent : SealedHeader) (blocks : List SealedBlock) (last : SealedBlock) :
    chainTip parent (blocks ++ [last]) = last.sealedHeader := by
  induction blocks generalizing parent with
  | nil => rfl
  | cons block blocks hypothesis => exact hypothesis block.sealedHeader

theorem chain_tip_of_headers (ancestor : SealedHeader) (left right : List SealedBlock)
    (same : left.map SealedBlock.header = right.map SealedBlock.header) :
    (chainTip ancestor left).header = (chainTip ancestor right).header := by
  rcases List.eq_nil_or_concat' left with rfl | ⟨lefts, leftLast, rfl⟩
  · rw [List.map_eq_nil_iff.mp same.symm]
  · rcases List.eq_nil_or_concat' right with rfl | ⟨rights, rightLast, rfl⟩
    · simp at same
    · rw [List.map_append, List.map_append] at same
      have last := List.append_inj_right' same rfl
      simp only [List.map_cons, List.map_nil, List.cons.injEq, and_true] at last
      simpa only [chain_tip_snoc, SealedBlock.sealedHeader] using last

theorem pre_execution_root (consensus : MorphConsensus) (block : SealedBlock)
    (accepted : validateBlockPreExecution consensus block = .ok ()) :
    block.header.transactionsRoot = consensus.calculateTransactionRoot block.transactions := by
  simp only [validateBlockPreExecution, bind_ok, map_error_ok] at accepted
  obtain ⟨_, _, _, _, _, root, _⟩ := accepted
  simpa [ensureTransactionRootValid] using root

-- The loop reads the parent's index and the transactions, and the header index
-- only for its error texts.
theorem child_index (consensus : MorphConsensus) (hashHeader : Header → B256) (parent : SealedHeader) (block : SealedBlock)
    (child : JadeChild consensus hashHeader parent block) :
    block.header.nextL1MsgIndex.toNat = match (l1Indices (leadingL1 block.transactions)).getLast? with
      | none => parent.header.nextL1MsgIndex.toNat
      | some last => last + 1 := by
  obtain ⟨engine, sameSpec, found, accepted⟩ := child.engine
  exact expected_next_index _ _ _ _ (engine_expected engine block parent (by rw [sameSpec]; exact child.jade) found accepted)

theorem chain_number (consensus : MorphConsensus) (hashHeader : Header → B256) (parent : SealedHeader) (blocks : List SealedBlock)
    (chain : Along (JadeChild consensus hashHeader) parent blocks) :
    (chainTip parent blocks).header.number.toNat = parent.header.number.toNat + blocks.length := by
  induction blocks generalizing parent with
  | nil => rfl
  | cons block blocks hypothesis =>
      have rest := hypothesis block.sealedHeader chain.2
      have first := chain.1.number
      simp only [SealedBlock.sealedHeader] at rest
      rw [chainTip, List.length_cons]
      simp only [SealedBlock.sealedHeader]
      omega

section TwoChains

variable {consensus : MorphConsensus} {hashHeader : Header → B256} {ancestor : SealedHeader} {known : List SealedBlock}
  (ancestorSealed : ancestor.hash = hashSlow hashHeader ancestor.header)
  (free : CollisionFree consensus hashHeader (ancestor.header :: known.map SealedBlock.header) (known.map SealedBlock.transactions))

include ancestorSealed in
theorem tip_sealed (blocks : List SealedBlock) (chain : Along (JadeChild consensus hashHeader) ancestor blocks) :
    (chainTip ancestor blocks).hash = hashSlow hashHeader (chainTip ancestor blocks).header := by
  rcases List.eq_nil_or_concat' blocks with rfl | ⟨rest, last, rfl⟩
  · exact ancestorSealed
  · rw [chain_tip_snoc]
    exact ((along_snoc _ ancestor rest last).mp chain).2.sealed

theorem tip_known (blocks : List SealedBlock) (subset : blocks ⊆ known) :
    (chainTip ancestor blocks).header ∈ ancestor.header :: known.map SealedBlock.header := by
  rcases List.eq_nil_or_concat' blocks with rfl | ⟨rest, last, rfl⟩
  · exact List.mem_cons_self
  · rw [chain_tip_snoc]
    exact List.mem_cons_of_mem _ (List.mem_map_of_mem (subset (by simp)))

include ancestorSealed free

variable (left right : List SealedBlock) (leftKnown : left ⊆ known) (rightKnown : right ⊆ known)
  (leftChain : Along (JadeChild consensus hashHeader) ancestor left) (rightChain : Along (JadeChild consensus hashHeader) ancestor right)
  (sameTip : (chainTip ancestor left).hash = (chainTip ancestor right).hash)

include leftKnown rightKnown leftChain rightChain sameTip

theorem same_tip_inner : (chainTip ancestor left).header.toHeader = (chainTip ancestor right).header.toHeader := by
  apply free.header _ (tip_known left leftKnown) _ (tip_known right rightKnown)
  rw [← tip_sealed ancestorSealed left leftChain,
    ← tip_sealed ancestorSealed right rightChain, sameTip]

theorem same_tip_length : left.length = right.length := by
  have inner := same_tip_inner ancestorSealed free left right leftKnown rightKnown leftChain rightChain sameTip
  have leftNumber := chain_number consensus hashHeader ancestor left leftChain
  have rightNumber := chain_number consensus hashHeader ancestor right rightChain
  rw [inner] at leftNumber
  omega

-- Down from the tips: the same inner header names the same parent and the same
-- transactions, and these two determine the index.
theorem same_tip_headers : left.map SealedBlock.header = right.map SealedBlock.header := by
  induction left using List.reverseRecOn generalizing right with
  | nil =>
      have lengths := same_tip_length ancestorSealed free [] right leftKnown rightKnown leftChain rightChain sameTip
      rw [List.length_eq_zero_iff.mp lengths.symm]
  | append_singleton lefts leftLast hypothesis =>
      have lengths := same_tip_length ancestorSealed free _ right leftKnown rightKnown leftChain rightChain sameTip
      have inner := same_tip_inner ancestorSealed free _ right leftKnown rightKnown leftChain rightChain sameTip
      rcases List.eq_nil_or_concat' right with rfl | ⟨rights, rightLast, rfl⟩
      · simp at lengths
      · rw [along_snoc] at leftChain rightChain
        rw [chain_tip_snoc, chain_tip_snoc] at inner
        simp only [SealedBlock.sealedHeader] at inner
        have parents : (chainTip ancestor lefts).hash = (chainTip ancestor rights).hash := by
          rw [← leftChain.2.parentHash, ← rightChain.2.parentHash, inner]
        have below := hypothesis rights (fun block member => leftKnown (List.mem_append_left _ member))
          (fun block member => rightKnown (List.mem_append_left _ member)) leftChain.1 rightChain.1 parents
        have roots : consensus.calculateTransactionRoot leftLast.transactions = consensus.calculateTransactionRoot rightLast.transactions := by
          rw [← pre_execution_root consensus leftLast leftChain.2.preExecution,
            ← pre_execution_root consensus rightLast rightChain.2.preExecution, inner]
        have transactions := free.transactions _ (List.mem_map_of_mem (leftKnown (by simp))) _ (List.mem_map_of_mem (rightKnown (by simp))) roots
        have index : leftLast.header.nextL1MsgIndex = rightLast.header.nextL1MsgIndex := by
          apply BitVec.eq_of_toNat_eq
          rw [child_index consensus hashHeader _ leftLast leftChain.2, child_index consensus hashHeader _ rightLast rightChain.2,
            transactions, chain_tip_of_headers ancestor lefts rights below]
        have last : leftLast.header = rightLast.header := by
          cases shapeLeft : leftLast.header
          cases shapeRight : rightLast.header
          simp only [shapeLeft, shapeRight] at inner index
          rw [inner, index]
        rw [List.map_append, List.map_append, below, List.map_singleton, List.map_singleton, last]

end TwoChains

theorem hash_binds_next_index (consensus : MorphConsensus) (hashHeader : Header → B256) (ancestor : SealedHeader)
    (ancestorSealed : ancestor.hash = hashSlow hashHeader ancestor.header) (left right : List SealedBlock)
    (free : CollisionFree consensus hashHeader (ancestor.header :: (left ++ right).map SealedBlock.header)
      ((left ++ right).map SealedBlock.transactions))
    (leftChain : Along (JadeChild consensus hashHeader) ancestor left) (rightChain : Along (JadeChild consensus hashHeader) ancestor right)
    (sameTip : (chainTip ancestor left).hash = (chainTip ancestor right).hash) :
    left.length = right.length ∧
      left.map (fun block => block.header.nextL1MsgIndex) = right.map (fun block => block.header.nextL1MsgIndex) := by
  have leftKnown : left ⊆ left ++ right := List.subset_append_left left right
  have rightKnown : right ⊆ left ++ right := List.subset_append_right left right
  have headers := same_tip_headers ancestorSealed free left right leftKnown rightKnown leftChain rightChain sameTip
  refine ⟨same_tip_length ancestorSealed free left right leftKnown rightKnown leftChain rightChain sameTip, ?_⟩
  have indices := congrArg (List.map MorphHeader.nextL1MsgIndex) headers
  simpa only [List.map_map, Function.comp_def] using indices

def sampleHashHeader (header : Header) : B256 :=
  if header.number = 1 then 0xA1 else if header.number = 2 then 0xB2 else 0xC3

-- Counting the transactions is enough to tell the sample's bodies apart.
def countingConsensus : MorphConsensus :=
  { sampleConsensus with calculateTransactionRoot := fun txs => BitVec.ofNat 256 txs.length }

def rooted (block : SealedBlock) : SealedBlock :=
  { block with header := { block.header with transactionsRoot := countingConsensus.calculateTransactionRoot block.transactions } }

def rootedChain : List SealedBlock := sampleChain.map rooted

theorem rooted_chain_child : Along (JadeChild countingConsensus sampleHashHeader) sampleParent rootedChain :=
  ⟨⟨by decide, rfl, rfl, rfl, rfl, sampleEngine, rfl, rfl, rfl⟩,
    ⟨by decide, rfl, rfl, rfl, rfl, { sampleEngine with treeState := fun _ => some (rooted skippingBlock).sealedHeader }, rfl, rfl, rfl⟩, trivial⟩

theorem sample_collision_free :
    CollisionFree countingConsensus sampleHashHeader (sampleParent.header :: (rootedChain ++ rootedChain).map SealedBlock.header)
      ((rootedChain ++ rootedChain).map SealedBlock.transactions) := by
  refine ⟨fun left inLeft right inRight same => ?_, by decide⟩
  have headers : ∀ header ∈ sampleParent.header :: (rootedChain ++ rootedChain).map SealedBlock.header,
      header = sampleParent.header ∨ header = (rooted skippingBlock).header ∨ header = (rooted followingBlock).header := by
    intro header member
    simp only [rootedChain, sampleChain, List.map_cons, List.map_nil, List.cons_append, List.nil_append, List.mem_cons, List.not_mem_nil,
      or_false] at member
    tauto
  rcases headers left inLeft with rfl | rfl | rfl <;> rcases headers right inRight with rfl | rfl | rfl
  all_goals first | rfl | exact absurd same (by decide)

theorem hash_binds_next_index_sample :
    (chainTip sampleParent rootedChain).hash = 0xC3 ∧ rootedChain.length = 2 ∧
      rootedChain.map (fun block => block.header.nextL1MsgIndex) = [7, 8] := by
  obtain ⟨length, indices⟩ := hash_binds_next_index countingConsensus sampleHashHeader sampleParent (by decide) rootedChain rootedChain
    sample_collision_free rooted_chain_child rooted_chain_child rfl
  exact ⟨rfl, length, indices⟩

end MorphReth.Consensus
