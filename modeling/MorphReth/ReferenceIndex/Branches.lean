import MorphReth.ReferenceIndex.Queries

set_option autoImplicit false

namespace MorphReth.ReferenceIndex

open Transaction

variable {tree : BlockTree}

theorem chain_eq_of_head (branch chain : CanonicalChain tree) (sameNumber : branch.head.number = chain.head.number)
    (sameHash : branch.head.hash = chain.head.hash) : branch = chain := by
  have held : chain.canonicalHash branch.head.number = some branch.head.hash := by
    rw [sameNumber, sameHash]
    exact head_present chain
  have same : branch.hashes = chain.hashes := by
    rw [branch_taken branch chain held, sameNumber, ← chain_length chain, List.take_length]
  cases branch
  cases chain
  cases same
  rfl

theorem system_query (system : System tree) (query : ReferenceQuery) (tip : CanonicalTip) (results : List ReferenceTransactionResult)
    (answered : system.queryAt query tip = .ok results) : system.db.queryAt query tip = .ok results := by
  rw [System.queryAt] at answered
  split at answered
  · cases answered
  · split at answered
    · cases answered
    · exact answered

theorem one_branch_query (jadeTimestamp : Nat) (system : System tree) (query : ReferenceQuery) (tip : CanonicalTip)
    (results : List ReferenceTransactionResult) (content : OneBranch tree jadeTimestamp system.db)
    (answered : system.queryAt query tip = .ok results) :
    ∃ branch : CanonicalChain tree, tip.number = branch.head.number ∧ tip.hash = branch.head.hash ∧
      results = query.page (branch.referenceList jadeTimestamp query.reference) := by
  have answer := system_query system query tip results answered
  cases content with
  | inl blank =>
      rw [blank_query query system.db tip blank] at answer
      cases answer
  | inr branched =>
      obtain ⟨branch, lowest, indexed⟩ := branched
      exact ⟨branch, query_page query jadeTimestamp lowest system.db branch tip results indexed answer⟩

theorem index_stays_on_one_branch (config : ReferenceIndexConfig) (chain : CanonicalChain tree) (finalized : Option Nat)
    (events : List (SystemEvent tree)) (fits : EachAllowed (System.apply config) (ReadsFit config) (System.start chain finalized) events) :
    OneBranch tree config.jadeTimestamp (runSteps (System.apply config) (System.start chain finalized) events).db ∧
      ∀ query results,
        (runSteps (System.apply config) (System.start chain finalized) events).queryAt query
          (runSteps (System.apply config) (System.start chain finalized) events).chain.head = .ok results →
        results = query.page
          ((runSteps (System.apply config) (System.start chain finalized) events).chain.referenceList config.jadeTimestamp query.reference) := by
  have content := (safe_run config chain finalized events fits).content
  refine ⟨content, fun query results answered => ?_⟩
  obtain ⟨branch, sameNumber, sameHash, page⟩ := one_branch_query config.jadeTimestamp _ query _ results content answered
  rw [chain_eq_of_head branch _ sameNumber.symm sameHash.symm] at page
  exact page

section Sample

def referencingTx (reference txHash : B256) : SealedTransaction where
  envelope := .morph
    { chainId := 2818, nonce := 0, gasLimit := 0, maxFeePerGas := 0, maxPriorityFeePerGas := 0, kind := .create, value := 0, accessList := [],
      version := morphTxVersion1, feeTokenId := 0, feeLimit := 0, reference := some reference, memo := none, authorizationList := [],
      input := [] } ⟨false, 1, 1⟩
  txHash := txHash

-- Two branches above a common genesis, each with a transaction carrying the
-- same reference in its first block.
def forkedTree : BlockTree := fun hash =>
  if hash = 0xA1 then { parent := 0xF0, timestamp := 1, transactions := [referencingTx 7 0x101] }
  else if hash = 0xA2 then { parent := 0xA1, timestamp := 2, transactions := [] }
  else if hash = 0xB1 then { parent := 0xF0, timestamp := 1, transactions := [referencingTx 7 0x201] }
  else if hash = 0xB2 then { parent := 0xB1, timestamp := 2, transactions := [] }
  else { parent := 0, timestamp := 0, transactions := [] }

def sampleConfig : ReferenceIndexConfig where
  chainId := 2818
  genesisHash := 0xF0
  jadeTimestamp := 0

def shortChain : CanonicalChain forkedTree where
  hashes := [0xF0, 0xA1]
  nonempty := by decide
  linked := by simp [Linked, forkedTree]

def firstBranch : CanonicalChain forkedTree where
  hashes := [0xF0, 0xA1, 0xA2]
  nonempty := by decide
  linked := by simp [Linked, forkedTree]

def secondBranch : CanonicalChain forkedTree where
  hashes := [0xF0, 0xB1, 0xB2]
  nonempty := by decide
  linked := by simp [Linked, forkedTree]

def sampleQuery : ReferenceQuery where
  reference := 7
  offset := 0
  limit := 10
  offsetBound := by decide
  limitBound := by decide

def wholeTurn : List (SystemEvent forkedTree) :=
  .beginTurn false :: List.replicate 16 .proceed

def sampleRun (events : List (SystemEvent forkedTree)) : System forkedTree :=
  runSteps (System.apply sampleConfig) (System.start shortChain none) events

-- The second turn has matched its cursor against the first branch when the
-- chain switches to the second one, whose tip it then appends.
def reorgDuringTurn : List (SystemEvent forkedTree) :=
  wholeTurn ++ [.chainChange firstBranch none, .beginTurn false, .proceed, .proceed, .proceed, .chainChange secondBranch none] ++
    List.replicate 16 .proceed

def abandonedResult : ReferenceTransactionResult where
  transactionHash := 0x101
  blockNumber := 1
  blockTimestamp := 1
  transactionIndex := 0

def canonicalResult : ReferenceTransactionResult where
  transactionHash := 0x201
  blockNumber := 1
  blockTimestamp := 1
  transactionIndex := 0

theorem second_branch_page : sampleQuery.page (secondBranch.referenceList 0 7) = [canonicalResult] := by
  decide +kernel

theorem reorg_during_turn_mixes_branches :
    (sampleRun reorgDuringTurn).chain.hashes = secondBranch.hashes ∧
      (sampleRun reorgDuringTurn).queryAt sampleQuery secondBranch.head =
        .ok [abandonedResult] ∧
      sampleQuery.page (secondBranch.referenceList 0 7) = [canonicalResult] ∧
      ¬OneBranch forkedTree 0 (sampleRun reorgDuringTurn).db := by
  have answered : (sampleRun reorgDuringTurn).queryAt sampleQuery secondBranch.head =
      .ok [abandonedResult] := by decide +kernel
  refine ⟨by decide +kernel, answered, second_branch_page, fun content => ?_⟩
  obtain ⟨branch, sameNumber, sameHash, page⟩ := one_branch_query 0 _ sampleQuery secondBranch.head [abandonedResult] content answered
  rw [chain_eq_of_head branch secondBranch sameNumber.symm sameHash.symm] at page
  cases page.trans second_branch_page

-- A reorganisation between two turns: the index follows the chain to the
-- second branch.
def reorgBetweenTurns : List (SystemEvent forkedTree) :=
  wholeTurn ++ .chainChange secondBranch none :: wholeTurn

theorem index_stays_on_one_branch_sample :
    OneBranch forkedTree 0 (sampleRun reorgBetweenTurns).db ∧
      (sampleRun reorgBetweenTurns).queryAt sampleQuery secondBranch.head =
        .ok [canonicalResult] :=
  ⟨(index_stays_on_one_branch sampleConfig shortChain none reorgBetweenTurns (by decide +kernel)).1, by decide +kernel⟩

end Sample

end MorphReth.ReferenceIndex
