import MorphReth.ReferenceIndex.Turns

set_option autoImplicit false

namespace MorphReth.ReferenceIndex

variable {tree : BlockTree}

theorem prune_keeps_cursor_hash (db : ReferenceIndexDb) (floor cursor : Nat) (reached : floor ≤ cursor) :
    (pruneIndexedBlocksBefore db floor).indexedBlockHash cursor = db.indexedBlockHash cursor := by
  rw [pruneIndexedBlocksBefore]
  split
  · rfl
  · refine (Table.get_foldl_delete _ _ _).trans (if_neg ?_)
    intro stale
    have below : cursor < floor := by simpa using List.mem_takeWhile_imp (List.mem_of_mem_take stale)
    omega

theorem prune_keeps_rest (db : ReferenceIndexDb) (floor : Nat) :
    (pruneIndexedBlocksBefore db floor).indexedTo = db.indexedTo ∧ (pruneIndexedBlocksBefore db floor).referenceIndex = db.referenceIndex := by
  rw [pruneIndexedBlocksBefore]
  split
  · exact ⟨rfl, rfl⟩
  · exact ⟨rfl, rfl⟩

theorem prune_keeps_queries (db : ReferenceIndexDb) (floor : Nat) (reached : ∀ cursor ∈ db.indexedTo, floor ≤ cursor)
    (query : ReferenceQuery) (tip : CanonicalTip) : (pruneIndexedBlocksBefore db floor).queryAt query tip = db.queryAt query tip := by
  obtain ⟨sameCursor, sameRows⟩ := prune_keeps_rest db floor
  rw [ReferenceIndexDb.queryAt, ReferenceIndexDb.queryAt, sameCursor, sameRows]
  cases stored : db.indexedTo with
  | none => rfl
  | some cursor =>
      dsimp only
      rw [prune_keeps_cursor_hash db floor cursor (reached cursor stored)]

theorem reference_queries_exact (config : ReferenceIndexConfig) (chain : CanonicalChain tree) (finalized : Option Nat)
    (history : List (SystemEvent tree)) (initial : LegalStart chain finalized)
    (legal : EachAllowed (System.apply config) LegalEvent (System.start chain finalized) history)
    (query : ReferenceQuery) (tip : CanonicalTip) :
    (∀ results, (runSteps (System.apply config) (System.start chain finalized) history).queryAt query tip = .ok results →
      (∃ branch : CanonicalChain tree, branch.head.number = tip.number ∧ branch.head.hash = tip.hash) ∧
      ∀ branch : CanonicalChain tree, branch.head.number = tip.number → branch.head.hash = tip.hash →
        results = query.page (branch.referenceList config.jadeTimestamp query.reference)) ∧
    ∀ floor, (∀ cursor ∈ (runSteps (System.apply config) (System.start chain finalized) history).db.indexedTo, floor ≤ cursor) →
      (pruneIndexedBlocksBefore (runSteps (System.apply config) (System.start chain finalized) history).db floor).queryAt query tip =
        (runSteps (System.apply config) (System.start chain finalized) history).db.queryAt query tip := by
  have steady := run_invariant _ LegalEvent (Steady config) (fun system event steady allowed => steady_apply config system event steady allowed)
    _ history (steady_start config chain finalized initial.ordered) legal
  refine ⟨fun results answered => ?_, fun floor reached => prune_keeps_queries _ floor reached query tip⟩
  obtain ⟨indexed, sameNumber, sameHash, page⟩ := one_branch_query config.jadeTimestamp _ query tip results steady.safe.content answered
  refine ⟨⟨indexed, sameNumber.symm, sameHash.symm⟩, fun branch branchNumber branchHash => ?_⟩
  rw [chain_eq_of_head branch indexed (branchNumber.trans sameNumber) (branchHash.trans sameHash)]
  exact page

-- A reorganisation between turns, with a crash right after the transaction
-- that rolls the abandoned block back.
def crashDuringRepair : List (SystemEvent forkedTree) :=
  wholeTurn ++ [.chainChange secondBranch (some 0), .beginTurn false] ++ List.replicate 6 .proceed ++ .crash :: wholeTurn

theorem reference_queries_exact_sample :
    (sampleRun crashDuringRepair).queryAt sampleQuery secondBranch.head =
        .ok [canonicalResult] ∧
      [canonicalResult] = sampleQuery.page (secondBranch.referenceList 0 7) := by
  have answered : (sampleRun crashDuringRepair).queryAt sampleQuery
      secondBranch.head = .ok [canonicalResult] := by decide +kernel
  have exactly := reference_queries_exact sampleConfig shortChain none crashDuringRepair ⟨by decide +kernel, by decide⟩ (by decide +kernel)
    sampleQuery secondBranch.head
  exact ⟨answered, (exactly.1 _ answered).2 secondBranch rfl rfl⟩

end MorphReth.ReferenceIndex
