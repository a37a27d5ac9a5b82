import MorphReth.ReferenceIndex.Safety
import MorphReth.ReferenceIndex.Reader

set_option autoImplicit false

namespace MorphReth.ReferenceIndex

variable {tree : BlockTree}

def blockResults (tree : BlockTree) (reference hash : B256) (number : Nat) : List ReferenceTransactionResult :=
  (tree hash).transactions.zipIdx.filterMap (fun indexed =>
    if indexed.1.reference = some reference then
      some { transactionHash := indexed.1.txHash, blockNumber := number, blockTimestamp := (tree hash).timestamp, transactionIndex := indexed.2 }
    else none)

-- All transactions carrying a reference in the blocks of a chain from its
-- first Jade block on, by block number and then by position.
def CanonicalChain.referenceList (chain : CanonicalChain tree) (jadeTimestamp : Nat) (reference : B256) : List ReferenceTransactionResult :=
  (chain.hashes.zipIdx.filter (fun indexed => chain.jadeStart jadeTimestamp ≤ indexed.2)).flatMap
    (fun indexed => blockResults tree reference indexed.1 indexed.2)

def ReferenceQuery.page (query : ReferenceQuery) (results : List ReferenceTransactionResult) : List ReferenceTransactionResult :=
  (results.drop query.offset).take query.limit

section Rows

variable (reference : B256)

def resultRow (result : ReferenceTransactionResult) : ReferenceIndexKey × Nat :=
  ({ reference := reference, blockNumber := result.blockNumber, transactionIndex := result.transactionIndex,
     transactionHash := result.transactionHash }, result.blockTimestamp)

theorem row_result_of_result_row (results : List ReferenceTransactionResult) :
    (results.map (resultRow reference)).map rowResult = results := by
  rw [List.map_map]
  exact List.map_id results

theorem zip_idx_ordered {α : Type} (items : List α) : items.zipIdx.Pairwise (fun earlier later => earlier.2 < later.2) := by
  have sorted : (items.zipIdx.map Prod.snd).Pairwise (· < ·) := by
    rw [List.zipIdx_map_snd]
    exact List.pairwise_lt_range'
  exact List.pairwise_map.mp sorted

theorem mem_block_results (hash : B256) (number : Nat) (result : ReferenceTransactionResult) :
    result ∈ blockResults tree reference hash number ↔
      result.blockNumber = number ∧ result.blockTimestamp = (tree hash).timestamp ∧
        referenceAt (tree hash).transactions (resultRow reference result).1.blockKey = some reference := by
  simp only [blockResults, List.mem_filterMap, Prod.exists, List.mk_mem_zipIdx_iff_getElem?, Option.ite_none_right_eq_some, reference_at_some,
    resultRow, ReferenceIndexKey.blockKey]
  constructor
  · intro found
    obtain ⟨tx, index, present, carried, same⟩ := found
    cases Option.some.inj same
    exact ⟨rfl, rfl, tx, present, rfl, carried⟩
  · intro found
    obtain ⟨sameNumber, sameTimestamp, tx, present, sameHash, carried⟩ := found
    refine ⟨tx, result.transactionIndex, present, carried, ?_⟩
    rw [sameHash, ← sameNumber, ← sameTimestamp]

theorem result_row_ordered (earlier later : ReferenceTransactionResult) (ordered : earlier.blockNumber < later.blockNumber ∨
      earlier.blockNumber = later.blockNumber ∧ earlier.transactionIndex < later.transactionIndex) :
    (resultRow reference earlier).1 < (resultRow reference later).1 := by
  change ReferenceIndexKey.order _ < ReferenceIndexKey.order _
  simp only [resultRow, ReferenceIndexKey.order, Prod.Lex.toLex_lt_toLex]
  exact .inr ⟨trivial, ordered.imp id (fun later => ⟨later.1, .inl later.2⟩)⟩

theorem block_results_ordered (hash : B256) (number : Nat) :
    (blockResults tree reference hash number).Pairwise (fun earlier later => (resultRow reference earlier).1 < (resultRow reference later).1) := by
  rw [blockResults, List.pairwise_filterMap]
  refine (zip_idx_ordered (tree hash).transactions).imp ?_
  intro earlier later less left leftEq right rightEq
  rw [Option.ite_none_right_eq_some] at leftEq rightEq
  cases Option.some.inj leftEq.2
  cases Option.some.inj rightEq.2
  exact result_row_ordered reference _ _ (.inr ⟨rfl, less⟩)

theorem reference_list_ordered (chain : CanonicalChain tree) (jadeTimestamp : Nat) :
    ((chain.referenceList jadeTimestamp reference).map (resultRow reference)).Pairwise (fun earlier later => earlier.1 < later.1) := by
  rw [List.pairwise_map, CanonicalChain.referenceList, List.pairwise_flatMap]
  refine ⟨fun indexed _ => block_results_ordered reference indexed.1 indexed.2, ?_⟩
  refine ((zip_idx_ordered chain.hashes).filter _).imp ?_
  intro earlier later less left leftMember right rightMember
  have leftNumber := ((mem_block_results reference earlier.1 earlier.2 left).mp leftMember).1
  have rightNumber := ((mem_block_results reference later.1 later.2 right).mp rightMember).1
  exact result_row_ordered reference left right (.inl (by omega))

theorem mem_reference_list (chain : CanonicalChain tree) (jadeTimestamp : Nat) (result : ReferenceTransactionResult) :
    result ∈ chain.referenceList jadeTimestamp reference ↔
      chain.jadeStart jadeTimestamp ≤ result.blockNumber ∧
        (chain.hashes[result.blockNumber]?).bind (fun hash => timestampAt (tree hash) (resultRow reference result).1) =
          some result.blockTimestamp := by
  simp only [CanonicalChain.referenceList, List.mem_flatMap, List.mem_filter, decide_eq_true_eq, Prod.exists, List.mk_mem_zipIdx_iff_getElem?,
    mem_block_results, Option.bind_eq_some_iff, timestampAt, Option.ite_none_right_eq_some]
  constructor
  · intro found
    obtain ⟨hash, number, ⟨present, started⟩, rfl, timestamp, carried⟩ := found
    exact ⟨started, hash, present, carried, by rw [timestamp]⟩
  · intro found
    obtain ⟨started, hash, present, carried, timestamp⟩ := found
    exact ⟨hash, result.blockNumber, ⟨present, started⟩, rfl, (Option.some.inj timestamp).symm, carried⟩

-- The rows of one reference, in key order, are the reference's transactions
-- along the branch.
theorem reference_rows (jadeTimestamp lowest : Nat) (db : ReferenceIndexDb) (branch : CanonicalChain tree)
    (indexed : Indexed jadeTimestamp db branch lowest) :
    db.referenceIndex.rows.filter (fun row => row.1.reference = reference) =
      (branch.referenceList jadeTimestamp reference).map (resultRow reference) := by
  have : Std.Irrefl (fun earlier later : ReferenceIndexKey × Nat => earlier.1 < later.1) := ⟨fun row => lt_irrefl row.1⟩
  have : Std.Antisymm (fun earlier later : ReferenceIndexKey × Nat => earlier.1 < later.1) :=
    ⟨fun _ _ less more => absurd less (lt_asymm more)⟩
  apply (db.referenceIndex.sorted.filter _).eq_of_mem_iff (reference_list_ordered reference branch jadeTimestamp)
  intro row
  rw [List.mem_filter, decide_eq_true_eq, ← Table.get_eq_some, indexed.rows.references, List.mem_map]
  constructor
  · intro found
    obtain ⟨stored, carried⟩ := found
    refine ⟨rowResult row, (mem_reference_list reference branch jadeTimestamp _).mpr ?_, ?_⟩
    · split at stored
      · next started =>
          refine ⟨started, ?_⟩
          rw [← carried]
          exact stored
      · cases stored
    · rw [← carried]
      rfl
  · intro found
    obtain ⟨result, member, rfl⟩ := found
    obtain ⟨started, stored⟩ := (mem_reference_list reference branch jadeTimestamp result).mp member
    exact ⟨(if_pos started).trans stored, rfl⟩

end Rows

section Page

variable (query : ReferenceQuery)

theorem collect_page_walk (rows : List (ReferenceIndexKey × Nat)) (skipped : Nat) (results : List ReferenceTransactionResult)
    (atMost : skipped ≤ query.offset) :
    collectPage query rows skipped results = results ++
      (((rows.takeWhile (fun row => row.1.reference = query.reference)).map rowResult).drop (query.offset - skipped)).take
        (query.limit - results.length) := by
  induction rows generalizing skipped results with
  | nil => simp [collectPage]
  | cons row rest ih =>
      by_cases carried : row.1.reference = query.reference
      · rw [List.takeWhile_cons_of_pos (by simpa using carried), List.map_cons]
        by_cases full : results.length ≥ query.limit
        · rw [collectPage, if_pos (.inr full), Nat.sub_eq_zero_of_le full, List.take_zero, List.append_nil]
        · rw [collectPage, if_neg (by simp [carried, full])]
          by_cases skips : skipped < query.offset
          · rw [if_pos skips, ih (skipped + 1) results skips,
              show query.offset - skipped = query.offset - (skipped + 1) + 1 by omega, List.drop_succ_cons]
          · rw [if_neg skips, ih skipped _ atMost,
              show query.offset - skipped = 0 by omega, List.drop_zero, List.drop_zero, List.append_assoc,
              show query.limit - results.length = query.limit - (results ++ [rowResult row]).length + 1 by simp; omega, List.take_succ_cons]
            rfl
      · rw [collectPage, if_pos (.inl carried), List.takeWhile_cons_of_neg (by simp [carried])]
        simp

theorem reference_least (key : ReferenceIndexKey) (reference : B256) (carried : key.reference = reference) :
    ({ reference := reference, blockNumber := 0, transactionIndex := 0, transactionHash := 0 } : ReferenceIndexKey) ≤ key := by
  change ReferenceIndexKey.order _ ≤ ReferenceIndexKey.order key
  have zero : (0 : B256).toNat = 0 := rfl
  simp only [ReferenceIndexKey.order, Prod.Lex.toLex_le_toLex, zero, carried, true_and]
  omega

theorem reference_mono (left right : ReferenceIndexKey) (less : left < right) : left.reference.toNat ≤ right.reference.toNat := by
  change ReferenceIndexKey.order left < ReferenceIndexKey.order right at less
  simp only [ReferenceIndexKey.order, Prod.Lex.toLex_lt_toLex] at less
  omega

theorem walked_rows (table : Table ReferenceIndexKey Nat) (reference : B256) :
    (table.seek { reference := reference, blockNumber := 0, transactionIndex := 0, transactionHash := 0 }).takeWhile
      (fun row => row.1.reference = reference) = table.rows.filter (fun row => row.1.reference = reference) := by
  rw [take_while_eq_filter, Table.seek, List.filter_filter]
  · apply List.filter_congr
    intro row _
    by_cases carried : row.1.reference = reference
    · rw [decide_eq_true carried, Bool.true_and]
      exact decide_eq_true (reference_least row.1 reference carried)
    · rw [decide_eq_false carried, Bool.false_and]
  · refine List.Pairwise.imp_of_mem ?_ (table.sorted.filter _)
    intro earlier later earlierMember _ less carried
    have start : _ ≤ earlier.1 := of_decide_eq_true (List.mem_filter.mp earlierMember).2
    have laterCarried : later.1.reference = reference := of_decide_eq_true carried
    have upper := reference_mono earlier.1 later.1 less
    have lower : reference.toNat ≤ earlier.1.reference.toNat := by
      rcases eq_or_lt_of_le start with same | below
      · rw [← same]
      · exact reference_mono _ _ below
    rw [laterCarried] at upper
    exact decide_eq_true (BitVec.eq_of_toNat_eq (Nat.le_antisymm upper lower))

theorem query_page (jadeTimestamp lowest : Nat) (db : ReferenceIndexDb) (branch : CanonicalChain tree) (tip : CanonicalTip)
    (results : List ReferenceTransactionResult) (indexed : Indexed jadeTimestamp db branch lowest)
    (answered : db.queryAt query tip = .ok results) :
    tip.number = branch.head.number ∧ tip.hash = branch.head.hash ∧
      results = query.page (branch.referenceList jadeTimestamp query.reference) := by
  simp only [ReferenceIndexDb.queryAt, indexed.cursor, indexed_head _ _ _ _ indexed] at answered
  split at answered
  · cases answered
  · next atTip =>
      rw [not_or, not_not, not_not] at atTip
      refine ⟨atTip.1.symm, atTip.2.symm, ?_⟩
      cases answered
      rw [collect_page_walk query _ 0 [] (Nat.zero_le _), walked_rows,
        reference_rows query.reference jadeTimestamp lowest db branch indexed, row_result_of_result_row]
      rfl

theorem blank_query (db : ReferenceIndexDb) (tip : CanonicalTip) (blank : Blank db) : db.queryAt query tip = .error .indexBehind := by
  rw [ReferenceIndexDb.queryAt, blank.cursor]

end Page

end MorphReth.ReferenceIndex
