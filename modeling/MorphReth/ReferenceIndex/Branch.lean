import MorphReth.ReferenceIndex.Rows
import MorphReth.ReferenceIndex.Runtime
import Mathlib.Data.List.TakeWhile

set_option autoImplicit false

namespace MorphReth.ReferenceIndex

variable {tree : BlockTree}

-- The tables hold exactly the rows of the blocks from the first Jade block to
-- the end of a list of hashes, with breadcrumbs from the lowest one kept.
structure Rows (tree : BlockTree) (hashes : List B256) (jadeFirst lowest : Nat) (db : ReferenceIndexDb) : Prop where
  breadcrumbs : ∀ number, db.indexedBlocks.get number = if lowest ≤ number then hashes[number]? else none
  blockReferences : ∀ key, db.blockReferenceIndex.get key =
    if jadeFirst ≤ key.blockNumber then (hashes[key.blockNumber]?).bind (fun hash => referenceAt (tree hash).transactions key) else none
  references : ∀ key, db.referenceIndex.get key =
    if jadeFirst ≤ key.blockNumber then (hashes[key.blockNumber]?).bind (fun hash => timestampAt (tree hash) key) else none

variable (hashes : List B256)

theorem rows_paired (jadeFirst lowest : Nat) (db : ReferenceIndexDb) (rows : Rows tree hashes jadeFirst lowest db) : Paired db := by
  intro key timestamp stored
  rw [rows.references] at stored
  rw [rows.blockReferences]
  change (if jadeFirst ≤ key.blockNumber then (hashes[key.blockNumber]?).bind (fun hash => referenceAt (tree hash).transactions key.blockKey)
    else none) = _
  split at stored
  · next inside =>
      rw [if_pos inside]
      obtain ⟨hash, present, carried⟩ := Option.bind_eq_some_iff.mp stored
      rw [timestampAt] at carried
      split at carried
      · next matched => rw [present, Option.bind_some, matched]
      · cases carried
  · cases stored

theorem rows_empty (jadeFirst : Nat) (short : hashes.length ≤ jadeFirst) (db : ReferenceIndexDb) (noBlocks : db.indexedBlocks = Table.empty)
    (noReferences : db.referenceIndex = Table.empty) (noBlockReferences : db.blockReferenceIndex = Table.empty) :
    Rows tree hashes jadeFirst jadeFirst db := by
  have beyond : ∀ number, jadeFirst ≤ number → hashes[number]? = none := fun number above =>
    List.getElem?_eq_none (Nat.le_trans short above)
  refine ⟨fun number => ?_, fun key => ?_, fun key => ?_⟩
  · rw [noBlocks, Table.get_empty]
    split
    · next above => rw [beyond number above]
    · rfl
  · rw [noBlockReferences, Table.get_empty]
    split
    · next above => rw [beyond key.blockNumber above, Option.bind_none]
    · rfl
  · rw [noReferences, Table.get_empty]
    split
    · next above => rw [beyond key.blockNumber above, Option.bind_none]
    · rfl

theorem getElem_append_one (hash : B256) (number : Nat) :
    (hashes ++ [hash])[number]? = if number = hashes.length then some hash else hashes[number]? := by
  rw [List.getElem?_append]
  split
  · next inside => rw [if_neg (by omega)]
  · next outside =>
      by_cases last : number = hashes.length
      · simp [last]
      · rw [if_neg last, List.getElem?_eq_none (by simp; omega), List.getElem?_eq_none (by omega)]

def blockOf (tree : BlockTree) (number : Nat) (hash : B256) : CanonicalBlock where
  number := number
  hash := hash
  timestamp := (tree hash).timestamp
  transactions := (tree hash).transactions

theorem rows_write_block (jadeFirst lowest : Nat) (db : ReferenceIndexDb) (hash : B256) (rows : Rows tree hashes jadeFirst lowest db)
    (started : jadeFirst ≤ hashes.length) (kept : lowest ≤ hashes.length) :
    Rows tree (hashes ++ [hash]) jadeFirst lowest (writeBlock db (blockOf tree hashes.length hash)).1 := by
  refine ⟨fun number => ?_, fun key => ?_, fun key => ?_⟩
  · rw [write_block_hash, rows.breadcrumbs, getElem_append_one]
    change (if number = hashes.length then some hash else _) = _
    by_cases last : number = hashes.length
    · rw [if_pos last, if_pos last, if_pos (by omega)]
    · rw [if_neg last, if_neg last]
  · rw [write_block_block_reference, rows.blockReferences, getElem_append_one]
    change (if key.blockNumber = hashes.length then referenceAt (tree hash).transactions key else none).or _ = _
    by_cases last : key.blockNumber = hashes.length
    · rw [if_pos last, if_pos last, if_pos (by omega), if_pos (by omega), List.getElem?_eq_none (by omega), Option.bind_none,
        Option.or_none, Option.bind_some]
    · rw [if_neg last, if_neg last, Option.none_or]
  · rw [write_block_reference, rows.references, getElem_append_one]
    change (if key.blockNumber = hashes.length ∧ referenceAt (tree hash).transactions key.blockKey = some key.reference
      then some (tree hash).timestamp else none).or _ = _
    by_cases last : key.blockNumber = hashes.length
    · have here : jadeFirst ≤ key.blockNumber := by omega
      rw [if_pos here, if_pos here, if_pos last, List.getElem?_eq_none (by omega), Option.bind_none, Option.or_none, Option.bind_some,
        timestampAt]
      exact if_congr (and_iff_right last) rfl rfl
    · rw [if_neg (fun both => last both.1), if_neg last, Option.none_or]

theorem rows_deleted (jadeFirst lowest start count : Nat) (before after : ReferenceIndexDb)
    (rows : Rows tree hashes jadeFirst lowest before) (rest : hashes.length ≤ start + count)
    (deleted : DeletedBlocks (List.range' start count) before after) : Rows tree (hashes.take start) jadeFirst lowest after := by
  have cut : ∀ number, (hashes.take start)[number]? = if number ∈ List.range' start count then none else hashes[number]? := by
    intro number
    simp only [List.getElem?_take, List.mem_range'_1]
    split
    · rw [if_neg (by omega)]
    · by_cases beyond : number < start + count
      · rw [if_pos (by omega)]
      · rw [if_neg (by omega), List.getElem?_eq_none (by omega)]
  refine ⟨fun number => ?_, fun key => ?_, fun key => ?_⟩
  · rw [deleted.hashes, rows.breadcrumbs, cut]
    split
    · simp
    · rfl
  · rw [deleted.blockReferences, rows.blockReferences, cut]
    split
    · simp
    · rfl
  · rw [deleted.references, rows.references, cut]
    split
    · simp
    · rfl

theorem take_succ_of_hash (number : Nat) (hash : B256) (present : hashes[number]? = some hash) :
    hashes.take (number + 1) = hashes.take number ++ [hash] := by
  rw [List.take_add_one, present, Option.toList_some]

variable (chain : CanonicalChain tree)

theorem rows_write_batch (jadeFirst lowest start count : Nat) (db : ReferenceIndexDb)
    (rows : Rows tree (chain.hashes.take start) jadeFirst lowest db) (started : jadeFirst ≤ start) (kept : lowest ≤ start)
    (long : start + count ≤ chain.hashes.length) :
    Rows tree (chain.hashes.take (start + count)) jadeFirst lowest
      (((List.range' start count).filterMap chain.canonicalBlock).foldl (fun db block => (writeBlock db block).1) db) := by
  induction count generalizing start db with
  | zero => exact rows
  | succ count ih =>
      have inside : start < chain.hashes.length := by omega
      have present : chain.hashes[start]? = some chain.hashes[start] := List.getElem?_eq_getElem inside
      have block : chain.canonicalBlock start = some (blockOf tree start chain.hashes[start]) := by
        rw [CanonicalChain.canonicalBlock, CanonicalChain.canonicalHash, present]
        rfl
      have length : (chain.hashes.take start).length = start := by simp; omega
      have written := rows_write_block (chain.hashes.take start) jadeFirst lowest db chain.hashes[start] rows (by omega) (by omega)
      rw [length, ← take_succ_of_hash _ _ _ present] at written
      rw [List.range'_succ, List.filterMap_cons_some block, List.foldl_cons, Nat.add_comm count 1, ← Nat.add_assoc]
      exact ih (start + 1) _ written (by omega) (by omega) (by omega)

theorem breadcrumb_numbers (jadeFirst lowest : Nat) (db : ReferenceIndexDb) (rows : Rows tree hashes jadeFirst lowest db) :
    db.indexedBlocks.rows.map (fun row => row.1) = List.range' lowest (hashes.length - lowest) := by
  have sorted : (db.indexedBlocks.rows.map (fun row => row.1)).Pairwise (· < ·) := List.pairwise_map.mpr db.indexedBlocks.sorted
  apply sorted.eq_of_mem_iff List.pairwise_lt_range'
  intro number
  rw [List.mem_range'_1, List.mem_map]
  constructor
  · intro found
    obtain ⟨⟨row, hash⟩, member, rfl⟩ := found
    have stored := (Table.get_eq_some _ _ _).mpr member
    rw [rows.breadcrumbs] at stored
    split at stored
    · have bound := (List.getElem?_eq_some_iff.mp stored).1
      dsimp only
      omega
    · cases stored
  · intro inside
    have bound : number < hashes.length := by omega
    refine ⟨(number, hashes[number]), (Table.get_eq_some _ _ _).mp ?_, rfl⟩
    rw [rows.breadcrumbs, if_pos inside.1, List.getElem?_eq_getElem bound]

-- What is pruned is a run of the oldest breadcrumbs, all below the floor.
theorem rows_prune (jadeFirst lowest floor : Nat) (db : ReferenceIndexDb) (rows : Rows tree hashes jadeFirst lowest db) :
    ∃ raised, lowest ≤ raised ∧ raised ≤ max lowest floor ∧ Rows tree hashes jadeFirst raised (pruneIndexedBlocksBefore db floor) := by
  by_cases zero : floor = 0
  · rw [pruneIndexedBlocksBefore, if_pos zero]
    exact ⟨lowest, Nat.le_refl _, Nat.le_max_left _ _, rows⟩
  · rw [pruneIndexedBlocksBefore, if_neg zero, breadcrumb_numbers hashes jadeFirst lowest db rows]
    generalize staleEq : ((List.range' lowest (hashes.length - lowest)).takeWhile (fun number => number < floor)).take
      defaultBackfillBatchBlocks = stale
    have oldest : stale <+: List.range' lowest (hashes.length - lowest) := by
      rw [← staleEq]
      exact List.IsPrefix.trans ( List.take_prefix _ _) ( List.takeWhile_prefix _)
    have short := oldest.length_le
    rw [List.length_range'] at short
    have run : stale = List.range' lowest stale.length := by
      have taken := List.prefix_iff_eq_take.mp oldest
      rwa [List.take_range'_of_length_ge short] at taken
    have small : ∀ number ∈ stale, number < floor := by
      intro number member
      rw [← staleEq] at member
      simpa using List.mem_takeWhile_imp (List.mem_of_mem_take member)
    have member : ∀ number, number ∈ stale ↔ lowest ≤ number ∧ number < lowest + stale.length := by
      intro number
      rw [run, List.mem_range'_1, List.length_range']
    refine ⟨lowest + stale.length, Nat.le_add_right _ _, ?_, ⟨fun number => ?_, rows.blockReferences, rows.references⟩⟩
    · by_cases none : stale.length = 0
      · omega
      · have last := small (lowest + stale.length - 1) ((member _).mpr (by omega))
        omega
    · rw [Table.get_foldl_delete, rows.breadcrumbs]
      simp only [member]
      by_cases kept : lowest + stale.length ≤ number
      · rw [if_neg (by omega), if_pos (by omega), if_pos kept]
      · rw [if_neg kept]
        by_cases below : lowest ≤ number
        · rw [if_pos (by omega)]
        · rw [if_neg (by omega), if_neg below]

theorem head_present : chain.hashes[chain.head.number]? = some chain.head.hash :=
  (List.getLast?_eq_getElem? ▸ List.getLast?_eq_some_getLast chain.nonempty : _)

theorem chain_length : chain.hashes.length = chain.head.number + 1 :=
  (Nat.sub_add_cancel (List.length_pos_of_ne_nil chain.nonempty)).symm

theorem truncate_head (tip : Nat) (inside : tip < chain.hashes.length) : (chain.truncate tip).head.number = tip := by
  change (chain.hashes.take (tip + 1)).length - 1 = tip
  rw [List.length_take]
  omega

theorem truncate_jade_start (tip jadeTimestamp : Nat) (reached : chain.jadeStart jadeTimestamp ≤ tip) :
    (chain.truncate tip).jadeStart jadeTimestamp = chain.jadeStart jadeTimestamp := by
  change List.findIdx _ (chain.hashes.take (tip + 1)) = _
  rw [List.findIdx_take]
  exact Nat.min_eq_right (Nat.le_succ_of_le reached)

-- A chain that holds a branch's head holds the whole branch.
theorem branch_taken (branch chain : CanonicalChain tree) (holds : chain.canonicalHash branch.head.number = some branch.head.hash) :
    branch.hashes = chain.hashes.take (branch.head.number + 1) := by
  have bound := (List.getElem?_eq_some_iff.mp holds).1
  apply List.ext_getElem?
  intro number
  rw [List.getElem?_take]
  split
  · exact linked_agree _ branch.hashes chain.hashes branch.linked chain.linked branch.head.number branch.head.hash
      (head_present branch) holds number (by omega)
  · exact List.getElem?_eq_none (by rw [chain_length]; omega)

theorem prefix_jade_start (branch chain : CanonicalChain tree) (jadeTimestamp : Nat)
    (holds : chain.canonicalHash branch.head.number = some branch.head.hash) (reached : branch.jadeStart jadeTimestamp ≤ branch.head.number) :
    chain.jadeStart jadeTimestamp = branch.jadeStart jadeTimestamp := by
  rw [CanonicalChain.jadeStart] at reached ⊢
  rw [branch_taken branch chain holds, List.findIdx_take] at reached
  rw [CanonicalChain.jadeStart, branch_taken branch chain holds, List.findIdx_take]
  omega

end MorphReth.ReferenceIndex
