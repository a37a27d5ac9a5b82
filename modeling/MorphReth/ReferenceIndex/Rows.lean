import MorphReth.ReferenceIndex.Db

set_option autoImplicit false

namespace MorphReth.ReferenceIndex

def ReferenceIndexKey.blockKey (key : ReferenceIndexKey) : BlockReferenceKey where
  blockNumber := key.blockNumber
  transactionIndex := key.transactionIndex
  transactionHash := key.transactionHash

-- The reference of the transaction a key points at inside its block.
def referenceAt (transactions : List SealedTransaction) (key : BlockReferenceKey) : Option B256 :=
  (transactions[key.transactionIndex]?).bind (fun tx => if tx.txHash = key.transactionHash then tx.reference else none)

def timestampAt (block : Block) (key : ReferenceIndexKey) : Option Nat :=
  if referenceAt block.transactions key.blockKey = some key.reference then some block.timestamp else none

theorem reference_at_some (transactions : List SealedTransaction) (key : BlockReferenceKey) (reference : B256) :
    referenceAt transactions key = some reference ↔
      ∃ tx, transactions[key.transactionIndex]? = some tx ∧ tx.txHash = key.transactionHash ∧ tx.reference = some reference := by
  simp only [referenceAt, Option.bind_eq_some_iff, Option.ite_none_right_eq_some]

theorem mem_reference_entries (transactions : List SealedTransaction) (entry : ReferenceEntry) (blockNumber : Nat) :
    entry ∈ referenceEntries transactions ↔ referenceAt transactions (entry.blockKey blockNumber) = some entry.reference := by
  rw [reference_at_some]
  simp only [referenceEntries, List.mem_filterMap, Prod.exists, List.mk_mem_zipIdx_iff_getElem?, Option.map_eq_some_iff]
  constructor
  · intro found
    obtain ⟨tx, index, present, reference, carried, rfl⟩ := found
    exact ⟨tx, present, rfl, carried⟩
  · intro found
    obtain ⟨tx, present, same, carried⟩ := found
    exact ⟨tx, entry.transactionIndex, present, entry.reference, carried, congrArg (ReferenceEntry.mk _ · _) same⟩

theorem write_entries_references (number timestamp : Nat) (entries : List ReferenceEntry) (db : ReferenceIndexDb) :
    (entries.foldl (writeEntry number timestamp) db).referenceIndex =
      Table.putAll (fun entry => ReferenceEntry.referenceKey entry number) (fun _ => timestamp) entries db.referenceIndex :=
  (List.foldl_hom ReferenceIndexDb.referenceIndex (fun _ _ => rfl)).symm

theorem write_entries_block_references (number timestamp : Nat) (entries : List ReferenceEntry) (db : ReferenceIndexDb) :
    (entries.foldl (writeEntry number timestamp) db).blockReferenceIndex =
      Table.putAll (fun entry => ReferenceEntry.blockKey entry number) ReferenceEntry.reference entries db.blockReferenceIndex :=
  (List.foldl_hom ReferenceIndexDb.blockReferenceIndex (fun _ _ => rfl)).symm

theorem write_entries_blocks (number timestamp : Nat) (entries : List ReferenceEntry) (db : ReferenceIndexDb) :
    (entries.foldl (writeEntry number timestamp) db).indexedBlocks = db.indexedBlocks := by
  induction entries generalizing db with
  | nil => rfl
  | cons entry rest ih => exact ih (writeEntry number timestamp db entry)

section WriteBlock

variable (db : ReferenceIndexDb) (block : CanonicalBlock)

theorem write_block_hash (number : Nat) :
    (writeBlock db block).1.indexedBlocks.get number = if number = block.number then some block.hash else db.indexedBlocks.get number := by
  rw [writeBlock, write_entries_blocks, Table.get_put]

theorem write_block_block_reference (key : BlockReferenceKey) :
    (writeBlock db block).1.blockReferenceIndex.get key =
      (if key.blockNumber = block.number then referenceAt block.transactions key else none).or (db.blockReferenceIndex.get key) := by
  rw [writeBlock, write_entries_block_references]
  apply Table.get_put_all
  intro reference
  by_cases here : key.blockNumber = block.number
  · rw [if_pos here]
    constructor
    · intro carried
      refine ⟨⟨key.transactionIndex, key.transactionHash, reference⟩, ?_, ?_, rfl⟩
      · rw [mem_reference_entries block.transactions _ block.number]
        rw [ReferenceEntry.blockKey, ← here]
        exact carried
      · rw [ReferenceEntry.blockKey, ← here]
    · intro found
      obtain ⟨entry, member, rfl, rfl⟩ := found
      exact (mem_reference_entries block.transactions entry block.number).mp member
  · rw [if_neg here]
    constructor
    · intro impossible
      cases impossible
    · intro found
      obtain ⟨entry, _, rfl, _⟩ := found
      exact absurd rfl here

theorem write_block_reference (key : ReferenceIndexKey) :
    (writeBlock db block).1.referenceIndex.get key =
      (if key.blockNumber = block.number ∧ referenceAt block.transactions key.blockKey = some key.reference then some block.timestamp
        else none).or (db.referenceIndex.get key) := by
  rw [writeBlock, write_entries_references]
  apply Table.get_put_all
  intro timestamp
  constructor
  · intro found
    split at found
    · next carried =>
        cases found
        refine ⟨⟨key.transactionIndex, key.transactionHash, key.reference⟩, ?_, ?_, rfl⟩
        · rw [mem_reference_entries block.transactions _ key.blockNumber]
          exact carried.2
        · rw [ReferenceEntry.referenceKey, ← carried.1]
    · cases found
  · intro found
    obtain ⟨entry, member, rfl, rfl⟩ := found
    exact if_pos ⟨rfl, (mem_reference_entries block.transactions entry block.number).mp member⟩

end WriteBlock

section DeleteBlock

variable (db : ReferenceIndexDb) (number : Nat)

theorem zero_key_least (key : BlockReferenceKey) (atLeast : number ≤ key.blockNumber) :
    ({ blockNumber := number, transactionIndex := 0, transactionHash := 0 } : BlockReferenceKey) ≤ key := by
  change BlockReferenceKey.order _ ≤ BlockReferenceKey.order key
  have zero : (0 : B256).toNat = 0 := rfl
  simp only [BlockReferenceKey.order, Prod.Lex.toLex_le_toLex, zero]
  omega

theorem block_number_mono (left right : BlockReferenceKey) (less : left < right) : left.blockNumber ≤ right.blockNumber := by
  change BlockReferenceKey.order left < BlockReferenceKey.order right at less
  simp only [BlockReferenceKey.order, Prod.Lex.toLex_lt_toLex] at less
  omega

-- The cursor walk from the block's first key stops at the next block, and has
-- then seen every row of the block.
theorem mem_block_reference_rows (key : BlockReferenceKey) (reference : B256) :
    (key, reference) ∈ blockReferenceRows db number ↔ key.blockNumber = number ∧ db.blockReferenceIndex.get key = some reference := by
  have walked : blockReferenceRows db number =
      (db.blockReferenceIndex.seek { blockNumber := number, transactionIndex := 0, transactionHash := 0 }).filter
        (fun row => row.1.blockNumber = number) := by
    apply take_while_eq_filter
    refine List.Pairwise.imp_of_mem ?_ (db.blockReferenceIndex.sorted.filter _)
    intro earlier later earlierMember _ less here
    have start : _ ≤ earlier.1 := of_decide_eq_true (List.mem_filter.mp earlierMember).2
    have ordered := block_number_mono earlier.1 later.1 less
    have lower : number ≤ earlier.1.blockNumber := by
      rcases eq_or_lt_of_le start with same | below
      · rw [← same]
      · exact block_number_mono _ _ below
    have laterHere : later.1.blockNumber = number := of_decide_eq_true here
    exact decide_eq_true (by omega)
  rw [walked, List.mem_filter, Table.seek, List.mem_filter, ← Table.get_eq_some, decide_eq_true_eq, decide_eq_true_eq]
  constructor
  · intro member
    exact ⟨member.2, member.1.1⟩
  · intro member
    exact ⟨⟨member.2, zero_key_least number key member.1.ge⟩, member.1⟩

theorem delete_block_hash (other : Nat) :
    (deleteBlock db number).indexedBlocks.get other = if other = number then none else db.indexedBlocks.get other := by
  rw [deleteBlock, Table.get_delete]

theorem delete_block_block_reference (key : BlockReferenceKey) :
    (deleteBlock db number).blockReferenceIndex.get key =
      if key.blockNumber = number then none else db.blockReferenceIndex.get key := by
  rw [deleteBlock, Table.get_foldl_delete]
  by_cases here : key.blockNumber = number
  · rw [if_pos here]
    cases stored : db.blockReferenceIndex.get key with
    | none => simp
    | some reference =>
        rw [if_pos]
        exact List.mem_map.mpr ⟨(key, reference), (mem_block_reference_rows db number key reference).mpr ⟨here, stored⟩, rfl⟩
  · rw [if_neg here, if_neg]
    intro member
    obtain ⟨⟨rowKey, reference⟩, inRows, rfl⟩ := List.mem_map.mp member
    exact here ((mem_block_reference_rows db number rowKey reference).mp inRows).1

-- Every reference row has its block-scoped counterpart, which deletion finds
-- it by.
def Paired (db : ReferenceIndexDb) : Prop :=
  ∀ key timestamp, db.referenceIndex.get key = some timestamp → db.blockReferenceIndex.get key.blockKey = some key.reference

theorem delete_block_reference (paired : Paired db) (key : ReferenceIndexKey) :
    (deleteBlock db number).referenceIndex.get key = if key.blockNumber = number then none else db.referenceIndex.get key := by
  rw [deleteBlock, Table.get_foldl_delete]
  by_cases here : key.blockNumber = number
  · rw [if_pos here]
    cases stored : db.referenceIndex.get key with
    | none => simp
    | some timestamp =>
        rw [if_pos]
        exact List.mem_map.mpr ⟨(key.blockKey, key.reference),
          (mem_block_reference_rows db number key.blockKey key.reference).mpr ⟨here, paired key timestamp stored⟩, rfl⟩
  · rw [if_neg here, if_neg]
    intro member
    obtain ⟨⟨rowKey, reference⟩, inRows, rfl⟩ := List.mem_map.mp member
    exact here ((mem_block_reference_rows db number rowKey reference).mp inRows).1

theorem delete_block_paired (paired : Paired db) : Paired (deleteBlock db number) := by
  intro key timestamp stored
  rw [delete_block_reference db number paired] at stored
  rw [delete_block_block_reference]
  split at stored
  · cases stored
  · next elsewhere => exact (if_neg elsewhere).trans (paired key timestamp stored)

end DeleteBlock

structure DeletedBlocks (numbers : List Nat) (before after : ReferenceIndexDb) : Prop where
  jade : after.jadeFirstBlockNumber = before.jadeFirstBlockNumber
  hashes : ∀ number, after.indexedBlocks.get number = if number ∈ numbers then none else before.indexedBlocks.get number
  blockReferences : ∀ key, after.blockReferenceIndex.get key =
    if key.blockNumber ∈ numbers then none else before.blockReferenceIndex.get key
  references : ∀ key, after.referenceIndex.get key = if key.blockNumber ∈ numbers then none else before.referenceIndex.get key

theorem delete_blocks (numbers : List Nat) (db : ReferenceIndexDb) (paired : Paired db) :
    DeletedBlocks numbers db (numbers.foldl deleteBlock db) := by
  induction numbers generalizing db with
  | nil => exact ⟨rfl, fun _ => by simp, fun _ => by simp, fun _ => by simp⟩
  | cons number rest ih =>
      have later := ih (deleteBlock db number) (delete_block_paired db number paired)
      refine ⟨later.jade, fun other => ?_, fun key => ?_, fun key => ?_⟩
      · rw [List.foldl_cons, later.hashes, delete_block_hash]
        by_cases inRest : other ∈ rest
        · simp [inRest]
        · simp [inRest]
      · rw [List.foldl_cons, later.blockReferences, delete_block_block_reference]
        by_cases inRest : key.blockNumber ∈ rest
        · simp [inRest]
        · simp [inRest]
      · rw [List.foldl_cons, later.references, delete_block_reference db number paired]
        by_cases inRest : key.blockNumber ∈ rest
        · simp [inRest]
        · simp [inRest]

end MorphReth.ReferenceIndex
