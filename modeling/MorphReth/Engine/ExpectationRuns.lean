import MorphReth.Engine.WithdrawRoot
import MorphReth.Runs

set_option autoImplicit false

namespace MorphReth.Engine

-- The two fields of the validator as the code keeps them: a map and a queue,
-- each updated on its own.
structure ExpectationTables where
  expectedWithdrawTrieRoots : AList (fun _ : B256 => WithdrawTrieRootExpectation)
  expectedWithdrawTrieRootOrder : List B256

namespace ExpectationTables

def new : ExpectationTables := ⟨∅, []⟩

def recordWithdrawTrieRootExpectation (tables : ExpectationTables) (blockHash : B256) (expectation : WithdrawTrieRootExpectation) :
    ExpectationTables :=
  let isNewEntry := (tables.expectedWithdrawTrieRoots.lookup blockHash).isNone
  let roots := tables.expectedWithdrawTrieRoots.insert blockHash expectation
  if isNewEntry then
    let kept := FifoCache.evict maxExpectedWithdrawTrieRoots roots (tables.expectedWithdrawTrieRootOrder ++ [blockHash])
    ⟨kept.1, kept.2⟩
  else ⟨roots, tables.expectedWithdrawTrieRootOrder⟩

def takeWithdrawTrieRootExpectation (tables : ExpectationTables) (blockHash : B256) :
    Option WithdrawTrieRootExpectation × ExpectationTables :=
  let removed := tables.expectedWithdrawTrieRoots.lookup blockHash
  let roots := tables.expectedWithdrawTrieRoots.erase blockHash
  if removed.isSome then (removed, ⟨roots, tables.expectedWithdrawTrieRootOrder.filter (· != blockHash)⟩)
  else (removed, ⟨roots, tables.expectedWithdrawTrieRootOrder⟩)

def clearWithdrawTrieRootExpectationOnError {ε α : Type} (tables : ExpectationTables) (blockHash : B256) (result : Except ε α) :
    ExpectationTables :=
  match result with
  | .error _ => (tables.takeWithdrawTrieRootExpectation blockHash).2
  | .ok _ => tables

end ExpectationTables

inductive CacheOperation where
  | record (blockHash : B256) (expectation : WithdrawTrieRootExpectation)
  | take (blockHash : B256)
  | clearOnError (blockHash : B256) (result : Except String Unit)

def ExpectationTables.apply (tables : ExpectationTables) : CacheOperation → ExpectationTables
  | .record blockHash expectation => tables.recordWithdrawTrieRootExpectation blockHash expectation
  | .take blockHash => (tables.takeWithdrawTrieRootExpectation blockHash).2
  | .clearOnError blockHash result => tables.clearWithdrawTrieRootExpectationOnError blockHash result

def CacheOperation.removes (blockHash : B256) : CacheOperation → Prop
  | .record _ _ => False
  | .take taken => taken = blockHash
  | .clearOnError cleared result => cleared = blockHash ∧ ∃ error, result = .error error

-- A run with what its history says of each hash: the number of the operation
-- that first recorded it since it was last absent, and the last expectation
-- recorded for it.
structure CacheHistory where
  tables : ExpectationTables
  clock : Nat
  firstRecorded : B256 → Nat
  lastRecorded : B256 → Option WithdrawTrieRootExpectation

def CacheHistory.new : CacheHistory := ⟨.new, 0, fun _ => 0, fun _ => none⟩

def CacheHistory.apply (history : CacheHistory) (operation : CacheOperation) : CacheHistory where
  tables := history.tables.apply operation
  clock := history.clock + 1
  firstRecorded := match operation with
    | .record blockHash _ =>
        if blockHash ∈ history.tables.expectedWithdrawTrieRoots then history.firstRecorded
        else Function.update history.firstRecorded blockHash history.clock
    | _ => history.firstRecorded
  lastRecorded := match operation with
    | .record blockHash expectation => Function.update history.lastRecorded blockHash (some expectation)
    | _ => history.lastRecorded

theorem history_tables (history : CacheHistory) (operations : List CacheOperation) :
    (runSteps CacheHistory.apply history operations).tables = runSteps ExpectationTables.apply history.tables operations := by
  induction operations generalizing history with
  | nil => rfl
  | cons operation rest ih => exact ih (history.apply operation)

section Refinement

-- The map and the queue of the cache that the engine runs are developed over.
def tablesOf (validator : MorphEngineValidator) : ExpectationTables := ⟨validator.entries, validator.order⟩

variable (validator : MorphEngineValidator)

theorem is_none_iff (blockHash : B256) : (validator.entries.lookup blockHash).isNone = true ↔ blockHash ∉ validator.entries := by
  rw [← AList.lookup_isSome]
  cases validator.entries.lookup blockHash <;> simp

theorem record_refines (blockHash : B256) (expectation : WithdrawTrieRootExpectation) :
    (tablesOf validator).recordWithdrawTrieRootExpectation blockHash expectation =
      tablesOf (recordWithdrawTrieRootExpectation validator blockHash expectation) := by
  simp only [ExpectationTables.recordWithdrawTrieRootExpectation, tablesOf, is_none_iff, recordWithdrawTrieRootExpectation, FifoCache.insert]
  by_cases present : blockHash ∈ validator.entries
  · simp only [present, not_true_eq_false, if_false, dif_pos]
  · simp only [present, not_false_eq_true, if_true, dif_neg]

-- The code leaves the queue alone when nothing was removed; an untracked hash
-- is not in the queue either.
theorem take_refines (blockHash : B256) :
    (tablesOf validator).takeWithdrawTrieRootExpectation blockHash =
      ((takeWithdrawTrieRootExpectation validator blockHash).1, tablesOf (takeWithdrawTrieRootExpectation validator blockHash).2) := by
  simp only [ExpectationTables.takeWithdrawTrieRootExpectation, tablesOf, takeWithdrawTrieRootExpectation, FifoCache.remove, FifoCache.lookup]
  by_cases present : (validator.entries.lookup blockHash).isSome = true
  · simp only [present, if_true]
  · have untracked : blockHash ∉ validator.order := by
      intro queued
      apply present
      rw [AList.lookup_isSome]
      exact validator.tracked.mem_iff.mp queued
    have unchanged : validator.order.filter (· != blockHash) = validator.order := by
      rw [List.filter_eq_self]
      intro queued member
      simp only [bne_iff_ne]
      intro same
      exact untracked (same ▸ member)
    simp only [present, unchanged, Bool.false_eq_true, if_false]

def applyToValidator (validator : MorphEngineValidator) : CacheOperation → MorphEngineValidator
  | .record blockHash expectation => recordWithdrawTrieRootExpectation validator blockHash expectation
  | .take blockHash => (takeWithdrawTrieRootExpectation validator blockHash).2
  | .clearOnError blockHash result => clearWithdrawTrieRootExpectationOnError validator blockHash result

theorem apply_refines (operation : CacheOperation) :
    (tablesOf validator).apply operation = tablesOf (applyToValidator validator operation) := by
  cases operation with
  | record blockHash expectation => exact record_refines validator blockHash expectation
  | take blockHash => exact congrArg Prod.snd (take_refines validator blockHash)
  | clearOnError blockHash result =>
      cases result with
      | error error => exact congrArg Prod.snd (take_refines validator blockHash)
      | ok value => rfl

end Refinement

section Steps

structure Tracked (tables : ExpectationTables) : Prop where
  queue : tables.expectedWithdrawTrieRootOrder.Perm tables.expectedWithdrawTrieRoots.keys
  bounded : tables.expectedWithdrawTrieRoots.keys.length ≤ maxExpectedWithdrawTrieRoots

variable (tables : ExpectationTables)

theorem inserted_length (blockHash : B256) (expectation : WithdrawTrieRootExpectation)
    (absent : blockHash ∉ tables.expectedWithdrawTrieRoots) :
    (tables.expectedWithdrawTrieRoots.insert blockHash expectation).keys.length = tables.expectedWithdrawTrieRoots.keys.length + 1 := by
  rw [AList.keys_insert, List.erase_of_not_mem absent, List.length_cons]

variable (tracked : Tracked tables)

include tracked

theorem take_tables (blockHash : B256) :
    tables.takeWithdrawTrieRootExpectation blockHash = (tables.expectedWithdrawTrieRoots.lookup blockHash,
      ⟨tables.expectedWithdrawTrieRoots.erase blockHash, tables.expectedWithdrawTrieRootOrder.filter (· != blockHash)⟩) :=
  take_refines ⟨tables.expectedWithdrawTrieRoots, tables.expectedWithdrawTrieRootOrder, tracked.queue⟩ blockHash

-- Recording overwrites in place, takes a free place at the end of the queue, or
-- pushes out the head of a full queue.
inductive Records (blockHash : B256) (expectation : WithdrawTrieRootExpectation) : ExpectationTables → Prop where
  | overwrites (present : blockHash ∈ tables.expectedWithdrawTrieRoots) :
      Records blockHash expectation
        ⟨tables.expectedWithdrawTrieRoots.insert blockHash expectation, tables.expectedWithdrawTrieRootOrder⟩
  | appends (absent : blockHash ∉ tables.expectedWithdrawTrieRoots)
      (room : tables.expectedWithdrawTrieRoots.keys.length < maxExpectedWithdrawTrieRoots) :
      Records blockHash expectation
        ⟨tables.expectedWithdrawTrieRoots.insert blockHash expectation, tables.expectedWithdrawTrieRootOrder ++ [blockHash]⟩
  | evicts (absent : blockHash ∉ tables.expectedWithdrawTrieRoots)
      (full : tables.expectedWithdrawTrieRoots.keys.length = maxExpectedWithdrawTrieRoots) (oldest : B256) (rest : List B256)
      (head : tables.expectedWithdrawTrieRootOrder = oldest :: rest) :
      Records blockHash expectation
        ⟨(tables.expectedWithdrawTrieRoots.insert blockHash expectation).erase oldest, rest ++ [blockHash]⟩

theorem record_records (blockHash : B256) (expectation : WithdrawTrieRootExpectation) :
    Records tables blockHash expectation (tables.recordWithdrawTrieRootExpectation blockHash expectation) := by
  have isNone : (tables.expectedWithdrawTrieRoots.lookup blockHash).isNone = true ↔ blockHash ∉ tables.expectedWithdrawTrieRoots :=
    is_none_iff ⟨tables.expectedWithdrawTrieRoots, tables.expectedWithdrawTrieRootOrder, tracked.queue⟩ blockHash
  rw [ExpectationTables.recordWithdrawTrieRootExpectation]
  by_cases present : blockHash ∈ tables.expectedWithdrawTrieRoots
  · simp only [isNone, present, not_true_eq_false, if_false]
    exact .overwrites present
  · simp only [isNone, present, not_false_eq_true, if_true]
    have length := inserted_length tables blockHash expectation present
    rcases Nat.lt_or_eq_of_le tracked.bounded with room | full
    · rw [FifoCache.evict_fits _ _ _ (by omega)]
      exact .appends present room
    · cases order : tables.expectedWithdrawTrieRootOrder with
      | nil =>
          have empty := tracked.queue.length_eq
          rw [order, full] at empty
          cases empty
      | cons oldest rest =>
          have inMap : oldest ∈ tables.expectedWithdrawTrieRoots := tracked.queue.mem_iff.mp (by rw [order]; exact List.mem_cons_self)
          have inserted : oldest ∈ tables.expectedWithdrawTrieRoots.insert blockHash expectation :=
            (AList.mem_insert _).mpr (.inr inMap)
          rw [List.cons_append, FifoCache.evict_oldest _ _ oldest _ inserted (by omega)]
          exact .evicts present full oldest rest order

theorem apply_tracked (operation : CacheOperation) : Tracked (tables.apply operation) := by
  have queue : (tables.apply operation).expectedWithdrawTrieRootOrder.Perm (tables.apply operation).expectedWithdrawTrieRoots.keys := by
    let validator : MorphEngineValidator := ⟨tables.expectedWithdrawTrieRoots, tables.expectedWithdrawTrieRootOrder, tracked.queue⟩
    have refined : tables.apply operation = tablesOf (applyToValidator validator operation) := apply_refines validator operation
    rw [refined]
    exact (applyToValidator validator operation).tracked
  have taken : ∀ blockHash, (tables.takeWithdrawTrieRootExpectation blockHash).2.expectedWithdrawTrieRoots.keys.length ≤
      maxExpectedWithdrawTrieRoots := by
    intro blockHash
    rw [take_tables tables tracked, AList.keys_erase]
    exact (List.erase_sublist.length_le).trans tracked.bounded
  refine ⟨queue, ?_⟩
  cases operation with
  | record blockHash expectation =>
      have recorded := record_records tables tracked blockHash expectation
      rw [ExpectationTables.apply]
      generalize tables.recordWithdrawTrieRootExpectation blockHash expectation = after at recorded ⊢
      cases recorded with
      | overwrites present =>
          simp only [AList.keys_insert]
          rw [List.length_cons, List.length_erase_of_mem present]
          have := List.length_pos_of_mem present
          have := tracked.bounded
          omega
      | appends absent room =>
          rw [inserted_length tables blockHash expectation absent]
          omega
      | evicts absent full oldest rest head =>
          have inMap : oldest ∈ tables.expectedWithdrawTrieRoots := tracked.queue.mem_iff.mp (by rw [head]; exact List.mem_cons_self)
          have inserted : oldest ∈ (tables.expectedWithdrawTrieRoots.insert blockHash expectation).keys :=
            (AList.mem_insert _).mpr (.inr inMap)
          rw [AList.keys_erase, List.length_erase_of_mem inserted, inserted_length tables blockHash expectation absent]
          omega
  | take blockHash => exact taken blockHash
  | clearOnError blockHash result =>
      cases result with
      | error error => exact taken blockHash
      | ok value => exact tracked.bounded

theorem record_found (blockHash : B256) (expectation : WithdrawTrieRootExpectation) :
    (tables.recordWithdrawTrieRootExpectation blockHash expectation).expectedWithdrawTrieRoots.lookup blockHash = some expectation := by
  have recorded := record_records tables tracked blockHash expectation
  generalize tables.recordWithdrawTrieRootExpectation blockHash expectation = after at recorded ⊢
  cases recorded with
  | overwrites _ => exact AList.lookup_insert _
  | appends _ _ => exact AList.lookup_insert _
  | evicts absent full oldest rest head =>
      have different : blockHash ≠ oldest := by
        rintro rfl
        exact absent (tracked.queue.mem_iff.mp (by rw [head]; exact List.mem_cons_self))
      exact (AList.lookup_erase_ne different).trans (AList.lookup_insert _)

end Steps

section Runs

structure CacheSound (history : CacheHistory) : Prop where
  tracked : Tracked history.tables
  sorted : history.tables.expectedWithdrawTrieRootOrder.Pairwise (fun older newer => history.firstRecorded older < history.firstRecorded newer)
  past : ∀ queued ∈ history.tables.expectedWithdrawTrieRootOrder, history.firstRecorded queued < history.clock
  latest : ∀ blockHash expectation, history.tables.expectedWithdrawTrieRoots.lookup blockHash = some expectation →
    history.lastRecorded blockHash = some expectation

theorem new_sound : CacheSound .new where
  tracked := ⟨List.Perm.nil, Nat.zero_le _⟩
  sorted := List.Pairwise.nil
  past := by
    intro queued impossible
    cases impossible
  latest := by
    intro blockHash expectation impossible
    cases impossible

theorem lookup_erase_some (roots : AList (fun _ : B256 => WithdrawTrieRootExpectation)) (erased blockHash : B256)
    (found : WithdrawTrieRootExpectation) (present : (roots.erase erased).lookup blockHash = some found) :
    roots.lookup blockHash = some found := by
  by_cases same : blockHash = erased
  · rw [same, AList.lookup_erase] at present
    cases present
  · rw [AList.lookup_erase_ne same] at present
    exact present

variable (history : CacheHistory) (sound : CacheSound history)

include sound

-- A new hash is the youngest of the queue it is appended to.
theorem sorted_append (blockHash : B256) (absent : blockHash ∉ history.tables.expectedWithdrawTrieRoots) :
    (history.tables.expectedWithdrawTrieRootOrder ++ [blockHash]).Pairwise (fun older newer =>
        Function.update history.firstRecorded blockHash history.clock older < Function.update history.firstRecorded blockHash history.clock newer) ∧
      ∀ queued ∈ history.tables.expectedWithdrawTrieRootOrder ++ [blockHash],
        Function.update history.firstRecorded blockHash history.clock queued < history.clock + 1 := by
  have other : ∀ queued ∈ history.tables.expectedWithdrawTrieRootOrder,
      Function.update history.firstRecorded blockHash history.clock queued = history.firstRecorded queued := by
    intro queued member
    apply Function.update_of_ne
    intro same
    exact absent (sound.tracked.queue.mem_iff.mp (same ▸ member))
  have own : Function.update history.firstRecorded blockHash history.clock blockHash = history.clock := Function.update_self _ _ _
  constructor
  · rw [List.pairwise_append]
    refine ⟨?_, List.pairwise_singleton _ _, ?_⟩
    · apply sound.sorted.imp_of_mem
      intro older newer olderMember newerMember before
      rw [other older olderMember, other newer newerMember]
      exact before
    · intro older member newer isNew
      rw [List.mem_singleton.mp isNew, own, other older member]
      exact sound.past older member
  · intro queued member
    rcases List.mem_append.mp member with older | isNew
    · rw [other queued older]
      exact Nat.lt_succ_of_lt (sound.past queued older)
    · rw [List.mem_singleton.mp isNew, own]
      exact Nat.lt_succ_self _

theorem latest_insert (blockHash other : B256) (expectation found : WithdrawTrieRootExpectation)
    (present : (history.tables.expectedWithdrawTrieRoots.insert blockHash expectation).lookup other = some found) :
    Function.update history.lastRecorded blockHash (some expectation) other = some found := by
  by_cases same : other = blockHash
  · rw [same, AList.lookup_insert] at present
    rw [same, Function.update_self, present]
  · rw [AList.lookup_insert_ne same] at present
    rw [Function.update_of_ne same]
    exact sound.latest other found present

theorem taken_sound (blockHash : B256) :
    CacheSound { history with
      tables := (history.tables.takeWithdrawTrieRootExpectation blockHash).2
      clock := history.clock + 1 } := by
  have tracked := apply_tracked history.tables sound.tracked (.take blockHash)
  rw [ExpectationTables.apply] at tracked
  rw [take_tables history.tables sound.tracked] at tracked ⊢
  refine ⟨tracked, sound.sorted.filter _, ?_, ?_⟩
  · intro queued member
    exact Nat.lt_succ_of_lt (sound.past queued (List.mem_of_mem_filter member))
  · intro other expectation present
    exact sound.latest other expectation (lookup_erase_some _ blockHash other expectation present)

theorem apply_sound (operation : CacheOperation) : CacheSound (history.apply operation) := by
  have tracked := apply_tracked history.tables sound.tracked operation
  cases operation with
  | record blockHash expectation =>
      have recorded := record_records history.tables sound.tracked blockHash expectation
      rw [ExpectationTables.apply] at tracked
      simp only [CacheHistory.apply, ExpectationTables.apply]
      generalize history.tables.recordWithdrawTrieRootExpectation blockHash expectation = after at recorded tracked ⊢
      cases recorded with
      | overwrites present =>
          rw [if_pos present]
          refine ⟨tracked, sound.sorted, fun queued member => Nat.lt_succ_of_lt (sound.past queued member), ?_⟩
          intro other found inserted
          exact latest_insert history sound blockHash other expectation found inserted
      | appends absent room =>
          obtain ⟨sorted, past⟩ := sorted_append history sound blockHash absent
          rw [if_neg absent]
          refine ⟨tracked, sorted, past, ?_⟩
          intro other found inserted
          exact latest_insert history sound blockHash other expectation found inserted
      | evicts absent full oldest rest head =>
          obtain ⟨sorted, past⟩ := sorted_append history sound blockHash absent
          have kept : (rest ++ [blockHash]).Sublist (history.tables.expectedWithdrawTrieRootOrder ++ [blockHash]) := by
            rw [head]
            exact (List.sublist_cons_self oldest rest).append (List.Sublist.refl _)
          rw [if_neg absent]
          refine ⟨tracked, sorted.sublist kept, fun queued member => past queued (kept.subset member), ?_⟩
          intro other found inserted
          exact latest_insert history sound blockHash other expectation found (lookup_erase_some _ oldest other found inserted)
  | take blockHash => exact taken_sound history sound blockHash
  | clearOnError blockHash result =>
      cases result with
      | error error => exact taken_sound history sound blockHash
      | ok value => exact ⟨tracked, sound.sorted, fun queued member => Nat.lt_succ_of_lt (sound.past queued member), sound.latest⟩

theorem run_sound (operations : List CacheOperation) : CacheSound (runSteps CacheHistory.apply history operations) := by
  induction operations generalizing history with
  | nil => exact sound
  | cons operation rest ih => exact ih (history.apply operation) (apply_sound history sound operation)

-- A full cache makes room for a new hash by giving up the one it has known
-- longest.
structure EvictsOldest (history : CacheHistory) (newHash blockHash : B256) : Prop where
  absent : newHash ∉ history.tables.expectedWithdrawTrieRoots
  full : history.tables.expectedWithdrawTrieRoots.keys.length = maxExpectedWithdrawTrieRoots
  oldest : ∀ other ∈ history.tables.expectedWithdrawTrieRoots, other ≠ blockHash → history.firstRecorded blockHash < history.firstRecorded other

-- What a step may lose: what it takes or clears, or the head of a full queue.
theorem lost_oldest (operation : CacheOperation) (blockHash : B256) (present : blockHash ∈ history.tables.expectedWithdrawTrieRoots)
    (gone : blockHash ∉ (history.tables.apply operation).expectedWithdrawTrieRoots) :
    operation.removes blockHash ∨ ∃ newHash expectation, operation = .record newHash expectation ∧ EvictsOldest history newHash blockHash := by
  have taken : ∀ removed, blockHash ∉ (history.tables.takeWithdrawTrieRootExpectation removed).2.expectedWithdrawTrieRoots → removed = blockHash := by
    intro removed absent
    rw [take_tables history.tables sound.tracked] at absent
    by_contra different
    exact absent (AList.mem_erase.mpr ⟨fun same => different same.symm, present⟩)
  cases operation with
  | take removed => exact .inl (taken removed gone)
  | clearOnError removed result =>
      cases result with
      | error error => exact .inl ⟨taken removed gone, error, rfl⟩
      | ok value => exact absurd present gone
  | record newHash expectation =>
      right
      have recorded := record_records history.tables sound.tracked newHash expectation
      rw [ExpectationTables.apply] at gone
      generalize history.tables.recordWithdrawTrieRootExpectation newHash expectation = after at recorded gone
      have inserted : blockHash ∈ history.tables.expectedWithdrawTrieRoots.insert newHash expectation :=
        (AList.mem_insert _).mpr (.inr present)
      cases recorded with
      | overwrites _ => exact absurd inserted gone
      | appends _ _ => exact absurd inserted gone
      | evicts absent full oldest rest head =>
          have isOldest : blockHash = oldest := by
            by_contra different
            exact gone (AList.mem_erase.mpr ⟨different, inserted⟩)
          refine ⟨newHash, expectation, rfl, absent, full, ?_⟩
          intro other member different
          have queued : other ∈ oldest :: rest := by
            rw [← head]
            exact sound.tracked.queue.mem_iff.mpr member
          have sorted := sound.sorted
          rw [head, List.pairwise_cons] at sorted
          rw [isOldest]
          rcases List.mem_cons.mp queued with same | younger
          · exact absurd (same.trans isOldest.symm) different
          · exact sorted.1 other younger

-- Neither recorded again nor taken nor cleared.
def CacheOperation.leaves (blockHash : B256) (operation : CacheOperation) : Prop :=
  ¬operation.removes blockHash ∧ ∀ expectation, operation ≠ .record blockHash expectation

theorem kept_or_evicted (operation : CacheOperation) (blockHash : B256) (expectation : WithdrawTrieRootExpectation)
    (found : history.tables.expectedWithdrawTrieRoots.lookup blockHash = some expectation) (left : operation.leaves blockHash) :
    (history.apply operation).tables.expectedWithdrawTrieRoots.lookup blockHash = some expectation ∨
      ∃ newHash newer, operation = .record newHash newer ∧ EvictsOldest history newHash blockHash := by
  have sameLast : (history.apply operation).lastRecorded blockHash = history.lastRecorded blockHash := by
    cases operation with
    | record recorded newer =>
        refine Function.update_of_ne ?_ _ _
        rintro rfl
        exact left.2 newer rfl
    | take _ => rfl
    | clearOnError _ _ => rfl
  by_cases present : blockHash ∈ (history.apply operation).tables.expectedWithdrawTrieRoots
  · left
    obtain ⟨now, foundNow⟩ := Option.isSome_iff_exists.mp (AList.lookup_isSome.mpr present)
    have same := (apply_sound history sound operation).latest blockHash now foundNow
    rw [sameLast, sound.latest blockHash expectation found] at same
    rw [foundNow, same]
  · have before : blockHash ∈ history.tables.expectedWithdrawTrieRoots := by
      rw [← AList.lookup_isSome, found]
      rfl
    rcases lost_oldest history sound operation blockHash before present with removed | evicted
    · exact absurd removed left.1
    · exact .inr evicted

theorem stays_until_evicted (blockHash : B256) (expectation : WithdrawTrieRootExpectation)
    (found : history.tables.expectedWithdrawTrieRoots.lookup blockHash = some expectation) (later : List CacheOperation)
    (left : ∀ operation ∈ later, operation.leaves blockHash) :
    (runSteps CacheHistory.apply history later).tables.expectedWithdrawTrieRoots.lookup blockHash = some expectation ∨
      ∃ before newHash newer rest, later = before ++ .record newHash newer :: rest ∧
        EvictsOldest (runSteps CacheHistory.apply history before) newHash blockHash := by
  induction later generalizing history with
  | nil => exact .inl found
  | cons operation later ih =>
      rcases kept_or_evicted history sound operation blockHash expectation found (left operation List.mem_cons_self) with
        kept | ⟨newHash, newer, rfl, evicted⟩
      · rcases ih (history.apply operation) (apply_sound history sound operation) kept
          (fun other member => left other (List.mem_cons_of_mem _ member)) with stays | ⟨before, newHash, newer, rest, rfl, evicted⟩
        · exact .inl stays
        · exact .inr ⟨operation :: before, newHash, newer, rest, rfl, evicted⟩
      · exact .inr ⟨[], newHash, newer, later, rfl, evicted⟩

end Runs

-- What is recorded is found, and found again until it is taken, cleared or
-- evicted as the oldest.
theorem expectation_cache_bounded_fifo (operations : List CacheOperation) :
    let history := runSteps CacheHistory.apply .new operations
    let roots := history.tables.expectedWithdrawTrieRoots
    history.tables = runSteps ExpectationTables.apply .new operations ∧
      history.tables.expectedWithdrawTrieRootOrder.Nodup ∧
      (∀ blockHash, blockHash ∈ history.tables.expectedWithdrawTrieRootOrder ↔ blockHash ∈ roots) ∧
      roots.keys.length ≤ maxExpectedWithdrawTrieRoots ∧
      (∀ blockHash,
        ((history.tables.takeWithdrawTrieRootExpectation blockHash).1 = if blockHash ∈ roots then history.lastRecorded blockHash else none) ∧
        blockHash ∉ (history.tables.takeWithdrawTrieRootExpectation blockHash).2.expectedWithdrawTrieRoots) ∧
      (∀ blockHash expectation,
        (history.tables.recordWithdrawTrieRootExpectation blockHash expectation).expectedWithdrawTrieRoots.lookup blockHash = some expectation) ∧
      (∀ blockHash expectation later, roots.lookup blockHash = some expectation → (∀ operation ∈ later, operation.leaves blockHash) →
        (runSteps CacheHistory.apply history later).tables.expectedWithdrawTrieRoots.lookup blockHash = some expectation ∨
          ∃ before newHash newer rest, later = before ++ .record newHash newer :: rest ∧
            EvictsOldest (runSteps CacheHistory.apply history before) newHash blockHash) ∧
      (∀ operation blockHash, blockHash ∈ roots → blockHash ∉ (history.tables.apply operation).expectedWithdrawTrieRoots →
        operation.removes blockHash ∨
          ∃ newHash expectation, operation = .record newHash expectation ∧ EvictsOldest history newHash blockHash) := by
  intro history roots
  have sound : CacheSound history := run_sound .new new_sound operations
  refine ⟨history_tables .new operations, sound.tracked.queue.nodup_iff.mpr roots.keys_nodup, ?_, sound.tracked.bounded, ?_,
    record_found history.tables sound.tracked, ?_, ?_⟩
  · intro blockHash
    exact sound.tracked.queue.mem_iff
  · intro blockHash
    rw [take_tables history.tables sound.tracked]
    refine ⟨?_, fun kept => (AList.mem_erase.mp kept).1 rfl⟩
    split
    · next present =>
        obtain ⟨expectation, found⟩ := Option.isSome_iff_exists.mp (AList.lookup_isSome.mpr present)
        exact found.trans (sound.latest blockHash expectation found).symm
    · next absent => exact AList.lookup_eq_none.mpr absent
  · intro blockHash expectation later found left
    exact stays_until_evicted history sound blockHash expectation found later left
  · intro operation blockHash
    exact lost_oldest history sound operation blockHash

end MorphReth.Engine
