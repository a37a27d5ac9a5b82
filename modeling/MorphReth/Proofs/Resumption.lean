import MorphReth.Proofs.Initialize
import MorphReth.Proofs.Writes
import Mathlib.Logic.Relation

set_option autoImplicit false

namespace MorphReth.Proofs

section Tables

variable {κ ν : Type} [LinearOrder κ]

-- The rows of a source, each once and at version 0.
def initialHistory (source : Table κ ν) : HistoryTable κ ν where
  rows := source.rows.map (fun row => (toLex (row.1, 0), some row.2))
  sorted := by
    rw [List.pairwise_map]
    apply source.sorted.imp
    intro earlier later less
    exact Prod.Lex.toLex_lt_toLex.mpr (.inl less)

theorem InitialStateDb.write_write (db : InitialStateDb) (access : HistoryAccess κ ν) (first second : HistoryTable κ ν) :
    (db.write access first).write access second = db.write access second := by
  rw [InitialStateDb.write, InitialStateDb.write, InitialStateDb.write, access.writeWrite]

theorem InitialStateDb.write_read (db : InitialStateDb) (access : HistoryAccess κ ν) :
    db.write access (access.read db.toProofsDb) = db := by
  rw [InitialStateDb.write, access.writeRead]

theorem latest_key_initial (source : Table κ ν) : latestKey (initialHistory source) = source.rows.getLast?.map Prod.fst := by
  simp [latestKey, initialHistory, Function.comp_def]

theorem append_initial (done next : Table κ ν) (key : κ) (value : ν) (extended : next.rows = done.rows ++ [(key, value)]) :
    appendDup (initialHistory done) 0 (key, some value) = .ok (initialHistory next) := by
  have below : ∀ row ∈ done.rows, row.1 < key := by
    have ordered := next.sorted
    rw [extended, List.pairwise_append] at ordered
    intro row member
    exact ordered.2.2 row member (key, value) List.mem_cons_self
  have lower : ∀ row ∈ (initialHistory done).rows, row.1 < toLex (key, 0) := by
    intro row member
    obtain ⟨given, givenMember, rfl⟩ := List.mem_map.mp member
    exact Prod.Lex.toLex_lt_toLex.mpr (.inl (below given givenMember))
  have fresh : ∀ version, ((initialHistory done).versions key version).isSome → version < 0 := by
    intro version stored
    obtain ⟨found, held⟩ := Option.isSome_iff_exists.mp stored
    have less := lower _ ((DupTable.mem_rows _ key version found).mp held)
    simp [Prod.Lex.lt_iff] at less
  rw [append_dup_ok _ 0 _ fresh]
  congr 1
  apply Table.ext_rows
  rw [Table.put_last _ _ _ lower]
  simp [initialHistory, extended]

-- A batch of the rows that follow what is stored, appended one by one.
theorem append_batch_initial (batch : List (κ × ν)) (done next : Table κ ν) (extended : next.rows = done.rows ++ batch) :
    (batch.map (fun entry => (entry.1, some entry.2))).foldlM (fun table entry => appendDup table 0 entry) (initialHistory done) =
      .ok (initialHistory next) := by
  induction batch generalizing done with
  | nil =>
      rw [List.append_nil] at extended
      rw [Table.ext_rows next done extended]
      rfl
  | cons entry rest ih =>
      have split : next.rows = (done.rows ++ [entry]) ++ rest := by rw [extended, List.append_assoc, List.singleton_append]
      have ordered := next.sorted
      rw [split, List.pairwise_append] at ordered
      rw [List.map_cons, List.foldlM_cons, append_initial done ⟨done.rows ++ [entry], ordered.1⟩ entry.1 entry.2 rfl]
      exact ih ⟨done.rows ++ [entry], ordered.1⟩ split

theorem sort_by_key_sorted {α : Type} (items : List (κ × α)) (sorted : items.Pairwise (fun left right => left.1 ≤ right.1)) :
    sortByKey items = items :=
  List.Pairwise.insertionSort_eq sorted

end Tables

section Groups

variable {σ ν α : Type} [LinearOrder σ]

def ungroup (groups : List (B256 × List (σ × α))) : List (AddressKey σ × α) :=
  groups.flatMap (fun group => group.2.map (fun entry => (toLex (group.1, entry.1), entry.2)))

structure Grouping.Tracks (state : Grouping σ α) (consumed : List (AddressKey σ × α)) : Prop where
  flat : ungroup state.finish = consumed
  filled : ∀ group ∈ state.finish, group.2 ≠ []
  idle : state.currentAddress = none → state.current = []

omit [LinearOrder σ] in
theorem push_tracks (state : Grouping σ α) (consumed : List (AddressKey σ × α)) (entry : AddressKey σ × α) (tracks : state.Tracks consumed) :
    (state.push entry).Tracks (consumed ++ [entry]) := by
  obtain ⟨grouped, currentAddress, current⟩ := state
  obtain ⟨flat, filled, idle⟩ := tracks
  subst flat
  cases currentAddress with
  | none =>
      obtain rfl : current = [] := idle rfl
      have pushed : Grouping.push ⟨grouped, none, []⟩ entry = ⟨grouped, some (ofLex entry.1).1, [((ofLex entry.1).2, entry.2)]⟩ := rfl
      rw [pushed]
      refine ⟨by simp [Grouping.finish, ungroup], ?_, fun absurd => (by cases absurd)⟩
      simpa [Grouping.finish, or_imp, forall_and] using filled
  | some address =>
      by_cases same : address = (ofLex entry.1).1
      · subst same
        have pushed : Grouping.push ⟨grouped, some (ofLex entry.1).1, current⟩ entry =
            ⟨grouped, some (ofLex entry.1).1, current ++ [((ofLex entry.1).2, entry.2)]⟩ := by simp [Grouping.push]
        have groupedFilled : ∀ group ∈ grouped, group.2 ≠ [] := fun group member => filled group (List.mem_append_left _ member)
        rw [pushed]
        refine ⟨by simp [Grouping.finish, ungroup], ?_, fun absurd => (by cases absurd)⟩
        simpa [Grouping.finish, or_imp, forall_and] using groupedFilled
      · have pushed : Grouping.push ⟨grouped, some address, current⟩ entry =
            ⟨grouped ++ [(address, current)], some (ofLex entry.1).1, [((ofLex entry.1).2, entry.2)]⟩ := by
          simp [Grouping.push, Grouping.turn, same]
        rw [pushed]
        refine ⟨by simp [Grouping.finish, ungroup], ?_, fun absurd => (by cases absurd)⟩
        simpa [Grouping.finish, or_imp, forall_and] using filled

omit [LinearOrder σ] in
theorem group_tracks (entries : List (AddressKey σ × α)) (state : Grouping σ α) (consumed : List (AddressKey σ × α))
    (tracks : state.Tracks consumed) : (entries.foldl Grouping.push state).Tracks (consumed ++ entries) := by
  induction entries generalizing state consumed with
  | nil => rwa [List.append_nil]
  | cons entry rest ih =>
      have onward := ih (state.push entry) (consumed ++ [entry]) (push_tracks state consumed entry tracks)
      rwa [List.append_assoc] at onward

-- Regrouping loses and reorders nothing.
omit [LinearOrder σ] in
theorem group_by_address_tracks (entries : List (AddressKey σ × α)) :
    ungroup (groupByAddress entries) = entries ∧ ∀ group ∈ groupByAddress entries, group.2 ≠ [] := by
  have tracks := group_tracks entries ⟨[], none, []⟩ [] ⟨rfl, fun _ absurd => (by cases absurd), fun _ => rfl⟩
  exact ⟨tracks.flat, tracks.filled⟩

-- The groups of rows in key order are in address order, and so is each inside.
theorem groups_sorted (groups : List (B256 × List (σ × α))) (filled : ∀ group ∈ groups, group.2 ≠ [])
    (sorted : (ungroup groups).Pairwise (fun earlier later => earlier.1 < later.1)) :
    groups.Pairwise (fun left right => left.1 ≤ right.1) ∧ ∀ group ∈ groups, group.2.Pairwise (fun left right => left.1 ≤ right.1) := by
  rw [ungroup, List.pairwise_flatMap] at sorted
  obtain ⟨inside, across⟩ := sorted
  constructor
  · apply List.Pairwise.imp_of_mem _ across
    intro left right leftMember rightMember ordered
    obtain ⟨first, firstMember⟩ := List.exists_mem_of_ne_nil _ (filled left leftMember)
    obtain ⟨second, secondMember⟩ := List.exists_mem_of_ne_nil _ (filled right rightMember)
    have less := ordered _ (List.mem_map_of_mem firstMember) _ (List.mem_map_of_mem secondMember)
    rcases Prod.Lex.toLex_lt_toLex.mp less with lower | ⟨same, _⟩
    · exact le_of_lt lower
    · exact le_of_eq same
  · intro group member
    have ordered := List.pairwise_map.mp (inside group member)
    apply ordered.imp
    intro left right less
    rcases Prod.Lex.toLex_lt_toLex.mp less with lower | ⟨_, later⟩
    · exact absurd lower (lt_irrefl group.1)
    · exact le_of_lt later

theorem persist_group_appends (value : α → Option ν) (table : HistoryTable (AddressKey σ) ν) (group : B256 × List (σ × α))
    (sorted : group.2.Pairwise (fun left right => left.1 ≤ right.1)) :
    persistGroup value table group =
      (group.2.map (fun entry => ((toLex (group.1, entry.1) : AddressKey σ), value entry.2))).foldlM
        (fun table entry => appendDup table 0 entry) table := by
  simp only [persistGroup, sort_by_key_sorted group.2 sorted, persistHistoryBatch, if_true, inAddress, List.map_map, Function.comp_def]
  generalize List.foldlM (fun table entry => appendDup table 0 entry) table _ = appended
  cases appended with
  | error error => rfl
  | ok after => rfl

theorem persist_groups_append (value : α → Option ν) (groups : List (B256 × List (σ × α)))
    (sorted : ∀ group ∈ groups, group.2.Pairwise (fun left right => left.1 ≤ right.1)) (table : HistoryTable (AddressKey σ) ν) :
    groups.foldlM (persistGroup value) table =
      ((ungroup groups).map (fun entry => (entry.1, value entry.2))).foldlM (fun table entry => appendDup table 0 entry) table := by
  induction groups generalizing table with
  | nil => rfl
  | cons group rest ih =>
      rw [List.foldlM_cons, persist_group_appends value table group (sorted group List.mem_cons_self), ungroup, List.flatMap_cons, List.map_append,
        List.foldlM_append, List.map_map]
      apply congrArg
      funext between
      exact ih (fun other member => sorted other (List.mem_cons_of_mem group member)) between

-- In one commit, the groups of a batch are appended as the batch itself.
theorem bulk_appends (value : α → Option ν) (entries : List (AddressKey σ × α))
    (sorted : entries.Pairwise (fun earlier later => earlier.1 < later.1)) (table : HistoryTable (AddressKey σ) ν) :
    (sortByKey (groupByAddress entries)).foldlM (persistGroup value) table =
      (entries.map (fun entry => (entry.1, value entry.2))).foldlM (fun table entry => appendDup table 0 entry) table := by
  obtain ⟨flat, filled⟩ := group_by_address_tracks entries
  obtain ⟨ordered, inside⟩ := groups_sorted (groupByAddress entries) filled (by rw [flat]; exact sorted)
  rw [sort_by_key_sorted _ ordered, persist_groups_append value _ inside, flat]

theorem dup_cursor_next (table : Table (AddressKey σ) ν) (position : Option (AddressKey σ)) :
    dupCursorNext ⟨table, position⟩ = TableCursor.next ⟨table, position⟩ := by
  rw [dupCursorNext]
  cases dup : (TableCursor.mk table position).nextDup with
  | mk found after =>
      cases found with
      | some row => exact (TableCursor.next_of_dup table position row after dup).symm
      | none =>
          have noDup : (TableCursor.mk table position).nextDup.1 = none := by rw [dup]
          obtain rfl := TableCursor.moved_nowhere _ _ _ dup
          cases noDupNext : (TableCursor.mk table position).nextNoDup with
          | mk found after =>
              cases found with
              | some row =>
                  simp only [noDupNext]
                  exact TableCursor.seek_key_of_next_no_dup table position row after noDup noDupNext
              | none =>
                  obtain rfl := TableCursor.moved_nowhere _ _ _ noDupNext
                  simp only [noDupNext]
                  exact (TableCursor.next_none_of_dup table position noDup (by rw [noDupNext])).symm

end Groups

section Phases

variable {κ ν : Type} [LinearOrder κ]

-- A batch of the rows that follow what is stored ends up behind it, in one
-- commit.
def StoresBatches (access : HistoryAccess κ ν) (storeEntries : List (κ × ν) → InitJob Unit) : Prop :=
  ∀ (db : InitialStateDb) (done next : Table κ ν) (batch : List (κ × ν)) (kept : InitialStateDb → Prop), batch ≠ [] →
    access.read db.toProofsDb = initialHistory done → next.rows = done.rows ++ batch → kept db →
      Ends (storeEntries batch) db kept (fun _ after => after = db.write access (initialHistory next))

theorem batch_sorted (done next : Table κ ν) (batch : List (κ × ν)) (extended : next.rows = done.rows ++ batch) :
    batch.Pairwise (fun earlier later => earlier.1 < later.1) := by
  have ordered := next.sorted
  rw [extended, List.pairwise_append] at ordered
  exact ordered.2.1

theorem sorted_stores (access : HistoryAccess κ ν) :
    StoresBatches access (fun entries => storeSorted access (entries.map (fun entry => (entry.1, some entry.2)))) := by
  intro db done next batch kept filled held extended keeps
  have inOrder : (batch.map (fun entry => (entry.1, some entry.2))).Pairwise (fun left right => left.1 ≤ right.1) :=
    List.pairwise_map.mpr ((batch_sorted done next batch extended).imp le_of_lt)
  simp only [storeSorted, List.isEmpty_map, List.isEmpty_eq_false_iff.mpr filled, Bool.false_eq_true, if_false]
  apply ends_commit _ db (db.write access (initialHistory next)) kept _ _ keeps rfl
  rw [held, sort_by_key_sorted _ inOrder, persistHistoryBatch, if_pos rfl, append_batch_initial batch done next extended]
  rfl

theorem bulk_stores {σ ν α : Type} [LinearOrder σ] (access : HistoryAccess (AddressKey σ) ν) (value : α → Option ν)
    (itemsOf : List (AddressKey σ × ν) → List (AddressKey σ × α))
    (same : ∀ batch, (itemsOf batch).map (fun entry => (entry.1, value entry.2)) = batch.map (fun entry => (entry.1, some entry.2))) :
    StoresBatches access (fun entries => storeBulk access value (groupByAddress (itemsOf entries))) := by
  intro db done next batch kept _ held extended keeps
  have keys : (itemsOf batch).map Prod.fst = batch.map Prod.fst := by
    simpa [Function.comp_def] using congrArg (List.map Prod.fst) (same batch)
  have inOrder : (itemsOf batch).Pairwise (fun earlier later => earlier.1 < later.1) := by
    rw [← List.pairwise_map (f := Prod.fst) (R := fun earlier later => earlier < later), keys, List.pairwise_map]
    exact batch_sorted done next batch extended
  apply ends_commit _ db (db.write access (initialHistory next)) kept _ _ keeps rfl
  rw [held, bulk_appends value _ inOrder, same, append_batch_initial batch done next extended]
  rfl

-- The table of one phase holds a first part of its source.
def PartOf (access : HistoryAccess κ ν) (db : InitialStateDb) (source : Table κ ν) (state : InitialStateDb) : Prop :=
  ∃ done : Table κ ν, done.rows <+: source.rows ∧ state = db.write access (initialHistory done)

-- Inside the loop: what is stored, the open batch and the rows to come make up
-- the source.
def Consumed (access : HistoryAccess κ ν) (db : InitialStateDb) (source : Table κ ν) (items batch : List (κ × ν)) (state : InitialStateDb) : Prop :=
  ∃ done : Table κ ν, source.rows = done.rows ++ batch ++ items ∧ state = db.write access (initialHistory done)

theorem consumed_all (access : HistoryAccess κ ν) (db : InitialStateDb) (source : Table κ ν) (state : InitialStateDb)
    (consumed : Consumed access db source [] [] state) : state = db.write access (initialHistory source) := by
  obtain ⟨done, all, rfl⟩ := consumed
  rw [List.append_nil, List.append_nil] at all
  rw [Table.ext_rows source done all]

-- An iterator and a start that give the rows behind a key of the source.
structure ReadsOn (next : TableCursor κ ν → Option (κ × ν) × TableCursor κ ν)
    (seek : Table κ ν → Option κ → Except MorphProofsStorageError (TableCursor κ ν)) : Prop where
  steps : ∀ source position, next ⟨source, position⟩ = TableCursor.next ⟨source, position⟩
  first : ∀ source, seek source none = .ok ⟨source, none⟩
  found : ∀ source key value, source.get key = some value → seek source (some key) = .ok ⟨source, some key⟩

variable (access : HistoryAccess κ ν) (storeEntries : List (κ × ν) → InitJob Unit) (stores : StoresBatches access storeEntries) (db : InitialStateDb)
  (source : Table κ ν)

include stores

theorem batch_consumed (items batch : List (κ × ν)) (state : InitialStateDb) (filled : batch ≠ [])
    (consumed : Consumed access db source items batch state) :
    Ends (storeEntries batch) state (PartOf access db source) (fun _ after => Consumed access db source items [] after) := by
  obtain ⟨done, split, rfl⟩ := consumed
  have ordered := source.sorted
  rw [split, List.pairwise_append] at ordered
  have keeps : PartOf access db source (db.write access (initialHistory done)) := by
    refine ⟨done, ?_, rfl⟩
    rw [split, List.append_assoc]
    exact List.prefix_append _ _
  have stored := stores _ done ⟨done.rows ++ batch, ordered.1⟩ batch (PartOf access db source) filled (access.readWrite _ _) rfl keeps
  apply ends_imp _ _ _ _ _ _ stored (fun _ left => left)
  rintro _ state rfl
  exact ⟨⟨done.rows ++ batch, ordered.1⟩, by rw [List.append_nil]; exact split, db.write_write access _ _⟩

theorem push_entry_consumed (storageThreshold : Nat) (entry : κ × ν) (items batch : List (κ × ν)) (state : InitialStateDb)
    (consumed : Consumed access db source (entry :: items) batch state) :
    Ends (pushEntry storeEntries storageThreshold batch entry) state (PartOf access db source) (Consumed access db source items) := by
  have pushed : Consumed access db source items (batch ++ [entry]) state := by
    obtain ⟨done, split, reached⟩ := consumed
    exact ⟨done, by simpa using split, reached⟩
  by_cases full : storageThreshold ≤ (batch ++ [entry]).length
  · simp only [pushEntry, if_pos full]
    apply ends_bind _ _ _ _ _ _ (batch_consumed access storeEntries stores db source items (batch ++ [entry]) state (by simp) pushed)
    intro _ after stored
    exact ends_pure _ _ _ _ stored
  · simp only [pushEntry, if_neg full]
    exact ends_pure _ _ _ _ pushed

theorem entries_fill (done : Table κ ν) (rest : List (κ × ν)) (storageThreshold : Nat) (split : source.rows = done.rows ++ rest)
    (held : access.read db.toProofsDb = initialHistory done) :
    Ends (initializeEntries storeEntries rest storageThreshold) db (PartOf access db source)
      (fun _ after => after = db.write access (initialHistory source)) := by
  have begun : Consumed access db source rest [] db := ⟨done, by rw [List.append_nil]; exact split, by rw [← held, InitialStateDb.write_read]⟩
  by_cases nothing : rest = []
  · subst nothing
    exact ends_pure _ _ _ _ (consumed_all access db source db begun)
  · simp only [initializeEntries, List.isEmpty_eq_false_iff.mpr nothing, Bool.false_eq_true, if_false]
    apply ends_bind _ _ db _ (Consumed access db source [])
    · exact ends_fold _ _ (Consumed access db source) (push_entry_consumed access storeEntries stores db source storageThreshold) rest [] db begun
    · intro batch state consumed
      by_cases spent : batch = []
      · subst spent
        exact ends_pure _ _ _ _ (consumed_all access db source state consumed)
      · simp only [List.isEmpty_eq_false_iff.mpr spent, Bool.false_eq_true, if_false]
        apply ends_bind _ _ _ _ _ _ (batch_consumed access storeEntries stores db source [] batch state spent consumed)
        intro _ after stored
        exact ends_pure _ _ _ _ (consumed_all access db source after stored)

theorem table_fills (next : TableCursor κ ν → Option (κ × ν) × TableCursor κ ν)
    (seek : Table κ ν → Option κ → Except MorphProofsStorageError (TableCursor κ ν)) (reads : ReadsOn next seek) (done : Table κ ν)
    (part : done.rows <+: source.rows) (held : access.read db.toProofsDb = initialHistory done) :
    Ends (initializeTable next seek storeEntries source (latestKey (initialHistory done))) db (PartOf access db source)
      (fun _ after => after = db.write access (initialHistory source)) := by
  obtain ⟨rest, split⟩ := part
  have sought : seek source (latestKey (initialHistory done)) = .ok ⟨source, done.rows.getLast?.map Prod.fst⟩ := by
    rw [latest_key_initial]
    cases last : done.rows.getLast? with
    | none => exact reads.first source
    | some row =>
        have member : row ∈ source.rows := split ▸ List.mem_append_left rest (List.mem_of_getLast? last)
        exact reads.found source row.1 row.2 ((source.get_eq_some row.1 row.2).mpr member)
  have remaining := source.after_last done.rows rest split.symm
  have drained : drain next (source.rows.length + 1) ⟨source, done.rows.getLast?.map Prod.fst⟩ = rest := by
    rw [TableCursor.drain_after source next (reads.steps source), remaining]
    rw [remaining, ← split, List.length_append]
    omega
  apply ends_bind _ _ db _ (fun cursor state => cursor = ⟨source, done.rows.getLast?.map Prod.fst⟩ ∧ state = db)
  · exact ends_require _ _ db _ _ sought ⟨rfl, rfl⟩
  · rintro cursor state ⟨rfl, rfl⟩
    apply ends_bind _ _ _ _ (fun _ after => after = state.write access (initialHistory source))
    · rw [drained]
      exact entries_fill access storeEntries stores state source done rest _ split.symm held
    · rintro _ after rfl
      exact ends_pure _ _ _ _ rfl

end Phases

theorem simple_reads {κ ν : Type} [LinearOrder κ] :
    ReadsOn (TableCursor.next : TableCursor κ ν → Option (κ × ν) × TableCursor κ ν) seekStart where
  steps _ _ := rfl
  first _ := rfl
  found source key value present := by
    rw [seekStart, TableCursor.seek_present source none key value present]
    exact if_pos rfl

theorem dup_reads {σ ν : Type} [LinearOrder σ] :
    ReadsOn (dupCursorNext : TableCursor (AddressKey σ) ν → Option (AddressKey σ × ν) × TableCursor (AddressKey σ) ν) seekStartDup where
  steps := dup_cursor_next
  first _ := rfl
  found source key value present := by
    rw [seekStartDup, TableCursor.seek_by_key_subkey_present source none (ofLex key).1 (ofLex key).2 value present]
    exact if_pos rfl

theorem hashed_accounts_store : StoresBatches hashedAccountAccess HashedAccountsInit.storeEntries :=
  sorted_stores hashedAccountAccess

theorem hashed_storages_store : StoresBatches hashedStorageAccess HashedStoragesInit.storeEntries :=
  bulk_stores hashedStorageAccess some id (fun _ => rfl)

theorem storages_trie_store : StoresBatches storageTrieAccess PackedStoragesTrieInit.storeEntries :=
  bulk_stores storageTrieAccess id (fun batch => batch.map (fun entry : StorageTrieKey × BranchNodeCompact => (entry.1, some entry.2)))
    (fun batch => by simp)

theorem accounts_trie_store : StoresBatches accountTrieAccess PackedAccountsTrieInit.storeEntries :=
  sorted_stores accountTrieAccess

-- How far the four tables are filled.
structure Filling (source : SourceTables) where
  hashedAccounts : Table B256 Account
  hashedStorages : Table HashedStorageKey U256
  storagesTrie : Table StorageTrieKey BranchNodeCompact
  accountsTrie : Table Nibbles BranchNodeCompact
  accountsPart : hashedAccounts.rows <+: source.hashedAccounts.rows
  storagesPart : hashedStorages.rows <+: source.hashedStorages.rows
  storagesTriePart : storagesTrie.rows <+: source.packedStoragesTrie.rows
  accountsTriePart : accountsTrie.rows <+: source.packedAccountsTrie.rows

namespace Filling

variable {source : SourceTables}

def none (source : SourceTables) : Filling source where
  hashedAccounts := Table.empty
  hashedStorages := Table.empty
  storagesTrie := Table.empty
  accountsTrie := Table.empty
  accountsPart := List.nil_prefix
  storagesPart := List.nil_prefix
  storagesTriePart := List.nil_prefix
  accountsTriePart := List.nil_prefix

def full (source : SourceTables) : Filling source where
  hashedAccounts := source.hashedAccounts
  hashedStorages := source.hashedStorages
  storagesTrie := source.packedStoragesTrie
  accountsTrie := source.packedAccountsTrie
  accountsPart := List.prefix_rfl
  storagesPart := List.prefix_rfl
  storagesTriePart := List.prefix_rfl
  accountsTriePart := List.prefix_rfl

-- The store with that much of the source, for an anchor and not yet completed.
def stored (filling : Filling source) (start : InitialStateDb) (anchor : NumHash) : InitialStateDb :=
  { start with
    hashedAccountHistory := initialHistory filling.hashedAccounts
    hashedStorageHistory := initialHistory filling.hashedStorages
    storageTrieHistory := initialHistory filling.storagesTrie
    accountTrieHistory := initialHistory filling.accountsTrie
    anchorBlock := some anchor }

end Filling

-- The resume keys are the last ones of what is stored.
structure PointsAt {source : SourceTables} (anchor : InitialStateAnchor) (filling : Filling source) : Prop where
  hashedAccount : anchor.latestHashedAccountKey = latestKey (initialHistory filling.hashedAccounts)
  hashedStorage : anchor.latestHashedStorageKey = latestKey (initialHistory filling.hashedStorages)
  storageTrie : anchor.latestStorageTrieKey = latestKey (initialHistory filling.storagesTrie)
  accountTrie : anchor.latestAccountTrieKey = latestKey (initialHistory filling.accountsTrie)

-- The store of an initialization that was never begun.
structure Fresh (db : InitialStateDb) : Prop where
  accountTrie : db.accountTrieHistory = Table.empty
  storageTrie : db.storageTrieHistory = Table.empty
  hashedAccount : db.hashedAccountHistory = Table.empty
  hashedStorage : db.hashedStorageHistory = Table.empty
  anchor : db.anchorBlock = none
  earliest : db.earliestBlock = none

-- Exactly the source rows at version 0, and the window open at the anchor.
structure Initialized (source : SourceTables) (anchor : NumHash) (db : InitialStateDb) : Prop where
  hashedAccounts : db.hashedAccountHistory = initialHistory source.hashedAccounts
  hashedStorages : db.hashedStorageHistory = initialHistory source.hashedStorages
  storagesTrie : db.storageTrieHistory = initialHistory source.packedStoragesTrie
  accountsTrie : db.accountTrieHistory = initialHistory source.packedAccountsTrie
  earliest : db.earliestBlock = some anchor

section Runs

variable (source : SourceTables) (best : NumHash) (start : InitialStateDb)

def Partly (db : InitialStateDb) : Prop :=
  ∃ filling : Filling source, db = filling.stored start best

theorem phase_fills {κ ν : Type} [LinearOrder κ] (access : HistoryAccess κ ν) (storeEntries : List (κ × ν) → InitJob Unit)
    (stores : StoresBatches access storeEntries) (next : TableCursor κ ν → Option (κ × ν) × TableCursor κ ν)
    (seek : Table κ ν → Option κ → Except MorphProofsStorageError (TableCursor κ ν)) (reads : ReadsOn next seek) (table done : Table κ ν)
    (part : done.rows <+: table.rows) (db : InitialStateDb) (held : access.read db.toProofsDb = initialHistory done)
    (partly : ∀ some : Table κ ν, some.rows <+: table.rows → Partly source best start (db.write access (initialHistory some))) :
    Ends (initializeTable next seek storeEntries table (latestKey (initialHistory done))) db (Partly source best start)
      (fun _ state => state = db.write access (initialHistory table)) := by
  apply ends_imp _ _ _ _ _ _ (table_fills access storeEntries stores db table next seek reads done part held) _ (fun _ _ reached => reached)
  rintro state ⟨some, somePart, rfl⟩
  exact partly some somePart

-- Each phase starts behind the last row of its own table, which the phases
-- before it left alone.
theorem trie_fills (filling : Filling source) (anchor : InitialStateAnchor) (points : PointsAt anchor filling) :
    Ends (source.initializeTrie anchor) (filling.stored start best) (Partly source best start)
      (fun _ state => state = (Filling.full source).stored start best) := by
  let accounts : Filling source := { filling with hashedAccounts := source.hashedAccounts, accountsPart := List.prefix_rfl }
  let slots : Filling source := { accounts with hashedStorages := source.hashedStorages, storagesPart := List.prefix_rfl }
  let nodes : Filling source := { slots with storagesTrie := source.packedStoragesTrie, storagesTriePart := List.prefix_rfl }
  rw [SourceTables.initializeTrie, points.hashedAccount, points.hashedStorage, points.storageTrie, points.accountTrie]
  apply ends_bind _ _ _ _ (fun _ state => state = accounts.stored start best)
  · exact phase_fills source best start hashedAccountAccess HashedAccountsInit.storeEntries hashed_accounts_store TableCursor.next seekStart
      simple_reads source.hashedAccounts filling.hashedAccounts filling.accountsPart (filling.stored start best) rfl
      (fun done part => ⟨{ filling with hashedAccounts := done, accountsPart := part }, rfl⟩)
  rintro _ _ rfl
  apply ends_bind _ _ _ _ (fun _ state => state = slots.stored start best)
  · exact phase_fills source best start hashedStorageAccess HashedStoragesInit.storeEntries hashed_storages_store dupCursorNext seekStartDup
      dup_reads source.hashedStorages filling.hashedStorages filling.storagesPart (accounts.stored start best) rfl
      (fun done part => ⟨{ accounts with hashedStorages := done, storagesPart := part }, rfl⟩)
  rintro _ _ rfl
  apply ends_bind _ _ _ _ (fun _ state => state = nodes.stored start best)
  · exact phase_fills source best start storageTrieAccess PackedStoragesTrieInit.storeEntries storages_trie_store dupCursorNext seekStartDup
      dup_reads source.packedStoragesTrie filling.storagesTrie filling.storagesTriePart (slots.stored start best) rfl
      (fun done part => ⟨{ slots with storagesTrie := done, storagesTriePart := part }, rfl⟩)
  rintro _ _ rfl
  exact phase_fills source best start accountTrieAccess PackedAccountsTrieInit.storeEntries accounts_trie_store TableCursor.next seekStart
    simple_reads source.packedAccountsTrie filling.accountsTrie filling.accountsTriePart (nodes.stored start best) rfl
    (fun done part => ⟨{ nodes with accountsTrie := done, accountsTriePart := part }, rfl⟩)

theorem anchor_stored (filling : Filling source) (fresh : Fresh start) :
    (filling.stored start best).initialStateAnchor =
      ⟨some best, .inProgress, latestKey (initialHistory filling.accountsTrie), latestKey (initialHistory filling.storagesTrie),
        latestKey (initialHistory filling.hashedAccounts), latestKey (initialHistory filling.hashedStorages)⟩ := by
  simp [InitialStateDb.initialStateAnchor, Filling.stored, fresh.earliest]

theorem commit_opens (db : InitialStateDb) (kept : InitialStateDb → Prop) (anchored : db.anchorBlock = some best) (keeps : kept db) :
    Ends commitInitialState db kept (fun _ state => state = { db with earliestBlock := some best }) := by
  apply ends_bind _ _ db kept (fun anchor state => anchor = some best ∧ state = db)
  · exact ends_committed _ db kept _ ⟨anchored, rfl⟩
  · rintro _ state ⟨rfl, rfl⟩
    apply ends_bind _ _ state kept (fun _ after => after = { state with earliestBlock := some best })
    · exact ends_commit _ state _ kept _ rfl keeps rfl
    · rintro _ _ rfl
      exact ends_pure _ _ _ _ rfl

theorem started_empty (fresh : Fresh start) : { start with anchorBlock := some best } = (Filling.none source).stored start best := by
  obtain ⟨⟨accountTrie, storageTrie, hashedAccount, hashedStorage, changeSets, earliest, latest⟩, anchor⟩ := start
  obtain ⟨rfl, rfl, rfl, rfl, _, _⟩ := fresh
  rfl

def completed : InitialStateDb :=
  { (Filling.full source).stored start best with earliestBlock := some best }

theorem completed_initialized : Initialized source best (completed source best start) :=
  ⟨rfl, rfl, rfl, rfl, rfl⟩

def Resumable (db : InitialStateDb) : Prop :=
  db = start ∨ Partly source best start db

-- Past the anchor a run is the same, whether it was set now or long ago.
theorem anchored_completes (filling : Filling source) (anchor : InitialStateAnchor) (points : PointsAt anchor filling) :
    Ends (do source.initializeTrie anchor; let _ ← commitInitialState; pure ()) (filling.stored start best) (Resumable source best start)
      (fun _ state => state = completed source best start) := by
  apply ends_bind _ _ _ _ (fun _ state => state = (Filling.full source).stored start best)
  · exact ends_imp _ _ _ _ _ _ (trie_fills source best start filling anchor points) (fun _ => .inr)
      (fun _ _ reached => reached)
  · rintro _ _ rfl
    apply ends_bind _ _ _ _ _ _ (commit_opens best _ (Resumable source best start) rfl (.inr ⟨Filling.full source, rfl⟩))
    rintro _ _ rfl
    exact ends_pure _ _ _ _ rfl

theorem run_resumes (fresh : Fresh start) (db : InitialStateDb) (resumable : Resumable source best start db) :
    Ends (source.run best) db (Resumable source best start) (fun _ state => state = completed source best start) := by
  apply ends_bind _ _ db _ (fun anchor state => anchor = db.initialStateAnchor ∧ state = db)
  · exact ends_committed _ db _ _ ⟨rfl, rfl⟩
  rintro _ state ⟨rfl, rfl⟩
  cases resumable with
  | inl untouched =>
      subst untouched
      have anchor : state.initialStateAnchor = ⟨none, .notStarted, none, none, none, none⟩ := by
        rw [InitialStateDb.initialStateAnchor, fresh.anchor]
      rw [anchor, if_neg (by simp)]
      apply ends_bind _ _ state _ (fun _ after => after = (Filling.none source).stored state best)
      · simp only [SourceTables.prepare, setInitialStateAnchor]
        apply ends_commit _ state _ _ _ _ (.inl rfl) (started_empty source best state fresh)
        rw [fresh.anchor]
        rfl
      · rintro _ _ rfl
        exact anchored_completes source best state (Filling.none source) _ ⟨rfl, rfl, rfl, rfl⟩
  | inr partly =>
      obtain ⟨filling, rfl⟩ := partly
      rw [anchor_stored source best start filling fresh, if_neg (by simp)]
      apply ends_bind _ _ _ _ (fun _ after => after = filling.stored start best)
      · simp only [SourceTables.prepare]
        apply ends_require _ () (filling.stored start best) _ _ _ rfl
        simp [SourceTables.validateAnchorBlock]
      · rintro _ _ rfl
        exact anchored_completes source best start filling _ ⟨rfl, rfl, rfl, rfl⟩

-- A run for another block than the one the store is anchored at.
theorem run_refuses (fresh : Fresh start) (filling : Filling source) (other : NumHash) (different : other ≠ best) (limit : Option Nat) :
    source.run other ⟨filling.stored start best, limit⟩ =
      .error (.failed .initializeStorageInconsistentState) ⟨filling.stored start best, limit⟩ := by
  have mismatch : best.number ≠ other.number ∨ best.hash ≠ other.hash := by
    by_contra both
    rw [not_or, not_not, not_not] at both
    apply different
    obtain ⟨number, hash⟩ := other
    obtain ⟨rfl, rfl⟩ : best.number = number ∧ best.hash = hash := both
    rfl
  have rejected : SourceTables.validateAnchorBlock (filling.stored start best).initialStateAnchor other =
      .error .initializeStorageInconsistentState := by
    rw [anchor_stored source best start filling fresh]
    exact if_pos mismatch
  have underWay : (filling.stored start best).initialStateAnchor.status = .inProgress := by rw [anchor_stored source best start filling fresh]
  simp [SourceTables.run, SourceTables.prepare, committed, require, bind, EStateM.bind, underWay, rejected]

-- A run that is stopped after any number of commits, even before the first. The
-- anchor is the first, so a store that moved at all has one.
def Interrupted (before after : InitialStateDb) : Prop :=
  ∃ commits left, source.run best ⟨before, some commits⟩ = .error .stopped ⟨after, left⟩

theorem interrupted_resumable (fresh : Fresh start) (store : InitialStateDb)
    (interrupted : Relation.ReflTransGen (Interrupted source best) start store) : Resumable source best start store := by
  induction interrupted with
  | refl => exact .inl rfl
  | tail _ stopped before =>
      obtain ⟨commits, left, ran⟩ := stopped
      exact ends_stopped _ _ _ _ (run_resumes source best start fresh _ before) _ _ ran

-- What the runs after any number of interrupted ones do.
structure ResumesExactly (store : InitialStateDb) : Prop where
  completes : ∃ final, source.run best ⟨store, none⟩ = .ok () final
  complete : ∀ limit final, source.run best ⟨store, limit⟩ = .ok () final → Initialized source best final.committed
  refuses : store ≠ start → ∀ other limit, other ≠ best →
    source.run other ⟨store, limit⟩ = .error (.failed .initializeStorageInconsistentState) ⟨store, limit⟩

theorem interrupted_initialization_resumes (fresh : Fresh start) (store : InitialStateDb)
    (interrupted : Relation.ReflTransGen (Interrupted source best) start store) : ResumesExactly source best start store := by
  have resumable := interrupted_resumable source best start fresh store interrupted
  have ends := run_resumes source best start fresh store resumable
  refine ⟨?_, ?_, ?_⟩
  · obtain ⟨_, final, ran, _⟩ := ends_unlimited _ _ _ _ ends
    exact ⟨final, ran⟩
  · intro limit final ran
    rw [ends_ok _ _ _ _ ends limit () final ran]
    exact completed_initialized source best start
  · intro moved other limit different
    obtain ⟨filling, rfl⟩ := resumable.resolve_left moved
    exact run_refuses source best start fresh filling other different limit

end Runs

def leftBy (source : SourceTables) (best : NumHash) (commits : Nat) (db : InitialStateDb) : InitialStateDb :=
  match source.run best ⟨db, some commits⟩ with
  | .ok _ final => final.committed
  | .error _ final => final.committed

def sampleSource : SourceTables where
  hashedAccounts := (Table.empty.put 1 ⟨0, 10, none⟩).put 2 ⟨1, 20, none⟩
  hashedStorages := ((Table.empty.put (toLex (1, 1)) 5).put (toLex (1, 2)) 6).put (toLex (2, 1)) 7
  packedAccountsTrie := Table.empty.put [1] ⟨3, 0, 0, [], none⟩
  packedStoragesTrie := (Table.empty.put (toLex (1, [])) ⟨3, 0, 0, [], none⟩).put (toLex (2, [4])) ⟨5, 0, 0, [], none⟩

def newStore : InitialStateDb where
  accountTrieHistory := Table.empty
  storageTrieHistory := Table.empty
  hashedAccountHistory := Table.empty
  hashedStorageHistory := Table.empty
  blockChangeSet := Table.empty
  earliestBlock := none
  latestBlock := none
  anchorBlock := none

-- Stopped behind the accounts, and once more behind the slots.
def sampleStopped : InitialStateDb :=
  leftBy sampleSource ⟨8, 9⟩ 1 (leftBy sampleSource ⟨8, 9⟩ 2 newStore)

theorem interrupted_initialization_resumes_sample :
    Fresh newStore ∧ Relation.ReflTransGen (Interrupted sampleSource ⟨8, 9⟩) newStore sampleStopped ∧ sampleStopped ≠ newStore ∧
      ResumesExactly sampleSource ⟨8, 9⟩ newStore sampleStopped := by
  have fresh : Fresh newStore := ⟨rfl, rfl, rfl, rfl, rfl, rfl⟩
  have first : Interrupted sampleSource ⟨8, 9⟩ newStore (leftBy sampleSource ⟨8, 9⟩ 2 newStore) := ⟨2, some 0, by rfl⟩
  have second : Interrupted sampleSource ⟨8, 9⟩ (leftBy sampleSource ⟨8, 9⟩ 2 newStore) sampleStopped := ⟨1, some 0, by rfl⟩
  have interrupted := (Relation.ReflTransGen.single first).tail second
  have moved : sampleStopped ≠ newStore := fun same => Option.some_ne_none _ (congrArg InitialStateDb.anchorBlock same)
  exact ⟨fresh, interrupted, moved, interrupted_initialization_resumes sampleSource ⟨8, 9⟩ newStore fresh sampleStopped interrupted⟩

end MorphReth.Proofs
