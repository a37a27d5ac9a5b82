import MorphReth.Proofs.History
import MorphReth.Proofs.Deletes
import MorphReth.VersionedTable

set_option autoImplicit false

namespace MorphReth.Proofs

open ProofsDb

section Named

variable {κ : Type}

-- The change set of a block names a key.
def Named (changeSets : Table Nat ChangeSet) (keysOf : ChangeSet → List κ) (version : Nat) (key : κ) : Prop :=
  ∃ changeSet, changeSets.get version = some changeSet ∧ key ∈ keysOf changeSet

variable (changeSets : Table Nat ChangeSet)

theorem named_put_same (keysOf : ChangeSet → List κ) (block : Nat) (changeSet : ChangeSet) (key : κ) :
    Named (changeSets.put block changeSet) keysOf block key ↔ key ∈ keysOf changeSet := by
  rw [Named, Table.get_put, if_pos rfl]
  exact ⟨fun ⟨_, same, member⟩ => Option.some.inj same ▸ member, fun member => ⟨changeSet, rfl, member⟩⟩

theorem named_put_other (keysOf : ChangeSet → List κ) (block : Nat) (changeSet : ChangeSet) (version : Nat) (key : κ)
    (apart : version ≠ block) : Named (changeSets.put block changeSet) keysOf version key ↔ Named changeSets keysOf version key := by
  rw [Named, Table.get_put, if_neg apart]
  rfl

theorem named_deleted (keysOf : ChangeSet → List κ) (inRange : Nat → Bool) (version : Nat) (key : κ) :
    Named (deleteChangeSets changeSets inRange) keysOf version key ↔ inRange version = false ∧ Named changeSets keysOf version key := by
  rw [Named, get_delete_change_sets]
  by_cases chosen : inRange version = true
  · rw [if_pos chosen]
    exact ⟨fun ⟨_, absent, _⟩ => (by cases absent), fun both => absurd both.1 (by rw [chosen]; decide)⟩
  · rw [if_neg chosen]
    exact ⟨fun named => ⟨Bool.eq_false_iff.mpr chosen, named⟩, fun both => both.2⟩

end Named

-- The database keeps a history: its window is the history's, change sets
-- exist for the blocks above the earliest, and each table records the states.
structure Refines (db : ProofsDb) (history : History) : Prop where
  earliest : db.earliestBlock = some history.earliest
  latest : db.latestBlockNumberHash = some history.latest
  anchored : history.anchor ≤ history.earliest.number
  window : history.earliest.number ≤ history.latest.number
  length : history.latest.number = history.anchor + history.stored.length
  changeSets : ∀ number, (db.blockChangeSet.get number).isSome ↔ history.earliest.number < number ∧ number ≤ history.latest.number
  accountTrie : Recorded (fun _ => true) db.accountTrieHistory (Named db.blockChangeSet ChangeSet.accountTrieKeys) history.earliest.number
    history.latest.number (fun block => (history.stateAt block).accountTrie)
  storageTrie : Recorded (fun _ => true) db.storageTrieHistory (Named db.blockChangeSet ChangeSet.storageTrieKeys) history.earliest.number
    history.latest.number (fun block => (history.stateAt block).storageTrie)
  hashedAccounts : Recorded (fun _ => true) db.hashedAccountHistory (Named db.blockChangeSet ChangeSet.hashedAccountKeys)
    history.earliest.number history.latest.number (fun block => (history.stateAt block).hashedAccounts)
  hashedStorage : Recorded nonzero db.hashedStorageHistory (Named db.blockChangeSet ChangeSet.hashedStorageKeys) history.earliest.number
    history.latest.number (fun block => (history.stateAt block).hashedStorage)

section Window

variable (db : ProofsDb) (history : History) (refines : Refines db history)

include refines

theorem refined_window : db.proofWindow = some ⟨history.earliest, history.latest⟩ := by
  have latest := refines.latest
  rw [latestBlockNumberHash, refines.earliest] at latest
  rw [proofWindow, refines.earliest, Option.map_some]
  cases stored : db.latestBlock with
  | none =>
      rw [stored, Option.none_or] at latest
      rw [Option.getD_none, Option.some.inj latest]
  | some block =>
      rw [stored, Option.some_or] at latest
      rw [Option.getD_some, Option.some.inj latest]

end Window

section States

variable (history : History)

theorem state_after_append (block : BlockWithParent × BlockStateDiff) (latest : NumHash) (number : Nat)
    (within : number ≤ history.anchor + history.stored.length) :
    History.stateAt { history with stored := history.stored ++ [block], latest := latest } number = history.stateAt number := by
  rw [History.stateAt, History.stateAt, List.take_append_of_le_length (by dsimp only; omega)]

theorem state_of_append (block : BlockWithParent × BlockStateDiff) (latest : NumHash) :
    History.stateAt { history with stored := history.stored ++ [block], latest := latest } (history.anchor + history.stored.length + 1) =
      (history.stateAt (history.anchor + history.stored.length)).applyDiff block.2 := by
  rw [History.stateAt, History.stateAt, List.take_of_length_le (by simp; omega), List.take_of_length_le (by omega), List.map_append,
    List.foldl_append]
  rfl

theorem state_after_cut (last : NumHash) (number : Nat) (within : number ≤ last.number) :
    (history.cut last).stateAt number = history.stateAt number := by
  rw [History.stateAt, History.stateAt, History.cut, List.take_take, Nat.min_eq_left (by dsimp only; omega)]

end States

section Appends

variable {κ σ ν : Type} [LinearOrder κ] [LinearOrder σ] (earliest latest : Nat) (changeSets : Table Nat ChangeSet)

theorem filter_visible (value : Option ν) : value.filter (fun _ => true) = value := by
  cases value <;> rfl

-- A batch of one block appended to a table without addresses.
theorem batch_recorded (table : HistoryTable κ ν) (keysOf : ChangeSet → List κ) (state stateAfter : Nat → κ → Option ν)
    (recorded : Recorded (fun _ => true) table (Named changeSets keysOf) earliest latest state) (items : Table κ (Option ν))
    (older : ∀ block, block ≤ latest → stateAfter block = state block)
    (newest : ∀ key, stateAfter (latest + 1) key = (items.get key).getD (state latest key)) (window : earliest ≤ latest) :
    ∃ after, persistHistoryBatch table (latest + 1) items.rows true = .ok (after, items.rows.map Prod.fst) ∧
      ∀ changeSet, keysOf changeSet = items.rows.map Prod.fst →
        Recorded (fun _ => true) after (Named (changeSets.put (latest + 1) changeSet) keysOf) earliest (latest + 1) stateAfter := by
  obtain ⟨after, persisted, versions⟩ := persist_appends table (latest + 1) items
    (fun key version stored => Nat.lt_succ_of_le (recorded.bounded key version stored))
  refine ⟨after, persisted, fun changeSet keys => recorded_append _ table after _ _ earliest latest state stateAfter recorded items.get versions
    (fun key => ?_) (fun version key apart => named_put_other changeSets keysOf _ changeSet version key apart)
    (fun block key within => congrFun (older block within) key) (fun key => ?_) window⟩
  · rw [named_put_same, keys]
    exact (lookup_is_some items.rows key).symm
  · rw [newest]
    cases items.get key with
    | none => rfl
    | some value => exact (filter_visible value).symm

-- The addresses of one block appended to a table below addresses.
theorem addresses_recorded (visible : ν → Bool) (liveEntries : HistoryTable (AddressKey σ) ν → Nat → B256 → List (σ × ν))
    (reads : ReadsLive visible liveEntries) (table : HistoryTable (AddressKey σ) ν) (keysOf : ChangeSet → List (AddressKey σ))
    (state stateAfter : Nat → AddressKey σ → Option ν) (recorded : Recorded visible table (Named changeSets keysOf) earliest latest state)
    (updates : List (AddressUpdate σ ν)) (distinct : (updates.map AddressUpdate.hashedAddress).Nodup)
    (entries : ∀ update ∈ updates, (update.entries.map Prod.fst).Nodup) (older : ∀ block, block ≤ latest → stateAfter block = state block)
    (newest : ∀ key, stateAfter (latest + 1) key =
      (addressWrites (state latest) updates key).elim (state latest key) (fun value => value.filter visible)) (window : earliest ≤ latest) :
    ∃ after keys, storeAddresses liveEntries table (latest + 1) updates true = .ok (after, keys) ∧
      ∀ changeSet, keysOf changeSet = keys →
        Recorded visible after (Named (changeSets.put (latest + 1) changeSet) keysOf) earliest (latest + 1) stateAfter := by
  obtain ⟨after, keys, stored, versions, listed⟩ := store_addresses_append visible liveEntries reads latest table recorded.bounded updates distinct
    entries (table, []) (fun _ _ _ => rfl)
  have current : (fun key => live visible (table.versions key) latest) = state latest :=
    funext fun key => recorded.view latest key window (Nat.le_refl latest)
  rw [current] at versions listed
  refine ⟨after, keys, stored, fun changeSet named => recorded_append visible table after _ _ earliest latest state stateAfter recorded
    (addressWrites (state latest) updates) (fun key version => ?_) (fun key => ?_)
    (fun version key apart => named_put_other changeSets keysOf _ changeSet version key apart)
    (fun block key within => congrFun (older block within) key) newest window⟩
  · rw [versions]
    by_cases top : version = latest + 1
    · have nothing : table.versions key version = none := by
        rw [← Option.not_isSome_iff_eq_none]
        intro present
        have := recorded.bounded key version present
        omega
      rw [if_pos top, if_pos top]
      exact (congrArg _ nothing).trans (Option.or_none)
    · rw [if_neg top, if_neg top]
  · rw [named_put_same, named, listed]

end Appends

section Blocks

theorem live_storage_nodes : ReadsLive (fun _ => true) liveStorageNodes := by
  intro table block address
  have lists := lists_all _ _ _ (fun path => le_of_not_gt (fun less => (by cases less))) (drain_storage_trie table block address)
  refine cast ?_ lists
  congr
  funext path
  exact (filter_visible _).symm

theorem live_storage_slots : ReadsLive nonzero liveStorageSlots :=
  fun table block address => lists_all _ _ _ (fun slot => Nat.zero_le slot.toNat) (drain_hashed_storage table block address)

variable {σ ν α : Type} [LinearOrder σ]

theorem address_writes_of_table (view : AddressKey σ → Option ν) (table : Table B256 α) (make : B256 × α → AddressUpdate σ ν)
    (address : ∀ row, (make row).hashedAddress = row.1) (key : AddressKey σ) :
    addressWrites view (table.rows.map make) key =
      (table.get (ofLex key).1).bind (fun value =>
        updateWrites (fun sub => view (toLex ((ofLex key).1, sub))) (make ((ofLex key).1, value)) (ofLex key).2) := by
  rw [addressWrites, List.find?_map, Table.get]
  simp only [Function.comp_def, address]
  cases found : table.rows.find? (fun row => decide (row.1 = (ofLex key).1)) with
  | none => rfl
  | some row =>
      have same : row.1 = (ofLex key).1 := by simpa using List.find?_some found
      simp only [Option.map_some, Option.bind_some, ← same]

theorem storage_trie_newest (state : ProofState) (diff : BlockStateDiff) (key : StorageTrieKey) :
    (state.applyDiff diff).storageTrie key =
      (addressWrites state.storageTrie diff.storageTrieUpdates key).elim (state.storageTrie key) (fun value => value.filter (fun _ => true)) := by
  rw [BlockStateDiff.storageTrieUpdates, address_writes_of_table _ _ _ (fun _ => rfl), ProofState.applyDiff]
  dsimp only
  cases diff.storageTries.get (ofLex key).1 with
  | none => rfl
  | some updates =>
      rw [Option.bind_some, updateWrites]
      change (updates.storageNodes.get _).getD _ = ((updates.storageNodes.get _).or _).elim _ _
      cases updates.storageNodes.get (ofLex key).2 with
      | some value => exact (filter_visible value).symm
      | none =>
          rw [Option.none_or, Option.getD_none]
          dsimp only
          split
          · change none = ((state.storageTrie key).map _).elim (state.storageTrie key) _
            cases state.storageTrie key with
            | none => rfl
            | some node => rfl
          · rfl

theorem hashed_storage_newest (state : ProofState) (diff : BlockStateDiff) (key : HashedStorageKey) :
    (state.applyDiff diff).hashedStorage key =
      (addressWrites state.hashedStorage diff.hashedStorageUpdates key).elim (state.hashedStorage key) (fun value => value.filter nonzero) := by
  rw [BlockStateDiff.hashedStorageUpdates, address_writes_of_table _ _ _ (fun _ => rfl), ProofState.applyDiff]
  dsimp only
  cases diff.storages.get (ofLex key).1 with
  | none => rfl
  | some storage =>
      have slots : lookup (storage.storageSlots.rows.map (fun slot => (slot.1, some slot.2))) (ofLex key).2 =
          (storage.storageSlots.get (ofLex key).2).map some := by
        rw [lookup, List.find?_map, Option.map_map, Table.get, Option.map_map]
        rfl
      rw [Option.bind_some, updateWrites, slots]
      dsimp only
      cases storage.storageSlots.get (ofLex key).2 with
      | some value =>
          rw [Option.elim_some, Option.map_some, Option.some_or, Option.elim_some]
          by_cases zero : value = 0
          · rw [if_pos zero, zero]
            rfl
          · rw [if_neg zero, Option.filter_some_pos (by simpa [nonzero] using zero)]
      | none =>
          rw [Option.elim_none, Option.map_none, Option.none_or]
          split
          · change none = ((state.hashedStorage key).map _).elim (state.hashedStorage key) _
            cases state.hashedStorage key with
            | none => rfl
            | some value => rfl
          · rfl

end Blocks

end MorphReth.Proofs
