import MorphReth.Proofs.Refinement
import Mathlib.Data.List.TakeWhile

set_option autoImplicit false

namespace MorphReth.Proofs

open ProofsDb

section Append

variable (db : ProofsDb) (history : History) (refines : Refines db history) (block : BlockWithParent × BlockStateDiff)

def History.appended (history : History) (block : BlockWithParent × BlockStateDiff) : History :=
  { history with stored := history.stored ++ [block], latest := block.1.block }

theorem update_addresses {α σ ν : Type} (table : Table B256 α) (make : B256 × α → AddressUpdate σ ν)
    (address : ∀ row, (make row).hashedAddress = row.1) : ((table.rows.map make).map AddressUpdate.hashedAddress).Nodup := by
  have same : (table.rows.map make).map AddressUpdate.hashedAddress = table.rows.map Prod.fst := by
    simp [Function.comp_def, address]
  rw [same]
  exact table_keys_distinct table

theorem storage_trie_entries (diff : BlockStateDiff) : ∀ update ∈ diff.storageTrieUpdates, (update.entries.map Prod.fst).Nodup := by
  intro update member
  obtain ⟨row, _, rfl⟩ := List.mem_map.mp member
  exact table_keys_distinct row.2.storageNodes

theorem hashed_storage_entries (diff : BlockStateDiff) : ∀ update ∈ diff.hashedStorageUpdates, (update.entries.map Prod.fst).Nodup := by
  intro update member
  obtain ⟨row, _, rfl⟩ := List.mem_map.mp member
  have same : (row.2.storageSlots.rows.map (fun slot => (slot.1, some slot.2))).map Prod.fst = row.2.storageSlots.rows.map Prod.fst := by
    simp [Function.comp_def]
  rw [same]
  exact table_keys_distinct row.2.storageSlots

include refines

theorem appended_older (number : Nat) (within : number ≤ history.latest.number) :
    (history.appended block).stateAt number = history.stateAt number :=
  state_after_append history block block.1.block number (by rw [← refines.length]; exact within)

theorem appended_newest :
    (history.appended block).stateAt (history.latest.number + 1) = (history.stateAt history.latest.number).applyDiff block.2 := by
  rw [refines.length]
  exact state_of_append history block block.1.block

theorem change_sets_accept (changeSet : ChangeSet) :
    appendChangeSet db.blockChangeSet (history.latest.number + 1) changeSet =
      .ok (db.blockChangeSet.put (history.latest.number + 1) changeSet) := by
  have below : db.blockChangeSet.rows.all (fun row => decide (row.1 < history.latest.number + 1)) = true := by
    rw [List.all_eq_true]
    intro row member
    have stored : (db.blockChangeSet.get row.1).isSome := by simp [(db.blockChangeSet.get_eq_some row.1 row.2).mpr member]
    have within := ((refines.changeSets row.1).mp stored).2
    exact decide_eq_true (by omega)
  rw [appendChangeSet, if_pos below]

-- Storing a child of the latest block succeeds and extends the history by it.
theorem append_refines (child : history.latest.hash = block.1.parent) (numbered : block.1.block.number = history.latest.number + 1) :
    ∃ after counts, db.storeTrieUpdatesAppendOnly block.1 block.2 = .ok (after, counts) ∧ Refines after (history.appended block) := by
  have older := fun number within => appended_older db history refines block number within
  have newest := appended_newest db history refines block
  obtain ⟨accountTrie, accountTrieStored, accountTrieAfter⟩ := batch_recorded history.earliest.number history.latest.number db.blockChangeSet _ _ _
    (fun number => ((history.appended block).stateAt number).accountTrie) refines.accountTrie block.2.accountNodes
    (fun number within => by rw [older number within]) (fun key => by rw [newest]; rfl) refines.window
  obtain ⟨hashedAccount, hashedAccountStored, hashedAccountAfter⟩ := batch_recorded history.earliest.number history.latest.number
    db.blockChangeSet _ _ _ (fun number => ((history.appended block).stateAt number).hashedAccounts) refines.hashedAccounts block.2.accounts
    (fun number within => by rw [older number within]) (fun key => by rw [newest]; rfl) refines.window
  obtain ⟨storageTrie, storageTrieKeys, storageTrieStored, storageTrieAfter⟩ := addresses_recorded history.earliest.number history.latest.number
    db.blockChangeSet _ _ live_storage_nodes _ _ _ (fun number => ((history.appended block).stateAt number).storageTrie) refines.storageTrie
    block.2.storageTrieUpdates (update_addresses _ _ (fun _ => rfl)) (storage_trie_entries block.2)
    (fun number within => by rw [older number within]) (fun key => by rw [newest]; exact storage_trie_newest _ _ key) refines.window
  obtain ⟨hashedStorage, hashedStorageKeys, hashedStorageStored, hashedStorageAfter⟩ := addresses_recorded history.earliest.number
    history.latest.number db.blockChangeSet _ _ live_storage_slots _ _ _ (fun number => ((history.appended block).stateAt number).hashedStorage)
    refines.hashedStorage block.2.hashedStorageUpdates (update_addresses _ _ (fun _ => rfl)) (hashed_storage_entries block.2)
    (fun number within => by rw [older number within]) (fun key => by rw [newest]; exact hashed_storage_newest _ _ key) refines.window
  let changeSet : ChangeSet :=
    ⟨block.2.accountNodes.rows.map Prod.fst, storageTrieKeys, block.2.accounts.rows.map Prod.fst, hashedStorageKeys⟩
  have changeSets : ∀ number, ((db.blockChangeSet.put (history.latest.number + 1) changeSet).get number).isSome ↔
      history.earliest.number < number ∧ number ≤ history.latest.number + 1 := by
    intro number
    have window := refines.window
    rw [Table.get_put]
    split
    · next same =>
        simp only [Option.isSome_some, true_iff]
        omega
    · next apart =>
        rw [refines.changeSets]
        omega
  have call : db.storeTrieUpdatesAppendOnly block.1 block.2 =
      .ok ({ db with
              accountTrieHistory := accountTrie, hashedAccountHistory := hashedAccount, storageTrieHistory := storageTrie,
              hashedStorageHistory := hashedStorage, blockChangeSet := db.blockChangeSet.put (history.latest.number + 1) changeSet,
              latestBlock := some block.1.block }, changeSet.counts) := by
    simp [storeTrieUpdatesAppendOnly, refines.latest, child, storeTrieUpdatesForBlock, numbered, accountTrieStored, hashedAccountStored,
      storageTrieStored, hashedStorageStored, change_sets_accept db history refines, bind, Except.bind, changeSet]
  refine ⟨_, _, call, ?_⟩
  have accountTrieNow := accountTrieAfter changeSet rfl
  have storageTrieNow := storageTrieAfter changeSet rfl
  have hashedAccountNow := hashedAccountAfter changeSet rfl
  have hashedStorageNow := hashedStorageAfter changeSet rfl
  rw [← numbered] at accountTrieNow storageTrieNow hashedAccountNow hashedStorageNow changeSets ⊢
  have window := refines.window
  have length := refines.length
  exact ⟨refines.earliest, rfl, refines.anchored, by dsimp only [History.appended]; omega,
    by simp only [History.appended, List.length_append, List.length_singleton]; omega, changeSets,
    accountTrieNow, storageTrieNow, hashedAccountNow, hashedStorageNow⟩

end Append

section Cut

variable {κ ν : Type} [LinearOrder κ] (visible : ν → Bool) (earliest latest last : Nat) (changeSets : Table Nat ChangeSet)

-- The change sets above a block name every version above it.
theorem cut_versions (table : HistoryTable κ ν) (keysOf : ChangeSet → List κ) (state : Nat → κ → Option ν)
    (recorded : Recorded visible table (Named changeSets keysOf) earliest latest state) (above : earliest ≤ last) (key : κ) (version : Nat) :
    DupTable.versions (deleteDupSorted table (collectHistory keysOf (changeSets.seek (last + 1)))) key version =
      if last < version then none else table.versions key version := by
  have collected : (key, version) ∈ collectHistory keysOf (changeSets.seek (last + 1)) ↔ last < version ∧ Named changeSets keysOf version key := by
    rw [mem_collect_history]
    constructor
    · rintro ⟨changeSet, member, named⟩
      obtain ⟨inRows, reached⟩ := List.mem_filter.mp member
      exact ⟨of_decide_eq_true reached, changeSet, (changeSets.get_eq_some _ _).mpr inRows, named⟩
    · rintro ⟨beyond, changeSet, stored, named⟩
      exact ⟨changeSet, List.mem_filter.mpr ⟨(changeSets.get_eq_some _ _).mp stored, decide_eq_true beyond⟩, named⟩
  rw [delete_dup_sorted_versions]
  split
  · next member => simp [(collected.mp member).1]
  · next missing =>
      by_cases beyond : last < version
      · have absent : ¬(table.versions key version).isSome := fun stored =>
          missing (collected.mpr ⟨beyond, (recorded.listed key version (by omega)).mp stored⟩)
        simpa [beyond] using absent
      · simp [beyond]

theorem cut_recorded (table : HistoryTable κ ν) (keysOf : ChangeSet → List κ) (state stateAfter : Nat → κ → Option ν)
    (recorded : Recorded visible table (Named changeSets keysOf) earliest latest state)
    (same : ∀ block, block ≤ last → stateAfter block = state block) (above : earliest ≤ last) (within : last ≤ latest) :
    Recorded visible (deleteDupSorted table (collectHistory keysOf (changeSets.seek (last + 1))))
      (Named (deleteChangeSets changeSets (fun number => last + 1 ≤ number)) keysOf) earliest last stateAfter := by
  refine recorded_cut visible table _ _ _ earliest latest state stateAfter recorded last
    (cut_versions visible earliest latest last changeSets table keysOf state recorded above) (fun version key => ?_)
    (fun block key upTo => congrFun (same block upTo) key) within
  rw [named_deleted, decide_eq_false_iff_not, Nat.not_le, Nat.lt_succ_iff]

end Cut

section Unwind

variable (db : ProofsDb) (history : History) (refines : Refines db history)

include refines

theorem cut_refines (last : NumHash) (above : history.earliest.number ≤ last.number) (within : last.number ≤ history.latest.number) :
    Refines { db.deleteHistoryFrom (last.number + 1) with latestBlock := some last } (history.cut last) := by
  have same : ∀ number, number ≤ last.number → (history.cut last).stateAt number = history.stateAt number :=
    fun number upTo => state_after_cut history last number upTo
  have anchored := refines.anchored
  have length := refines.length
  refine ⟨refines.earliest, rfl, anchored, above, ?_, fun number => ?_, ?_, ?_, ?_, ?_⟩
  · simp only [History.cut, List.length_take]
    omega
  · change ((deleteChangeSets db.blockChangeSet (fun number => decide (last.number + 1 ≤ number))).get number).isSome ↔
      history.earliest.number < number ∧ number ≤ last.number
    rw [get_delete_change_sets]
    by_cases beyond : last.number + 1 ≤ number
    · simp only [beyond, decide_true, if_true, Option.isSome_none, Bool.false_eq_true, false_iff]
      omega
    · simp only [beyond, decide_false, Bool.false_eq_true, if_false, refines.changeSets]
      omega
  · exact cut_recorded _ _ _ _ _ _ _ _ _ refines.accountTrie (fun number upTo => by rw [same number upTo]) above within
  · exact cut_recorded _ _ _ _ _ _ _ _ _ refines.storageTrie (fun number upTo => by rw [same number upTo]) above within
  · exact cut_recorded _ _ _ _ _ _ _ _ _ refines.hashedAccounts (fun number upTo => by rw [same number upTo]) above within
  · exact cut_recorded _ _ _ _ _ _ _ _ _ refines.hashedStorage (fun number upTo => by rw [same number upTo]) above within

end Unwind

section Prune

variable {κ ν : Type} [LinearOrder κ] (visible : ν → Bool) (earliest latest target : Nat) (changeSets : Table Nat ChangeSet)

def pruneCandidates (keysOf : ChangeSet → List κ) : List (κ × Nat) :=
  survivors keysOf ((walkBack changeSets target).takeWhile (fun row => decide (earliest < row.1)))

-- The reverse walk meets the newest row that names a key first.
theorem candidate_named (keysOf : ChangeSet → List κ) (present : (changeSets.get target).isSome) (key : κ) (block : Nat)
    (chosen : lookup (pruneCandidates earliest target changeSets keysOf) key = some block) :
    earliest < block ∧ block ≤ target ∧ Named changeSets keysOf block key ∧
      ∀ later, block < later → later ≤ target → ¬Named changeSets keysOf later key := by
  rw [pruneCandidates, survivors_first, Option.map_eq_some_iff] at chosen
  obtain ⟨row, found, rfl⟩ := chosen
  obtain ⟨inRows, above, within⟩ := (mem_walked changeSets earliest target present row).mp (List.mem_of_find?_eq_some found)
  have naming : key ∈ keysOf row.2 := by simpa using List.find?_some found
  refine ⟨above, within, ⟨row.2, (changeSets.get_eq_some _ _).mpr inRows, naming⟩, ?_⟩
  rintro later more upTo ⟨changeSet, stored, named⟩
  have walked := (mem_walked changeSets earliest target present (later, changeSet)).mpr
    ⟨(changeSets.get_eq_some _ _).mp stored, Nat.lt_trans above more, upTo⟩
  cases find_first _ _ (walked_descends changeSets earliest target present) _ row found _ walked (decide_eq_true named) with
  | inl same => exact absurd (congrArg Prod.fst same) (Nat.ne_of_gt more)
  | inr older => exact absurd older (Nat.lt_asymm more)

theorem candidate_none (keysOf : ChangeSet → List κ) (present : (changeSets.get target).isSome) (key : κ)
    (nothing : lookup (pruneCandidates earliest target changeSets keysOf) key = none) (later : Nat) (above : earliest < later)
    (within : later ≤ target) : ¬Named changeSets keysOf later key := by
  rw [pruneCandidates, survivors_first, Option.map_eq_none_iff, List.find?_eq_none] at nothing
  rintro ⟨changeSet, stored, named⟩
  exact nothing (later, changeSet)
    ((mem_walked changeSets earliest target present _).mpr ⟨(changeSets.get_eq_some _ _).mp stored, above, within⟩) (decide_eq_true named)

theorem prune_versions (table : HistoryTable κ ν) (keysOf : ChangeSet → List κ)
    (listed : ∀ key version, earliest < version → ((table.versions key version).isSome ↔ Named changeSets keysOf version key))
    (present : (changeSets.get target).isSome) (key : κ) :
    PrunedTo (table.versions key) (DupTable.versions (pruneHistoryPreceding table (pruneCandidates earliest target changeSets keysOf)).1 key)
      earliest target := by
  have versions := prune_history_versions (pruneCandidates earliest target changeSets keysOf) (survivors_distinct keysOf _) (table, 0) key
  rw [← pruneHistoryPreceding] at versions
  cases chosen : lookup (pruneCandidates earliest target changeSets keysOf) key with
  | none =>
      have quiet : ∀ later, earliest < later → later ≤ target → table.versions key later = none := fun later above within =>
        Option.not_isSome_iff_eq_none.mp fun stored =>
          candidate_none earliest target changeSets keysOf present key chosen later above within ((listed key later above).mp stored)
      rw [chosen] at versions
      exact
        { above := fun version _ => versions version
          covered := fun version later _ above within stored => by simp [quiet later above within] at stored
          newest := fun version above within _ => by rw [versions, Option.elim_none, quiet version above within]; rfl
          untouched := fun version _ _ => versions version }
  | some survivor =>
      obtain ⟨reached, atMost, named, last⟩ := candidate_named earliest target changeSets keysOf present key survivor chosen
      have stored := (listed key survivor reached).mpr named
      have gap : ∀ later, survivor < later → later ≤ target → table.versions key later = none := fun later more within =>
        Option.not_isSome_iff_eq_none.mp fun present =>
          last later more within ((listed key later (Nat.lt_trans reached more)).mp present)
      rw [chosen] at versions
      simp only [Option.elim_some, prunedAt] at versions
      exact
        { above := fun version beyond => by rw [versions, if_neg (by omega), if_neg (by omega)]
          covered := fun version later more above within present => by
            have low : version < survivor := by
              by_contra high
              simp [gap later (by omega) within] at present
            rw [versions, if_pos low]
          newest := fun version above within nothing => by
            have high : ¬version < survivor := fun low => by simp [nothing survivor low atMost] at stored
            rw [versions, if_neg high]
            by_cases same : version = survivor
            · rw [if_pos same, same]
            · rw [if_neg same, gap version (by omega) within]
              rfl
          untouched := fun version low quiet => by simp [quiet survivor reached atMost] at stored }

theorem prune_recorded (table : HistoryTable κ ν) (keysOf : ChangeSet → List κ) (state : Nat → κ → Option ν)
    (recorded : Recorded visible table (Named changeSets keysOf) earliest latest state) (present : (changeSets.get target).isSome)
    (above : earliest < target) :
    Recorded visible (pruneHistoryPreceding table (pruneCandidates earliest target changeSets keysOf)).1
      (Named (deleteChangeSets changeSets (fun number => decide (earliest + 1 ≤ number) && decide (number ≤ target))) keysOf) target latest
      state := by
  refine recorded_prune visible table _ _ _ earliest latest state recorded target
    (prune_versions earliest target changeSets table keysOf recorded.listed present) (fun version key beyond => ?_) (Nat.le_of_lt above)
  have outside : (decide (earliest + 1 ≤ version) && decide (version ≤ target)) = false := by
    rw [decide_eq_false (p := version ≤ target) (by omega), Bool.and_false]
  rw [named_deleted, outside]
  exact and_iff_right rfl

end Prune

section Window

variable (db : ProofsDb) (history : History) (refines : Refines db history)

include refines

theorem latest_recorded (above : history.earliest.number < history.latest.number) : db.latestBlock = some history.latest := by
  have latest := refines.latest
  rw [latestBlockNumberHash, refines.earliest] at latest
  cases stored : db.latestBlock with
  | none =>
      rw [stored, Option.none_or] at latest
      rw [Option.some.inj latest] at above
      exact absurd above (Nat.lt_irrefl _)
  | some block =>
      rw [stored, Option.some_or] at latest
      exact latest

-- The two refusals, the request for nothing, and the move of the window.
theorem prune_refines (blockRef : BlockWithParent) :
    (history.latest.number < blockRef.block.number ∧
        db.pruneEarliestState blockRef = .error (.pruneBeyondLatest blockRef.block.number history.latest.number)) ∨
      (blockRef.block.number ≤ history.latest.number ∧ blockRef.block.number ≤ history.earliest.number ∧
        db.pruneEarliestState blockRef = .ok (db, ⟨0, 0, 0, 0⟩)) ∨
      (blockRef.block.number ≤ history.latest.number ∧ history.earliest.number < blockRef.block.number ∧
        ∃ after counts, db.pruneEarliestState blockRef = .ok (after, counts) ∧ Refines after { history with earliest := blockRef.block }) := by
  have window := refined_window db history refines
  by_cases beyond : history.latest.number < blockRef.block.number
  · left
    refine ⟨beyond, ?_⟩
    simp [pruneEarliestState, calculatePrunePlan, window, beyond, bind, Except.bind]
  · right
    by_cases early : blockRef.block.number ≤ history.earliest.number
    · left
      refine ⟨by omega, early, ?_⟩
      simp [pruneEarliestState, calculatePrunePlan, window, beyond, early, bind, Except.bind]
    · right
      have above : history.earliest.number < blockRef.block.number := by omega
      have within : blockRef.block.number ≤ history.latest.number := by omega
      have present : (db.blockChangeSet.get blockRef.block.number).isSome := (refines.changeSets _).mpr ⟨above, within⟩
      have kept := latest_recorded db history refines (by omega)
      have anchored := refines.anchored
      refine ⟨within, above, ?_⟩
      simp only [pruneEarliestState, calculatePrunePlan, window, if_neg beyond, if_neg early, bind, Except.bind]
      refine ⟨_, _, rfl, rfl, ?_, ?_, within, refines.length, fun number => ?_, ?_, ?_, ?_, ?_⟩
      · simp [latestBlockNumberHash, kept]
      · dsimp only
        omega
      · rw [get_delete_change_sets]
        by_cases inside : history.earliest.number + 1 ≤ number ∧ number ≤ blockRef.block.number
        · simp [inside]
        · have outside : (decide (history.earliest.number + 1 ≤ number) && decide (number ≤ blockRef.block.number)) = false := by
            simpa using fun low => Nat.lt_of_not_le (fun high => inside ⟨low, high⟩)
          rw [outside, if_neg (by decide), refines.changeSets]
          dsimp only
          omega
      · exact prune_recorded _ _ _ _ _ _ _ _ refines.accountTrie present above
      · exact prune_recorded _ _ _ _ _ _ _ _ refines.storageTrie present above
      · exact prune_recorded _ _ _ _ _ _ _ _ refines.hashedAccounts present above
      · exact prune_recorded _ _ _ _ _ _ _ _ refines.hashedStorage present above

end Window

-- Both sides succeed with related results, or both fail with the same error.
def Agrees : Except MorphProofsStorageError ProofsDb → Except MorphProofsStorageError History → Prop
  | .ok db, .ok history => Refines db history
  | .error left, .error right => left = right
  | .ok _, .error _ | .error _, .ok _ => False

theorem agrees_bind (left : Except MorphProofsStorageError ProofsDb) (right : Except MorphProofsStorageError History)
    (next : ProofsDb → Except MorphProofsStorageError ProofsDb) (nextHistory : History → Except MorphProofsStorageError History)
    (agrees : Agrees left right)
    (onward : ∀ db history, right = .ok history → Refines db history → Agrees (next db) (nextHistory history)) :
    Agrees (left >>= next) (right >>= nextHistory) := by
  cases left with
  | error failed =>
      cases right with
      | error other => exact agrees
      | ok history => exact agrees.elim
  | ok db =>
      cases right with
      | error other => exact agrees.elim
      | ok history => exact onward db history rfl agrees

theorem append_agrees (db : ProofsDb) (history : History) (refines : Refines db history) (block : BlockWithParent × BlockStateDiff)
    (numbered : history.latest.hash = block.1.parent → block.1.block.number = history.latest.number + 1) :
    Agrees ((db.storeTrieUpdatesAppendOnly block.1 block.2).map Prod.fst) (history.append block) := by
  by_cases child : history.latest.hash = block.1.parent
  · obtain ⟨after, counts, stored, afterRefines⟩ := append_refines db history refines block child (numbered child)
    simp only [stored, History.append, child, ne_eq, not_true, if_false]
    exact afterRefines
  · simp [History.append, storeTrieUpdatesAppendOnly, refines.latest, child, Except.map, Agrees]

theorem store_all_agrees (blocks : List (BlockWithParent × BlockStateDiff)) (db : ProofsDb) (history : History)
    (refines : Refines db history) (numbered : AcceptsNumbered history.latest blocks) :
    Agrees (db.storeAll blocks) (history.appendAll blocks) := by
  induction blocks generalizing db history with
  | nil => exact refines
  | cons block rest ih =>
      refine agrees_bind _ _ _ _ (append_agrees db history refines block (fun child => (numbered child).1))
        (fun after next appended afterRefines => ?_)
      by_cases child : history.latest.hash = block.1.parent
      · simp only [History.append, child, ne_eq, not_true, if_false] at appended
        cases appended
        exact ih after _ afterRefines (numbered child).2
      · simp [History.append, child] at appended

theorem update_agrees (db : ProofsDb) (history : History) (refines : Refines db history) (operation : StoreOperation)
    (legal : WellNumbered history.earliest history.latest operation) : Agrees (db.update operation) (history.update operation) := by
  cases operation with
  | storeTrieUpdates blockRef diff => exact append_agrees db history refines (blockRef, diff) (fun child => (legal child).1)
  | batchSession blocks failure =>
      refine agrees_bind _ _ _ _ (store_all_agrees blocks db history refines legal) (fun staged next _ stagedRefines => ?_)
      cases failure with
      | none => exact stagedRefines
      | some error => exact rfl
  | pruneEarliestState blockRef =>
      have cases := prune_refines db history refines blockRef
      simp only [ProofsDb.update, History.update, History.prune]
      rcases cases with ⟨beyond, refused⟩ | ⟨within, early, nothing⟩ | ⟨within, above, after, counts, pruned, afterRefines⟩
      · simp [refused, beyond, Except.map, Agrees]
      · rw [nothing, if_neg (by omega), if_pos early]
        exact refines
      · rw [pruned, if_neg (by omega), if_neg (by omega)]
        exact afterRefines
  | unwindHistory unwindTo =>
      simp only [ProofsDb.update, History.update, ProofsDb.unwindHistory, History.unwind, refined_window db history refines]
      split
      · exact refines
      · split
        · exact rfl
        · next within above =>
            have step : unwindTo.block.number - 1 + 1 = unwindTo.block.number := by omega
            have cut := cut_refines db history refines ⟨unwindTo.block.number - 1, unwindTo.parent⟩ (by dsimp only; omega) (by dsimp only; omega)
            dsimp only at cut
            rw [step] at cut
            exact cut
  | replaceUpdates common blocks =>
      obtain ⟨above, within, numbered⟩ := legal
      exact store_all_agrees _ _ _ (cut_refines db history refines common above within) numbered

theorem commit_refines (db : ProofsDb) (history : History) (refines : Refines db history) (operation : StoreOperation)
    (legal : WellNumbered history.earliest history.latest operation) :
    Refines (db.commitUpdate operation) (history.commitUpdate operation) := by
  have agrees := update_agrees db history refines operation legal
  rw [ProofsDb.commitUpdate, History.commitUpdate]
  cases updated : db.update operation with
  | ok after =>
      cases advanced : history.update operation with
      | ok next =>
          rw [updated, advanced] at agrees
          exact agrees
      | error right =>
          rw [updated, advanced] at agrees
          exact agrees.elim
  | error left =>
      cases advanced : history.update operation with
      | ok next =>
          rw [updated, advanced] at agrees
          exact agrees.elim
      | error right => exact refines

-- By induction on the operations: the database follows the history.
theorem run_refines (operations : List StoreOperation) (db : ProofsDb) (history : History) (refines : Refines db history)
    (legal : EachAllowed History.commitUpdate LegalOperation history operations) :
    Refines (runSteps ProofsDb.commitUpdate db operations) (runSteps History.commitUpdate history operations) := by
  induction operations generalizing db history with
  | nil => exact refines
  | cons operation rest ih => exact ih _ _ (commit_refines db history refines operation (well_numbered_of_legal history operation legal.1)) legal.2

end MorphReth.Proofs
