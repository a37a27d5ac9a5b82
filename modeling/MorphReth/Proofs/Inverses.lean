import MorphReth.Proofs.Reachable
import MorphReth.Proofs.BatchSession

set_option autoImplicit false

namespace MorphReth.Proofs

open ProofsDb

section Kept

variable {κ σ ν : Type} [LinearOrder κ] [LinearOrder σ] (limit : Nat)

-- The versions up to a limit are untouched.
def KeepsVersions (before after : HistoryTable κ ν) : Prop :=
  ∀ key version, version ≤ limit → after.versions key version = before.versions key version

variable (block : Nat) (newer : limit < block)

include newer

theorem append_dup_keeps (table after : HistoryTable κ ν) (entry : κ × Option ν) (appended : appendDup table block entry = .ok after) :
    KeepsVersions limit table after := by
  rw [appendDup] at appended
  split at appended
  · cases appended
    intro key version within
    rw [versions_put, if_neg (by omega)]
  · cases appended

theorem append_all_keeps (items : List (κ × Option ν)) (table after : HistoryTable κ ν)
    (appended : items.foldlM (fun table entry => appendDup table block entry) table = .ok after) : KeepsVersions limit table after := by
  refine fold_ok_invariant _ (KeepsVersions limit table) items (fun between entry next _ kept stored => ?_) table after (fun _ _ _ => rfl) appended
  intro key version within
  rw [append_dup_keeps limit block newer between next entry stored key version within, kept key version within]

theorem persist_keeps (items : List (κ × Option ν)) (table : HistoryTable κ ν) (stored : HistoryTable κ ν × List κ)
    (persisted : persistHistoryBatch table block items true = .ok stored) : KeepsVersions limit table stored.1 := by
  rw [persistHistoryBatch, if_pos rfl, bind_ok] at persisted
  obtain ⟨after, appended, result⟩ := persisted
  cases result
  exact append_all_keeps limit block newer items table after appended

theorem wipe_keeps (address : B256) (liveEntries : List (σ × ν)) (newEntries : List (σ × Option ν)) (table : HistoryTable (AddressKey σ) ν)
    (stored : HistoryTable (AddressKey σ) ν × List (AddressKey σ))
    (wiped : wipeAndOverlay table block address liveEntries newEntries = .ok stored) : KeepsVersions limit table stored.1 :=
  persist_keeps limit block newer (inAddress address (overlay liveEntries newEntries).rows) table stored wiped

theorem store_address_keeps (liveEntries : HistoryTable (AddressKey σ) ν → Nat → B256 → List (σ × ν))
    (state after : HistoryTable (AddressKey σ) ν × List (AddressKey σ)) (update : AddressUpdate σ ν)
    (stored : storeAddress liveEntries block true state update = .ok after) : KeepsVersions limit state.1 after.1 := by
  cases wiped : update.wiped with
  | true =>
      simp only [storeAddress, wiped, Bool.and_self, if_true, bind_ok] at stored
      obtain ⟨written, overlaid, result⟩ := stored
      cases result
      exact wipe_keeps limit block newer update.hashedAddress _ update.entries state.1 written overlaid
  | false =>
      simp only [storeAddress, wiped, Bool.and_false, Bool.false_eq_true, if_false, bind_ok] at stored
      obtain ⟨written, persisted, result⟩ := stored
      cases result
      exact persist_keeps limit block newer _ state.1 written persisted

theorem store_addresses_keeps (liveEntries : HistoryTable (AddressKey σ) ν → Nat → B256 → List (σ × ν))
    (table : HistoryTable (AddressKey σ) ν) (updates : List (AddressUpdate σ ν))
    (after : HistoryTable (AddressKey σ) ν × List (AddressKey σ)) (stored : storeAddresses liveEntries table block updates true = .ok after) :
    KeepsVersions limit table after.1 := by
  refine fold_ok_invariant _ (fun state => KeepsVersions limit table state.1) updates (fun between update next _ kept written => ?_) (table, [])
    after (fun _ _ _ => rfl) stored
  intro key version within
  rw [store_address_keeps limit block newer liveEntries between next update written key version within, kept key version within]

end Kept

-- A call that writes above a block leaves everything up to it alone.
structure KeepsUpTo (limit : Nat) (before after : ProofsDb) : Prop where
  earliest : after.earliestBlock = before.earliestBlock
  accountTrie : KeepsVersions limit before.accountTrieHistory after.accountTrieHistory
  storageTrie : KeepsVersions limit before.storageTrieHistory after.storageTrieHistory
  hashedAccounts : KeepsVersions limit before.hashedAccountHistory after.hashedAccountHistory
  hashedStorage : KeepsVersions limit before.hashedStorageHistory after.hashedStorageHistory
  changeSets : ∀ number, number ≤ limit → after.blockChangeSet.get number = before.blockChangeSet.get number

theorem keeps_trans (limit : Nat) (before between after : ProofsDb) (first : KeepsUpTo limit before between)
    (second : KeepsUpTo limit between after) : KeepsUpTo limit before after where
  earliest := second.earliest.trans first.earliest
  accountTrie key version within := (second.accountTrie key version within).trans (first.accountTrie key version within)
  storageTrie key version within := (second.storageTrie key version within).trans (first.storageTrie key version within)
  hashedAccounts key version within := (second.hashedAccounts key version within).trans (first.hashedAccounts key version within)
  hashedStorage key version within := (second.hashedStorage key version within).trans (first.hashedStorage key version within)
  changeSets number within := (second.changeSets number within).trans (first.changeSets number within)

theorem append_only_keeps (limit : Nat) (db : ProofsDb) (block : BlockWithParent × BlockStateDiff) (newer : limit < block.1.block.number)
    (after : ProofsDb × WriteCounts) (stored : db.storeTrieUpdatesAppendOnly block.1 block.2 = .ok after) : KeepsUpTo limit db after.1 := by
  rw [storeTrieUpdatesAppendOnly] at stored
  split at stored
  · cases stored
  · simp only [bind_ok, storeTrieUpdatesForBlock] at stored
    obtain ⟨_, ⟨accountTrie, accountTrieStored, hashedAccount, hashedAccountStored, storageTrie, storageTrieStored, hashedStorage,
      hashedStorageStored, result⟩, changeSets, appended, final⟩ := stored
    cases result
    cases final
    refine ⟨rfl, persist_keeps limit _ newer _ _ _ accountTrieStored, store_addresses_keeps limit _ newer _ _ _ _ storageTrieStored,
      persist_keeps limit _ newer _ _ _ hashedAccountStored, store_addresses_keeps limit _ newer _ _ _ _ hashedStorageStored,
      fun number within => ?_⟩
    rw [appendChangeSet] at appended
    split at appended
    · cases appended
      dsimp only
      rw [Table.get_put, if_neg (by omega)]
    · cases appended

-- Blocks each the child of the one before it.
def Successive : NumHash → List (BlockWithParent × BlockStateDiff) → Prop
  | _, [] => True
  | latest, block :: rest =>
      latest.hash = block.1.parent ∧ block.1.block.number = latest.number + 1 ∧ Successive block.1.block rest

theorem accepts_of_successive (latest : NumHash) (blocks : List (BlockWithParent × BlockStateDiff)) (successive : Successive latest blocks) :
    AcceptsNumbered latest blocks := by
  induction blocks generalizing latest with
  | nil => trivial
  | cons block rest ih => exact fun _ => ⟨successive.2.1, ih block.1.block successive.2.2⟩

-- By induction on the blocks: each is accepted on top of the ones before it.
theorem append_successive (blocks : List (BlockWithParent × BlockStateDiff)) (history : History)
    (successive : Successive history.latest blocks) :
    ∃ after, history.appendAll blocks = .ok after ∧ after.earliest = history.earliest ∧
      after.latest.number = history.latest.number + blocks.length := by
  induction blocks generalizing history with
  | nil => exact ⟨history, rfl, rfl, rfl⟩
  | cons block rest ih =>
      obtain ⟨child, numbered, later⟩ := successive
      obtain ⟨after, appended, earliest, latest⟩ := ih (history.appended block) later
      refine ⟨after, ?_, earliest, ?_⟩
      · rw [History.appendAll, List.foldlM_cons, History.append, if_neg (by simp [child])]
        exact appended
      · rw [latest, List.length_cons]
        change block.1.block.number + rest.length = _
        omega

variable (db : ProofsDb)

theorem store_successive (history : History) (refines : Refines db history) (blocks : List (BlockWithParent × BlockStateDiff))
    (successive : Successive history.latest blocks) :
    ∃ after next, db.storeAll blocks = .ok after ∧ Refines after next ∧ next.earliest = history.earliest ∧
      next.latest.number = history.latest.number + blocks.length := by
  obtain ⟨next, appended, earliest, latest⟩ := append_successive blocks history successive
  have agrees := store_all_agrees blocks db history refines (accepts_of_successive _ _ successive)
  rw [appended] at agrees
  cases stored : db.storeAll blocks with
  | error error =>
      rw [stored] at agrees
      exact agrees.elim
  | ok after =>
      rw [stored] at agrees
      exact ⟨after, next, rfl, agrees, earliest, latest⟩

theorem store_all_keeps (limit : Nat) (blocks : List (BlockWithParent × BlockStateDiff)) (latest : NumHash) (newer : limit ≤ latest.number)
    (successive : Successive latest blocks) (db after : ProofsDb) (stored : db.storeAll blocks = .ok after) : KeepsUpTo limit db after := by
  induction blocks generalizing latest db with
  | nil =>
      cases stored
      exact ⟨rfl, fun _ _ _ => rfl, fun _ _ _ => rfl, fun _ _ _ => rfl, fun _ _ _ => rfl, fun _ _ => rfl⟩
  | cons block rest ih =>
      obtain ⟨_, numbered, later⟩ := successive
      rw [storeAll, List.foldlM_cons, bind_ok] at stored
      obtain ⟨between, first, onward⟩ := stored
      cases written : db.storeTrieUpdatesAppendOnly block.1 block.2 with
      | error error =>
          rw [written] at first
          cases first
      | ok result =>
          rw [written] at first
          cases first
          exact keeps_trans limit db result.1 after (append_only_keeps limit db block (by omega) result written)
            (ih block.1.block (by omega) later result.1 onward)

section Restored

variable {κ ν : Type} [LinearOrder κ] (visible : ν → Bool)

-- What was written above the old latest block goes again, and nothing else was
-- touched.
theorem table_restored (before stored : HistoryTable κ ν) (keysOf : ChangeSet → List κ) (changeSets changeSetsBefore : Table Nat ChangeSet)
    (earliest latest newLatest : Nat) (state stateBefore : Nat → κ → Option ν)
    (recordedBefore : Recorded visible before (Named changeSetsBefore keysOf) earliest latest stateBefore)
    (recorded : Recorded visible stored (Named changeSets keysOf) earliest newLatest state) (window : earliest ≤ latest)
    (kept : KeepsVersions latest before stored) :
    deleteDupSorted stored (collectHistory keysOf (changeSets.seek (latest + 1))) = before := by
  apply same_table
  intro key version
  rw [cut_versions visible earliest newLatest latest changeSets stored keysOf state recorded window]
  by_cases beyond : latest < version
  · rw [if_pos beyond, eq_comm, ← Option.not_isSome_iff_eq_none]
    exact fun present => absurd (recordedBefore.bounded key version present) (by omega)
  · rw [if_neg beyond, kept key version (by omega)]

end Restored

theorem unwind_restores (history : History) (refines : Refines db history) (first : BlockWithParent × BlockStateDiff)
    (rest : List (BlockWithParent × BlockStateDiff)) (successive : Successive history.latest (first :: rest)) :
    ∃ stored after, db.storeAll (first :: rest) = .ok stored ∧ stored.unwindHistory first.1 = .ok after ∧ SameContents after db := by
  obtain ⟨stored, next, storedAll, nextRefines, earliest, latest⟩ := store_successive db history refines (first :: rest) successive
  have kept := store_all_keeps history.latest.number (first :: rest) history.latest (Nat.le_refl _) successive db stored storedAll
  obtain ⟨child, numbered, _⟩ := successive
  have window := refines.window
  have unwound : stored.unwindHistory first.1 =
      .ok { stored.deleteHistoryFrom (history.latest.number + 1) with latestBlock := some history.latest } := by
    rw [unwindHistory, refined_window stored next nextRefines]
    dsimp only
    rw [if_neg (by rw [latest, List.length_cons]; omega), if_neg (by rw [earliest]; omega), numbered, ← child]
    rfl
  refine ⟨stored, _, storedAll, unwound, ?_⟩
  have accountTrie := nextRefines.accountTrie
  have storageTrie := nextRefines.storageTrie
  have hashedAccounts := nextRefines.hashedAccounts
  have hashedStorage := nextRefines.hashedStorage
  rw [earliest] at accountTrie storageTrie hashedAccounts hashedStorage
  refine ⟨table_restored _ _ _ _ _ _ _ _ _ _ _ refines.accountTrie accountTrie window kept.accountTrie,
    table_restored _ _ _ _ _ _ _ _ _ _ _ refines.storageTrie storageTrie window kept.storageTrie,
    table_restored _ _ _ _ _ _ _ _ _ _ _ refines.hashedAccounts hashedAccounts window kept.hashedAccounts,
    table_restored _ _ _ _ _ _ _ _ _ _ _ refines.hashedStorage hashedStorage window kept.hashedStorage, ?_, ?_⟩
  · apply Table.ext_get
    intro number
    change (deleteChangeSets stored.blockChangeSet (fun number => decide (history.latest.number + 1 ≤ number))).get number = _
    rw [get_delete_change_sets]
    by_cases beyond : history.latest.number + 1 ≤ number
    · simp only [beyond, decide_true, if_true]
      rw [eq_comm, ← Option.not_isSome_iff_eq_none, refines.changeSets]
      omega
    · simp only [beyond, decide_false, Bool.false_eq_true, if_false]
      exact kept.changeSets number (by omega)
  · rw [refined_window db history refines, proofWindow]
    change stored.earliestBlock.map _ = _
    rw [kept.earliest, refines.earliest]
    rfl

section Replace

-- The row of the latest block may be missing as long as it reads the same.
theorem append_only_of_same_latest (latest : NumHash) (same : db.latestBlockNumberHash = some latest)
    (block : BlockWithParent × BlockStateDiff) :
    { db with latestBlock := some latest }.storeTrieUpdatesAppendOnly block.1 block.2 = db.storeTrieUpdatesAppendOnly block.1 block.2 := by
  have reads : { db with latestBlock := some latest }.latestBlockNumberHash = some latest := rfl
  rw [storeTrieUpdatesAppendOnly, storeTrieUpdatesAppendOnly, same, reads]
  split
  · rfl
  · simp only [storeTrieUpdatesForBlock, bind_assoc]
    rfl

theorem separately_of_same_latest (latest : NumHash) (same : db.latestBlockNumberHash = some latest)
    (blocks : List (BlockWithParent × BlockStateDiff)) :
    (storeOneByOne blocks { db with latestBlock := some latest }).1 = (storeOneByOne blocks db).1 ∧
      ((storeOneByOne blocks { db with latestBlock := some latest }).2 = (storeOneByOne blocks db).2 ∨
        (storeOneByOne blocks { db with latestBlock := some latest }).2 = { db with latestBlock := some latest } ∧
          (storeOneByOne blocks db).2 = db) := by
  induction blocks with
  | nil => exact ⟨rfl, .inr ⟨rfl, rfl⟩⟩
  | cons block rest ih =>
      have first := transact_computes _ db _ (append_only_computes block db)
      have other := transact_computes _ _ _ (append_only_computes block { db with latestBlock := some latest })
      rw [append_only_of_same_latest db latest same block] at other
      simp only [storeOneByOne, separately, storeTrieUpdates] at ih ⊢
      rw [first, other]
      cases db.storeTrieUpdatesAppendOnly block.1 block.2 with
      | error error => exact ⟨congrArg (List.cons _) ih.1, ih.2⟩
      | ok stored => exact ⟨rfl, .inl rfl⟩

theorem nothing_above (history : History) (refines : Refines db history) : db.deleteHistoryFrom (history.latest.number + 1) = db := by
  have none : ∀ row ∈ db.blockChangeSet.rows, ¬history.latest.number + 1 ≤ row.1 := by
    intro row member reached
    have stored : (db.blockChangeSet.get row.1).isSome := by simp [(db.blockChangeSet.get_eq_some row.1 row.2).mpr member]
    have within := ((refines.changeSets row.1).mp stored).2
    omega
  have sought : db.blockChangeSet.seek (history.latest.number + 1) = [] :=
    List.filter_eq_nil_iff.mpr (fun row member => by simpa using none row member)
  have chosen : (db.blockChangeSet.rows.map Prod.fst).filter (fun number => decide (history.latest.number + 1 ≤ number)) = [] := by
    refine List.filter_eq_nil_iff.mpr (fun number member => ?_)
    obtain ⟨row, inRows, rfl⟩ := List.mem_map.mp member
    simpa using none row inRows
  simp only [deleteHistoryFrom, sought, deleteChangeSets, chosen]
  rfl

def replaceBase (db : ProofsDb) (common : NumHash) : ProofsDb :=
  { db.deleteHistoryFrom (common.number + 1) with latestBlock := some common }

theorem replace_stores (common : NumHash) (blocks : List (BlockWithParent × BlockStateDiff)) :
    commitReplace common blocks db =
      match ((sortBlocks blocks).mapM storeTrieUpdates) (replaceBase db common) with
      | .ok _ staged => (.ok (), staged)
      | .error error _ => (.error error, db) := by
  have call : TxMut.replaceUpdates common blocks db =
      (do let _ ← (sortBlocks blocks).mapM storeTrieUpdates : TxMut Unit) (replaceBase db common) := rfl
  rw [commitReplace, transact, call]
  simp only [bind, EStateM.bind]
  cases ((sortBlocks blocks).mapM storeTrieUpdates) (replaceBase db common) with
  | ok counts staged => rfl
  | error error staged => rfl

theorem replace_one_by_one (common : NumHash) (blocks : List (BlockWithParent × BlockStateDiff)) :
    ((commitReplace common blocks db).1 = .ok () ↔
      ∃ counts : List WriteCounts, (storeOneByOne (sortBlocks blocks) (replaceBase db common)).1 = counts.map .ok) ∧
      ((commitReplace common blocks db).1 = .ok () →
        (commitReplace common blocks db).2 = (storeOneByOne (sortBlocks blocks) (replaceBase db common)).2) := by
  have result := replace_stores db common blocks
  cases together : ((sortBlocks blocks).mapM storeTrieUpdates) (replaceBase db common) with
  | ok counts staged =>
      have separate := separately_of_together storeTrieUpdates (sortBlocks blocks) (replaceBase db common) counts staged together
      rw [together_of_separately _ _ _ counts separate] at together result
      cases together
      rw [result]
      exact ⟨⟨fun _ => ⟨counts, separate⟩, fun _ => rfl⟩, fun _ => rfl⟩
  | error error staged =>
      rw [together] at result
      rw [result]
      refine ⟨⟨fun succeeded => (by cases succeeded), ?_⟩, fun succeeded => (by cases succeeded)⟩
      rintro ⟨counts, separate⟩
      cases (together_of_separately storeTrieUpdates (sortBlocks blocks) (replaceBase db common) counts separate).symm.trans together

theorem same_contents_refl : SameContents db db :=
  ⟨rfl, rfl, rfl, rfl, rfl, rfl⟩

-- Unwinding above the common block comes to the base of the replacement, but for
-- a row of the latest block that reads as before.
theorem unwound_base (history : History) (refines : Refines db history) (common : NumHash) (unwindTo : BlockWithParent)
    (onChain : common = history.latest ∨ history.earliest.number ≤ common.number ∧ common.number < history.latest.number)
    (parent : unwindTo.parent = common.hash) (numbered : unwindTo.block.number = common.number + 1)
    (blocks : List (BlockWithParent × BlockStateDiff)) :
    (storeOneByOne blocks (replaceBase db common)).1 = (storeOneByOne blocks (db.commitUpdate (.unwindHistory unwindTo))).1 ∧
      SameContents (storeOneByOne blocks (replaceBase db common)).2 (storeOneByOne blocks (db.commitUpdate (.unwindHistory unwindTo))).2 := by
  cases onChain with
  | inl tip =>
      have unwound : db.commitUpdate (.unwindHistory unwindTo) = db := by
        simp only [commitUpdate, update, unwindHistory, refined_window db history refines]
        rw [if_pos (by rw [numbered, tip]; exact Nat.lt_succ_self _)]
      have base : replaceBase db common = { db with latestBlock := some history.latest } := by
        rw [replaceBase, tip, nothing_above db history refines]
      rw [unwound, base]
      obtain ⟨results, states⟩ := separately_of_same_latest db history.latest refines.latest blocks
      refine ⟨results, ?_⟩
      cases states with
      | inl same =>
          rw [same]
          exact same_contents_refl _
      | inr apart =>
          rw [apart.1, apart.2]
          refine ⟨rfl, rfl, rfl, rfl, rfl, ?_⟩
          rw [refined_window db history refines, proofWindow]
          change db.earliestBlock.map _ = _
          rw [refines.earliest]
          rfl
  | inr inside =>
      have unwound : db.commitUpdate (.unwindHistory unwindTo) = replaceBase db common := by
        simp only [commitUpdate, update, unwindHistory, refined_window db history refines]
        rw [if_neg (by omega), if_neg (by omega), numbered, parent]
        rfl
      rw [unwound]
      exact ⟨rfl, same_contents_refl _⟩

end Replace

-- Storing children of the latest block and unwinding from the first of them.
def UnwindInverts (db : ProofsDb) (latest : NumHash) : Prop :=
  ∀ first rest, Successive latest (first :: rest) →
    ∃ stored after, db.storeAll (first :: rest) = .ok stored ∧ stored.unwindHistory first.1 = .ok after ∧ SameContents after db

-- A common ancestor is the tip or has a stored block above it.
def ReplaceIsUnwind (db : ProofsDb) (earliest latest : NumHash) : Prop :=
  ∀ common blocks unwindTo, common = latest ∨ earliest.number ≤ common.number ∧ common.number < latest.number →
    unwindTo.parent = common.hash → unwindTo.block.number = common.number + 1 →
      ((commitReplace common blocks db).1 = .ok () ↔
          ∃ counts : List WriteCounts, (storeOneByOne (sortBlocks blocks) (db.commitUpdate (.unwindHistory unwindTo))).1 = counts.map .ok) ∧
        ((commitReplace common blocks db).1 = .ok () →
          SameContents (commitReplace common blocks db).2
            (storeOneByOne (sortBlocks blocks) (db.commitUpdate (.unwindHistory unwindTo))).2) ∧
        ∀ error, (commitReplace common blocks db).1 = .error error → (commitReplace common blocks db).2 = db

theorem unwind_inverts_store (db : ProofsDb) (reachable : Reachable db) :
    ∃ window, db.proofWindow = some window ∧ UnwindInverts db window.latest ∧ ReplaceIsUnwind db window.earliest window.latest := by
  obtain ⟨history, refines⟩ := reachable_refines db reachable
  refine ⟨_, refined_window db history refines, fun first rest successive => unwind_restores db history refines first rest successive, ?_⟩
  intro common blocks unwindTo onChain parent numbered
  obtain ⟨results, contents⟩ := unwound_base db history refines common unwindTo onChain parent numbered (sortBlocks blocks)
  obtain ⟨succeeds, reaches⟩ := replace_one_by_one db common blocks
  rw [results] at succeeds
  exact ⟨succeeds, fun succeeded => by rw [reaches succeeded]; exact contents, fun error => transact_error _ db error⟩

-- A block that wipes the storage, stored and unwound.
theorem unwind_inverts_store_sample :
    ∃ stored after, (runSteps ProofsDb.commitUpdate sampleDb sampleOperations).storeAll [(⟨0xB2, ⟨13, 0xB3⟩⟩, slotDiff true 4 2)] = .ok stored ∧
      stored.unwindHistory ⟨0xB2, ⟨13, 0xB3⟩⟩ = .ok after ∧ liveStorageSlots stored.hashedStorageHistory 13 1 = [(4, 2)] ∧
      liveStorageSlots after.hashedStorageHistory 13 1 = [(6, 9), (8, 3)] := by
  obtain ⟨window, shown, inverts, _⟩ := unwind_inverts_store _ sample_reachable
  have recorded : (runSteps ProofsDb.commitUpdate sampleDb sampleOperations).proofWindow = some ⟨⟨11, 0xA1⟩, ⟨12, 0xB2⟩⟩ := rfl
  cases recorded.symm.trans shown
  obtain ⟨stored, after, storing, unwinding, same⟩ := inverts (⟨0xB2, ⟨13, 0xB3⟩⟩, slotDiff true 4 2) [] ⟨rfl, rfl, trivial⟩
  refine ⟨stored, after, storing, unwinding, ?_, ?_⟩
  · have live : ((runSteps ProofsDb.commitUpdate sampleDb sampleOperations).storeAll [(⟨0xB2, ⟨13, 0xB3⟩⟩, slotDiff true 4 2)]).toOption.map
        (fun stored => liveStorageSlots stored.hashedStorageHistory 13 1) = some [(4, 2)] := by decide +kernel
    rw [storing] at live
    exact Option.some.inj live
  · rw [same.hashedStorage]
    decide +kernel

end MorphReth.Proofs
