import MorphReth.Proofs.Live

set_option autoImplicit false

namespace MorphReth.Proofs

open Rlp (Bytes toFixedBytes)

-- A provider hands out a state: accounts and slots under the hashes of their
-- keys, and every row of the four tables in order.
structure Presents (keccak256 : Bytes → B256) (provider : StateProvider) (state : ProofState) : Prop where
  basicAccount : ∀ address, provider.basicAccount address = state.hashedAccounts (keccak256 (toFixedBytes address))
  storage : ∀ address key, provider.storage address key =
    state.hashedStorage (toLex (keccak256 (toFixedBytes address), keccak256 (toFixedBytes key)))
  accountTrie : Lists state.accountTrie (fun _ => True) provider.accountTrie
  storageTrie : ∀ address, Lists (fun path => state.storageTrie (toLex (address, path))) (fun _ => True) (provider.storageTrie address)
  hashedAccounts : Lists state.hashedAccounts (fun _ => True) provider.hashedAccounts
  hashedStorages : ∀ address, Lists (fun slot => state.hashedStorage (toLex (address, slot))) (fun _ => True) (provider.hashedStorages address)

theorem exactly_first_live {ν : Type} (view : B256 → Option ν) (hashedKey : B256) (found : Option (B256 × ν))
    (first : FirstLive view (fun other => hashedKey ≤ other) found) :
    MorphProofsStateProviderRef.exactly hashedKey found = view hashedKey := by
  cases found with
  | none => exact (first hashedKey le_rfl).symm
  | some entry =>
      obtain ⟨reached, live, before⟩ := first
      by_cases same : entry.1 = hashedKey
      · simpa [MorphProofsStateProviderRef.exactly, same] using (same ▸ live).symm
      · have less : hashedKey < entry.1 := lt_of_le_of_ne reached (Ne.symm same)
        simpa [MorphProofsStateProviderRef.exactly, same] using (before hashedKey le_rfl less).symm

theorem serves_presents (keccak256 : Bytes → B256) (db : ProofsDb) (block : Nat) (state : ProofState) (serves : Serves db block state) :
    Presents keccak256 (MorphProofsStateProviderRef.provider keccak256 ⟨db, block⟩) state where
  basicAccount _ := exactly_first_live _ _ _ (serves.hashedAccountSeek _)
  storage _ _ := exactly_first_live _ _ _ (serves.hashedStorageSeek _ _)
  accountTrie := serves.accountTrieWalk
  storageTrie := serves.storageTrieWalk
  hashedAccounts := serves.hashedAccountWalk
  hashedStorages := serves.hashedStorageWalk

structure Replaying (β ω : Type) where
  collector : LiveTrieCollector β ω
  anchor : NumHash
  initial : ProofState
  numberOf : B256 → Nat

variable {β ω : Type}

-- The states of a chain above the anchor: each block is executed on the state
-- of its parent and reaches the root in its header.
inductive ReplaysTo (chain : Replaying β ω) : B256 → ProofState → Prop where
  | anchor : ReplaysTo chain chain.anchor.hash chain.initial
  | child (state : ProofState) (provider : StateProvider) (block : RecoveredBlock β) (diff : BlockStateDiff)
      (parent : ReplaysTo chain block.parentHash state) (presents : Presents chain.collector.keccak256 provider state)
      (executed : chain.collector.replay provider block = .ok diff) : ReplaysTo chain block.hash (state.applyDiff diff)

-- Cached updates are those of an execution of their block on its parent.
def Genuine (chain : Replaying β ω) (blockRef : BlockWithParent) (diff : BlockStateDiff) : Prop :=
  ∃ block : RecoveredBlock β, block.blockRef = blockRef ∧
    ∀ state, ReplaysTo chain blockRef.parent state →
      ∃ provider, Presents chain.collector.keccak256 provider state ∧ chain.collector.replay provider block = .ok diff

def OnChain (chain : Replaying β ω) (blockRef : BlockWithParent) : Prop :=
  chain.numberOf blockRef.block.hash = blockRef.block.number ∧ blockRef.block.number = chain.numberOf blockRef.parent + 1

instance (chain : Replaying β ω) (blockRef : BlockWithParent) : Decidable (OnChain chain blockRef) :=
  inferInstanceAs (Decidable (_ ∧ _))

-- The hashes are those of the anchor and of the stored blocks, oldest first.
structure Replayed (chain : Replaying β ω) (history : History) (hashes : List B256) : Prop where
  anchored : history.anchor = chain.anchor.number
  started : history.initial = chain.initial
  listed : hashes = chain.anchor.hash :: history.stored.map (fun block => block.1.block.hash)
  numbered : ∀ (index : Nat) (hash : B256), hashes[index]? = some hash → chain.numberOf hash = chain.anchor.number + index
  replays : ∀ (index : Nat) (hash : B256), hashes[index]? = some hash →
    ReplaysTo chain hash (history.stateAt (chain.anchor.number + index))
  earliest : hashes[history.earliest.number - chain.anchor.number]? = some history.earliest.hash
  latest : hashes[history.latest.number - chain.anchor.number]? = some history.latest.hash

namespace Replayed

variable {chain : Replaying β ω} {db : ProofsDb} {history : History} {hashes : List B256} (replayed : Replayed chain history hashes)

include replayed

theorem hashes_length : hashes.length = history.stored.length + 1 := by
  rw [replayed.listed]
  simp

variable (refines : Refines db history)

include refines

theorem latest_index : history.latest.number = chain.anchor.number + history.stored.length := by
  rw [refines.length, replayed.anchored]

theorem latest_numbered : chain.numberOf history.latest.hash = history.latest.number := by
  have within := replayed.latest_index refines
  rw [replayed.numbered _ _ replayed.latest]
  omega

theorem latest_replays : ReplaysTo chain history.latest.hash (history.stateAt history.latest.number) := by
  have within := replayed.latest_index refines
  have found := replayed.replays _ _ replayed.latest
  rwa [show chain.anchor.number + (history.latest.number - chain.anchor.number) = history.latest.number by omega] at found

theorem child_of_latest (block : BlockWithParent × BlockStateDiff) (onChain : OnChain chain block.1) (stored : ProofsDb × WriteCounts)
    (succeeded : db.storeTrieUpdatesAppendOnly block.1 block.2 = .ok stored) :
    history.latest.hash = block.1.parent ∧ block.1.block.number = history.latest.number + 1 := by
  have child : history.latest.hash = block.1.parent := by
    by_contra apart
    simp [ProofsDb.storeTrieUpdatesAppendOnly, refines.latest, apart] at succeeded
  exact ⟨child, by rw [onChain.2, ← child, replayed.latest_numbered refines]⟩

theorem append (block : BlockWithParent × BlockStateDiff) (onChain : OnChain chain block.1) (stored : ProofsDb × WriteCounts)
    (succeeded : db.storeTrieUpdatesAppendOnly block.1 block.2 = .ok stored)
    (justified : ReplaysTo chain block.1.block.hash ((history.stateAt history.latest.number).applyDiff block.2)) :
    ∃ after, Refines stored.1 after ∧ Replayed chain after (hashes ++ [block.1.block.hash]) := by
  have within := replayed.latest_index refines
  have length := replayed.hashes_length
  obtain ⟨child, next⟩ := replayed.child_of_latest refines block onChain stored succeeded
  obtain ⟨after, counts, appended, afterRefines⟩ := append_refines db history refines block child next
  obtain rfl : stored = (after, counts) := Except.ok.inj (succeeded.symm.trans appended)
  have newest : ∀ (index : Nat) (hash : B256), (hashes ++ [block.1.block.hash])[index]? = some hash →
      hashes[index]? = some hash ∨ index = hashes.length ∧ hash = block.1.block.hash := by
    intro index hash found
    by_cases inside : index < hashes.length
    · exact .inl (by rwa [List.getElem?_append_left inside] at found)
    · rw [List.getElem?_append_right (by omega)] at found
      have last : index - hashes.length = 0 := by
        by_contra beyond
        rw [List.getElem?_eq_none (by simp; omega)] at found
        cases found
      rw [last] at found
      exact .inr ⟨by omega, (Option.some.inj found).symm⟩
  refine ⟨history.appended block, afterRefines, replayed.anchored, replayed.started, ?_, ?_, ?_, ?_, ?_⟩
  · rw [replayed.listed, History.appended]
    simp
  · intro index hash found
    rcases newest index hash found with older | ⟨rfl, rfl⟩
    · exact replayed.numbered index hash older
    · rw [onChain.1, next]
      omega
  · intro index hash found
    rcases newest index hash found with older | ⟨rfl, rfl⟩
    · have inside : index < hashes.length := (List.getElem?_eq_some_iff.mp older).1
      rw [appended_older db history refines block _ (by omega)]
      exact replayed.replays index hash older
    · rw [show chain.anchor.number + hashes.length = history.latest.number + 1 by omega, appended_newest db history refines block]
      exact justified
  · exact List.getElem?_append_left (List.getElem?_eq_some_iff.mp replayed.earliest).1 ▸ replayed.earliest
  · rw [History.appended, show block.1.block.number - chain.anchor.number = hashes.length by omega]
    simp

theorem cut (last : NumHash) (above : history.earliest.number ≤ last.number)
    (stored : hashes[last.number - chain.anchor.number]? = some last.hash) :
    Replayed chain (history.cut last) (hashes.take (last.number - chain.anchor.number + 1)) := by
  have anchored := replayed.anchored ▸ refines.anchored
  have kept : ∀ (index : Nat) (hash : B256), (hashes.take (last.number - chain.anchor.number + 1))[index]? = some hash →
      index ≤ last.number - chain.anchor.number ∧ hashes[index]? = some hash := by
    intro index hash found
    rw [List.getElem?_take] at found
    split at found
    · next inside => exact ⟨by omega, found⟩
    · cases found
  refine ⟨replayed.anchored, replayed.started, ?_, fun index hash found => replayed.numbered index hash (kept index hash found).2, ?_, ?_, ?_⟩
  · rw [replayed.listed, List.take_succ_cons, History.cut, List.map_take, replayed.anchored]
  · intro index hash found
    rw [state_after_cut history last _ (by have := (kept index hash found).1; omega)]
    exact replayed.replays index hash (kept index hash found).2
  · rw [List.getElem?_take, if_pos (by dsimp only [History.cut]; omega)]
    exact replayed.earliest
  · rw [List.getElem?_take, if_pos (by dsimp only [History.cut]; omega)]
    exact stored

theorem genuine_justified (blockRef : BlockWithParent) (diff : BlockStateDiff) (genuine : Genuine chain blockRef diff)
    (child : history.latest.hash = blockRef.parent) :
    ReplaysTo chain blockRef.block.hash ((history.stateAt history.latest.number).applyDiff diff) := by
  obtain ⟨block, rfl, executes⟩ := genuine
  have parent := replayed.latest_replays refines
  rw [child] at parent
  obtain ⟨provider, presents, executed⟩ := executes _ parent
  exact .child _ provider block diff parent presents executed

omit replayed refines

theorem store_all (blocks : List (BlockWithParent × BlockStateDiff)) {db after : ProofsDb} {history : History} {hashes : List B256}
    (replayed : Replayed chain history hashes) (refines : Refines db history)
    (fits : ∀ block ∈ blocks, OnChain chain block.1 ∧ Genuine chain block.1 block.2) (succeeded : db.storeAll blocks = .ok after) :
    ∃ next, Refines after next ∧ Replayed chain next (hashes ++ blocks.map (fun block => block.1.block.hash)) := by
  induction blocks generalizing db history hashes with
  | nil =>
      cases succeeded
      exact ⟨history, refines, by simpa using replayed⟩
  | cons block rest ih =>
      obtain ⟨onChain, genuine⟩ := fits block List.mem_cons_self
      rw [ProofsDb.storeAll, List.foldlM_cons, bind_ok] at succeeded
      obtain ⟨between, first, later⟩ := succeeded
      cases stored : db.storeTrieUpdatesAppendOnly block.1 block.2 with
      | error error => rw [stored] at first; cases first
      | ok written =>
          rw [stored] at first
          cases first
          have child := (replayed.child_of_latest refines block onChain written stored).1
          obtain ⟨next, nextRefines, nextReplayed⟩ := replayed.append refines block onChain written stored
            (replayed.genuine_justified refines block.1 block.2 genuine child)
          obtain ⟨final, finalRefines, finalReplayed⟩ := ih nextReplayed nextRefines
            (fun other member => fits other (List.mem_cons_of_mem block member)) later
          exact ⟨final, finalRefines, by simpa using finalReplayed⟩

end Replayed

def EntryFits (chain : Replaying β ω) (entry : BatchBlock β) : Prop :=
  OnChain chain entry.blockRef ∧
    match entry with
    | .cached blockWithParent diff => Genuine chain blockWithParent diff
    | .execute _ => True

section Entries

variable (chain : Replaying β ω)

theorem executed_justified {db : ProofsDb} {history : History} {hashes : List B256} (replayed : Replayed chain history hashes)
    (refines : Refines db history) (block : RecoveredBlock β) (diff : BlockStateDiff) (child : history.latest.hash = block.parentHash)
    (numbered : block.number = history.latest.number + 1)
    (executed : chain.collector.executeOnParent db block history.earliest.number history.latest.number = .ok diff) :
    ReplaysTo chain block.hash ((history.stateAt history.latest.number).applyDiff diff) := by
  have parent : LiveTrieCollector.parentBlockNumber block = history.latest.number := by
    rw [LiveTrieCollector.parentBlockNumber, numbered]
  simp only [LiveTrieCollector.executeOnParent, parent, bind_ok] at executed
  obtain ⟨_, _, _, _, ran⟩ := executed
  have serves := refined_serves db history refines history.latest.number refines.window le_rfl
  exact .child _ _ block diff (child ▸ replayed.latest_replays refines) (serves_presents chain.collector.keccak256 db _ _ serves) ran

theorem entry_replayed (entry : BatchBlock β) (fits : EntryFits chain entry) {db : ProofsDb} {history : History} {hashes : List B256}
    (replayed : Replayed chain history hashes) (refines : Refines db history) (staged : ProofsDb)
    (succeeded : chain.collector.storeEntry entry db = .ok () staged) :
    ∃ after, Refines staged after ∧ Replayed chain after (hashes ++ [entry.blockRef.block.hash]) := by
  obtain ⟨onChain, source⟩ := fits
  obtain ⟨block, counts, found, stored⟩ := entry_stores chain.collector db entry () staged succeeded
  have appended := store_appends db block counts staged stored
  cases entry with
  | cached blockWithParent diff =>
      cases found
      have child := (replayed.child_of_latest refines (blockWithParent, diff) onChain _ appended).1
      exact replayed.append refines _ onChain _ appended (replayed.genuine_justified refines blockWithParent diff source child)
  | execute recovered =>
      simp only [entryUpdates, refines.earliest, refines.latest, bind_ok] at found
      obtain ⟨diff, executed, own⟩ := found
      cases own
      obtain ⟨child, numbered⟩ := replayed.child_of_latest refines (recovered.blockRef, diff) onChain _ appended
      exact replayed.append refines _ onChain _ appended
        (executed_justified chain replayed refines recovered diff child numbered executed)

theorem entries_replayed (entries : List (BatchBlock β)) (fits : ∀ entry ∈ entries, EntryFits chain entry) {db : ProofsDb}
    {history : History} {hashes : List B256} (replayed : Replayed chain history hashes) (refines : Refines db history) (staged : ProofsDb)
    (succeeded : (entries.forM chain.collector.storeEntry) db = .ok () staged) :
    ∃ after, Refines staged after ∧ Replayed chain after (hashes ++ entries.map (fun entry => entry.blockRef.block.hash)) := by
  induction entries generalizing db history hashes with
  | nil =>
      cases succeeded
      exact ⟨history, refines, by simpa using replayed⟩
  | cons entry rest ih =>
      change EStateM.bind (chain.collector.storeEntry entry) (fun _ => rest.forM _) db = _ at succeeded
      simp only [EStateM.bind] at succeeded
      cases first : chain.collector.storeEntry entry db with
      | error error left => rw [first] at succeeded; cases succeeded
      | ok value between =>
          rw [first] at succeeded
          obtain ⟨next, nextRefines, nextReplayed⟩ := entry_replayed chain entry (fits entry List.mem_cons_self) replayed refines between first
          obtain ⟨final, finalRefines, finalReplayed⟩ := ih (fun other member => fits other (List.mem_cons_of_mem entry member)) nextReplayed
            nextRefines succeeded
          exact ⟨final, finalRefines, by simpa using finalReplayed⟩

theorem batch_replayed (entries : List (BatchBlock β)) (fits : ∀ entry ∈ entries, EntryFits chain entry) {db : ProofsDb} {history : History}
    {hashes : List B256} (replayed : Replayed chain history hashes) (refines : Refines db history)
    (succeeded : (chain.collector.executeAndStoreBatch entries db).1 = .ok ()) :
    ∃ after, Refines (chain.collector.executeAndStoreBatch entries db).2 after ∧
      Replayed chain after (hashes ++ entries.map (fun entry => entry.blockRef.block.hash)) := by
  rw [batch_transacts chain.collector entries db history.earliest refines.earliest, transact] at succeeded ⊢
  cases ran : (entries.forM chain.collector.storeEntry) db with
  | error error left => rw [ran] at succeeded; cases succeeded
  | ok value staged => exact entries_replayed chain entries fits replayed refines staged ran

end Entries

theorem replace_succeeds (common : NumHash) (blocks : List (BlockWithParent × BlockStateDiff)) (db : ProofsDb)
    (succeeded : (commitReplace common blocks db).1 = .ok ()) :
    db.replaceUpdates common blocks = .ok (commitReplace common blocks db).2 := by
  rw [commitReplace, transact_computes _ db _ (replace_computes common blocks db)] at succeeded ⊢
  cases replaced : db.replaceUpdates common blocks with
  | error error => rw [replaced] at succeeded; cases succeeded
  | ok result => rfl

inductive CollectorOperation (β : Type) where
  | executeAndStoreBlockUpdates (block : RecoveredBlock β)
  | storeBlockUpdates (block : BlockWithParent) (diff : BlockStateDiff)
  | executeAndStoreBatch (blocks : List (BatchBlock β))
  | unwindAndStoreBlockUpdates (blockUpdates : List (BlockWithParent × BlockStateDiff))
  | unwindHistory (unwindTo : BlockWithParent)
  | pruneEarliestState (newEarliestBlockRef : BlockWithParent)

-- The store, and beside it the hashes of the blocks that went into it.
structure Collected where
  db : ProofsDb
  hashes : List B256

namespace Collected

-- A call that fails has stored no block.
def ended (before : Collected) (result : Except MorphProofsStorageError Unit × ProofsDb) (hashes : List B256) : Collected where
  db := result.2
  hashes := if result.1.isOk then hashes else before.hashes

def apply (chain : Replaying β ω) (state : Collected) : CollectorOperation β → Collected
  | .executeAndStoreBlockUpdates block =>
      state.ended (transact (chain.collector.executeAndStoreBlockUpdates block) state.db) (state.hashes ++ [block.hash])
  | .storeBlockUpdates block diff =>
      -- A block out of order is skipped without an error.
      let stored := LiveTrieCollector.storeBlockUpdates block diff state.db
      state.ended stored (if (transact (storeTrieUpdates (block, diff)) state.db).1.isOk then state.hashes ++ [block.block.hash] else state.hashes)
  | .executeAndStoreBatch blocks =>
      state.ended (chain.collector.executeAndStoreBatch blocks state.db) (state.hashes ++ blocks.map (fun entry => entry.blockRef.block.hash))
  | .unwindAndStoreBlockUpdates blockUpdates =>
      state.ended (LiveTrieCollector.unwindAndStoreBlockUpdates blockUpdates state.db)
        (match blockUpdates with
        | [] => state.hashes
        | first :: _ =>
            state.hashes.take (first.1.block.number - 1 - chain.anchor.number + 1) ++
              (ProofsDb.sortBlocks blockUpdates).map (fun block => block.1.block.hash))
  | .unwindHistory unwindTo =>
      state.ended (LiveTrieCollector.unwindHistory unwindTo state.db) (state.hashes.take (unwindTo.block.number - chain.anchor.number))
  | .pruneEarliestState newEarliestBlockRef => ⟨state.db.commitUpdate (.pruneEarliestState newEarliestBlockRef), state.hashes⟩

-- Blocks come from one tree of headers, cached updates from executions, and a
-- caller that names a stored block names it with its hash.
def Fits (chain : Replaying β ω) (state : Collected) : CollectorOperation β → Prop
  | .executeAndStoreBlockUpdates block => OnChain chain block.blockRef
  | .storeBlockUpdates block diff => OnChain chain block ∧ Genuine chain block diff
  | .executeAndStoreBatch blocks => ∀ entry ∈ blocks, EntryFits chain entry
  | .unwindAndStoreBlockUpdates blockUpdates =>
      (∀ block ∈ blockUpdates, OnChain chain block.1 ∧ Genuine chain block.1 block.2) ∧
        ∀ first ∈ blockUpdates.head?, ∀ window ∈ state.db.proofWindow,
          window.earliest.number ≤ first.1.block.number - 1 ∧ first.1.block.number - 1 ≤ window.latest.number ∧
            state.hashes[first.1.block.number - 1 - chain.anchor.number]? = some first.1.parent
  | .unwindHistory unwindTo =>
      ∀ window ∈ state.db.proofWindow, window.earliest.number < unwindTo.block.number → unwindTo.block.number ≤ window.latest.number →
        state.hashes[unwindTo.block.number - 1 - chain.anchor.number]? = some unwindTo.parent
  | .pruneEarliestState newEarliestBlockRef =>
      ∀ window ∈ state.db.proofWindow, window.earliest.number < newEarliestBlockRef.block.number →
        newEarliestBlockRef.block.number ≤ window.latest.number →
          state.hashes[newEarliestBlockRef.block.number - chain.anchor.number]? = some newEarliestBlockRef.block.hash

def Tracks (chain : Replaying β ω) (state : Collected) : Prop :=
  ∃ history, Refines state.db history ∧ Replayed chain history state.hashes

theorem tracks_ended {chain : Replaying β ω} {state : Collected} (tracks : Tracks chain state)
    {result : Except MorphProofsStorageError Unit × ProofsDb} {hashes : List B256}
    (kept : ∀ error, result.1 = .error error → result.2 = state.db)
    (stored : result.1 = .ok () → ∃ history, Refines result.2 history ∧ Replayed chain history hashes) :
    Tracks chain (state.ended result hashes) := by
  obtain ⟨outcome, db⟩ := result
  cases outcome with
  | error error =>
      obtain rfl : db = state.db := kept error rfl
      exact tracks
  | ok value => exact stored rfl

theorem unwind_tracks {chain : Replaying β ω} {state : Collected} (tracks : Tracks chain state) {unwindTo : BlockWithParent}
    (fits : Fits chain state (.unwindHistory unwindTo)) : Tracks chain (state.apply chain (.unwindHistory unwindTo)) := by
  obtain ⟨history, refines, replayed⟩ := tracks
  have window := refined_window state.db history refines
  have lands := fits _ window
  have agrees := update_agrees state.db history refines (.unwindHistory unwindTo) trivial
  refine tracks_ended ⟨history, refines, replayed⟩ (fun error failed => ?_) (fun succeeded => ?_)
  · rw [LiveTrieCollector.unwindHistory] at failed ⊢
    cases unwound : state.db.unwindHistory unwindTo with
    | error found => rfl
    | ok after => rw [unwound] at failed; cases failed
  · rw [LiveTrieCollector.unwindHistory] at succeeded ⊢
    simp only [ProofsDb.update, History.update, History.unwind] at agrees
    cases unwound : state.db.unwindHistory unwindTo with
    | error found => rw [unwound] at succeeded; cases succeeded
    | ok after =>
        rw [unwound] at agrees
        have anchored := replayed.anchored ▸ refines.anchored
        have length := replayed.hashes_length
        have top := replayed.latest_index refines
        by_cases beyond : history.latest.number < unwindTo.block.number
        · rw [if_pos beyond] at agrees
          refine ⟨history, agrees, ?_⟩
          rwa [List.take_of_length_le (by omega)]
        · rw [if_neg beyond] at agrees
          by_cases early : unwindTo.block.number ≤ history.earliest.number
          · rw [if_pos early] at agrees
            exact agrees.elim
          · rw [if_neg early] at agrees
            refine ⟨_, agrees, ?_⟩
            have cut := replayed.cut refines ⟨unwindTo.block.number - 1, unwindTo.parent⟩ (by dsimp only; omega)
              (lands (by dsimp only; omega) (by dsimp only; omega))
            rwa [show unwindTo.block.number - 1 - chain.anchor.number + 1 = unwindTo.block.number - chain.anchor.number by omega] at cut

theorem prune_tracks {chain : Replaying β ω} {state : Collected} (tracks : Tracks chain state) {newEarliestBlockRef : BlockWithParent}
    (fits : Fits chain state (.pruneEarliestState newEarliestBlockRef)) :
    Tracks chain (state.apply chain (.pruneEarliestState newEarliestBlockRef)) := by
  obtain ⟨history, refines, replayed⟩ := tracks
  have named := fits _ (refined_window state.db history refines)
  refine ⟨_, commit_refines state.db history refines (.pruneEarliestState newEarliestBlockRef) trivial, ?_⟩
  change Replayed chain _ state.hashes
  simp only [History.commitUpdate, History.update, History.prune]
  by_cases beyond : history.latest.number < newEarliestBlockRef.block.number
  · simpa [beyond] using replayed
  · by_cases early : newEarliestBlockRef.block.number ≤ history.earliest.number
    · simpa [beyond, early] using replayed
    · simp only [beyond, early, if_false]
      exact { replayed with earliest := named (by dsimp only; omega) (by dsimp only; omega) }

theorem replace_tracks {chain : Replaying β ω} {state : Collected} (tracks : Tracks chain state)
    {blockUpdates : List (BlockWithParent × BlockStateDiff)} (fits : Fits chain state (.unwindAndStoreBlockUpdates blockUpdates)) :
    Tracks chain (state.apply chain (.unwindAndStoreBlockUpdates blockUpdates)) := by
  cases blockUpdates with
  | nil => exact tracks
  | cons first rest =>
      obtain ⟨history, refines, replayed⟩ := tracks
      obtain ⟨each, lands⟩ := fits
      obtain ⟨above, within, stored⟩ := lands first rfl _ (refined_window state.db history refines)
      refine tracks_ended ⟨history, refines, replayed⟩ (fun error failed => transact_error _ _ error failed) (fun succeeded => ?_)
      have replaced := replace_succeeds _ _ _ succeeded
      have cutRefines := cut_refines state.db history refines ⟨first.1.block.number - 1, first.1.parent⟩ above within
      have cutReplayed := replayed.cut refines ⟨first.1.block.number - 1, first.1.parent⟩ above stored
      exact Replayed.store_all (ProofsDb.sortBlocks (first :: rest)) cutReplayed cutRefines
        (fun block member => each block (List.mem_insertionSort _ |>.mp member)) replaced

theorem entry_tracks (chain : Replaying β ω) (state : Collected) (tracks : Tracks chain state) (entry : BatchBlock β)
    (fits : EntryFits chain entry) :
    Tracks chain (state.ended (transact (chain.collector.storeEntry entry) state.db) (state.hashes ++ [entry.blockRef.block.hash])) := by
  refine tracks_ended tracks (transact_error _ state.db) (fun succeeded => ?_)
  obtain ⟨history, refines, replayed⟩ := tracks
  rw [transact] at succeeded ⊢
  cases stored : chain.collector.storeEntry entry state.db with
  | error error left => rw [stored] at succeeded; cases succeeded
  | ok value staged => exact entry_replayed chain entry fits replayed refines staged stored

theorem batch_tracks (chain : Replaying β ω) (state : Collected) (tracks : Tracks chain state) (blocks : List (BatchBlock β))
    (fits : ∀ entry ∈ blocks, EntryFits chain entry) : Tracks chain (state.apply chain (.executeAndStoreBatch blocks)) := by
  refine tracks_ended tracks (fun error failed => ?_) (fun succeeded => ?_)
  · obtain ⟨history, refines, _⟩ := tracks
    rw [batch_transacts chain.collector blocks state.db history.earliest refines.earliest] at failed ⊢
    exact transact_error _ state.db error failed
  · obtain ⟨history, refines, replayed⟩ := tracks
    exact batch_replayed chain blocks fits replayed refines succeeded

theorem store_tracks {chain : Replaying β ω} {state : Collected} (tracks : Tracks chain state) {block : BlockWithParent}
    {diff : BlockStateDiff} (fits : Fits chain state (.storeBlockUpdates block diff)) :
    Tracks chain (state.apply chain (.storeBlockUpdates block diff)) := by
  have entry := entry_tracks chain state tracks (.cached block diff) fits
  have stored : transact (chain.collector.storeEntry (.cached block diff)) state.db =
      ((transact (storeTrieUpdates (block, diff)) state.db).1.map (fun _ => ()), (transact (storeTrieUpdates (block, diff)) state.db).2) := by
    simp only [transact, LiveTrieCollector.storeEntry, bind, EStateM.bind]
    cases storeTrieUpdates (block, diff) state.db with
    | error error left => rfl
    | ok counts staged => rfl
  rw [stored] at entry
  simp only [apply, LiveTrieCollector.storeBlockUpdates]
  cases outcome : (transact (storeTrieUpdates (block, diff)) state.db).1 with
  | error error =>
      rw [transact_error _ state.db error outcome]
      cases error <;> exact tracks
  | ok counts =>
      rw [outcome] at entry
      exact entry

theorem operation_tracks (chain : Replaying β ω) (state : Collected) (operation : CollectorOperation β) (tracks : Tracks chain state)
    (fits : Fits chain state operation) : Tracks chain (state.apply chain operation) := by
  cases operation with
  | executeAndStoreBlockUpdates block => exact entry_tracks chain state tracks (.execute block) ⟨fits, trivial⟩
  | storeBlockUpdates block diff => exact store_tracks tracks fits
  | executeAndStoreBatch blocks => exact batch_tracks chain state tracks blocks fits
  | unwindAndStoreBlockUpdates blockUpdates => exact replace_tracks tracks fits
  | unwindHistory unwindTo => exact unwind_tracks tracks fits
  | pruneEarliestState newEarliestBlockRef => exact prune_tracks tracks fits

end Collected

theorem start_replayed (chain : Replaying β ω) (db : ProofsDb) (started : chain.initial = db.initialState)
    (numbered : chain.numberOf chain.anchor.hash = chain.anchor.number) :
    Replayed chain (History.start db chain.anchor) [chain.anchor.hash] := by
  have only : ∀ (index : Nat) (hash : B256), [chain.anchor.hash][index]? = some hash → index = 0 ∧ chain.anchor.hash = hash := by
    intro index hash found
    simpa [List.getElem?_singleton] using found
  refine ⟨rfl, started.symm, rfl, fun index hash found => ?_, fun index hash found => ?_, ?_, ?_⟩
  · obtain ⟨rfl, rfl⟩ := only index hash found
    exact numbered
  · obtain ⟨rfl, rfl⟩ := only index hash found
    rw [start_state, ← started]
    exact .anchor
  · simp [History.start]
  · simp [History.start]

theorem collected_window_replays (chain : Replaying β ω) (db : ProofsDb) (initial : InitialStore db chain.anchor)
    (started : chain.initial = db.initialState) (numbered : chain.numberOf chain.anchor.hash = chain.anchor.number)
    (operations : List (CollectorOperation β))
    (fits : EachAllowed (Collected.apply chain) (Collected.Fits chain) ⟨db, [chain.anchor.hash]⟩ operations) :
    let final := runSteps (Collected.apply chain) ⟨db, [chain.anchor.hash]⟩ operations
    ∃ window, final.db.proofWindow = some window ∧
      final.hashes[window.earliest.number - chain.anchor.number]? = some window.earliest.hash ∧
      final.hashes[window.latest.number - chain.anchor.number]? = some window.latest.hash ∧
      ∀ block, window.earliest.number ≤ block → block ≤ window.latest.number →
        ∃ hash state, final.hashes[block - chain.anchor.number]? = some hash ∧ ReplaysTo chain hash state ∧ Serves final.db block state := by
  intro final
  obtain ⟨history, refines, replayed⟩ : Collected.Tracks chain final :=
    run_invariant (Collected.apply chain) (Collected.Fits chain) (Collected.Tracks chain) (Collected.operation_tracks chain) _ operations
      ⟨_, initial_refines db chain.anchor initial, start_replayed chain db started numbered⟩ fits
  refine ⟨_, refined_window final.db history refines, replayed.earliest, replayed.latest, fun block since upTo => ?_⟩
  dsimp only at since upTo
  have anchored := replayed.anchored ▸ refines.anchored
  have length := replayed.hashes_length
  have top := replayed.latest_index refines
  have inside : block - chain.anchor.number < final.hashes.length := by omega
  have found : final.hashes[block - chain.anchor.number]? = some final.hashes[block - chain.anchor.number] := List.getElem?_eq_getElem inside
  refine ⟨_, _, found, replayed.replays _ _ found, ?_⟩
  rw [show chain.anchor.number + (block - chain.anchor.number) = block by omega]
  exact refined_serves final.db history refines block since upTo

section Sample

def countingChain : Replaying (Address × B256) (Address × B256 × U256) where
  collector := countingCollector
  anchor := sampleAnchor
  initial := sampleDb.initialState
  numberOf hash := (hash % 16).toNat + 10

-- Two blocks are executed in one batch, the window moves up, and the upper
-- block is replaced.
def countingOperations : List (CollectorOperation (Address × B256)) :=
  [.executeAndStoreBatch [.execute (countingBlock 11 0xA0 0xA1 8), .execute (countingBlock 12 0xA1 0xA2 9)],
    .pruneEarliestState ⟨0xA0, ⟨11, 0xA1⟩⟩, .unwindHistory ⟨0xA1, ⟨12, 0xA2⟩⟩,
    .executeAndStoreBlockUpdates (countingBlock 12 0xA1 0xB2 9)]

theorem collected_window_replays_counting :
    let final := runSteps (Collected.apply countingChain) ⟨sampleDb, [0xA0]⟩ countingOperations
    (∃ window, final.db.proofWindow = some window ∧
        final.hashes[window.earliest.number - 10]? = some window.earliest.hash ∧
        final.hashes[window.latest.number - 10]? = some window.latest.hash ∧
        ∀ block, window.earliest.number ≤ block → block ≤ window.latest.number →
          ∃ hash state, final.hashes[block - 10]? = some hash ∧ ReplaysTo countingChain hash state ∧ Serves final.db block state) ∧
      final.hashes = [0xA0, 0xA1, 0xB2] ∧ liveStorageSlots final.db.hashedStorageHistory 12 1 = [(5, 9)] := by
  refine ⟨collected_window_replays countingChain sampleDb sample_initial rfl rfl countingOperations ?_, by decide +kernel, by decide +kernel⟩
  refine ⟨fun entry member => ?_, ?_, ?_, ?_, trivial⟩
  · rcases List.mem_pair.mp member with rfl | rfl <;> exact ⟨by decide, trivial⟩
  · dsimp only [Collected.Fits]
    decide +kernel
  · dsimp only [Collected.Fits]
    decide +kernel
  · dsimp only [Collected.Fits]
    decide +kernel

end Sample

end MorphReth.Proofs
