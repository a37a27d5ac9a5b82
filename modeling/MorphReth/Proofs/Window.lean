import MorphReth.Proofs.Reachable

set_option autoImplicit false

namespace MorphReth.Proofs

open ProofsDb

-- Blocks told apart by their hashes, each numbered after its parent; only the
-- first block has no parent among them.
structure LinkedBlocks where
  contains : BlockWithParent → Prop
  sameNumber : ∀ left right, contains left → contains right → left.block.hash = right.block.hash → left.block.number = right.block.number
  linked : ∀ child parent, contains child → contains parent → child.parent = parent.block.hash → child.block.number = parent.block.number + 1
  grown : ∀ child, contains child → 0 < child.block.number → ∃ parent, contains parent ∧ child.parent = parent.block.hash

namespace LinkedBlocks

variable (blocks : LinkedBlocks)

def Has (block : NumHash) : Prop :=
  ∃ ref, blocks.contains ref ∧ ref.block = block

def Supplies : StoreOperation → Prop
  | .storeTrieUpdates blockRef _ => blocks.contains blockRef
  | .batchSession entries _ => ∀ entry ∈ entries, blocks.contains entry.1
  | .pruneEarliestState blockRef => blocks.contains blockRef
  | .unwindHistory unwindTo => blocks.contains unwindTo
  | .replaceUpdates common entries => blocks.Has common ∧ ∀ entry ∈ entries, blocks.contains entry.1

theorem child_numbered (latest : NumHash) (held : blocks.Has latest) (child : BlockWithParent) (contained : blocks.contains child)
    (parent : latest.hash = child.parent) : child.block.number = latest.number + 1 := by
  obtain ⟨ref, refContained, rfl⟩ := held
  exact blocks.linked child ref contained refContained parent.symm

variable (entries : List (BlockWithParent × BlockStateDiff))

theorem accepts (latest : NumHash) (held : blocks.Has latest) (contained : ∀ entry ∈ entries, blocks.contains entry.1) :
    AcceptsNumbered latest entries := by
  induction entries generalizing latest with
  | nil => trivial
  | cons entry rest ih =>
      have first := contained entry List.mem_cons_self
      exact fun parent => ⟨blocks.child_numbered latest held entry.1 first parent,
        ih entry.1.block ⟨entry.1, first, rfl⟩ (fun other member => contained other (List.mem_cons_of_mem entry member))⟩

theorem append_held (history after : History) (entry : BlockWithParent × BlockStateDiff) (contained : blocks.contains entry.1)
    (appended : history.append entry = .ok after) : blocks.Has after.latest := by
  rw [History.append] at appended
  split at appended
  · cases appended
  · cases appended
    exact ⟨entry.1, contained, rfl⟩

theorem append_all_held (contained : ∀ entry ∈ entries, blocks.contains entry.1) (history after : History)
    (held : blocks.Has history.latest) (appended : history.appendAll entries = .ok after) : blocks.Has after.latest :=
  fold_ok_invariant History.append (fun history => blocks.Has history.latest) entries
    (fun state entry next member _ stored => blocks.append_held state next entry (contained entry member) stored) history after held appended

theorem sorted_contained (contained : ∀ entry ∈ entries, blocks.contains entry.1) : ∀ entry ∈ sortBlocks entries, blocks.contains entry.1 :=
  fun entry member => contained entry ((List.mem_insertionSort _).mp member)

theorem unwind_held (history after : History) (unwindTo : BlockWithParent) (contained : blocks.contains unwindTo)
    (held : blocks.Has history.latest) (unwound : history.unwind unwindTo = .ok after) : blocks.Has after.latest := by
  rw [History.unwind] at unwound
  split at unwound
  · cases unwound
    exact held
  · split at unwound
    · cases unwound
    · next above =>
        cases unwound
        obtain ⟨parent, parentContained, named⟩ := blocks.grown unwindTo contained (by omega)
        have numbered := blocks.linked unwindTo parent contained parentContained named
        refine ⟨parent, parentContained, ?_⟩
        rw [History.cut, numbered, named]
        rfl

theorem update_held (history after : History) (operation : StoreOperation) (supplied : blocks.Supplies operation)
    (held : blocks.Has history.latest) (updated : history.update operation = .ok after) : blocks.Has after.latest := by
  cases operation with
  | storeTrieUpdates blockRef diff => exact blocks.append_held history after (blockRef, diff) supplied updated
  | batchSession entries failure =>
      rw [History.update, bind_ok] at updated
      obtain ⟨staged, appended, finished⟩ := updated
      cases failure with
      | none =>
          cases finished
          exact blocks.append_all_held entries supplied history after held appended
      | some error => cases finished
  | pruneEarliestState blockRef =>
      rw [History.update, History.prune] at updated
      split at updated
      · cases updated
      · split at updated
        · cases updated
          exact held
        · cases updated
          exact held
  | unwindHistory unwindTo => exact blocks.unwind_held history after unwindTo supplied held updated
  | replaceUpdates common entries =>
      exact blocks.append_all_held (sortBlocks entries) (blocks.sorted_contained entries supplied.2) (history.cut common) after supplied.1 updated

end LinkedBlocks

-- The rows of a table above the earliest block are those that the change sets
-- list.
def ListedRows {κ ν : Type} [LinearOrder κ] (db : ProofsDb) (earliest : Nat) (table : HistoryTable κ ν) (keysOf : ChangeSet → List κ) : Prop :=
  ∀ key version, earliest < version → ((table.versions key version).isSome ↔ Named db.blockChangeSet keysOf version key)

structure WellFormedWindow (db : ProofsDb) (earliest latest : Nat) : Prop where
  ordered : earliest ≤ latest
  changeSets : ∀ number, (db.blockChangeSet.get number).isSome ↔ earliest < number ∧ number ≤ latest
  accountTrie : ListedRows db earliest db.accountTrieHistory ChangeSet.accountTrieKeys
  storageTrie : ListedRows db earliest db.storageTrieHistory ChangeSet.storageTrieKeys
  hashedAccounts : ListedRows db earliest db.hashedAccountHistory ChangeSet.hashedAccountKeys
  hashedStorage : ListedRows db earliest db.hashedStorageHistory ChangeSet.hashedStorageKeys

def HasWellFormedWindow (db : ProofsDb) : Prop :=
  ∃ window, db.proofWindow = some window ∧ WellFormedWindow db window.earliest.number window.latest.number

-- A replacement starts inside the window it finds.
def ReplacesInside (db : ProofsDb) : StoreOperation → Prop
  | .replaceUpdates common _ =>
      ∀ window ∈ db.proofWindow, window.earliest.number ≤ common.number ∧ common.number ≤ window.latest.number
  | .storeTrieUpdates _ _ | .batchSession _ _ | .pruneEarliestState _ | .unwindHistory _ => True

instance (db : ProofsDb) : (operation : StoreOperation) → Decidable (ReplacesInside db operation)
  | .replaceUpdates _ _ => inferInstanceAs (Decidable (∀ window ∈ db.proofWindow, _ ∧ _))
  | .storeTrieUpdates _ _ | .batchSession _ _ | .pruneEarliestState _ | .unwindHistory _ => isTrue trivial

section Runs

variable (blocks : LinkedBlocks)

theorem supplied_well_numbered (db : ProofsDb) (history : History) (refines : Refines db history) (held : blocks.Has history.latest)
    (operation : StoreOperation) (supplied : blocks.Supplies operation) (inside : ReplacesInside db operation) :
    WellNumbered history.earliest history.latest operation := by
  cases operation with
  | storeTrieUpdates blockRef diff =>
      refine blocks.accepts [(blockRef, diff)] history.latest held (fun entry member => ?_)
      rw [List.mem_singleton.mp member]
      exact supplied
  | batchSession entries failure => exact blocks.accepts entries history.latest held supplied
  | pruneEarliestState blockRef => trivial
  | unwindHistory unwindTo => trivial
  | replaceUpdates common entries =>
      obtain ⟨above, within⟩ := inside _ (refined_window db history refines)
      exact ⟨above, within, blocks.accepts _ common supplied.1 (blocks.sorted_contained entries supplied.2)⟩

def Held (db : ProofsDb) : Prop :=
  ∃ history, Refines db history ∧ blocks.Has history.latest

theorem commit_held (db : ProofsDb) (operation : StoreOperation) (held : Held blocks db)
    (allowed : blocks.Supplies operation ∧ ReplacesInside db operation) : Held blocks (db.commitUpdate operation) := by
  obtain ⟨history, refines, latest⟩ := held
  refine ⟨_, commit_refines db history refines operation
    (supplied_well_numbered blocks db history refines latest operation allowed.1 allowed.2), ?_⟩
  rw [History.commitUpdate]
  cases updated : history.update operation with
  | error error => exact latest
  | ok after => exact blocks.update_held history after operation allowed.1 latest updated

theorem refined_well_formed (db : ProofsDb) (history : History) (refines : Refines db history) : HasWellFormedWindow db :=
  ⟨_, refined_window db history refines, refines.window, refines.changeSets, refines.accountTrie.listed, refines.storageTrie.listed,
    refines.hashedAccounts.listed, refines.hashedStorage.listed⟩

theorem window_stays_well_formed (start : ProofsDb) (anchor : NumHash) (initial : InitialStore start anchor) (anchored : blocks.Has anchor)
    (operations : List StoreOperation)
    (allowed : EachAllowed ProofsDb.commitUpdate (fun db operation => blocks.Supplies operation ∧ ReplacesInside db operation) start operations) :
    HasWellFormedWindow (runSteps ProofsDb.commitUpdate start operations) := by
  obtain ⟨history, refines, _⟩ := run_invariant _ _ (Held blocks) (commit_held blocks) start operations
    ⟨_, initial_refines start anchor initial, anchored⟩ allowed
  exact refined_well_formed _ history refines

end Runs

section Sample

-- A hundred blocks in a line, each hash one above the block's number.
def lineBlocks : LinkedBlocks where
  contains ref := ref.block.number < 100 ∧ ref.block.hash = BitVec.ofNat 256 (ref.block.number + 1) ∧ ref.parent = BitVec.ofNat 256 ref.block.number
  sameNumber := by
    rintro left right ⟨leftBound, leftHash, _⟩ ⟨rightBound, rightHash, _⟩ same
    have words := congrArg BitVec.toNat (leftHash.symm.trans (same.trans rightHash))
    simp only [BitVec.toNat_ofNat] at words
    omega
  linked := by
    rintro child parent ⟨childBound, _, childParent⟩ ⟨parentBound, parentHash, _⟩ named
    have words := congrArg BitVec.toNat (childParent.symm.trans (named.trans parentHash))
    simp only [BitVec.toNat_ofNat] at words
    omega
  grown := by
    rintro child ⟨bound, _, parent⟩ positive
    refine ⟨⟨BitVec.ofNat 256 (child.block.number - 1), ⟨child.block.number - 1, BitVec.ofNat 256 child.block.number⟩⟩, ⟨?_, ?_, rfl⟩, parent⟩
    · dsimp only
      omega
    · dsimp only
      rw [Nat.sub_add_cancel positive]

def lineBlock (number : Nat) : BlockWithParent where
  parent := BitVec.ofNat 256 number
  block := ⟨number, BitVec.ofNat 256 (number + 1)⟩

def lineStore : ProofsDb :=
  { sampleDb with earliestBlock := some (lineBlock 10).block }

theorem line_initial : InitialStore lineStore (lineBlock 10).block :=
  { sample_initial with earliest := rfl }

def lineOperations : List StoreOperation :=
  [.storeTrieUpdates (lineBlock 11) (slotDiff true 6 9), .batchSession [(lineBlock 12, slotDiff false 6 0)] none,
    .pruneEarliestState (lineBlock 11), .unwindHistory (lineBlock 12), .replaceUpdates (lineBlock 11).block [(lineBlock 12, slotDiff false 8 3)]]

theorem line_contains (number : Nat) (bound : number < 100) : lineBlocks.contains (lineBlock number) :=
  ⟨bound, rfl, rfl⟩

theorem window_stays_well_formed_sample :
    HasWellFormedWindow (runSteps ProofsDb.commitUpdate lineStore lineOperations) ∧
      liveStorageSlots (runSteps ProofsDb.commitUpdate lineStore lineOperations).hashedStorageHistory 12 1 = [(6, 9), (8, 3)] := by
  refine ⟨window_stays_well_formed lineBlocks lineStore _ line_initial ⟨_, line_contains 10 (by decide), rfl⟩ lineOperations
    ⟨⟨line_contains 11 (by decide), trivial⟩, ⟨?_, trivial⟩, ⟨line_contains 11 (by decide), trivial⟩, ⟨line_contains 12 (by decide), trivial⟩,
      ⟨⟨⟨_, line_contains 11 (by decide), rfl⟩, ?_⟩, by decide +kernel⟩, trivial⟩, by decide +kernel⟩
  · intro entry member
    rw [List.mem_singleton.mp member]
    exact line_contains 12 (by decide)
  · intro entry member
    rw [List.mem_singleton.mp member]
    exact line_contains 12 (by decide)

-- A common block below the earliest one leaves the window upside down.
theorem replace_below_earliest_breaks_window :
    InitialStore lineStore (lineBlock 10).block ∧ lineBlocks.Has (lineBlock 10).block ∧
      lineBlocks.Supplies (.replaceUpdates (lineBlock 9).block []) ∧
      ¬HasWellFormedWindow (lineStore.commitUpdate (.replaceUpdates (lineBlock 9).block [])) := by
  refine ⟨line_initial, ⟨_, line_contains 10 (by decide), rfl⟩, ⟨⟨_, line_contains 9 (by decide), rfl⟩, fun entry member => (by cases member)⟩, ?_⟩
  rintro ⟨window, found, wellFormed⟩
  have upsideDown : (lineStore.commitUpdate (.replaceUpdates (lineBlock 9).block [])).proofWindow =
    some ⟨(lineBlock 10).block, (lineBlock 9).block⟩ := rfl
  rw [upsideDown] at found
  cases found
  exact absurd wellFormed.ordered (by decide)

end Sample

end MorphReth.Proofs
