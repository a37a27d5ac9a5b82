import MorphReth.Proofs.Store
import MorphReth.Runs

set_option autoImplicit false

namespace MorphReth.Proofs

-- What the four tables are about: the tries and the hashed state after a block.
@[ext] structure ProofState where
  accountTrie : Nibbles → Option BranchNodeCompact
  storageTrie : StorageTrieKey → Option BranchNodeCompact
  hashedAccounts : B256 → Option Account
  hashedStorage : HashedStorageKey → Option U256

-- A deleted storage trie or wiped storage loses everything of its address
-- before the diff's own entries go in; writing zero clears a slot.
def ProofState.applyDiff (state : ProofState) (diff : BlockStateDiff) : ProofState where
  accountTrie path := (diff.accountNodes.get path).getD (state.accountTrie path)
  storageTrie key :=
    match diff.storageTries.get (ofLex key).1 with
    | none => state.storageTrie key
    | some updates => (updates.storageNodes.get (ofLex key).2).getD (if updates.isDeleted then none else state.storageTrie key)
  hashedAccounts address := (diff.accounts.get address).getD (state.hashedAccounts address)
  hashedStorage key :=
    match diff.storages.get (ofLex key).1 with
    | none => state.hashedStorage key
    | some storage =>
        (storage.storageSlots.get (ofLex key).2).elim (if storage.wiped then none else state.hashedStorage key)
          (fun value => if value = 0 then none else some value)

-- The purpose of the store: the state at an anchor block and the blocks stored
-- above it, oldest first, of which the window from earliest to latest is served.
structure History where
  anchor : Nat
  initial : ProofState
  stored : List (BlockWithParent × BlockStateDiff)
  earliest : NumHash
  latest : NumHash

namespace History

def stateAt (history : History) (block : Nat) : ProofState :=
  ((history.stored.take (block - history.anchor)).map Prod.snd).foldl ProofState.applyDiff history.initial

def append (history : History) (block : BlockWithParent × BlockStateDiff) : Except MorphProofsStorageError History :=
  if history.latest.hash ≠ block.1.parent then .error (.outOfOrder block.1.block.number block.1.parent history.latest.hash)
  else .ok { history with stored := history.stored ++ [block], latest := block.1.block }

def appendAll (history : History) (blocks : List (BlockWithParent × BlockStateDiff)) : Except MorphProofsStorageError History :=
  blocks.foldlM append history

def prune (history : History) (newEarliest : NumHash) : Except MorphProofsStorageError History :=
  if history.latest.number < newEarliest.number then .error (.pruneBeyondLatest newEarliest.number history.latest.number)
  else if newEarliest.number ≤ history.earliest.number then .ok history
  else .ok { history with earliest := newEarliest }

def cut (history : History) (last : NumHash) : History :=
  { history with stored := history.stored.take (last.number - history.anchor), latest := last }

def unwind (history : History) (unwindTo : BlockWithParent) : Except MorphProofsStorageError History :=
  if history.latest.number < unwindTo.block.number then .ok history
  else if unwindTo.block.number ≤ history.earliest.number then
    .error (.unwindBeyondEarliest unwindTo.block.number history.earliest.number)
  else .ok (history.cut ⟨unwindTo.block.number - 1, unwindTo.parent⟩)

def update (history : History) : StoreOperation → Except MorphProofsStorageError History
  | .storeTrieUpdates blockRef diff => history.append (blockRef, diff)
  | .batchSession blocks failure => do
      let staged ← history.appendAll blocks
      failure.elim (.ok staged) .error
  | .pruneEarliestState blockRef => history.prune blockRef.block
  | .unwindHistory unwindTo => history.unwind unwindTo
  | .replaceUpdates common blocks => (history.cut common).appendAll (ProofsDb.sortBlocks blocks)

def commitUpdate (history : History) (operation : StoreOperation) : History :=
  match history.update operation with
  | .ok updated => updated
  | .error _ => history

end History

def NumberedFrom : Nat → List (BlockWithParent × BlockStateDiff) → Prop
  | _, [] => True
  | number, block :: rest => block.1.block.number = number ∧ NumberedFrom (number + 1) rest

-- Blocks are stored as children of the latest one, and a replacement starts at
-- the earliest block or a stored one.
def LegalOperation (history : History) : StoreOperation → Prop
  | .storeTrieUpdates blockRef _ => blockRef.block.number = history.latest.number + 1
  | .batchSession blocks _ => NumberedFrom (history.latest.number + 1) blocks
  | .pruneEarliestState _ | .unwindHistory _ => True
  | .replaceUpdates common blocks =>
      history.earliest.number ≤ common.number ∧ common.number ≤ history.latest.number ∧
        NumberedFrom (common.number + 1) (ProofsDb.sortBlocks blocks)

-- Weaker: only a block that the store accepts by its parent's hash has to be
-- numbered after its parent.
def AcceptsNumbered : NumHash → List (BlockWithParent × BlockStateDiff) → Prop
  | _, [] => True
  | latest, block :: rest =>
      latest.hash = block.1.parent → block.1.block.number = latest.number + 1 ∧ AcceptsNumbered block.1.block rest

def WellNumbered (earliest latest : NumHash) : StoreOperation → Prop
  | .storeTrieUpdates blockRef diff => AcceptsNumbered latest [(blockRef, diff)]
  | .batchSession blocks _ => AcceptsNumbered latest blocks
  | .pruneEarliestState _ | .unwindHistory _ => True
  | .replaceUpdates common blocks =>
      earliest.number ≤ common.number ∧ common.number ≤ latest.number ∧ AcceptsNumbered common (ProofsDb.sortBlocks blocks)

theorem accepts_of_numbered (latest : NumHash) (blocks : List (BlockWithParent × BlockStateDiff))
    (numbered : NumberedFrom (latest.number + 1) blocks) : AcceptsNumbered latest blocks := by
  induction blocks generalizing latest with
  | nil => trivial
  | cons block rest ih =>
      obtain ⟨first, later⟩ := numbered
      exact fun _ => ⟨first, ih block.1.block (by rw [first]; exact later)⟩

theorem well_numbered_of_legal (history : History) (operation : StoreOperation) (legal : LegalOperation history operation) :
    WellNumbered history.earliest history.latest operation := by
  cases operation with
  | storeTrieUpdates blockRef diff => exact accepts_of_numbered history.latest [(blockRef, diff)] ⟨legal, trivial⟩
  | batchSession blocks failure => exact accepts_of_numbered history.latest blocks legal
  | pruneEarliestState blockRef => trivial
  | unwindHistory unwindTo => trivial
  | replaceUpdates common blocks => exact ⟨legal.1, legal.2.1, accepts_of_numbered common _ legal.2.2⟩

instance decidableNumberedFrom : (number : Nat) → (blocks : List (BlockWithParent × BlockStateDiff)) → Decidable (NumberedFrom number blocks)
  | _, [] => isTrue trivial
  | number, block :: rest =>
      have := decidableNumberedFrom (number + 1) rest
      inferInstanceAs (Decidable (block.1.block.number = number ∧ NumberedFrom (number + 1) rest))

instance (history : History) : (operation : StoreOperation) → Decidable (LegalOperation history operation)
  | .storeTrieUpdates _ _ => inferInstanceAs (Decidable (_ = _))
  | .batchSession _ _ => inferInstanceAs (Decidable (NumberedFrom _ _))
  | .pruneEarliestState _ | .unwindHistory _ => isTrue trivial
  | .replaceUpdates _ _ => inferInstanceAs (Decidable (_ ∧ _ ∧ NumberedFrom _ _))

instance decidableAcceptsNumbered :
    (latest : NumHash) → (blocks : List (BlockWithParent × BlockStateDiff)) → Decidable (AcceptsNumbered latest blocks)
  | _, [] => isTrue trivial
  | latest, block :: rest =>
      have := decidableAcceptsNumbered block.1.block rest
      inferInstanceAs (Decidable (latest.hash = block.1.parent → block.1.block.number = latest.number + 1 ∧ AcceptsNumbered block.1.block rest))

instance (earliest latest : NumHash) : (operation : StoreOperation) → Decidable (WellNumbered earliest latest operation)
  | .storeTrieUpdates _ _ => inferInstanceAs (Decidable (AcceptsNumbered _ _))
  | .batchSession _ _ => inferInstanceAs (Decidable (AcceptsNumbered _ _))
  | .pruneEarliestState _ | .unwindHistory _ => isTrue trivial
  | .replaceUpdates _ _ => inferInstanceAs (Decidable (_ ∧ _ ∧ AcceptsNumbered _ _))

end MorphReth.Proofs
