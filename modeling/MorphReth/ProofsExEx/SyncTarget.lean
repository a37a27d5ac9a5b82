import MorphReth.ProofsExEx.Chain

set_option autoImplicit false

namespace MorphReth.ProofsExEx

open Proofs

inductive SyncTargetState where
  | syncUpTo (target : Nat)
  | revertThenSync (revertTo : BlockWithParent) (syncTo : Nat)
  | revert (revertTo : BlockWithParent)
  deriving DecidableEq, Repr

namespace SyncTargetState

def deeperRevert (current new : BlockWithParent) : BlockWithParent :=
  if new.block.number ≤ current.block.number then new else current

def furtherSync (current new : Nat) : Nat :=
  if current ≤ new then new else current

def applyNext : SyncTargetState → SyncTargetState → SyncTargetState
  | .syncUpTo current, .syncUpTo new => .syncUpTo (furtherSync current new)
  | .syncUpTo _, new => new
  | .revertThenSync current _, .revert new | .revert current, .revert new => .revert (deeperRevert current new)
  | .revertThenSync currentRevert _, .revertThenSync newRevert newSync =>
      .revertThenSync (deeperRevert currentRevert newRevert) newSync
  | .revert current, .revertThenSync new syncTo => .revertThenSync (deeperRevert current new) syncTo
  | .revertThenSync revertTo syncTo, .syncUpTo target => .revertThenSync revertTo (furtherSync syncTo target)
  | .revert revertTo, .syncUpTo target => .revertThenSync revertTo target

end SyncTargetState

def cacheCapacity : Nat :=
  1024

-- The cache and the pending state are behind separate locks; each operation
-- below is one critical section.
structure SyncTarget (tree : BlockTree) where
  cache : Table Nat (ChainBlock tree)
  state : Option SyncTargetState

namespace SyncTarget

variable {tree : BlockTree}

def new : SyncTarget tree where
  cache := Table.empty
  state := none

def updateState (target : SyncTarget tree) (new : SyncTargetState) : SyncTarget tree :=
  { target with state := some (target.state.elim new (fun current => current.applyNext new)) }

def requeueState (target : SyncTarget tree) (failed : SyncTargetState) : SyncTarget tree :=
  { target with state := some (target.state.elim failed (fun newer => failed.applyNext newer)) }

def takeState (target : SyncTarget tree) : Option SyncTargetState × SyncTarget tree :=
  (target.state, { target with state := none })

def revertIsCovered (pending completed : BlockWithParent) : Bool :=
  completed.block.number < pending.block.number ∨
    (pending.block.number = completed.block.number ∧ pending.block.hash = completed.block.hash)

def markRevertComplete (target : SyncTarget tree) (revertedTo : BlockWithParent) : SyncTarget tree :=
  match target.state with
  | some (.revertThenSync revertTo syncTo) =>
      if revertIsCovered revertTo revertedTo then { target with state := some (.syncUpTo syncTo) } else target
  | some (.revert revertTo) => if revertIsCovered revertTo revertedTo then { target with state := none } else target
  | some (.syncUpTo _) | none => target

def hasPendingState (target : SyncTarget tree) : Bool :=
  target.state.isSome

-- The oldest entries go while the cache is over its capacity.
def evict (cache : Table Nat (ChainBlock tree)) : Table Nat (ChainBlock tree) where
  rows := cache.rows.drop (cache.rows.length - cacheCapacity)
  sorted := cache.sorted.drop

def insert (target : SyncTarget tree) (blockNumber : Nat) (data : ChainBlock tree) : SyncTarget tree :=
  { target with cache := evict (target.cache.put blockNumber data) }

def take (target : SyncTarget tree) (blockNumber : Nat) : Option (ChainBlock tree) × SyncTarget tree :=
  (target.cache.get blockNumber, { target with cache := target.cache.delete blockNumber })

def clearFrom (target : SyncTarget tree) (blockNumber : Nat) : SyncTarget tree :=
  { target with cache := ⟨target.cache.rows.filter (fun row => row.1 < blockNumber), target.cache.sorted.filter _⟩ }

end SyncTarget

-- Every cached block stands under its own number.
def CachedByNumber {tree : BlockTree} (target : SyncTarget tree) : Prop :=
  ∀ row ∈ target.cache.rows, row.2.number = row.1

theorem mem_evict {tree : BlockTree} (cache : Table Nat (ChainBlock tree)) (row : Nat × ChainBlock tree)
    (member : row ∈ (SyncTarget.evict cache).rows) : row ∈ cache.rows := by
  simp only [SyncTarget.evict] at member
  exact List.mem_of_mem_drop member

theorem mem_insert {tree : BlockTree} (target : SyncTarget tree) (block : ChainBlock tree) (row : Nat × ChainBlock tree)
    (member : row ∈ (target.insert block.number block).cache.rows) : row = (block.number, block) ∨ row ∈ target.cache.rows := by
  have found := (Table.get_eq_some _ row.1 row.2).mpr (mem_evict _ row member)
  rw [Table.get_put] at found
  split at found
  · next same => exact .inl (Prod.ext same (Option.some.inj found).symm)
  · exact .inr ((Table.get_eq_some _ row.1 row.2).mp found)

@[simp] theorem insert_state {tree : BlockTree} (target : SyncTarget tree) (blockNumber : Nat) (data : ChainBlock tree) :
    (target.insert blockNumber data).state = target.state := by
  simp only [SyncTarget.insert]

theorem mark_cache {tree : BlockTree} (target : SyncTarget tree) (revertedTo : BlockWithParent) :
    (target.markRevertComplete revertedTo).cache = target.cache := by
  rw [SyncTarget.markRevertComplete]
  split
  · split <;> rfl
  · split <;> rfl
  · rfl
  · rfl

section CachedByNumber

variable {tree : BlockTree} (target : SyncTarget tree) (cached : CachedByNumber target)

include cached

theorem insert_cached (block : ChainBlock tree) : CachedByNumber (target.insert block.number block) := by
  intro row member
  cases mem_insert target block row member with
  | inl inserted => rw [inserted]
  | inr older => exact cached row older

theorem take_cached (blockNumber : Nat) : CachedByNumber (target.take blockNumber).2 :=
  fun row member => cached row (List.mem_of_mem_filter member)

theorem take_number (blockNumber : Nat) (block : ChainBlock tree) (hit : (target.take blockNumber).1 = some block) :
    block.number = blockNumber :=
  cached (blockNumber, block) ((Table.get_eq_some _ blockNumber block).mp hit)

theorem clear_from_cached (blockNumber : Nat) : CachedByNumber (target.clearFrom blockNumber) :=
  fun row member => cached row (List.mem_of_mem_filter member)

end CachedByNumber

end MorphReth.ProofsExEx
