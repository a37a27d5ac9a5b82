import MorphReth.ParentChain
import MorphReth.Proofs.Models

set_option autoImplicit false

namespace MorphReth.ProofsExEx

open Proofs

structure Block where
  parent : B256
  diff : BlockStateDiff

-- Every block a node can come to know, by its hash, with the state diff that
-- executing it on its parent's state produces. Each hash stands for one block.
abbrev BlockTree := B256 → Block

def BlockTree.parentOf (tree : BlockTree) (hash : B256) : B256 :=
  (tree hash).parent

-- A block as notifications and the provider hand it over: its reference and its
-- diff are those of the block with its hash.
structure ChainBlock (tree : BlockTree) where
  blockWithParent : BlockWithParent
  diff : BlockStateDiff
  parent : blockWithParent.parent = tree.parentOf blockWithParent.block.hash
  own : diff = (tree blockWithParent.block.hash).diff

variable {tree : BlockTree}

def ChainBlock.of (number : Nat) (hash : B256) : ChainBlock tree where
  blockWithParent := ⟨tree.parentOf hash, ⟨number, hash⟩⟩
  diff := (tree hash).diff
  parent := rfl
  own := rfl

def ChainBlock.number (block : ChainBlock tree) : Nat :=
  block.blockWithParent.block.number

def ChainBlock.entry (block : ChainBlock tree) : BlockWithParent × BlockStateDiff :=
  (block.blockWithParent, block.diff)

-- The blocks of consecutive hashes, the first with the given number.
def blocksFrom : Nat → List B256 → List (ChainBlock tree)
  | _, [] => []
  | number, hash :: rest => .of number hash :: blocksFrom (number + 1) rest

-- The canonical chain from genesis up; a block's number is its place in it.
structure CanonicalChain (tree : BlockTree) where
  hashes : List B256
  nonempty : hashes ≠ []
  linked : Linked tree.parentOf hashes

namespace CanonicalChain

def blockHash (chain : CanonicalChain tree) (number : Nat) : Option B256 :=
  chain.hashes[number]?

def bestBlockNumber (chain : CanonicalChain tree) : Nat :=
  chain.hashes.length - 1

def recoveredBlock (chain : CanonicalChain tree) (number : Nat) : Option (ChainBlock tree) :=
  (chain.blockHash number).map (ChainBlock.of number)

end CanonicalChain

-- A run of consecutive blocks with at least one block in it.
structure Chain (tree : BlockTree) where
  first : ChainBlock tree
  rest : List (ChainBlock tree)

namespace Chain

def blocks (chain : Chain tree) : List (ChainBlock tree) :=
  chain.first :: chain.rest

def tip (chain : Chain tree) : ChainBlock tree :=
  chain.rest.getLast?.getD chain.first

def forkBlock (chain : Chain tree) : NumHash :=
  ⟨chain.first.number - 1, chain.first.blockWithParent.parent⟩

def ofBlocks : List (ChainBlock tree) → Option (Chain tree)
  | [] => none
  | first :: rest => some ⟨first, rest⟩

end Chain

inductive ExExNotification (tree : BlockTree) where
  | chainCommitted (new : Chain tree)
  | chainReorged (old new : Chain tree)
  | chainReverted (old : Chain tree)

-- How many leading hashes two chains share.
def commonLength : List B256 → List B256 → Nat
  | left :: leftRest, right :: rightRest => if left = right then commonLength leftRest rightRest + 1 else 0
  | _, _ => 0

-- What the node sends when its canonical chain changes: the blocks that left
-- the chain and the blocks that joined it, above the last common one.
def CanonicalChain.notification (before after : CanonicalChain tree) : Option (ExExNotification tree) :=
  let common := commonLength before.hashes after.hashes
  match Chain.ofBlocks (blocksFrom common (before.hashes.drop common)), Chain.ofBlocks (blocksFrom common (after.hashes.drop common)) with
  | none, none => none
  | none, some new => some (.chainCommitted new)
  | some old, none => some (.chainReverted old)
  | some old, some new => some (.chainReorged old new)

end MorphReth.ProofsExEx
