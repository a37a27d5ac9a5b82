import MorphReth.ParentChain
import MorphReth.Transaction.Envelope

set_option autoImplicit false

namespace MorphReth.ReferenceIndex

open Transaction

-- A signed transaction with the hash sealed into it.
structure SealedTransaction where
  envelope : MorphTxEnvelope
  txHash : B256
  deriving DecidableEq, Repr

def SealedTransaction.reference (tx : SealedTransaction) : Option B256 :=
  tx.envelope.reference

structure Block where
  parent : B256
  timestamp : Nat
  transactions : List SealedTransaction
  deriving DecidableEq, Repr

-- Every block a node can come to know, by its hash. Each hash stands for one
-- block, and through the parents for the whole chain below it.
abbrev BlockTree := B256 → Block

-- A block's number is its place in the chain.
structure CanonicalChain (tree : BlockTree) where
  hashes : List B256
  nonempty : hashes ≠ []
  linked : Linked (fun hash => (tree hash).parent) hashes

structure CanonicalBlock where
  number : Nat
  hash : B256
  timestamp : Nat
  transactions : List SealedTransaction
  deriving DecidableEq, Repr

structure CanonicalTip where
  number : Nat
  hash : B256
  timestamp : Nat
  deriving DecidableEq, Repr

namespace CanonicalChain

variable {tree : BlockTree}

def head (chain : CanonicalChain tree) : CanonicalTip where
  number := chain.hashes.length - 1
  hash := chain.hashes.getLast chain.nonempty
  timestamp := (tree (chain.hashes.getLast chain.nonempty)).timestamp

def canonicalHash (chain : CanonicalChain tree) (number : Nat) : Option B256 :=
  chain.hashes[number]?

def blockTimestamp (chain : CanonicalChain tree) (number : Nat) : Option Nat :=
  (chain.canonicalHash number).map (fun hash => (tree hash).timestamp)

def canonicalBlock (chain : CanonicalChain tree) (number : Nat) : Option CanonicalBlock :=
  (chain.canonicalHash number).map (fun hash =>
    { number := number, hash := hash, timestamp := (tree hash).timestamp, transactions := (tree hash).transactions })

-- The inclusive range of blocks, read in one snapshot; blocks the chain does
-- not have are left out.
def canonicalBlocks (chain : CanonicalChain tree) (start stop : Nat) : List CanonicalBlock :=
  (List.range' start (stop + 1 - start)).filterMap chain.canonicalBlock

def TimestampsOrdered (chain : CanonicalChain tree) : Prop :=
  chain.hashes.Pairwise (fun earlier later => (tree earlier).timestamp ≤ (tree later).timestamp)

instance (chain : CanonicalChain tree) : Decidable chain.TimestampsOrdered :=
  inferInstanceAs (Decidable (List.Pairwise _ _))

-- The number of the first block whose timestamp reaches Jade.
def jadeStart (chain : CanonicalChain tree) (jadeTimestamp : Nat) : Nat :=
  chain.hashes.findIdx (fun hash => jadeTimestamp ≤ (tree hash).timestamp)

def truncate (chain : CanonicalChain tree) (tip : Nat) : CanonicalChain tree where
  hashes := chain.hashes.take (tip + 1)
  nonempty := by simp [chain.nonempty]
  linked := linked_take _ chain.hashes chain.linked (tip + 1)

end CanonicalChain

end MorphReth.ReferenceIndex
