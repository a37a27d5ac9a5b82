import MorphReth.ReferenceIndex.Runtime

set_option autoImplicit false

namespace MorphReth.ReferenceIndex

def defaultLimit : Nat := 100

def maxLimit : Nat := 100

def maxOffset : Nat := 10000

structure ReferenceQuery where
  reference : B256
  offset : Nat
  limit : Nat
  offsetBound : offset ≤ maxOffset
  limitBound : limit ≤ maxLimit

def ReferenceQuery.new (reference : B256) (offset limit : Option Nat) : Except ReferenceIndexError ReferenceQuery :=
  if limitBound : limit.getD defaultLimit ≤ maxLimit then
    if offsetBound : offset.getD 0 ≤ maxOffset then
      .ok { reference := reference, offset := offset.getD 0, limit := limit.getD defaultLimit, offsetBound := offsetBound, limitBound := limitBound }
    else .error (.offsetTooLarge (offset.getD 0))
  else .error (.limitTooLarge (limit.getD defaultLimit))

structure ReferenceTransactionResult where
  transactionHash : B256
  blockNumber : Nat
  blockTimestamp : Nat
  transactionIndex : Nat
  deriving DecidableEq, Repr

def rowResult (row : ReferenceIndexKey × Nat) : ReferenceTransactionResult where
  transactionHash := row.1.transactionHash
  blockNumber := row.1.blockNumber
  blockTimestamp := row.2
  transactionIndex := row.1.transactionIndex

-- The cursor walk of query_at from the seek position on.
def collectPage (query : ReferenceQuery) : List (ReferenceIndexKey × Nat) → Nat → List ReferenceTransactionResult → List ReferenceTransactionResult
  | [], _, results => results
  | row :: rest, skipped, results =>
      if row.1.reference ≠ query.reference ∨ results.length ≥ query.limit then results
      else if skipped < query.offset then collectPage query rest (skipped + 1) results
      else collectPage query rest skipped (results ++ [rowResult row])

-- The query inside one read transaction of the database.
def ReferenceIndexDb.queryAt (db : ReferenceIndexDb) (query : ReferenceQuery) (canonicalTip : CanonicalTip) :
    Except ReferenceIndexError (List ReferenceTransactionResult) :=
  match db.indexedTo with
  | none => .error .indexBehind
  | some indexedTo =>
      match db.indexedBlockHash indexedTo with
      | none => .error .indexBehind
      | some indexedHash =>
          if indexedTo ≠ canonicalTip.number ∨ indexedHash ≠ canonicalTip.hash then .error .indexBehind
          else
            let seekKey : ReferenceIndexKey :=
              { reference := query.reference, blockNumber := 0, transactionIndex := 0, transactionHash := 0 }
            .ok (collectPage query (db.referenceIndex.seek seekKey) 0 [])

def System.queryAt {tree : BlockTree} (system : System tree) (query : ReferenceQuery) (canonicalTip : CanonicalTip) :
    Except ReferenceIndexError (List ReferenceTransactionResult) :=
  if system.phase = .unavailable then .error .indexUnavailable
  else if system.installed = false then .error .initializing
  else system.db.queryAt query canonicalTip

end MorphReth.ReferenceIndex
