import MorphReth.Consensus.Block

set_option autoImplicit false

namespace MorphReth.Engine

open Rlp Transaction Consensus

inductive MorphEngineApiError where
  | discontinuousBlockNumber (expected actual : U64)
  | wrongParentHash (expected actual : B256)
  | invalidTransaction (index : Nat) (message : String)
  | blockBuildError (message : String)
  | validationFailed (message : String)
  | executionFailed (message : String)
  | database (message : String)
  | internal (message : String)
  deriving DecidableEq, Repr

-- What the engine API reads of the node's chain.
structure Provider where
  sealedHeaderByHash : B256 → Except String (Option SealedHeader)
  latestHeader : Except String (Option SealedHeader)

structure CanonicalHead where
  number : U64
  hash : B256
  timestamp : U64
  deriving DecidableEq, Repr

def currentHead (provider : Provider) : Except MorphEngineApiError CanonicalHead :=
  match provider.latestHeader with
  | .error error => .error (.database error)
  | .ok none => .error (.internal "canonical head header not found")
  | .ok (some head) => .ok ⟨head.header.number, head.hash, head.header.timestamp⟩

def resolveBlockTag (provider : Provider) (hash : B256) (tagName : String) : Except MorphEngineApiError SealedHeader :=
  match provider.sealedHeaderByHash hash with
  | .error error => .error (.internal error)
  | .ok none => .error (.internal (tagName ++ " block " ++ toString hash ++ " not found"))
  | .ok (some header) => .ok header

end MorphReth.Engine
