import MorphReth.Consensus.L1Chain
import MorphReth.FifoCache

set_option autoImplicit false

namespace MorphReth.Engine

open Rlp Transaction Consensus

inductive WithdrawTrieRootExpectation where
  | skipValidation
  | verify (root : B256)
  deriving DecidableEq, Repr

def maxExpectedWithdrawTrieRoots : Nat := 4096

abbrev MorphEngineValidator := FifoCache B256 WithdrawTrieRootExpectation

def recordWithdrawTrieRootExpectation (validator : MorphEngineValidator) (blockHash : B256)
    (expectation : WithdrawTrieRootExpectation) : MorphEngineValidator :=
  validator.insert maxExpectedWithdrawTrieRoots blockHash expectation

def takeWithdrawTrieRootExpectation (validator : MorphEngineValidator) (blockHash : B256) :
    Option WithdrawTrieRootExpectation × MorphEngineValidator :=
  (validator.lookup blockHash, validator.remove blockHash)

def clearWithdrawTrieRootExpectationOnError {ε α : Type} (validator : MorphEngineValidator) (blockHash : B256)
    (result : Except ε α) : MorphEngineValidator :=
  match result with
  | .error _ => (takeWithdrawTrieRootExpectation validator blockHash).2
  | .ok _ => validator

structure MorphExecutionData where
  block : SealedBlock
  expectedWithdrawTrieRoot : Option B256

-- Zero means that the caller did not provide the value.
def payloadExpectation (payload : MorphExecutionData) : WithdrawTrieRootExpectation :=
  match payload.expectedWithdrawTrieRoot with
  | some root => if root ≠ 0 then .verify root else .skipValidation
  | none => .skipValidation

def convertPayloadToBlock (validator : MorphEngineValidator) (payload : MorphExecutionData) : SealedBlock × MorphEngineValidator :=
  (payload.block, recordWithdrawTrieRootExpectation validator payload.block.hash (payloadExpectation payload))

structure HashedStorageSorted where
  storageSlots : List (B256 × U256)
  sorted : (storageSlots.map Prod.fst).Pairwise (· < ·)

structure HashedPostStateSorted where
  storages : B256 → Option HashedStorageSorted

-- On sorted slots the binary search finds the entry of the key when there is one.
def binarySearchByKey (storage : HashedStorageSorted) (slot : B256) : Option (B256 × U256) :=
  storage.storageSlots.find? (fun entry => entry.1 == slot)

def l2MessageQueueAddress : Address := 0x5300000000000000000000000000000000000001

def l2MessageQueueWithdrawTrieRootSlot : U256 := 33

def hashedQueueAddress (keccak256 : Bytes → B256) : B256 :=
  keccak256 (toFixedBytes l2MessageQueueAddress)

def hashedWithdrawRootSlot (keccak256 : Bytes → B256) : B256 :=
  keccak256 (toFixedBytes l2MessageQueueWithdrawTrieRootSlot)

def updatedWithdrawTrieRootFromSortedHashedState (keccak256 : Bytes → B256) (stateUpdates : HashedPostStateSorted) : Option B256 :=
  match stateUpdates.storages (hashedQueueAddress keccak256) with
  | none => none
  | some storage => (binarySearchByKey storage (hashedWithdrawRootSlot keccak256)).map Prod.snd

def withdrawRootMismatch (expected actual : B256) : ConsensusError :=
  .msg ("withdraw trie root mismatch: expected " ++ toString expected ++ ", got " ++ toString actual)

def validateWithdrawTrieRootUpdate (keccak256 : Bytes → B256) (validator : MorphEngineValidator) (blockHash : B256)
    (stateUpdates : HashedPostStateSorted) : Except ConsensusError Unit × MorphEngineValidator :=
  match takeWithdrawTrieRootExpectation validator blockHash with
  | (none, rest) => (.ok (), rest)
  | (some .skipValidation, rest) => (.ok (), rest)
  | (some (.verify expected), rest) =>
      match updatedWithdrawTrieRootFromSortedHashedState keccak256 stateUpdates with
      | none => (.ok (), rest) -- the slot was not touched
      | some actual => if actual ≠ expected then (.error (withdrawRootMismatch expected actual), rest) else (.ok (), rest)

-- The upstream validator returns the block it was asked to validate.
structure ValidationOutput (blockHash : B256) where
  block : SealedBlock
  executed : block.hash = blockHash
  hashedState : HashedPostStateSorted

-- What the upstream validator does with a payload: it may convert the payload
-- itself, through the same shared cache, and it executes the block.
structure InnerValidation (blockHash : B256) where
  converts : Bool
  outcome : Except InsertBlockErrorKind (ValidationOutput blockHash)

def finishValidation (keccak256 : Bytes → B256) (validator : MorphEngineValidator) (blockHash : B256)
    (outcome : Except InsertBlockErrorKind (ValidationOutput blockHash)) :
    Except InsertBlockErrorKind (ValidationOutput blockHash) × MorphEngineValidator :=
  match outcome with
  | .error error => (.error error, clearWithdrawTrieRootExpectationOnError validator blockHash outcome)
  | .ok output => match validateWithdrawTrieRootUpdate keccak256 validator output.block.hash output.hashedState with
      | (.error error, rest) => (.error (.consensus error), rest)
      | (.ok (), rest) => (.ok output, rest)

def validatePayload (keccak256 : Bytes → B256) (tree : MorphTreeEngineValidator) (validator : MorphEngineValidator)
    (payload : MorphExecutionData) (inner : InnerValidation payload.block.hash) :
    Except InsertBlockErrorKind (ValidationOutput payload.block.hash) × MorphEngineValidator :=
  let l1Validation := validateNextL1MsgIndex tree payload.block
  match l1Validation with
  | .error error => (.error error, clearWithdrawTrieRootExpectationOnError validator payload.block.hash l1Validation)
  | .ok () =>
      let converted := if inner.converts then (convertPayloadToBlock validator payload).2 else validator
      finishValidation keccak256 converted payload.block.hash inner.outcome

def validateBlock (keccak256 : Bytes → B256) (tree : MorphTreeEngineValidator) (validator : MorphEngineValidator)
    (block : SealedBlock) (outcome : Except InsertBlockErrorKind (ValidationOutput block.hash)) :
    Except InsertBlockErrorKind (ValidationOutput block.hash) × MorphEngineValidator :=
  let l1Validation := validateNextL1MsgIndex tree block
  match l1Validation with
  | .error error => (.error error, clearWithdrawTrieRootExpectationOnError validator block.hash l1Validation)
  | .ok () => finishValidation keccak256 validator block.hash outcome

end MorphReth.Engine
