import MorphReth.Rlp.Lists
import MorphReth.Words

set_option autoImplicit false

namespace MorphReth.Transaction

open Rlp

inductive TxKind where
  | create
  | call (address : Address)
  deriving DecidableEq, Repr

structure AccessListItem where
  address : Address
  storageKeys : List B256
  deriving DecidableEq, Repr

abbrev AccessList := List AccessListItem

structure SignedAuthorization where
  chainId : U256
  address : Address
  nonce : U64
  yParity : UInt8
  r : U256
  s : U256
  deriving DecidableEq, Repr

structure Signature where
  yParity : Bool
  r : U256
  s : U256
  deriving DecidableEq, Repr

def morphTxTypeId : UInt8 := 0x7F

def morphTxVersion0 : UInt8 := 0

def morphTxVersion1 : UInt8 := 1

def morphTxVersion2 : UInt8 := 2

def maxMemoLength : Nat := 64

structure TxMorph where
  chainId : U64
  nonce : U64
  gasLimit : U64
  maxFeePerGas : U128
  maxPriorityFeePerGas : U128
  kind : TxKind
  value : U256
  accessList : AccessList
  version : UInt8
  feeTokenId : U16
  feeLimit : U256
  reference : Option B256
  memo : Option Bytes
  authorizationList : List SignedAuthorization
  input : Bytes
  deriving DecidableEq, Repr

namespace TxMorph

def isV0 (tx : TxMorph) : Bool := tx.version == morphTxVersion0

def isV2 (tx : TxMorph) : Bool := tx.version == morphTxVersion2

def hasAuthorizations (tx : TxMorph) : Bool := !tx.authorizationList.isEmpty

def validateVersion (tx : TxMorph) : Except String Unit :=
  if tx.version = morphTxVersion0 then
    if tx.feeTokenId = 0 then .error "version 0 MorphTx requires FeeTokenID > 0"
    else if tx.reference.any (· != 0) then .error "version 0 MorphTx does not support Reference field"
    else if tx.memo.any (!·.isEmpty) then .error "version 0 MorphTx does not support Memo field"
    else if tx.hasAuthorizations then .error "version 0 MorphTx does not support authorization list"
    else .ok ()
  else if tx.version = morphTxVersion1 then
    if tx.feeTokenId = 0 ∧ 0 < tx.feeLimit then .error "version 1 MorphTx cannot have FeeLimit when FeeTokenID is 0"
    else if tx.hasAuthorizations then .error "version 1 MorphTx does not support authorization list"
    else .ok ()
  else if tx.version = morphTxVersion2 then
    if tx.feeTokenId = 0 ∧ 0 < tx.feeLimit then .error "version 2 MorphTx cannot have FeeLimit when FeeTokenID is 0"
    else if tx.hasAuthorizations ∧ tx.kind = .create then .error "MorphTx with an authorization list cannot create a contract"
    else .ok ()
  else .error "unsupported MorphTx version"

def validate (tx : TxMorph) : Except String Unit :=
  if tx.maxPriorityFeePerGas > tx.maxFeePerGas then .error "max priority fee per gas exceeds max fee per gas"
  else if tx.memo.any (fun memo => decide (memo.length > maxMemoLength)) then .error "memo exceeds maximum length of 64 bytes"
  else tx.validateVersion

-- Only version 2 writes its authorization list.
def encodedAuthorizationList (tx : TxMorph) : List SignedAuthorization :=
  if tx.isV2 then tx.authorizationList else []

-- An empty memo is no memo, and version 0 has no reference to write: an
-- all-zero one is the same as none.
def normalize (tx : TxMorph) : TxMorph :=
  { tx with
    reference := if tx.version = morphTxVersion0 ∧ tx.reference = some 0 then none else tx.reference
    memo := if tx.memo = some [] then none else tx.memo }

structure VersionRules (tx : TxMorph) : Prop where
  version : tx.version = morphTxVersion0 ∨ tx.version = morphTxVersion1 ∨ tx.version = morphTxVersion2
  memo : ∀ memo, tx.memo = some memo → memo.length ≤ maxMemoLength
  fee : tx.version = morphTxVersion0 → tx.feeTokenId ≠ 0
  reference : tx.version = morphTxVersion0 → tx.reference = none ∨ tx.reference = some 0
  noMemo : tx.version = morphTxVersion0 → tx.memo = none ∨ tx.memo = some []
  authorizations : tx.version ≠ morphTxVersion2 → tx.authorizationList = []

end TxMorph

theorem no_authorizations (tx : TxMorph) (none : ¬tx.hasAuthorizations = true) : tx.authorizationList = [] := by
  simpa [TxMorph.hasAuthorizations] using none

theorem validate_rules (tx : TxMorph) (valid : tx.validate = .ok ()) : tx.VersionRules := by
  rw [TxMorph.validate] at valid
  split at valid
  · cases valid
  · split at valid
    · cases valid
    · next memoFits =>
        have memo : ∀ memo, tx.memo = some memo → memo.length ≤ maxMemoLength := by
          intro memo present
          rw [present] at memoFits
          simpa using memoFits
        rw [TxMorph.validateVersion] at valid
        split at valid
        · next v0 =>
            split at valid
            · cases valid
            · next fee =>
                split at valid
                · cases valid
                · next reference =>
                    split at valid
                    · cases valid
                    · next noMemo =>
                        split at valid
                        · cases valid
                        · next none =>
                            refine ⟨.inl v0, memo, fun _ => fee, fun _ => ?_, fun _ => ?_, fun _ => no_authorizations tx none⟩
                            · cases shape : tx.reference with
                              | none => exact .inl rfl
                              | some reference => simp_all
                            · cases shape : tx.memo with
                              | none => exact .inl rfl
                              | some memo => simp_all
        · next notV0 =>
            split at valid
            · next v1 =>
                split at valid
                · cases valid
                · split at valid
                  · cases valid
                  · next none =>
                      exact ⟨.inr (.inl v1), memo, fun v0 => absurd v0 notV0, fun v0 => absurd v0 notV0, fun v0 => absurd v0 notV0,
                        fun _ => no_authorizations tx none⟩
            · split at valid
              · next v2 =>
                  exact ⟨.inr (.inr v2), memo, fun v0 => absurd v0 notV0, fun v0 => absurd v0 notV0, fun v0 => absurd v0 notV0,
                    fun notV2 => absurd v2 notV2⟩
              · cases valid

end MorphReth.Transaction
