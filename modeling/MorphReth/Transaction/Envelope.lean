import MorphReth.Transaction.TxMorph

set_option autoImplicit false

namespace MorphReth.Transaction

open Rlp

def l1TxTypeId : UInt8 := 0x7E

structure TxL1Msg where
  queueIndex : U64
  gasLimit : U64
  target : Address
  value : U256
  sender : Address
  input : Bytes
  deriving DecidableEq, Repr

-- Signed transactions of the Ethereum types come from alloy and are carried as
-- their EIP-2718 bytes; nothing below looks inside them.
inductive MorphTxEnvelope where
  | legacy (encoded : Bytes)
  | eip2930 (encoded : Bytes)
  | eip1559 (encoded : Bytes)
  | eip7702 (encoded : Bytes)
  | l1Msg (tx : TxL1Msg)
  | morph (tx : TxMorph) (signature : Signature)
  deriving DecidableEq, Repr

namespace MorphTxEnvelope

def isL1Msg : MorphTxEnvelope → Bool
  | .l1Msg _ => true
  | _ => false

def isMorphTx : MorphTxEnvelope → Bool
  | .morph _ _ => true
  | _ => false

def queueIndex : MorphTxEnvelope → Option U64
  | .l1Msg tx => some tx.queueIndex
  | _ => none

def reference : MorphTxEnvelope → Option B256
  | .morph tx _ => tx.reference
  | _ => none

end MorphTxEnvelope

theorem queue_index_of_l1_msg (tx : MorphTxEnvelope) (isL1 : tx.isL1Msg = true) : ∃ index, tx.queueIndex = some index := by
  cases tx with
  | l1Msg message => exact ⟨message.queueIndex, rfl⟩
  | legacy | eip2930 | eip1559 | eip7702 | morph => cases isL1

theorem queue_index_of_l2_tx (tx : MorphTxEnvelope) (isL2 : tx.isL1Msg = false) : tx.queueIndex = none := by
  cases tx with
  | l1Msg message => cases isL2
  | legacy | eip2930 | eip1559 | eip7702 | morph => rfl

end MorphReth.Transaction
