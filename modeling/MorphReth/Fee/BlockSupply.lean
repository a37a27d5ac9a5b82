import MorphReth.Fee.CallMode
import MorphReth.Fee.EthSettlement
import MorphReth.Holdings
import Mathlib.Data.FinEnum

set_option autoImplicit false

namespace MorphReth.Fee

open Rlp Transaction

def Journal.supply (journal : Journal) : Nat := totalHeld (fun account => (journal.balance account).toNat)

section Supply

variable (journal : Journal)

theorem supply_of_balance (other : Journal) (same : other.balance = journal.balance) : other.supply = journal.supply := by
  rw [Journal.supply, Journal.supply, same]

theorem balance_le_supply (account : Address) : (journal.balance account).toNat ≤ journal.supply :=
  held_le_total (fun account => (journal.balance account).toNat) account

theorem supply_set_balance (account : Address) (balance : U256) :
    (journal.setBalance account balance).supply + (journal.balance account).toNat = journal.supply + balance.toNat := by
  have moved := total_held_set (fun account => (journal.balance account).toNat) account balance.toNat
  simp only [Journal.supply, Journal.setBalance, apply_ite BitVec.toNat]
  exact moved

-- A credit is dropped when it overflows the account, which takes more than
-- there is.
theorem supply_incr_balance (account : Address) (amount : U256) (fits : journal.supply + amount.toNat < 2 ^ 256) :
    (journal.incrBalance account amount).supply = journal.supply + amount.toNat := by
  have held := balance_le_supply journal account
  have room : (journal.balance account).toNat + amount.toNat < 2 ^ 256 := by omega
  have moved := supply_set_balance journal account (journal.balance account + amount)
  rw [BitVec.toNat_add, Nat.mod_eq_of_lt room] at moved
  rw [Journal.incrBalance, checkedAdd, if_pos room]
  dsimp only
  omega

theorem supply_bump_nonce (ctx : FeeContext) : (bumpCallNonce ctx journal).supply = journal.supply :=
  supply_of_balance journal _ (bump_call_nonce_balance ctx journal)

end Supply

theorem slot_transfer_supply (keccak256 : Bytes → U256) (journal after : Journal) (source target token : Address) (amount slot : U256)
    (moved : transferErc20WithSlot keccak256 journal source target token amount slot = .ok after) : after.supply = journal.supply := by
  rw [transferErc20WithSlot] at moved
  split at moved
  · cases moved
  · dsimp only at moved
    split at moved
    · cases moved
      rfl
    · split at moved
      · cases moved
      · cases moved
        rfl

-- A transaction of a block: its surroundings, the frames of a token without a
-- known balance slot, and the main frame with the gas that it and the refund
-- hook leave.
structure BlockTx where
  ctx : HandlerContext
  frames : TokenFrames
  mainFrame : Journal → Journal × GasOutcome ctx.tx.gasLimit

namespace BlockTx

def deduct (tx : BlockTx) (evm : MorphEvm) : Except EVMError MorphEvm :=
  let fresh := resetCaches evm
  if tx.ctx.tx.isL1Msg then .ok { fresh with journal := bumpCallNonce tx.ctx.feeContext fresh.journal }
  else if tx.ctx.tx.paysInToken then tx.frames.validateAndDeductTokenFee tx.ctx.feeContext fresh (tx.ctx.tx.feeTokenId.getD 0)
  else (validateAndDeductEthFee tx.ctx fresh).mapError .transaction

def reimburse (tx : BlockTx) (evm : MorphEvm) (gas : Gas) : Except EVMError MorphEvm :=
  if tx.ctx.tx.isL1Msg then .ok evm
  else if tx.ctx.tx.paysInToken then
    if evm.cachedTokenFeeInfo.isNone then .ok evm else tx.frames.reimburseCallerTokenFee tx.ctx.feeContext evm gas
  else .ok (reimburseCallerEth tx.ctx evm gas)

def execute (evm : MorphEvm) (tx : BlockTx) : Except EVMError MorphEvm := do
  let charged ← tx.deduct evm
  let frame := tx.mainFrame charged.journal
  let reimbursed ← tx.reimburse { charged with journal := frame.1 } frame.2.gas
  .ok (rewardBeneficiary tx.ctx reimbursed frame.2.gas)

end BlockTx

def SupplyMoves (related : Nat → Nat → Prop) (after before : Journal) : Prop := related after.supply before.supply

structure FramesMove (related : Nat → Nat → Prop) (tx : BlockTx) : Prop where
  main : ∀ journal, SupplyMoves related (tx.mainFrame journal).1 journal
  token : ∀ caller target calldata isStatic, Maintains (SupplyMoves related) (tx.frames.evmCall caller target calldata isStatic)

-- A block is executed with the fees charged and the balances checked.
structure Charged (tx : BlockTx) : Prop where
  charging : tx.ctx.isFeeChargeDisabled = false
  checking : tx.ctx.isBalanceCheckDisabled = false

section Transaction

variable {related : Nat → Nat → Prop} (relation : TotalRelation related) {tx : BlockTx} (frames : FramesMove related tx)

include relation

theorem supply_same (journal : Journal) : SupplyMoves related journal journal := relation.same _

theorem supply_follows (first second third : Journal) (earlier : SupplyMoves related second first)
    (later : SupplyMoves related third second) : SupplyMoves related third first :=
  relation.follows earlier later

theorem slot_transfer_maintains (keccak256 : Bytes → U256) (source target token : Address) (amount slot : U256) :
    Maintains (SupplyMoves related) (slotTransfer keccak256 source target token amount slot) := by
  intro journal
  rw [slotTransfer]
  cases moved : transferErc20WithSlot keccak256 journal source target token amount slot with
  | error error => exact supply_same relation journal
  | ok after =>
      dsimp only
      rw [SupplyMoves, slot_transfer_supply _ _ _ _ _ _ _ _ moved]
      exact relation.same _

include frames

theorem balance_of_maintains (token account : Address) : Maintains (SupplyMoves related) (tx.frames.evmCallBalanceOf token account) := by
  refine maintains_bind _ _ (supply_follows relation) (frames.token _ _ _ _) (fun result => ?_)
  split
  · exact maintains_throw (supply_same relation) _
  · exact maintains_pure (supply_same relation) _

theorem transfer_and_verify_maintains (source target token : Address) (amount expected : U256) :
    Maintains (SupplyMoves related) (tx.frames.transferAndVerify source target token amount expected) := by
  have adapted : Maintains (SupplyMoves related)
      (adaptTransferError (tx.frames.evmCall source token (buildTransferCalldata target amount) false)) := by
    intro journal
    have moved := frames.token source token (buildTransferCalldata target amount) false journal
    rw [adaptTransferError]
    cases ran : tx.frames.evmCall source token (buildTransferCalldata target amount) false journal with
    | ok result after =>
        rw [ran] at moved
        exact moved
    | error error left =>
        rw [ran] at moved
        exact moved
  refine maintains_bind _ _ (supply_follows relation) adapted (fun result => ?_)
  split
  · exact maintains_throw (supply_same relation) _
  · split
    · exact maintains_throw (supply_same relation) _
    · refine maintains_bind _ _ (supply_follows relation) (balance_of_maintains relation frames _ _) (fun balance => ?_)
      split
      · exact maintains_throw (supply_same relation) _
      · exact maintains_pure (supply_same relation) _

theorem evm_transfer_maintains (source target token : Address) (amount : U256) (before : Option U256) :
    Maintains (SupplyMoves related) (tx.frames.transferErc20WithEvm source target token amount before) := by
  rw [TokenFrames.transferErc20WithEvm]
  split
  · exact maintains_pure (supply_same relation) _
  · have read : Maintains (SupplyMoves related) (tx.frames.balanceBefore source token before) := by
      cases before with
      | none => exact balance_of_maintains relation frames _ _
      | some balance => exact maintains_pure (supply_same relation) _
    refine maintains_bind _ _ (supply_follows relation) read (fun balance => ?_)
    split
    · exact maintains_throw (supply_same relation) _
    · exact transfer_and_verify_maintains relation frames _ _ _ _ _

theorem load_maintains (ctx : FeeContext) (entry : TokenRegistryEntry) :
    Maintains (SupplyMoves related) (tx.frames.loadTokenFeeInfo ctx entry) := by
  rw [TokenFrames.loadTokenFeeInfo]
  split
  · exact maintains_get _ (fun _ => maintains_pure (supply_same relation) _)
  · exact maintains_bind _ _ (supply_follows relation) (balance_of_maintains relation frames _ _) (fun _ => maintains_pure (supply_same relation) _)

theorem pay_maintains (ctx : FeeContext) (info : TokenFeeInfo) (amount : U256) :
    Maintains (SupplyMoves related) (tx.frames.payTokenFee ctx info amount) := by
  rw [TokenFrames.payTokenFee]
  split
  · exact maintains_pure (supply_same relation) _
  · split
    · exact maintains_bind _ _ (supply_follows relation) (slot_transfer_maintains relation _ _ _ _ _ _)
        (fun _ => maintains_pure (supply_same relation) _)
    · exact maintains_bind _ _ (supply_follows relation) (evm_transfer_maintains relation frames _ _ _ _ _)
        (fun _ => maintains_pure (supply_same relation) _)

theorem charge_maintains (ctx : FeeContext) (entry : TokenRegistryEntry) :
    Maintains (SupplyMoves related) (tx.frames.chargeTokenFee ctx entry) := by
  have bumped : Maintains (SupplyMoves related) (modify (bumpCallNonce ctx) : EStateM EVMError Journal Unit) := by
    intro journal
    change related (bumpCallNonce ctx journal).supply journal.supply
    rw [supply_bump_nonce]
    exact relation.same _
  refine maintains_bind _ _ (supply_follows relation) (load_maintains relation frames ctx entry) (fun info => maintains_get _ (fun journal => ?_))
  dsimp only
  split
  · exact maintains_throw (supply_same relation) _
  · refine maintains_bind _ _ (supply_follows relation) (pay_maintains relation frames ctx info _) (fun refund => ?_)
    exact maintains_bind _ _ (supply_follows relation) bumped (fun _ => maintains_pure (supply_same relation) _)

theorem refund_maintains (ctx : FeeContext) (info : TokenFeeInfo) (amount : U256) :
    Maintains (SupplyMoves related) (tx.frames.refundToken ctx info amount) := by
  rw [TokenFrames.refundToken]
  split
  · exact slot_transfer_maintains relation _ _ _ _ _ _
  · exact maintains_bind _ _ (supply_follows relation) (evm_transfer_maintains relation frames _ _ _ _ _)
      (fun _ => maintains_pure (supply_same relation) _)

theorem token_deduction_supply (ctx : FeeContext) (evm deducted : MorphEvm) (tokenId : U16)
    (deduction : tx.frames.validateAndDeductTokenFee ctx evm tokenId = .ok deducted) :
    SupplyMoves related deducted.journal evm.journal := by
  simp only [TokenFrames.validateAndDeductTokenFee, bind_ok] at deduction
  obtain ⟨_, _, _, _, _, _, entry, _, deduction⟩ := deduction
  split at deduction
  · cases deduction
    rw [SupplyMoves, supply_bump_nonce]
    exact relation.same _
  · have moved := charge_maintains relation frames ctx entry evm.journal
    split at deduction
    · cases deduction
    · next charged =>
        cases deduction
        rw [charged] at moved
        exact moved

theorem token_settlement_supply (ctx : FeeContext) (evm settled : MorphEvm) (gas : Gas)
    (settlement : tx.frames.reimburseCallerTokenFee ctx evm gas = .ok settled) : SupplyMoves related settled.journal evm.journal := by
  simp only [TokenFrames.reimburseCallerTokenFee] at settlement
  split at settlement
  · cases settlement
    exact relation.same _
  · split at settlement
    · cases settlement
    · next info _ =>
        generalize (if ctx.isCeladon = true then _ else _) = amount at settlement
        split at settlement
        · cases settlement
          exact relation.same _
        · have moved := refund_maintains relation frames ctx info amount evm.journal
          split at settlement
          · next refunded =>
              cases settlement
              rw [refunded] at moved
              exact moved
          · cases settlement
          · next refunded =>
              cases settlement
              rw [refunded] at moved
              exact moved

-- The prepaid fee is out of the supply while the main frame runs. What the
-- caller and the beneficiary get back is all of it.
theorem eth_transaction_supply (charged : Charged tx) (eth : PaysEth tx.ctx.tx) (evm after : MorphEvm)
    (bounded : evm.journal.supply < 2 ^ 256) (executed : tx.execute evm = .ok after) : related after.journal.supply evm.journal.supply := by
  obtain ⟨deducted, deduction, settlement⟩ := (bind_ok _ _ _).mp executed
  simp only [BlockTx.deduct, eth.notL1Msg, eth.notToken, Bool.false_eq_true, if_false, map_error_ok] at deduction
  have hook : validateAgainstStateAndDeductCaller tx.ctx evm = .ok deducted := by
    simp only [validateAgainstStateAndDeductCaller, eth.notL1Msg, eth.notToken, Bool.false_eq_true, if_false]
    exact deduction
  obtain ⟨newBalance, computed, cached, balances⟩ := deduct_eth_fee_ok tx.ctx eth evm deducted hook
  have fee := caller_fee_exact tx.ctx charged.charging charged.checking _ _ newBalance computed
  have prepaid := supply_set_balance evm.journal tx.ctx.tx.caller newBalance
  rw [← supply_of_balance _ _ balances] at prepaid
  generalize framed : tx.mainFrame deducted.journal = frame at settlement
  have moved := frames.main deducted.journal
  rw [framed] at moved
  have kept := relation.bounds moved
  obtain ⟨settled, paidBack, journal⟩ := settle_gas_eth tx.ctx eth { deducted with journal := frame.1 } frame.2.gas
  have same : settled = after := by
    simp only [settleGas, reimburseCaller, eth.notL1Msg, eth.notToken, Bool.false_eq_true, if_false, bind, Except.bind, Except.ok.injEq] at paidBack
    simp only [BlockTx.reimburse, eth.notL1Msg, eth.notToken, Bool.false_eq_true, if_false, bind, Except.bind, Except.ok.injEq] at settlement
    exact paidBack.symm.trans settlement
  subst same
  have refund := reimbursement_nat tx.ctx frame.2 fee.gasFits
  have units := used_gas_nat tx.ctx.tx.gasLimit frame.2
  have product : tx.ctx.tx.gasLimit.toNat * tx.ctx.effectiveGasPrice.toNat =
      tx.ctx.effectiveGasPrice.toNat * (frame.2.gas.used tx.ctx.tx.gasLimit).toNat + tx.ctx.effectiveGasPrice.toNat * returnedGas frame.2.gas := by
    rw [← Nat.mul_add, units, Nat.mul_comm]
  have exactly := fee.exactly
  have rewarded := reward_nat tx.ctx frame.2 (tx.ctx.l1DataFee evm.journal) (by omega)
  simp only [cached] at journal
  have reimbursed := supply_incr_balance frame.1 tx.ctx.tx.caller (reimbursement tx.ctx frame.2.gas) (by omega)
  have total := supply_incr_balance _ tx.ctx.beneficiary (reward tx.ctx frame.2.gas (tx.ctx.l1DataFee evm.journal))
    (by rw [reimbursed]; omega)
  have shifted := relation.shift (tx.ctx.tx.gasLimit.toNat * tx.ctx.effectiveGasPrice.toNat + (tx.ctx.l1DataFee evm.journal).toNat) moved
  rw [journal, total, reimbursed]
  convert shifted using 1
  · omega
  · omega

omit relation in
theorem l1_message_supply (l1Msg : tx.ctx.tx.isL1Msg = true) (evm after : MorphEvm) (executed : tx.execute evm = .ok after) :
    related after.journal.supply evm.journal.supply := by
  simp only [BlockTx.execute, BlockTx.deduct, BlockTx.reimburse, rewardBeneficiary, l1Msg, true_or, if_true, bind, Except.bind,
    Except.ok.injEq] at executed
  rw [← executed]
  have moved := frames.main (bumpCallNonce tx.ctx.feeContext (resetCaches evm).journal)
  rwa [SupplyMoves, supply_bump_nonce] at moved

theorem token_transaction_supply (notL1Msg : tx.ctx.tx.isL1Msg = false) (token : tx.ctx.tx.paysInToken = true) (evm after : MorphEvm)
    (executed : tx.execute evm = .ok after) : related after.journal.supply evm.journal.supply := by
  obtain ⟨deducted, deduction, settlement⟩ := (bind_ok _ _ _).mp executed
  simp only [BlockTx.deduct, notL1Msg, token, Bool.false_eq_true, if_false, if_true] at deduction
  have paid := token_deduction_supply relation frames _ _ _ _ deduction
  have ran := relation.follows paid (frames.main deducted.journal)
  obtain ⟨reimbursed, refund, result⟩ := (bind_ok _ _ _).mp settlement
  simp only [rewardBeneficiary, token, or_true, if_true, Except.ok.injEq] at result
  subst result
  simp only [BlockTx.reimburse, notL1Msg, token, Bool.false_eq_true, if_false, if_true] at refund
  split at refund
  · cases refund
    exact ran
  · have back := token_settlement_supply relation frames _ _ _ _ refund
    exact relation.follows ran back

theorem transaction_supply (charged : Charged tx) (evm after : MorphEvm) (bounded : evm.journal.supply < 2 ^ 256)
    (executed : tx.execute evm = .ok after) : related after.journal.supply evm.journal.supply := by
  by_cases l1Msg : tx.ctx.tx.isL1Msg = true
  · exact l1_message_supply frames l1Msg evm after executed
  · by_cases token : tx.ctx.tx.paysInToken = true
    · exact token_transaction_supply relation frames (Bool.not_eq_true _ ▸ l1Msg) token evm after executed
    · exact eth_transaction_supply relation frames charged ⟨Bool.not_eq_true _ ▸ l1Msg, Bool.not_eq_true _ ▸ token⟩ evm after bounded executed

end Transaction

def executeTransactions (evm : MorphEvm) (txs : List BlockTx) : Except EVMError MorphEvm :=
  txs.foldlM BlockTx.execute evm

theorem transactions_supply {related : Nat → Nat → Prop} (relation : TotalRelation related) (txs : List BlockTx)
    (charged : ∀ tx ∈ txs, Charged tx) (frames : ∀ tx ∈ txs, FramesMove related tx) (evm after : MorphEvm)
    (bounded : evm.journal.supply < 2 ^ 256) (executed : executeTransactions evm txs = .ok after) :
    related after.journal.supply evm.journal.supply := by
  induction txs generalizing evm with
  | nil =>
      cases executed
      exact relation.same _
  | cons tx rest ih =>
      obtain ⟨next, first, others⟩ := (bind_ok _ _ _).mp executed
      have moved := transaction_supply relation (frames tx List.mem_cons_self) (charged tx List.mem_cons_self) evm next bounded first
      have kept := relation.bounds moved
      exact relation.follows moved (ih (fun later member => charged later (List.mem_cons_of_mem _ member))
        (fun later member => frames later (List.mem_cons_of_mem _ member)) next (by omega) others)

theorem block_conserves_eth (txs : List BlockTx) (charged : ∀ tx ∈ txs, Charged tx) (evm after : MorphEvm)
    (bounded : evm.journal.supply < 2 ^ 256) (executed : executeTransactions evm txs = .ok after) :
    ((∀ tx ∈ txs, FramesMove (fun after before => after = before) tx) → after.journal.supply = evm.journal.supply) ∧
      ((∀ tx ∈ txs, FramesMove (fun after before => after ≤ before) tx) → after.journal.supply ≤ evm.journal.supply) :=
  ⟨fun frames => transactions_supply conserved_total txs charged frames evm after bounded executed,
    fun frames => transactions_supply falling_total txs charged frames evm after bounded executed⟩

section Sample

-- The value of the sample transaction reaches its target, or nothing moves.
def sampleTransfer (journal : Journal) : Journal :=
  match checkedSub (journal.balance 0xA1) 1000 with
  | none => journal
  | some left =>
      let debited := journal.setBalance 0xA1 left
      match checkedAdd (debited.balance 0xC3) 1000 with
      | none => journal
      | some credited => debited.setBalance 0xC3 credited

theorem sample_transfer_supply (journal : Journal) : (sampleTransfer journal).supply = journal.supply := by
  rw [sampleTransfer]
  split
  · rfl
  · next left debit =>
      dsimp only
      split
      · rfl
      · next credited credit =>
          have first := supply_set_balance journal 0xA1 left
          have second := supply_set_balance (journal.setBalance 0xA1 left) 0xC3 credited
          have taken := checked_sub_some _ _ _ debit
          have given := checked_add_some _ _ _ credit
          omega

theorem erc20_transfer_balance (keccak256 : Bytes → U256) (token : Address) (slot : U256) (journal after : Journal)
    (source target : Address) (amount : U256) (moved : erc20Transfer keccak256 token slot journal source target amount = some after) :
    after.balance = journal.balance := by
  simp only [erc20Transfer, Option.bind_eq_bind, Option.bind_eq_some_iff] at moved
  obtain ⟨left, _, credited, _, result⟩ := moved
  cases result
  rfl

theorem sample_frames_supply (caller target : Address) (calldata : Bytes) (isStatic : Bool) :
    Maintains (SupplyMoves (fun after before => after = before)) (sampleFrames.evmCall caller target calldata isStatic) := by
  intro journal
  cases isStatic with
  | true => exact Eq.refl journal.supply
  | false =>
      simp only [sampleFrames, Bool.false_eq_true, if_false]
      split
      · next after ran =>
          split at ran
          · next moved =>
              cases ran
              exact supply_of_balance journal after (erc20_transfer_balance _ _ _ _ _ _ _ _ moved)
          · cases ran
            exact Eq.refl journal.supply
      · next ran =>
          split at ran
          · cases ran
          · cases ran

def sampleEthBlockTx : BlockTx := ⟨sampleEthContext, sampleFrames, fun journal => (sampleTransfer journal, sampleOutcome)⟩

def sampleL1MsgTx : BlockTx where
  ctx := { sampleEthContext with tx := { sampleEthTx with txType := l1TxTypeId, nonce := 4, gasPrice := 0, gasPriorityFee := none } }
  frames := sampleFrames
  mainFrame journal := (journal, sampleOutcome)

theorem sample_supply : sampleEthJournal.supply = 6000000 := by
  let unfunded : Journal := { sampleEthJournal with balance := fun _ => 0 }
  have empty : unfunded.supply = 0 := total_held_zero _ (fun _ => rfl)
  have funded : sampleEthJournal.supply + 0 = unfunded.supply + 6000000 := supply_set_balance unfunded 0xA1 6000000
  omega

theorem block_conserves_eth_sample :
    ∃ after, executeTransactions sampleEthStart [sampleEthBlockTx, sampleL1MsgTx] = .ok after ∧ after.journal.supply = 6000000 := by
  refine ⟨_, rfl, ?_⟩
  have start : sampleEthStart.journal.supply = 6000000 := sample_supply
  refine ((block_conserves_eth [sampleEthBlockTx, sampleL1MsgTx] ?_ sampleEthStart _ ?_ rfl).1 ?_).trans start
  · simp only [List.forall_mem_cons]
    exact ⟨⟨rfl, rfl⟩, ⟨rfl, rfl⟩, List.forall_mem_nil _⟩
  · rw [start]
    decide
  · simp only [List.forall_mem_cons]
    exact ⟨⟨sample_transfer_supply, sample_frames_supply⟩, ⟨fun _ => rfl, sample_frames_supply⟩, List.forall_mem_nil _⟩

end Sample

end MorphReth.Fee
