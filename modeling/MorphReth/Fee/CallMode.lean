import MorphReth.Fee.Hooks
import MorphReth.Fee.Settlement
import MorphReth.Transactions

set_option autoImplicit false

namespace MorphReth.Fee

open Rlp Transaction

inductive EVMError where
  | transaction (error : MorphInvalidTransaction)
  | database (message : String)
  | custom (message : String)
  deriving DecidableEq, Repr

structure FrameResult where
  isOk : Bool
  output : Bytes
  refunded : Int
  deriving DecidableEq, Repr

-- The frames the fee hooks run in the middle of a transaction. A frame that
-- does not succeed takes its writes back, and a static one has none.
structure TokenFrames where
  evmCall : Address → Address → Bytes → Bool → EStateM EVMError Journal FrameResult
  reverts : ∀ {caller target calldata isStatic journal result after},
    evmCall caller target calldata isStatic journal = .ok result after → result.isOk = false → after = journal
  static : ∀ {caller target calldata journal result after}, evmCall caller target calldata true journal = .ok result after → after = journal

def encodeBalanceOfCalldata (account : Address) : Bytes :=
  [0x70, 0xA0, 0x82, 0x31] ++ List.replicate 12 0 ++ toFixedBytes account

def buildTransferCalldata (target : Address) (tokenAmount : U256) : Bytes :=
  [0xA9, 0x05, 0x9C, 0xBB] ++ List.replicate 12 0 ++ toFixedBytes target ++ toFixedBytes tokenAmount

def u256FromBeSlice (slice : Bytes) : U256 := BitVec.ofNat 256 (ofDigits slice)

-- A transfer may return nothing, as old tokens do, or a word that ends in one.
def transferReturnedFailure (output : Bytes) : Prop :=
  output ≠ [] ∧ (output.length < 32 ∨ output[31]? ≠ some 1)

instance transferReturnedFailureDecidable (output : Bytes) : Decidable (transferReturnedFailure output) :=
  inferInstanceAs (Decidable (_ ∧ _))

def EVMError.ofTransferFrame : EVMError → EVMError
  | .database message => .database message
  | error => .transaction (.tokenTransferFailed ("Error: " ++ reprStr error))

def adaptTransferError {α : Type} (frame : EStateM EVMError Journal α) : EStateM EVMError Journal α := fun journal =>
  match frame journal with
  | .ok value after => .ok value after
  | .error error left => .error error.ofTransferFrame left

def slotTransfer (keccak256 : Bytes → U256) (source target token : Address) (tokenAmount tokenBalanceSlot : U256) : EStateM EVMError Journal Unit :=
  fun journal => match transferErc20WithSlot keccak256 journal source target token tokenAmount tokenBalanceSlot with
    | .ok after => .ok () after
    | .error error => .error (.transaction error) journal

structure TokenCharge where
  info : TokenFeeInfo
  roundingCredit : U256
  l1DataFee : U256
  refund : Option Int

namespace TokenFrames

variable (frames : TokenFrames)

def evmCallBalanceOf (token account : Address) : EStateM EVMError Journal U256 := do
  let result ← frames.evmCall account token (encodeBalanceOfCalldata account) true
  if result.isOk = false ∨ result.output.length < 32 then throw (.transaction .tokenBalanceQueryFailed)
  else pure (u256FromBeSlice (result.output.take 32))

-- The token's code runs between the two balances. When it succeeds and a check
-- after it fails, what it wrote stays.
def transferAndVerify (source target tokenAddress : Address) (tokenAmount expectedBalance : U256) : EStateM EVMError Journal Int := do
  let result ← adaptTransferError (frames.evmCall source tokenAddress (buildTransferCalldata target tokenAmount) false)
  if result.isOk = false then throw (.transaction (.tokenTransferFailed (reprStr result)))
  else if transferReturnedFailure result.output then throw (.transaction (.tokenTransferFailed "alt token transfer returned failure"))
  else
    let fromBalanceAfter ← frames.evmCallBalanceOf tokenAddress source
    if fromBalanceAfter ≠ expectedBalance then
      throw (.transaction (.tokenTransferFailed ("sender balance mismatch: expected " ++ toString expectedBalance.toNat ++ ", got " ++
        toString fromBalanceAfter.toNat)))
    else pure result.refunded

def balanceBefore (source tokenAddress : Address) : Option U256 → EStateM EVMError Journal U256
  | some balance => pure balance
  | none => frames.evmCallBalanceOf tokenAddress source

def transferErc20WithEvm (source target tokenAddress : Address) (tokenAmount : U256) (fromBalanceBefore : Option U256) :
    EStateM EVMError Journal Int := do
  if tokenAmount = 0 then pure 0
  else
    let before ← frames.balanceBefore source tokenAddress fromBalanceBefore
    match checkedSub before tokenAmount with
    | none => throw (.transaction (.tokenTransferFailed
        ("sender balance " ++ toString before.toNat ++ " less than token amount " ++ toString tokenAmount.toNat)))
    | some expectedBalance => frames.transferAndVerify source target tokenAddress tokenAmount expectedBalance

def loadTokenFeeInfo (ctx : FeeContext) (entry : TokenRegistryEntry) : EStateM EVMError Journal TokenFeeInfo :=
  match entry.balanceSlot with
  | some slot => do
      let journal ← get
      pure (entry.intoFeeInfo ctx.tx.caller (readBalanceFromStorage ctx.keccak256 journal.storage entry.tokenAddress ctx.tx.caller slot))
  | none => do
      let balance ← frames.evmCallBalanceOf entry.tokenAddress ctx.tx.caller
      pure (entry.intoFeeInfo ctx.tx.caller balance)

def payTokenFee (ctx : FeeContext) (info : TokenFeeInfo) (tokenAmountRequired : U256) : EStateM EVMError Journal (Option Int) :=
  if tokenAmountRequired = 0 then pure none
  else match info.balanceSlot with
    | some balanceSlot => do
        slotTransfer ctx.keccak256 ctx.tx.caller ctx.beneficiary info.tokenAddress tokenAmountRequired balanceSlot
        pure none
    | none => do
        let refund ← frames.transferErc20WithEvm ctx.tx.caller ctx.beneficiary info.tokenAddress tokenAmountRequired (some info.balance)
        pure (some refund)

def chargeWith (ctx : FeeContext) (info : TokenFeeInfo) : EStateM EVMError Journal TokenCharge := do
  let journal ← get
  let l1DataFee := ctx.l1DataFee journal
  let charge := info.ethToTokenAmountWithCredit (totalEthFee ctx l1DataFee)
  let feeLimit := info.effectiveFeeLimit (ctx.tx.feeLimit.getD 0)
  if feeLimit < charge.1 then throw (.transaction (.insufficientTokenBalance charge.1 feeLimit))
  else
    let refund ← frames.payTokenFee ctx info charge.1
    modify (bumpCallNonce ctx)
    pure ⟨info, charge.2, l1DataFee, refund⟩

def chargeTokenFee (ctx : FeeContext) (entry : TokenRegistryEntry) : EStateM EVMError Journal TokenCharge := do
  let info ← frames.loadTokenFeeInfo ctx entry
  frames.chargeWith ctx info

-- A failed deduction makes the transaction invalid and its state is dropped.
def validateAndDeductTokenFee (ctx : FeeContext) (evm : MorphEvm) (tokenId : U16) : Except EVMError MorphEvm := do
  rejectIf (tokenId = 0) (.transaction .tokenIdZeroNotSupported)
  (ctx.validateAccountNonceAndCode evm.journal).mapError (fun error => .transaction (.ethInvalidTransaction error))
  (checkTxValue ctx evm.journal).mapError .transaction
  let entry ← (loadRegistryEntry ctx evm.journal tokenId).mapError .transaction
  if ctx.isFeeChargeDisabled then .ok { evm with journal := bumpCallNonce ctx evm.journal }
  else match frames.chargeTokenFee ctx entry evm.journal with
    | .error error _ => .error error
    | .ok charge after => .ok {
        journal := after
        cachedTokenFeeInfo := some charge.info
        cachedAltFeeRoundingCredit := charge.roundingCredit
        cachedL1DataFee := charge.l1DataFee
        preFeeRefund := charge.refund.getD evm.preFeeRefund }

def refundToken (ctx : FeeContext) (info : TokenFeeInfo) (tokenAmount : U256) : EStateM EVMError Journal Unit :=
  match info.balanceSlot with
  | some balanceSlot => slotTransfer ctx.keccak256 ctx.beneficiary ctx.tx.caller info.tokenAddress tokenAmount balanceSlot
  | none => do
      let _ ← frames.transferErc20WithEvm ctx.beneficiary ctx.tx.caller info.tokenAddress tokenAmount none

-- A rejected refund is logged and the transaction goes on with whatever the
-- token wrote. Unavailable state is not a rejection.
def reimburseCallerTokenFee (ctx : FeeContext) (evm : MorphEvm) (gas : Gas) : Except EVMError MorphEvm :=
  let refund := reimburseEth ctx gas
  if refund = 0 then .ok evm
  else match evm.cachedTokenFeeInfo with
    | none => .error (.transaction (.tokenTransferFailed "cached_token_fee_info not set by validate_and_deduct_token_fee"))
    | some info =>
        let amount :=
          if ctx.isCeladon then info.ethToTokenAmountFloor refund evm.cachedAltFeeRoundingCredit
          else info.ethToTokenAmount refund
        if amount = 0 then .ok evm
        else match frames.refundToken ctx info amount evm.journal with
          | .ok () after => .ok { evm with journal := after }
          | .error (.database message) _ => .error (.database message)
          | .error _ left => .ok { evm with journal := left }

end TokenFrames

-- What a standard token's transfer does to its balances, one after the other.
def erc20Transfer (keccak256 : Bytes → U256) (token : Address) (balanceSlot : U256) (journal : Journal) (source target : Address) (amount : U256) :
    Option Journal := do
  let fromSlot := computeMappingSlotForAddress keccak256 balanceSlot source
  let toSlot := computeMappingSlotForAddress keccak256 balanceSlot target
  let left ← checkedSub (journal.storage token fromSlot) amount
  let debited := journal.sstore token fromSlot left
  let credited ← checkedAdd (debited.storage token toSlot) amount
  some (debited.sstore token toSlot credited)

-- A token whose code keeps its balances in a mapping at a known slot.
structure Conforming (frames : TokenFrames) (keccak256 : Bytes → U256) (token : Address) (balanceSlot : U256) : Prop where
  balanceOf : ∀ journal account, ∃ refunded, frames.evmCall account token (encodeBalanceOfCalldata account) true journal =
    .ok ⟨true, toFixedBytes (journal.storage token (computeMappingSlotForAddress keccak256 balanceSlot account)), refunded⟩ journal
  transfers : ∀ journal source target amount after, erc20Transfer keccak256 token balanceSlot journal source target amount = some after →
    ∃ output refunded, ¬transferReturnedFailure output ∧
      frames.evmCall source token (buildTransferCalldata target amount) false journal = .ok ⟨true, output, refunded⟩ after
  rejects : ∀ journal source target amount, erc20Transfer keccak256 token balanceSlot journal source target amount = none →
    ∃ output refunded, frames.evmCall source token (buildTransferCalldata target amount) false journal = .ok ⟨false, output, refunded⟩ journal

-- What a piece of work in call mode came to against the direct write of the
-- same balances: the same journal, or a rejection that leaves none of it.
def AgreesWith {α : Type} (direct : Except MorphInvalidTransaction Journal) (journal : Journal) (called : EStateM.Result EVMError Journal α) : Prop :=
  match direct with
  | .ok after => ∃ value, called = .ok value after
  | .error _ => ∃ error, called = .error (.transaction error) journal

section Conforming

variable {frames : TokenFrames} {keccak256 : Bytes → U256} {token : Address} {balanceSlot : U256}
  (conforming : Conforming frames keccak256 token balanceSlot)

theorem word_from_slice (word : U256) : u256FromBeSlice ((toFixedBytes word).take 32) = word := by
  have length : (toFixedBytes word).length = 32 := to_fixed_bytes_length 256 32 rfl word
  rw [List.take_of_length_le (Nat.le_of_eq length), u256FromBeSlice, toFixedBytes, of_digits_to_fixed, BitVec.ofNat_toNat, BitVec.setWidth_eq]

include conforming

theorem conforming_balance (journal : Journal) (account : Address) :
    frames.evmCallBalanceOf token account journal =
      .ok (journal.storage token (computeMappingSlotForAddress keccak256 balanceSlot account)) journal := by
  obtain ⟨refunded, called⟩ := conforming.balanceOf journal account
  have length : (toFixedBytes (journal.storage token (computeMappingSlotForAddress keccak256 balanceSlot account))).length = 32 :=
    to_fixed_bytes_length 256 32 rfl _
  simp only [TokenFrames.evmCallBalanceOf, bind, EStateM.bind, called, length, Nat.lt_irrefl, Bool.true_eq_false, or_self, if_false,
    word_from_slice]
  rfl

theorem conforming_balance_before (journal : Journal) (source : Address) (before : Option U256)
    (known : ∀ balance ∈ before, balance = journal.storage token (computeMappingSlotForAddress keccak256 balanceSlot source)) :
    frames.balanceBefore source token before journal =
      .ok (journal.storage token (computeMappingSlotForAddress keccak256 balanceSlot source)) journal := by
  cases before with
  | none => exact conforming_balance conforming journal source
  | some balance =>
      rw [known balance rfl]
      rfl

section Distinct

variable (journal : Journal) (source target : Address) (amount : U256)
  (apart : computeMappingSlotForAddress keccak256 balanceSlot source ≠ computeMappingSlotForAddress keccak256 balanceSlot target)

include apart

omit conforming in
theorem erc20_transfer_direct : (transferErc20WithSlot keccak256 journal source target token amount balanceSlot).toOption =
    erc20Transfer keccak256 token balanceSlot journal source target amount := by
  simp only [transferErc20WithSlot, erc20Transfer, sstore_read, if_neg apart]
  cases checkedSub (journal.storage token (computeMappingSlotForAddress keccak256 balanceSlot source)) amount with
  | none => rfl
  | some left =>
      simp only [bind, Option.bind, true_and, if_neg apart.symm]
      cases checkedAdd (journal.storage token (computeMappingSlotForAddress keccak256 balanceSlot target)) amount with
      | none => rfl
      | some credited => rfl

omit conforming in
theorem debited_balance (after : Journal) (left : U256)
    (debit : checkedSub (journal.storage token (computeMappingSlotForAddress keccak256 balanceSlot source)) amount = some left)
    (moved : transferErc20WithSlot keccak256 journal source target token amount balanceSlot = .ok after) :
    after.storage token (computeMappingSlotForAddress keccak256 balanceSlot source) = left := by
  have debited := (transfer_with_slot_moves keccak256 journal source target token amount balanceSlot after apart moved).debited
  have taken := checked_sub_some _ _ _ debit
  apply BitVec.eq_of_toNat_eq
  omega

theorem conforming_transfer (before : Option U256) (nonzero : amount ≠ 0)
    (known : ∀ balance ∈ before, balance = journal.storage token (computeMappingSlotForAddress keccak256 balanceSlot source)) :
    AgreesWith (transferErc20WithSlot keccak256 journal source target token amount balanceSlot) journal
      (frames.transferErc20WithEvm source target token amount before journal) := by
  have direct : (transferErc20WithSlot keccak256 journal source target token amount balanceSlot).toOption = _ :=
    erc20_transfer_direct journal source target amount apart
  simp only [TokenFrames.transferErc20WithEvm, if_neg nonzero, bind, EStateM.bind, conforming_balance_before conforming journal source before known]
  cases debit : checkedSub (journal.storage token (computeMappingSlotForAddress keccak256 balanceSlot source)) amount with
  | none =>
      simp only [transferErc20WithSlot, debit, AgreesWith]
      exact ⟨_, rfl⟩
  | some left =>
      simp only [TokenFrames.transferAndVerify, bind, EStateM.bind, adaptTransferError]
      cases moved : transferErc20WithSlot keccak256 journal source target token amount balanceSlot with
      | error error =>
          rw [moved] at direct
          obtain ⟨output, refunded, called⟩ := conforming.rejects journal source target amount direct.symm
          simp only [called, if_true]
          exact ⟨_, rfl⟩
      | ok after =>
          rw [moved] at direct
          obtain ⟨output, refunded, accepted, called⟩ := conforming.transfers journal source target amount after direct.symm
          have remaining := debited_balance journal source target amount apart after left debit moved
          simp only [called, Bool.true_eq_false, if_false, if_neg accepted, EStateM.bind, conforming_balance conforming after source, remaining,
            ne_eq, not_true_eq_false]
          exact ⟨_, rfl⟩

end Distinct

end Conforming

section Settlement

-- One transaction paid in the token: the charge, the main frame with the gas it
-- leaves, the refund counter and the reimbursement.
def settleTokenFee (frames : TokenFrames) (ctx : HandlerContext) (entry : TokenRegistryEntry) (eip7702Refund : Int)
    (mainFrame : Journal → Journal × Gas) (journal : Journal) : Except EVMError Journal :=
  match frames.chargeTokenFee ctx.feeContext entry journal with
  | .error error _ => .error error
  | .ok charge charged =>
      let frame := mainFrame charged
      let evm : MorphEvm := ⟨frame.1, some charge.info, charge.roundingCredit, charge.l1DataFee, charge.refund.getD 0⟩
      (frames.reimburseCallerTokenFee ctx.feeContext evm (refund ctx evm frame.2 eip7702Refund)).map MorphEvm.journal

-- The refund counter of the frame that paid the fee.
def transferRefund (frames : TokenFrames) (ctx : FeeContext) (entry : TokenRegistryEntry) (journal : Journal) : Int :=
  match frames.chargeTokenFee ctx entry journal with
  | .error _ _ => 0
  | .ok charge _ => charge.refund.getD 0

-- The hook adds up the counters, so it does not matter which of them a refund
-- is counted in.
theorem refund_joined (ctx : HandlerContext) (charged direct : MorphEvm) (gas : Gas) (eip7702Refund : Int) (none : direct.preFeeRefund = 0) :
    refund ctx charged gas eip7702Refund = refund ctx direct gas (eip7702Refund + charged.preFeeRefund) := by
  have sum : gas.refunded + charged.preFeeRefund + eip7702Refund = gas.refunded + 0 + (eip7702Refund + charged.preFeeRefund) := by omega
  simp only [refund, Gas.recordRefund, none, sum]

variable {frames : TokenFrames} {ctx : FeeContext} {balanceSlot : U256}

theorem load_in_both_modes (entry : TokenRegistryEntry) (unslotted : entry.balanceSlot = none)
    (conforming : Conforming frames ctx.keccak256 entry.tokenAddress balanceSlot) (journal : Journal) :
    ∃ info, info.tokenAddress = entry.tokenAddress ∧ info.balanceSlot = none ∧
      info.balance = journal.storage entry.tokenAddress (callerSlot ctx balanceSlot) ∧
      frames.loadTokenFeeInfo ctx entry journal = .ok info journal ∧
      frames.loadTokenFeeInfo ctx { entry with balanceSlot := some balanceSlot } journal =
        .ok { info with balanceSlot := some balanceSlot } journal := by
  refine ⟨entry.intoFeeInfo ctx.tx.caller (journal.storage entry.tokenAddress (callerSlot ctx balanceSlot)), rfl, unslotted, rfl, ?_, rfl⟩
  simp only [TokenFrames.loadTokenFeeInfo, unslotted, bind, EStateM.bind, conforming_balance conforming journal ctx.tx.caller]
  rfl

theorem charge_with_runs (info : TokenFeeInfo) (journal : Journal) :
    frames.chargeWith ctx info journal =
      if info.effectiveFeeLimit (ctx.tx.feeLimit.getD 0) < (prepaidFee ctx journal info).1 then
        .error (.transaction (.insufficientTokenBalance (prepaidFee ctx journal info).1 (info.effectiveFeeLimit (ctx.tx.feeLimit.getD 0)))) journal
      else match frames.payTokenFee ctx info (prepaidFee ctx journal info).1 journal with
        | .ok refund after => .ok ⟨info, (prepaidFee ctx journal info).2, ctx.l1DataFee journal, refund⟩ (bumpCallNonce ctx after)
        | .error error left => .error error left := by
  have prepaid : info.ethToTokenAmountWithCredit (totalEthFee ctx (ctx.l1DataFee journal)) = prepaidFee ctx journal info := rfl
  simp only [TokenFrames.chargeWith, get_bind]
  rw [prepaid]
  by_cases limited : info.effectiveFeeLimit (ctx.tx.feeLimit.getD 0) < (prepaidFee ctx journal info).1
  · rw [if_pos limited, if_pos limited]
    rfl
  · rw [if_neg limited, if_neg limited]
    simp only [bind, EStateM.bind]
    cases frames.payTokenFee ctx info (prepaidFee ctx journal info).1 journal with
    | ok refund after => rfl
    | error error left => rfl

theorem prepaid_without_slot (info : TokenFeeInfo) (journal : Journal) (slot : Option U256) :
    prepaidFee ctx journal { info with balanceSlot := slot } = prepaidFee ctx journal info :=
  rfl

theorem effective_fee_limit_without_slot (info : TokenFeeInfo) (slot : Option U256) (feeLimit : U256) :
    ({ info with balanceSlot := slot } : TokenFeeInfo).effectiveFeeLimit feeLimit = info.effectiveFeeLimit feeLimit :=
  rfl

section Info

variable (info : TokenFeeInfo) (unslotted : info.balanceSlot = none) (conforming : Conforming frames ctx.keccak256 info.tokenAddress balanceSlot)
  (apart : callerSlot ctx balanceSlot ≠ beneficiarySlot ctx balanceSlot)

include unslotted conforming apart

theorem pay_in_both_modes (journal : Journal) (amount : U256)
    (known : info.balance = journal.storage info.tokenAddress (callerSlot ctx balanceSlot)) :
    (∃ refund after, frames.payTokenFee ctx info amount journal = .ok refund after ∧
        frames.payTokenFee ctx { info with balanceSlot := some balanceSlot } amount journal = .ok none after) ∨
      ∃ error other left, frames.payTokenFee ctx info amount journal = .error error left ∧
        frames.payTokenFee ctx { info with balanceSlot := some balanceSlot } amount journal = .error other journal := by
  by_cases zero : amount = 0
  · exact .inl ⟨none, journal, by rw [TokenFrames.payTokenFee, if_pos zero]; rfl, by rw [TokenFrames.payTokenFee, if_pos zero]; rfl⟩
  · have agrees := conforming_transfer conforming journal ctx.tx.caller ctx.beneficiary amount apart (some info.balance) zero
      (fun balance member => by cases member; exact known)
    simp only [TokenFrames.payTokenFee, if_neg zero, unslotted, bind, EStateM.bind, slotTransfer]
    cases moved : transferErc20WithSlot ctx.keccak256 journal ctx.tx.caller ctx.beneficiary info.tokenAddress amount balanceSlot with
    | ok after =>
        rw [moved] at agrees
        obtain ⟨refund, called⟩ := agrees
        exact .inl ⟨some refund, after, by rw [called]; rfl, rfl⟩
    | error error =>
        rw [moved] at agrees
        obtain ⟨rejection, called⟩ := agrees
        exact .inr ⟨.transaction rejection, .transaction error, journal, by rw [called], rfl⟩

theorem refund_in_both_modes (journal : Journal) (amount : U256) (nonzero : amount ≠ 0) :
    (∃ after, frames.refundToken ctx info amount journal = .ok () after ∧
        frames.refundToken ctx { info with balanceSlot := some balanceSlot } amount journal = .ok () after) ∨
      ∃ error other, frames.refundToken ctx info amount journal = .error (.transaction error) journal ∧
        frames.refundToken ctx { info with balanceSlot := some balanceSlot } amount journal = .error (.transaction other) journal := by
  have agrees := conforming_transfer conforming journal ctx.beneficiary ctx.tx.caller amount apart.symm none nonzero
    (fun balance member => by cases member)
  simp only [TokenFrames.refundToken, unslotted, bind, EStateM.bind, slotTransfer]
  cases moved : transferErc20WithSlot ctx.keccak256 journal ctx.beneficiary ctx.tx.caller info.tokenAddress amount balanceSlot with
  | ok after =>
      rw [moved] at agrees
      obtain ⟨refund, called⟩ := agrees
      exact .inl ⟨after, by rw [called]; rfl, rfl⟩
  | error error =>
      rw [moved] at agrees
      obtain ⟨rejection, called⟩ := agrees
      exact .inr ⟨rejection, error, by rw [called], rfl⟩

theorem reimburse_in_both_modes (journal : Journal) (credit l1DataFee : U256) (refund other : Int) (gas : Gas) :
    (frames.reimburseCallerTokenFee ctx ⟨journal, some info, credit, l1DataFee, refund⟩ gas).map MorphEvm.journal =
      (frames.reimburseCallerTokenFee ctx ⟨journal, some { info with balanceSlot := some balanceSlot }, credit, l1DataFee, other⟩ gas).map
        MorphEvm.journal := by
  by_cases nothing : reimburseEth ctx gas = 0
  · simp only [TokenFrames.reimburseCallerTokenFee, if_pos nothing]
    rfl
  · simp only [TokenFrames.reimburseCallerTokenFee, if_neg nothing, TokenFeeInfo.ethToTokenAmountFloor, TokenFeeInfo.ethToTokenAmount,
      TokenFeeInfo.ethToTokenAmountWithCredit]
    generalize (if ctx.isCeladon = true then _ else _) = amount
    by_cases zero : amount = 0
    · simp only [if_pos zero]
      rfl
    · simp only [if_neg zero]
      rcases refund_in_both_modes info unslotted conforming apart journal amount zero with ⟨after, called, direct⟩ | ⟨_, _, called, direct⟩
      · rw [called, direct]
        rfl
      · rw [called, direct]
        rfl

end Info

variable (entry : TokenRegistryEntry) (unslotted : entry.balanceSlot = none)
  (conforming : Conforming frames ctx.keccak256 entry.tokenAddress balanceSlot) (apart : callerSlot ctx balanceSlot ≠ beneficiarySlot ctx balanceSlot)

include unslotted conforming apart

theorem charge_in_both_modes (journal : Journal) :
    (∃ info credit l1DataFee refund after, info.tokenAddress = entry.tokenAddress ∧ info.balanceSlot = none ∧
        frames.chargeTokenFee ctx entry journal = .ok ⟨info, credit, l1DataFee, refund⟩ after ∧
        frames.chargeTokenFee ctx { entry with balanceSlot := some balanceSlot } journal =
          .ok ⟨{ info with balanceSlot := some balanceSlot }, credit, l1DataFee, none⟩ after) ∨
      ∃ error other left right, frames.chargeTokenFee ctx entry journal = .error error left ∧
        frames.chargeTokenFee ctx { entry with balanceSlot := some balanceSlot } journal = .error other right := by
  obtain ⟨info, sameToken, noSlot, balance, called, direct⟩ := load_in_both_modes entry unslotted conforming journal
  have inCalls : frames.chargeWith ctx info journal = _ := charge_with_runs info journal
  have inSlots : frames.chargeWith ctx { info with balanceSlot := some balanceSlot } journal = _ := charge_with_runs _ journal
  rw [prepaid_without_slot, effective_fee_limit_without_slot] at inSlots
  simp only [TokenFrames.chargeTokenFee, bind, EStateM.bind, called, direct]
  by_cases limited : info.effectiveFeeLimit (ctx.tx.feeLimit.getD 0) < (prepaidFee ctx journal info).1
  · rw [if_pos limited] at inCalls inSlots
    exact .inr ⟨_, _, journal, journal, inCalls, inSlots⟩
  · rw [if_neg limited] at inCalls inSlots
    rcases pay_in_both_modes info noSlot (sameToken ▸ conforming) apart journal (prepaidFee ctx journal info).1 (sameToken ▸ balance) with
      ⟨refund, after, paid, moved⟩ | ⟨_, _, _, paid, moved⟩
    · rw [paid] at inCalls
      rw [moved] at inSlots
      exact .inl ⟨info, _, _, refund, _, sameToken, noSlot, inCalls, inSlots⟩
    · rw [paid] at inCalls
      rw [moved] at inSlots
      exact .inr ⟨_, _, _, _, inCalls, inSlots⟩

end Settlement

section SlotMode

variable {frames : TokenFrames} (ctx : FeeContext) (evm : MorphEvm) (balanceSlot : U256)

theorem slot_charge (entry : TokenRegistryEntry) (slotted : entry.balanceSlot = some balanceSlot) :
    frames.chargeTokenFee ctx entry evm.journal = frames.chargeWith ctx (slotFeeInfo ctx evm.journal entry balanceSlot) evm.journal := by
  simp only [TokenFrames.chargeTokenFee, TokenFrames.loadTokenFeeInfo, slotted]
  rfl

theorem slot_mode_deduction (tokenId : U16) (entry : TokenRegistryEntry)
    (registered : readRegistryEntry ctx.keccak256 evm.journal.storage tokenId = some entry) (slotted : entry.balanceSlot = some balanceSlot) :
    frames.validateAndDeductTokenFee ctx evm tokenId = (Fee.validateAndDeductTokenFee ctx evm tokenId).mapError .transaction := by
  simp only [TokenFrames.validateAndDeductTokenFee, Fee.validateAndDeductTokenFee, rejectIf]
  by_cases zero : tokenId = 0
  · rw [if_pos zero, if_pos zero]
    rfl
  rw [if_neg zero, if_neg zero]
  cases ctx.validateAccountNonceAndCode evm.journal with
  | error error => rfl
  | ok checked =>
  cases checkTxValue ctx evm.journal with
  | error error => rfl
  | ok covered =>
  cases loaded : loadRegistryEntry ctx evm.journal tokenId with
  | error error => rfl
  | ok accepted =>
  have same : accepted = entry := by
    rw [loadRegistryEntry, registered] at loaded
    exact (ensure_usable_ok entry accepted tokenId loaded ctx.tx.caller 0).1
  subst same
  change (if ctx.isFeeChargeDisabled = true then _ else _) = Except.mapError _ (if ctx.isFeeChargeDisabled = true then _ else _)
  by_cases disabled : ctx.isFeeChargeDisabled = true
  · rw [if_pos disabled, if_pos disabled]
    rfl
  have read : Fee.loadTokenFeeInfo ctx evm.journal accepted = .ok (slotFeeInfo ctx evm.journal accepted balanceSlot) := by
    simp only [Fee.loadTokenFeeInfo, slotted]
    rfl
  have slotInfo : (slotFeeInfo ctx evm.journal accepted balanceSlot).balanceSlot = some balanceSlot := slotted
  rw [if_neg disabled, if_neg disabled, slot_charge ctx evm balanceSlot accepted slotted, charge_with_runs, read]
  generalize slotFeeInfo ctx evm.journal accepted balanceSlot = info at slotInfo
  have prepaid : info.ethToTokenAmountWithCredit (totalEthFee ctx (ctx.l1DataFee evm.journal)) = prepaidFee ctx evm.journal info := rfl
  simp only [bind, Except.bind]
  rw [prepaid]
  by_cases limited : info.effectiveFeeLimit (ctx.tx.feeLimit.getD 0) < (prepaidFee ctx evm.journal info).1
  · rw [if_pos limited, if_pos limited]
    rfl
  rw [if_neg limited, if_neg limited]
  by_cases free : (prepaidFee ctx evm.journal info).1 = 0
  · simp only [TokenFrames.payTokenFee, Fee.payTokenFee, if_pos free]
    rfl
  · simp only [TokenFrames.payTokenFee, Fee.payTokenFee, if_neg free, slotInfo, bind, EStateM.bind, Except.bind, slotTransfer]
    cases transferErc20WithSlot ctx.keccak256 evm.journal ctx.tx.caller ctx.beneficiary info.tokenAddress
      (prepaidFee ctx evm.journal info).1 balanceSlot with
    | error error => rfl
    | ok after => rfl

theorem slot_mode_reimbursement (gas : Gas) (info : TokenFeeInfo) (cached : evm.cachedTokenFeeInfo = some info)
    (slotted : info.balanceSlot = some balanceSlot) :
    frames.reimburseCallerTokenFee ctx evm gas = (Fee.reimburseCallerTokenFee ctx evm gas).mapError .transaction := by
  by_cases nothing : reimburseEth ctx gas = 0
  · simp only [TokenFrames.reimburseCallerTokenFee, Fee.reimburseCallerTokenFee, if_pos nothing]
    rfl
  · simp only [TokenFrames.reimburseCallerTokenFee, Fee.reimburseCallerTokenFee, if_neg nothing, cached]
    generalize (if ctx.isCeladon = true then _ else _) = amount
    by_cases zero : amount = 0
    · rw [if_pos zero, if_pos zero]
      rfl
    · rw [if_neg zero, if_neg zero]
      simp only [TokenFrames.refundToken, Fee.refundToken, slotted, slotTransfer]
      cases transferErc20WithSlot ctx.keccak256 evm.journal ctx.beneficiary ctx.tx.caller info.tokenAddress amount balanceSlot with
      | ok after => rfl
      | error error => rfl

end SlotMode

section Sample

def calldataAddress (calldata : Bytes) : Address := BitVec.ofNat 160 (ofDigits ((calldata.drop 16).take 20))

def calldataAmount (calldata : Bytes) : U256 := u256FromBeSlice ((calldata.drop 36).take 32)

theorem calldata_round_trip (target : Address) (amount : U256) :
    calldataAddress (buildTransferCalldata target amount) = target ∧ calldataAmount (buildTransferCalldata target amount) = amount := by
  have address : (toFixedBytes target).length = 20 := to_fixed_bytes_length 160 20 rfl target
  have word : (toFixedBytes amount).length = 32 := to_fixed_bytes_length 256 32 rfl amount
  have afterAddress : (buildTransferCalldata target amount).drop 16 = toFixedBytes target ++ toFixedBytes amount := by
    simp [buildTransferCalldata]
  have afterAmount : (buildTransferCalldata target amount).drop 36 = toFixedBytes amount := by
    rw [show 36 = 16 + 20 from rfl, ← List.drop_drop, afterAddress, ← address, List.drop_left]
  refine ⟨?_, ?_⟩
  · rw [calldataAddress, afterAddress, ← address, List.take_left, toFixedBytes, of_digits_to_fixed, BitVec.ofNat_toNat, BitVec.setWidth_eq]
  · rw [calldataAmount, afterAmount, word_from_slice]

-- Every contract is a standard token with its balances at the same slot. A
-- transfer earns a refund of 2.
def sampleFrames : TokenFrames where
  evmCall caller target calldata isStatic journal :=
    if isStatic then
      .ok ⟨true, toFixedBytes (journal.storage target (computeMappingSlotForAddress sampleDigest sampleBalanceSlot caller)), 0⟩ journal
    else match erc20Transfer sampleDigest target sampleBalanceSlot journal caller (calldataAddress calldata) (calldataAmount calldata) with
      | some after => .ok ⟨true, [], 2⟩ after
      | none => .ok ⟨false, [], 0⟩ journal
  reverts {_ _ _ isStatic _ _ _} called failed := by
    cases isStatic with
    | true =>
        cases called
        rfl
    | false =>
        simp only [Bool.false_eq_true, if_false] at called
        split at called
        · cases called
          cases failed
        · cases called
          rfl
  static called := by
    cases called
    rfl

theorem sample_conforming : Conforming sampleFrames sampleDigest 7 sampleBalanceSlot where
  balanceOf journal account := ⟨0, rfl⟩
  transfers journal source target amount after moved := by
    refine ⟨[], 2, fun failed => failed.1 rfl, ?_⟩
    obtain ⟨address, word⟩ := calldata_round_trip target amount
    simp only [sampleFrames, Bool.false_eq_true, if_false, address, word, moved]
  rejects journal source target amount rejected := by
    refine ⟨[], 0, ?_⟩
    obtain ⟨address, word⟩ := calldata_round_trip target amount
    simp only [sampleFrames, Bool.false_eq_true, if_false, address, word, rejected]

def sampleCallContext : HandlerContext where
  keccak256 := sampleDigest
  tx := { txType := morphTxTypeId, caller := 1, isCall := true, value := 0, nonce := 0, gasLimit := 90, gasPrice := 3,
          gasPriorityFee := none, rlpBytes := none, feeTokenId := some 1, feeLimit := none }
  beneficiary := 2
  basefee := 0
  hardfork := .celadon
  isFeeChargeDisabled := false
  isBalanceCheckDisabled := false
  isEip3607Disabled := false
  isNonceCheckDisabled := false
  callerHasCode := false
  evmCallBalanceOf _ _ _ := .error .tokenBalanceQueryFailed
  transferErc20WithEvm journal _ _ _ _ _ := (.error .tokenBalanceQueryFailed, journal)

end Sample

end MorphReth.Fee
