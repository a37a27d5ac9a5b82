import MorphReth.Fee.EthSettlement
import MorphReth.Transaction.EnvelopeWire

set_option autoImplicit false

namespace MorphReth.TxPool

open Rlp Consensus Transaction Fee

inductive MorphTxError where
  | invalidTokenId
  | tokenNotFound (tokenId : U16)
  | tokenNotActive (tokenId : U16)
  | invalidPriceRatio (tokenId : U16)
  | insufficientTokenBalance (tokenId : U16) (tokenAddress : Address) (balance required : U256)
  | insufficientEthForValue (balance value : U256)
  | tokenInfoFetchFailed (tokenId : U16) (message : String)
  | invalidFormat (reason : String)
  deriving DecidableEq, Repr

structure MorphTxValidationInput where
  consensusTx : MorphTxEnvelope
  sender : Address
  ethBalance : U256
  l1DataFee : U256
  hardfork : MorphHardfork

structure MorphTxValidationResult where
  usesTokenFee : Bool
  tokenInfo : Option TokenFeeInfo
  requiredTokenAmount : U256
  amountToPay : U256
  deriving DecidableEq, Repr

-- The state the pool validates against. A token without a known balance slot
-- is asked for its balance under the hardfork's default environment.
structure PoolDb where
  keccak256 : Bytes → U256
  storage : Storage
  evmCallBalanceOf : Address → Address → Except String U256

def loadForCaller (db : PoolDb) (tokenId : U16) (caller : Address) : Except String (Option TokenFeeInfo) :=
  match readRegistryEntry db.keccak256 db.storage tokenId with
  | none => .ok none
  | some entry => match entry.balanceSlot with
      | some slot =>
          .ok (some (entry.intoFeeInfo caller (readBalanceFromStorage db.keccak256 db.storage entry.tokenAddress caller slot)))
      | none => do
          let balance ← db.evmCallBalanceOf entry.tokenAddress caller
          .ok (some (entry.intoFeeInfo caller balance))

def maxGasFee (tx : TxMorph) : U256 :=
  saturatingMul (tx.gasLimit.setWidth 256) (tx.maxFeePerGas.setWidth 256)

def validateEthFee (tx : TxMorph) (input : MorphTxValidationInput) : Except MorphTxError MorphTxValidationResult := do
  let totalEthCost := saturatingAdd (saturatingAdd (maxGasFee tx) input.l1DataFee) tx.value
  rejectIf (totalEthCost > input.ethBalance) (.insufficientEthForValue input.ethBalance totalEthCost)
  .ok ⟨false, none, 0, 0⟩

def fetchTokenInfo (db : PoolDb) (tokenId : U16) (sender : Address) : Except MorphTxError TokenFeeInfo :=
  match loadForCaller db tokenId sender with
  | .error message => .error (.tokenInfoFetchFailed tokenId message)
  | .ok none => .error (.tokenNotFound tokenId)
  | .ok (some info) => .ok info

def validateTokenFee (db : PoolDb) (tx : TxMorph) (input : MorphTxValidationInput) : Except MorphTxError MorphTxValidationResult := do
  let info ← fetchTokenInfo db tx.feeTokenId input.sender
  rejectIf (info.isActive = false) (.tokenNotActive tx.feeTokenId)
  rejectIf (info.priceRatio = 0) (.invalidPriceRatio tx.feeTokenId)
  let totalTokenFee := saturatingAdd (maxGasFee tx) input.l1DataFee
  let requiredTokenAmount := info.ethToTokenAmount totalTokenFee
  let effectiveLimit := info.effectiveFeeLimit tx.feeLimit
  rejectIf (effectiveLimit < requiredTokenAmount)
    (.insufficientTokenBalance tx.feeTokenId info.tokenAddress effectiveLimit requiredTokenAmount)
  .ok ⟨true, some info, requiredTokenAmount, requiredTokenAmount⟩

def validateMorphTx (db : PoolDb) (input : MorphTxValidationInput) : Except MorphTxError MorphTxValidationResult :=
  match input.consensusTx with
  | .morph tx _ => do
      rejectIf (input.hardfork.isJade = false ∧ tx.version = morphTxVersion1)
        (.invalidFormat "MorphTx version 1 is not yet active (jade fork not reached)")
      rejectIf (input.hardfork.isCeladon = false ∧ tx.version = morphTxVersion2)
        (.invalidFormat "MorphTx version 2 is not yet active (celadon fork not reached)")
      tx.validate.mapError .invalidFormat
      rejectIf (tx.value > input.ethBalance) (.insufficientEthForValue input.ethBalance tx.value)
      if tx.feeTokenId = 0 then validateEthFee tx input else validateTokenFee db tx input
  | _ => .error .invalidTokenId

-- The environment execution builds from the signed transaction.
def morphTxEnv (tx : TxMorph) (signature : Signature) (signer : Address) : MorphTxEnv where
  txType := morphTxTypeId
  caller := signer
  isCall := decide (tx.kind ≠ .create)
  value := tx.value
  nonce := tx.nonce
  gasLimit := tx.gasLimit
  gasPrice := tx.maxFeePerGas
  gasPriorityFee := some tx.maxPriorityFeePerGas
  rlpBytes := some (MorphTxEnvelope.morph tx signature).encode2718
  feeTokenId := some tx.feeTokenId
  feeLimit := some tx.feeLimit

-- Balance and L1 data fee as the pool reads them from the same state.
def admissionInput (hardfork : MorphHardfork) (journal : Journal) (tx : TxMorph) (signature : Signature) (sender : Address) :
    MorphTxValidationInput where
  consensusTx := .morph tx signature
  sender := sender
  ethBalance := journal.balance sender
  l1DataFee := (L1BlockInfo.tryFetch journal.storage hardfork).calculateTxL1Cost (MorphTxEnvelope.morph tx signature).encode2718 hardfork
  hardfork := hardfork

-- Rejections for money: insufficient ETH, insufficient tokens or a fee limit
-- that is too low, and an overflowing payment.
def isFeeRejection : MorphInvalidTransaction → Bool
  | .ethInvalidTransaction (.lackOfFundForMaxFee _ _) => true
  | .ethInvalidTransaction .overflowPaymentInTransaction => true
  | .insufficientTokenBalance _ _ => true
  | _ => false

def feeRejected : Except MorphInvalidTransaction MorphEvm → Bool
  | .error error => isFeeRejection error
  | .ok _ => false

theorem nonce_and_code_error (ctx : HandlerContext) (journal : Journal) (error : InvalidTransaction)
    (failed : validateAccountNonceAndCode ctx journal = .error error) : isFeeRejection (.ethInvalidTransaction error) = false := by
  simp only [validateAccountNonceAndCode, bind_error, reject_if_error] at failed
  rcases failed with ⟨_, rfl⟩ | ⟨_, _, ⟨_, rfl⟩ | ⟨_, _, _, rfl⟩⟩
  · rfl
  · rfl
  · rfl

theorem max_gas_fee_nat (tx : TxMorph) : (maxGasFee tx).toNat = tx.gasLimit.toNat * tx.maxFeePerGas.toNat := by
  have product : tx.gasLimit.toNat * tx.maxFeePerGas.toNat < 2 ^ 64 * 2 ^ 128 := Nat.mul_lt_mul'' tx.gasLimit.isLt tx.maxFeePerGas.isLt
  rw [maxGasFee, saturating_mul_nat, BitVec.toNat_setWidth_of_le (by decide), BitVec.toNat_setWidth_of_le (by decide)]
  omega

section Admitted

variable (db : PoolDb) (input : MorphTxValidationInput) (tx : TxMorph) (signature : Signature) (result : MorphTxValidationResult)
  (signed : input.consensusTx = .morph tx signature) (admitted : validateMorphTx db input = .ok result)

include signed admitted

theorem admitted_checks : tx.value.toNat ≤ input.ethBalance.toNat ∧
    (if tx.feeTokenId = 0 then validateEthFee tx input else validateTokenFee db tx input) = .ok result := by
  simp only [validateMorphTx, signed, bind_ok, reject_if_ok] at admitted
  obtain ⟨_, _, _, _, _, _, _, value, fee⟩ := admitted
  exact ⟨BitVec.le_def.mp (BitVec.not_lt.mp value), fee⟩

-- Below 2^128 wei nothing saturates, so the balance covers the exact sum.
theorem admitted_eth (small : input.ethBalance.toNat < 2 ^ 128) (eth : tx.feeTokenId = 0) :
    tx.gasLimit.toNat * tx.maxFeePerGas.toNat + input.l1DataFee.toNat + tx.value.toNat ≤ input.ethBalance.toNat := by
  obtain ⟨_, fee⟩ := admitted_checks db input tx signature result signed admitted
  rw [if_pos eth] at fee
  simp only [validateEthFee, bind_ok, reject_if_ok] at fee
  obtain ⟨_, covered, _⟩ := fee
  have enough := BitVec.le_def.mp (BitVec.not_lt.mp covered)
  rw [saturating_add_nat, saturating_add_nat, max_gas_fee_nat] at enough
  omega

theorem admitted_token (token : tx.feeTokenId ≠ 0) : ∃ info, fetchTokenInfo db tx.feeTokenId input.sender = .ok info ∧
    (info.ethToTokenAmount (saturatingAdd (maxGasFee tx) input.l1DataFee)).toNat ≤ (info.effectiveFeeLimit tx.feeLimit).toNat := by
  obtain ⟨_, fee⟩ := admitted_checks db input tx signature result signed admitted
  rw [if_neg token] at fee
  simp only [validateTokenFee, bind_ok, reject_if_ok] at fee
  obtain ⟨info, fetched, _, _, _, _, _, covered, _⟩ := fee
  exact ⟨info, fetched, BitVec.le_def.mp (BitVec.not_lt.mp covered)⟩

end Admitted

theorem fetch_slot_mode (db : PoolDb) (tokenId : U16) (sender : Address) (entry : TokenRegistryEntry) (slot : U256) (info : TokenFeeInfo)
    (registered : readRegistryEntry db.keccak256 db.storage tokenId = some entry) (slotMode : entry.balanceSlot = some slot)
    (fetched : fetchTokenInfo db tokenId sender = .ok info) :
    info = entry.intoFeeInfo sender (readBalanceFromStorage db.keccak256 db.storage entry.tokenAddress sender slot) := by
  simp only [fetchTokenInfo, loadForCaller, registered, slotMode] at fetched
  cases fetched
  rfl

theorem token_amount_mono (info : TokenFeeInfo) (usable : Usable info) (smaller larger : U256) (less : smaller.toNat ≤ larger.toNat) :
    (info.ethToTokenAmount smaller).toNat ≤ (info.ethToTokenAmount larger).toNat := by
  have scaled := Nat.mul_le_mul_right info.scale.toNat less
  apply charge_mono _ _ _ _ _ _ _ (amount_with_credit_rounds_up info usable smaller) (amount_with_credit_rounds_up info usable larger)
  rw [saturating_mul_nat, saturating_mul_nat]
  omega

theorem effective_limit_at_most_balance (info : TokenFeeInfo) (feeLimit : U256) :
    (info.effectiveFeeLimit feeLimit).toNat ≤ info.balance.toNat := by
  rw [TokenFeeInfo.effectiveFeeLimit]
  split
  · exact Nat.le_refl _
  · split
    · exact Nat.le_refl _
    · next above => exact Nat.le_of_lt (BitVec.lt_def.mp (BitVec.not_le.mp above))

theorem pay_token_fee_error (ctx : FeeContext) (evm : MorphEvm) (info : TokenFeeInfo) (amount slot : U256) (error : MorphInvalidTransaction)
    (slotMode : info.balanceSlot = some slot) (enough : amount.toNat ≤ (evm.journal.storage info.tokenAddress (callerSlot ctx slot)).toNat)
    (failed : payTokenFee ctx evm info amount = .error error) : isFeeRejection error = false := by
  rw [payTokenFee] at failed
  split at failed
  · cases failed
  · rw [slotMode] at failed
    simp only [bind_error, reduceCtorEq, and_false, exists_false, or_false] at failed
    rw [callerSlot] at enough
    simp only [transferErc20WithSlot, checkedSub, if_pos enough] at failed
    split at failed
    · cases failed
    · split at failed
      · cases failed
        rfl
      · cases failed

theorem check_tx_value_covered (ctx : FeeContext) (journal : Journal) (error : MorphInvalidTransaction)
    (covered : ctx.tx.value.toNat ≤ (journal.balance ctx.tx.caller).toNat) : checkTxValue ctx journal ≠ .error error := by
  intro failed
  simp only [checkTxValue, reject_if_error] at failed
  exact BitVec.not_lt.mpr (BitVec.le_def.mpr covered) failed.1.2.2

theorem load_registry_entry_error (ctx : FeeContext) (journal : Journal) (tokenId : U16) (error : MorphInvalidTransaction)
    (failed : loadRegistryEntry ctx journal tokenId = .error error) : isFeeRejection error = false := by
  rw [loadRegistryEntry] at failed
  split at failed
  · cases failed
    rfl
  · rw [TokenRegistryEntry.ensureUsable] at failed
    split at failed
    · cases failed
      rfl
    · split at failed
      · cases failed
        rfl
      · cases failed

theorem load_registry_entry_ok (ctx : FeeContext) (journal : Journal) (tokenId : U16) (accepted : TokenRegistryEntry)
    (loaded : loadRegistryEntry ctx journal tokenId = .ok accepted) (caller : Address) (balance : U256) :
    readRegistryEntry ctx.keccak256 journal.storage tokenId = some accepted ∧ Usable (accepted.intoFeeInfo caller balance) := by
  rw [loadRegistryEntry] at loaded
  split at loaded
  · cases loaded
  · next entry registered =>
      obtain ⟨rfl, usable⟩ := ensure_usable_ok entry accepted tokenId loaded caller balance
      exact ⟨registered, usable⟩

section Execution

variable (ctx : HandlerContext) (evm : MorphEvm) (tx : TxMorph) (signature : Signature) (sender : Address)
  (balanceOf : Address → Address → Except String U256) (result : MorphTxValidationResult)
  (environment : ctx.tx = morphTxEnv tx signature sender)
  (admitted : validateMorphTx ⟨ctx.keccak256, evm.journal.storage, balanceOf⟩
    (admissionInput ctx.hardfork evm.journal tx signature sender) = .ok result)

include environment

theorem same_l1_fee : (admissionInput ctx.hardfork evm.journal tx signature sender).l1DataFee = ctx.l1DataFee evm.journal := by
  simp only [admissionInput, HandlerContext.l1DataFee, environment, morphTxEnv, Option.getD_some]

theorem cheaper_than_cap (l1DataFee : U256) :
    (totalEthFee ctx.feeContext l1DataFee).toNat ≤ (saturatingAdd (maxGasFee tx) l1DataFee).toNat := by
  have cap : ctx.tx.gasPrice = tx.maxFeePerGas := by rw [environment]; rfl
  have price : ctx.feeContext.tx.effectiveGasPrice.toNat ≤ tx.maxFeePerGas.toNat := cap ▸ effective_at_most_cap ctx.tx ctx.baseFee
  have limit : ctx.feeContext.tx.gasLimit = tx.gasLimit := by simp only [HandlerContext.feeContext, environment, morphTxEnv]
  have product := Nat.mul_le_mul_right tx.gasLimit.toNat price
  rw [total_eth_fee_nat, saturating_add_nat, max_gas_fee_nat, limit, Nat.mul_comm tx.gasLimit.toNat]
  omega

include admitted

theorem admitted_eth_deduction (small : (evm.journal.balance sender).toNat < 2 ^ 128) (eth : tx.feeTokenId = 0)
    (error : MorphInvalidTransaction) (failed : validateAndDeductEthFee ctx (resetCaches evm) = .error error) :
    isFeeRejection error = false := by
  have covered := admitted_eth _ _ tx signature result rfl admitted small eth
  rw [same_l1_fee ctx evm tx signature sender environment] at covered
  change _ ≤ (evm.journal.balance sender).toNat at covered
  have gas : ctx.tx.gasLimit.toNat * ctx.tx.gasPrice.toNat = tx.gasLimit.toNat * tx.maxFeePerGas.toNat := by rw [environment]; rfl
  have value : ctx.tx.value = tx.value := by rw [environment]; rfl
  have caller : ctx.tx.caller = sender := by rw [environment]; rfl
  have cheaper := Nat.mul_le_mul_left ctx.tx.gasLimit.toNat (effective_at_most_cap ctx.tx ctx.baseFee)
  obtain ⟨maximum, bounded⟩ := max_spending_fits ctx (ctx.l1DataFee evm.journal) (by omega) (by rw [value]; omega)
  obtain ⟨_, maximumNat⟩ := max_spending_ok ctx _ maximum bounded
  obtain ⟨spending, spent⟩ := effective_spending_fits ctx.tx ctx.baseFee (by omega) (by rw [value]; omega)
  have enough : ¬evm.journal.balance ctx.tx.caller < maximum := by
    rw [BitVec.not_lt, BitVec.le_def, caller, maximumNat, gas, value]
    omega
  have charged : ∃ newBalance, calculateCallerFeeWithL1Cost ctx (evm.journal.balance ctx.tx.caller) (ctx.l1DataFee evm.journal) = .ok newBalance := by
    rw [calculateCallerFeeWithL1Cost, spent]
    split
    · exact ⟨_, rfl⟩
    · split
      · have checked : checkMaxSpending ctx (evm.journal.balance ctx.tx.caller) (ctx.l1DataFee evm.journal) = .ok () := by
          simp only [checkMaxSpending, bounded, bind_ok, reject_if_ok]
          exact ⟨maximum, rfl, enough⟩
        rw [checked]
        exact ⟨_, rfl⟩
      · exact ⟨_, rfl⟩
  obtain ⟨newBalance, computed⟩ := charged
  simp only [validateAndDeductEthFee, bind_error, map_error_error] at failed
  rcases failed with ⟨inner, refused, rfl⟩ | ⟨_, _, ⟨inner, refused, rfl⟩ | ⟨_, _, impossible⟩⟩
  · exact nonce_and_code_error ctx _ inner refused
  · simp only [resetCaches, computed, reduceCtorEq] at refused
  · cases impossible

theorem admitted_token_deduction (token : tx.feeTokenId ≠ 0)
    (slotMode : ∀ entry, readRegistryEntry ctx.keccak256 evm.journal.storage tx.feeTokenId = some entry → entry.balanceSlot ≠ none)
    (error : MorphInvalidTransaction)
    (failed : validateAndDeductTokenFee ctx.feeContext (resetCaches evm) tx.feeTokenId = .error error) : isFeeRejection error = false := by
  obtain ⟨valueCovered, _⟩ := admitted_checks _ _ tx signature result rfl admitted
  obtain ⟨info, fetched, feeCovered⟩ := admitted_token _ _ tx signature result rfl admitted token
  rw [same_l1_fee ctx evm tx signature sender environment] at feeCovered
  have value : ctx.feeContext.tx.value = tx.value := by simp only [HandlerContext.feeContext, environment, morphTxEnv]
  have caller : ctx.feeContext.tx.caller = sender := by simp only [HandlerContext.feeContext, environment, morphTxEnv]
  have limit : ctx.feeContext.tx.feeLimit = some tx.feeLimit := by simp only [HandlerContext.feeContext, environment, morphTxEnv]
  simp only [validateAndDeductTokenFee, bind_error, reject_if_error, map_error_error] at failed
  rcases failed with ⟨_, rfl⟩ | ⟨_, _, ⟨inner, refused, rfl⟩ | ⟨_, _, refused | ⟨_, _, refused | ⟨accepted, loaded, failed⟩⟩⟩⟩
  · rfl
  · exact nonce_and_code_error ctx _ inner refused
  · exact absurd refused (check_tx_value_covered _ _ error (by rw [value, caller]; exact valueCovered))
  · exact load_registry_entry_error _ _ _ error refused
  · obtain ⟨registered, usable⟩ := load_registry_entry_ok _ _ _ accepted loaded sender info.balance
    obtain ⟨slot, balanceSlot⟩ := Option.ne_none_iff_exists'.mp (slotMode accepted registered)
    have same := fetch_slot_mode _ _ _ accepted slot info registered balanceSlot fetched
    have priced : loadTokenFeeInfo ctx.feeContext (resetCaches evm).journal accepted = .ok info := by
      simp only [loadTokenFeeInfo, balanceSlot, caller, same]
      rfl
    have covered : (info.ethToTokenAmount (totalEthFee ctx.feeContext (ctx.l1DataFee evm.journal))).toNat ≤
        (info.effectiveFeeLimit tx.feeLimit).toNat :=
      (token_amount_mono info (same ▸ usable) _ _ (cheaper_than_cap ctx tx signature sender environment _)).trans feeCovered
    split at failed
    · cases failed
    · simp only [priced, bind_error, limit, Option.getD_some, reject_if_error, reduceCtorEq, false_or, Except.ok.injEq] at failed
      rcases failed with ⟨_, rfl, ⟨short, _⟩ | ⟨_, _, refused | ⟨_, _, impossible⟩⟩⟩
      · exact absurd covered (Nat.not_le_of_lt (BitVec.lt_def.mp short))
      · apply pay_token_fee_error _ _ info _ slot error (by rw [same]; exact balanceSlot) _ refused
        have held := covered.trans (effective_limit_at_most_balance info tx.feeLimit)
        rw [same, callerSlot, caller]
        rw [same] at held
        exact held
      · cases impossible

end Execution

-- Execution reads the same state as admission, under any base fee, beneficiary
-- and configuration. Other errors (nonce, code at the sender, a token without
-- scale, a recipient whose token balance would overflow) remain possible.
theorem admission_implies_payment (ctx : HandlerContext) (evm : MorphEvm) (tx : TxMorph) (signature : Signature) (sender : Address)
    (balanceOf : Address → Address → Except String U256) (result : MorphTxValidationResult)
    (environment : ctx.tx = morphTxEnv tx signature sender) (small : (evm.journal.balance sender).toNat < 2 ^ 128)
    (slotMode : tx.feeTokenId ≠ 0 →
      ∀ entry, readRegistryEntry ctx.keccak256 evm.journal.storage tx.feeTokenId = some entry → entry.balanceSlot ≠ none)
    (admitted : validateMorphTx ⟨ctx.keccak256, evm.journal.storage, balanceOf⟩
      (admissionInput ctx.hardfork evm.journal tx signature sender) = .ok result) :
    feeRejected (validateAgainstStateAndDeductCaller ctx evm) = false := by
  cases execution : validateAgainstStateAndDeductCaller ctx evm with
  | ok deducted => rfl
  | error error =>
      have morph : ctx.tx.isL1Msg = false := by rw [environment]; rfl
      have token : ctx.tx.paysInToken = decide (0 < tx.feeTokenId) := by rw [environment]; rfl
      have tokenId : ctx.tx.feeTokenId = some tx.feeTokenId := by rw [environment]; rfl
      simp only [validateAgainstStateAndDeductCaller, morph, token, tokenId, decide_eq_true_eq, Option.getD_some, Bool.false_eq_true,
        if_false] at execution
      split at execution
      · next positive =>
          have used : tx.feeTokenId ≠ 0 := fun zero => by simp [zero] at positive
          exact admitted_token_deduction ctx evm tx signature sender balanceOf result environment admitted used (slotMode used) error execution
      · next none =>
          have eth : tx.feeTokenId = 0 := BitVec.le_zero_iff.mp (BitVec.not_lt.mp none)
          exact admitted_eth_deduction ctx evm tx signature sender balanceOf result environment admitted small eth error execution

-- At the fee cap the transaction needs all of its fee limit of ten tokens.
def sampleTokenTx : TxMorph :=
  { sampleTx with nonce := 0, gasLimit := 10, maxFeePerGas := 3, maxPriorityFeePerGas := 1, feeTokenId := 1, feeLimit := 10 }

def sampleTokenContext : HandlerContext :=
  { sampleEthContext with keccak256 := sampleDigest, tx := morphTxEnv sampleTokenTx ⟨true, 1, 1⟩ 1, basefee := 1 }

def sampleTokenStart : MorphEvm :=
  { sampleStart with journal := { sampleStart.journal with balance := fun _ => 5 } }

theorem admission_implies_payment_sample :
    (validateMorphTx ⟨sampleDigest, sampleStorage, fun _ _ => .error "no call"⟩
        (admissionInput .celadon sampleTokenStart.journal sampleTokenTx ⟨true, 1, 1⟩ 1)).map (·.requiredTokenAmount) = .ok 10 ∧
      feeRejected (validateAgainstStateAndDeductCaller sampleTokenContext sampleTokenStart) = false := by
  have admitted : validateMorphTx ⟨sampleDigest, sampleStorage, fun _ _ => .error "no call"⟩
      (admissionInput .celadon sampleTokenStart.journal sampleTokenTx ⟨true, 1, 1⟩ 1) =
        .ok ⟨true, some (sampleEntry.intoFeeInfo 1 100), 10, 10⟩ := by decide +kernel
  have registered : readRegistryEntry sampleDigest sampleStorage 1 = some sampleEntry := by decide +kernel
  refine ⟨by rw [admitted]; rfl, admission_implies_payment sampleTokenContext sampleTokenStart sampleTokenTx ⟨true, 1, 1⟩ 1
    (fun _ _ => .error "no call") _ rfl (by decide) ?_ admitted⟩
  intro _ entry found
  cases registered.symm.trans found
  exact Option.some_ne_none _

end MorphReth.TxPool
