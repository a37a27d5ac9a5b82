import MorphReth.TxPool.AffordablePrefix

set_option autoImplicit false

namespace MorphReth.TxPool

open Rlp Consensus Transaction Fee

def viewOf (state : StateProvider) (journal : Journal) : StateProvider :=
  { state with storage := journal.storage, basic := fun account => .ok (some (journal.balance account)) }

theorem registry_entry_congr (keccak256 : Bytes → U256) {storage other : Storage}
    (same : ∀ slot, other l2TokenRegistryAddress slot = storage l2TokenRegistryAddress slot) (id : U16) :
    readRegistryEntry keccak256 other id = readRegistryEntry keccak256 storage id := by
  simp only [readRegistryEntry, readMappingValue, same]

theorem l1_block_info_congr {storage other : Storage}
    (same : ∀ slot, other l1GasPriceOracleAddress slot = storage l1GasPriceOracleAddress slot) (hardfork : MorphHardfork) :
    L1BlockInfo.tryFetch other hardfork = L1BlockInfo.tryFetch storage hardfork := by
  simp only [L1BlockInfo.tryFetch, same]

-- The tokens that pay for a sender's transactions: each keeps its balances in
-- storage of its own.
structure FeeTokens (state : StateProvider) (used : U16 → Prop) : Prop where
  slotMode : ∀ id entry, used id → readRegistryEntry state.keccak256 state.storage id = some entry → entry.balanceSlot ≠ none
  notRegistry : ∀ id entry, used id → readRegistryEntry state.keccak256 state.storage id = some entry →
    entry.tokenAddress ≠ l2TokenRegistryAddress
  notOracle : ∀ id entry, used id → readRegistryEntry state.keccak256 state.storage id = some entry →
    entry.tokenAddress ≠ l1GasPriceOracleAddress
  distinct : ∀ id other entry otherEntry, used id → used other → readRegistryEntry state.keccak256 state.storage id = some entry →
    readRegistryEntry state.keccak256 state.storage other = some otherEntry → entry.tokenAddress = otherEntry.tokenAddress → id = other

section Spends

variable (state : StateProvider) (used : U16 → Prop) (sender : Address)

-- A token's entry in the registry and the slot its balances are at.
structure Listed (id : U16) (entry : TokenRegistryEntry) (slot : U256) : Prop where
  used : used id
  registered : readRegistryEntry state.keccak256 state.storage id = some entry
  slotMode : entry.balanceSlot = some slot

def held (journal : Journal) (entry : TokenRegistryEntry) (slot : U256) : U256 :=
  readBalanceFromStorage state.keccak256 journal.storage entry.tokenAddress sender slot

-- The prices are as before, and the sender has lost no more than this.
structure Spends (eth : Nat) (tokens : U16 → Nat) (before after : Journal) : Prop where
  registry : ∀ slot, after.storage l2TokenRegistryAddress slot = before.storage l2TokenRegistryAddress slot
  oracle : ∀ slot, after.storage l1GasPriceOracleAddress slot = before.storage l1GasPriceOracleAddress slot
  eth : (before.balance sender).toNat ≤ (after.balance sender).toNat + eth
  token : ∀ id entry slot, Listed state used id entry slot →
    (held state sender before entry slot).toNat ≤ (held state sender after entry slot).toNat + tokens id

variable {state used sender}

theorem Spends.trans {eth laterEth : Nat} {tokens laterTokens : U16 → Nat} {before middle after : Journal}
    (first : Spends state used sender eth tokens before middle) (second : Spends state used sender laterEth laterTokens middle after) :
    Spends state used sender (eth + laterEth) (fun id => tokens id + laterTokens id) before after where
  registry slot := (second.registry slot).trans (first.registry slot)
  oracle slot := (second.oracle slot).trans (first.oracle slot)
  eth := by
    have earlier := first.eth
    have later := second.eth
    omega
  token id entry slot listed := by
    have earlier := first.token id entry slot listed
    have later := second.token id entry slot listed
    omega

theorem Spends.weaken {eth more : Nat} {tokens moreTokens : U16 → Nat} {before after : Journal}
    (spends : Spends state used sender eth tokens before after) (most : eth ≤ more) (mostTokens : ∀ id, used id → tokens id ≤ moreTokens id) :
    Spends state used sender more moreTokens before after where
  registry := spends.registry
  oracle := spends.oracle
  eth := spends.eth.trans (Nat.add_le_add_left most _)
  token id entry slot listed := (spends.token id entry slot listed).trans (Nat.add_le_add_left (mostTokens id listed.used) _)

theorem spends_balance (eth : Nat) {before after : Journal} (storage : after.storage = before.storage)
    (lost : (before.balance sender).toNat ≤ (after.balance sender).toNat + eth) :
    Spends state used sender eth (fun _ => 0) before after where
  registry _ := by rw [storage]
  oracle _ := by rw [storage]
  eth := lost
  token _ _ _ _ := by rw [held, held, storage]; exact Nat.le_refl _

theorem spends_nothing (journal : Journal) : Spends state used sender 0 (fun _ => 0) journal journal :=
  spends_balance 0 rfl (Nat.le_refl _)

-- A write to the storage of one listed token leaves the prices and the other
-- tokens alone.
theorem spends_token (tokens : FeeTokens state used) {id : U16} {entry : TokenRegistryEntry} {slot : U256}
    (listed : Listed state used id entry slot) (amount : Nat) {before after : Journal} (balance : after.balance = before.balance)
    (elsewhere : ∀ account key, account ≠ entry.tokenAddress → after.storage account key = before.storage account key)
    (lost : (held state sender before entry slot).toNat ≤ (held state sender after entry slot).toNat + amount) :
    Spends state used sender 0 (fun other => if other = id then amount else 0) before after where
  registry key := elsewhere _ key (tokens.notRegistry id entry listed.used listed.registered).symm
  oracle key := elsewhere _ key (tokens.notOracle id entry listed.used listed.registered).symm
  eth := by rw [balance]; exact Nat.le_refl _
  token other otherEntry otherSlot otherListed := by
    by_cases same : other = id
    · subst same
      have entries : otherEntry = entry := Option.some.inj (otherListed.registered.symm.trans listed.registered)
      subst entries
      have slots : otherSlot = slot := Option.some.inj (otherListed.slotMode.symm.trans listed.slotMode)
      subst slots
      rw [if_pos rfl]
      exact lost
    · have apart : otherEntry.tokenAddress ≠ entry.tokenAddress :=
        fun shared => same (tokens.distinct other id otherEntry entry otherListed.used listed.used otherListed.registered listed.registered shared)
      simp only [held, readBalanceFromStorage, readMappingValue, elsewhere _ _ apart]
      exact Nat.le_add_right _ _

end Spends

section Transfers

variable (keccak256 : Bytes → U256) (journal after : Journal) (source target token : Address) (amount slot : U256)
  (transferred : transferErc20WithSlot keccak256 journal source target token amount slot = .ok after)
include transferred

theorem slot_transfer_frame : after.balance = journal.balance ∧
    ∀ account key, account ≠ token → after.storage account key = journal.storage account key := by
  rw [transferErc20WithSlot] at transferred
  split at transferred
  · cases transferred
  · dsimp only at transferred
    split at transferred
    · cases transferred
      exact ⟨rfl, fun _ _ _ => rfl⟩
    · split at transferred
      · cases transferred
      · cases transferred
        refine ⟨rfl, fun account key apart => ?_⟩
        rw [sstore_read, if_neg (fun both => apart both.1), sstore_read, if_neg (fun both => apart both.1)]

-- What the source loses is the amount, and the target loses nothing, also when
-- they are one account.
theorem slot_transfer_bounds :
    (readBalanceFromStorage keccak256 journal.storage token source slot).toNat ≤
        (readBalanceFromStorage keccak256 after.storage token source slot).toNat + amount.toNat ∧
      (readBalanceFromStorage keccak256 journal.storage token target slot).toNat ≤
        (readBalanceFromStorage keccak256 after.storage token target slot).toNat := by
  change (journal.storage token (computeMappingSlotForAddress keccak256 slot source)).toNat ≤
      (after.storage token (computeMappingSlotForAddress keccak256 slot source)).toNat + amount.toNat ∧
    (journal.storage token (computeMappingSlotForAddress keccak256 slot target)).toNat ≤
      (after.storage token (computeMappingSlotForAddress keccak256 slot target)).toNat
  by_cases shared : computeMappingSlotForAddress keccak256 slot source = computeMappingSlotForAddress keccak256 slot target
  · simp only [transferErc20WithSlot, if_pos shared] at transferred
    split at transferred
    · cases transferred
    · cases transferred
      exact ⟨Nat.le_add_right _ _, Nat.le_refl _⟩
  · have moved := transfer_with_slot_moves keccak256 journal source target token amount slot after shared transferred
    have debited := moved.debited
    have credited := moved.credited
    omega

end Transfers

theorem incr_balance_grows (journal : Journal) (account other : Address) (amount : U256) :
    (journal.balance other).toNat ≤ ((journal.incrBalance account amount).balance other).toNat := by
  rw [Journal.incrBalance]
  split
  · exact Nat.le_refl _
  · next sum added =>
      have exactly := checked_add_some _ _ _ added
      by_cases same : other = account
      · subst same
        simp only [Journal.setBalance, if_true]
        omega
      · simp only [Journal.setBalance, if_neg same]
        exact Nat.le_refl _

theorem incr_balance_storage (journal : Journal) (account : Address) (amount : U256) :
    (journal.incrBalance account amount).storage = journal.storage := by
  rw [Journal.incrBalance]
  split
  · rfl
  · rfl

-- One of the sender's transactions as a block executes it, under the hardfork
-- of the tip.
structure Executes (tip : Tip) (state : StateProvider) (sender : Address) (ctx : HandlerContext) (pooled : PooledMorphTx) : Prop where
  environment : ctx.tx = morphTxEnv pooled.tx pooled.signature sender
  digest : ctx.keccak256 = state.keccak256
  hardfork : ctx.hardfork = tip.hardfork
  charging : ctx.isFeeChargeDisabled = false
  checking : ctx.isBalanceCheckDisabled = false

namespace Executes

variable {tip : Tip} {state : StateProvider} {sender : Address} {ctx : HandlerContext} {pooled : PooledMorphTx}
  (executes : Executes tip state sender ctx pooled)
include executes

theorem caller : ctx.tx.caller = sender := by
  rw [executes.environment]
  rfl

theorem notL1Msg : ctx.tx.isL1Msg = false := by
  rw [executes.environment]
  rfl

theorem paysInToken : ctx.tx.paysInToken = decide (0 < pooled.tx.feeTokenId) := by
  rw [executes.environment]
  rfl

theorem tokenId : ctx.tx.feeTokenId.getD 0 = pooled.tx.feeTokenId := by
  rw [executes.environment]
  rfl

theorem l1Fee (journal : Journal) : ctx.l1DataFee journal = l1DataFee tip (viewOf state journal) pooled := by
  rw [HandlerContext.l1DataFee, executes.environment, executes.hardfork]
  rfl

theorem paysEth (eth : pooled.tx.feeTokenId = 0) : PaysEth ctx.tx where
  notL1Msg := executes.notL1Msg
  notToken := by simp [executes.paysInToken, eth]

theorem paysToken (token : pooled.tx.feeTokenId ≠ 0) : ctx.tx.paysInToken = true := by
  rw [executes.paysInToken, decide_eq_true_eq, BitVec.lt_def]
  exact Nat.pos_of_ne_zero (fun zero => token (BitVec.eq_of_toNat_eq zero))

end Executes

section Hooks

variable {tip : Tip} {state : StateProvider} {used : U16 → Prop} {sender : Address} {ctx : HandlerContext} {pooled : PooledMorphTx}
  (executes : Executes tip state sender ctx pooled)
include executes

theorem eth_deduction_spends (eth : pooled.tx.feeTokenId = 0) (evm deducted : MorphEvm)
    (deduction : validateAgainstStateAndDeductCaller ctx evm = .ok deducted) :
    Spends state used sender (pooled.tx.gasLimit.toNat * pooled.tx.maxFeePerGas.toNat + (l1DataFee tip (viewOf state evm.journal) pooled).toNat)
      (fun _ => 0) evm.journal deducted.journal := by
  have pays := executes.paysEth eth
  simp only [validateAgainstStateAndDeductCaller, pays.notL1Msg, pays.notToken, Bool.false_eq_true, if_false, validateAndDeductEthFee,
    bind_ok, map_error_ok] at deduction
  obtain ⟨_, _, newBalance, computed, result⟩ := deduction
  cases result
  have charged := (caller_fee_exact ctx executes.charging executes.checking _ _ newBalance computed).exactly
  have cheaper := Nat.mul_le_mul_left ctx.tx.gasLimit.toNat (effective_at_most_cap ctx.tx ctx.baseFee)
  have cap : ctx.tx.gasLimit.toNat * ctx.tx.gasPrice.toNat = pooled.tx.gasLimit.toNat * pooled.tx.maxFeePerGas.toNat := by
    rw [executes.environment]
    rfl
  apply spends_balance
  · rw [bump_call_nonce_storage]
    rfl
  · rw [bump_call_nonce_balance, ← executes.l1Fee]
    simp only [Journal.setBalance, executes.caller, if_true, resetCaches, HandlerContext.effectiveGasPrice] at charged ⊢
    omega

theorem eth_settlement_spends (eth : pooled.tx.feeTokenId = 0) (evm settled : MorphEvm) (gas : Gas)
    (settlement : settleGas ctx evm gas = .ok settled) : Spends state used sender 0 (fun _ => 0) evm.journal settled.journal := by
  obtain ⟨found, paidBack, journal⟩ := settle_gas_eth ctx (executes.paysEth eth) evm gas
  cases settlement.symm.trans paidBack
  rw [journal]
  apply spends_balance
  · rw [incr_balance_storage, incr_balance_storage]
  · exact (incr_balance_grows _ _ _ _).trans (incr_balance_grows _ _ _ _)

end Hooks

-- The registry and the oracle are as in the state the pool was maintained with.
structure SamePrices (state : StateProvider) (journal : Journal) : Prop where
  registry : ∀ slot, journal.storage l2TokenRegistryAddress slot = state.storage l2TokenRegistryAddress slot
  oracle : ∀ slot, journal.storage l1GasPriceOracleAddress slot = state.storage l1GasPriceOracleAddress slot

theorem SamePrices.kept {state : StateProvider} {used : U16 → Prop} {sender : Address} {eth : Nat} {tokens : U16 → Nat}
    {before after : Journal} (prices : SamePrices state before) (spends : Spends state used sender eth tokens before after) :
    SamePrices state after where
  registry slot := (spends.registry slot).trans (prices.registry slot)
  oracle slot := (spends.oracle slot).trans (prices.oracle slot)

section Prices

variable {tip : Tip} {state : StateProvider} {used : U16 → Prop} {sender : Address} {journal : Journal} (prices : SamePrices state journal)
include prices

theorem fetch_listed {id : U16} {entry : TokenRegistryEntry} {slot : U256} (listed : Listed state used id entry slot) :
    fetchTokenInfo (viewOf state journal).toPoolDb id sender = .ok (entry.intoFeeInfo sender (held state sender journal entry slot)) := by
  have registered := (registry_entry_congr state.keccak256 prices.registry id).trans listed.registered
  simp only [fetchTokenInfo, loadForCaller, viewOf, registered, listed.slotMode]
  rfl

theorem token_balance_listed {id : U16} {entry : TokenRegistryEntry} {slot : U256} (listed : Listed state used id entry slot) :
    tokenBalance (viewOf state journal) sender id = held state sender journal entry slot := by
  rw [tokenBalance, fetch_listed prices listed]
  rfl

theorem l1_fee_same (pooled : PooledMorphTx) : l1DataFee tip (viewOf state journal) pooled = l1DataFee tip state pooled := by
  have fetched := l1_block_info_congr prices.oracle tip.hardfork
  simp only [l1DataFee, viewOf, fetched]

theorem required_listed (pooled : PooledMorphTx) {entry : TokenRegistryEntry} {slot : U256}
    (listed : Listed state used pooled.tx.feeTokenId entry slot) (balance : U256) :
    requiredTokenAmount tip (viewOf state journal) sender pooled =
      (entry.intoFeeInfo sender balance).ethToTokenAmount (saturatingAdd (maxGasFee pooled.tx) (l1DataFee tip state pooled)) := by
  rw [requiredTokenAmount, fetch_listed prices listed, l1_fee_same prices]
  rfl

end Prices

section TokenHooks

variable {tip : Tip} {state : StateProvider} {used : U16 → Prop} (tokens : FeeTokens state used) {sender : Address} {ctx : HandlerContext}
  {pooled : PooledMorphTx} (executes : Executes tip state sender ctx pooled) {entry : TokenRegistryEntry} {slot : U256}
  (listed : Listed state used pooled.tx.feeTokenId entry slot)

include tokens executes listed

theorem pay_token_fee_spends (evm paid : MorphEvm) (balance amount : U256)
    (payment : payTokenFee ctx.feeContext evm (entry.intoFeeInfo sender balance) amount = .ok paid) :
    Spends state used sender 0 (fun id => if id = pooled.tx.feeTokenId then amount.toNat else 0) evm.journal paid.journal := by
  rw [payTokenFee] at payment
  by_cases zero : amount = 0
  · rw [if_pos zero] at payment
    cases payment
    exact (spends_nothing _).weaken (Nat.le_refl _) (fun _ _ => Nat.zero_le _)
  · rw [if_neg zero] at payment
    simp only [TokenRegistryEntry.intoFeeInfo, listed.slotMode, bind_ok] at payment
    obtain ⟨after, transferred, result⟩ := payment
    cases result
    have frame := slot_transfer_frame _ _ _ _ _ _ _ _ transferred
    have bounds := slot_transfer_bounds _ _ _ _ _ _ _ _ transferred
    have caller : ctx.feeContext.tx.caller = sender := executes.caller
    have digest : ctx.feeContext.keccak256 = state.keccak256 := executes.digest
    rw [caller, digest] at bounds
    exact spends_token tokens listed amount.toNat frame.1 frame.2 bounds.1

theorem refund_token_spends (journal : Journal) (balance amount : U256) :
    Spends state used sender 0 (fun _ => 0) journal (refundToken ctx.feeContext journal (entry.intoFeeInfo sender balance) amount) := by
  simp only [refundToken, TokenRegistryEntry.intoFeeInfo, listed.slotMode]
  split
  · next after transferred =>
      have frame := slot_transfer_frame _ _ _ _ _ _ _ _ transferred
      have bounds := slot_transfer_bounds _ _ _ _ _ _ _ _ transferred
      have caller : ctx.feeContext.tx.caller = sender := executes.caller
      have digest : ctx.feeContext.keccak256 = state.keccak256 := executes.digest
      rw [caller, digest] at bounds
      refine (spends_token tokens listed 0 frame.1 frame.2 bounds.2).weaken (Nat.le_refl _) (fun id _ => ?_)
      split
      · exact Nat.le_refl _
      · exact Nat.le_refl _
  · exact spends_nothing _

-- The fee information a deduction caches is the token's, whatever balance it
-- was read with.
theorem token_deduction_spends (evm deducted : MorphEvm) (prices : SamePrices state evm.journal)
    (deduction : validateAndDeductTokenFee ctx.feeContext (resetCaches evm) pooled.tx.feeTokenId = .ok deducted) :
    (∃ balance, deducted.cachedTokenFeeInfo = some (entry.intoFeeInfo sender balance)) ∧
      Spends state used sender 0
        (fun id => if id = pooled.tx.feeTokenId then (requiredTokenAmount tip (viewOf state evm.journal) sender pooled).toNat else 0)
        evm.journal deducted.journal := by
  have caller : ctx.feeContext.tx.caller = sender := executes.caller
  have digest : ctx.feeContext.keccak256 = state.keccak256 := executes.digest
  have charging : ctx.feeContext.isFeeChargeDisabled = false := executes.charging
  have registered : readRegistryEntry ctx.feeContext.keccak256 (resetCaches evm).journal.storage pooled.tx.feeTokenId = some entry := by
    rw [digest]
    exact (registry_entry_congr state.keccak256 prices.registry _).trans listed.registered
  simp only [validateAndDeductTokenFee, bind_ok, charging, Bool.false_eq_true, if_false] at deduction
  obtain ⟨_, _, _, _, _, _, accepted, loaded, info, priced, _, _, paid, payment, result⟩ := deduction
  simp only [loadRegistryEntry, registered] at loaded
  obtain ⟨rfl, usable⟩ := ensure_usable_ok entry accepted _ loaded sender
    (readBalanceFromStorage ctx.feeContext.keccak256 (resetCaches evm).journal.storage accepted.tokenAddress sender slot)
  simp only [loadTokenFeeInfo, listed.slotMode, caller] at priced
  cases priced
  cases result
  refine ⟨⟨_, rfl⟩, ?_⟩
  have spends := pay_token_fee_spends tokens executes listed _ _ _ _ payment
  have bumped : Spends state used sender 0 (fun _ => 0) paid.journal (bumpCallNonce ctx.feeContext paid.journal) := by
    apply spends_balance
    · rw [bump_call_nonce_storage]
    · rw [bump_call_nonce_balance]
      exact Nat.le_refl _
  refine (spends.trans bumped).weaken (Nat.le_refl _) (fun id _ => ?_)
  by_cases paying : id = pooled.tx.feeTokenId
  · have cheaper := cheaper_than_cap ctx pooled.tx pooled.signature sender executes.environment (ctx.l1DataFee evm.journal)
    rw [if_pos paying, if_pos paying, Nat.add_zero, required_listed prices pooled listed
      (readBalanceFromStorage ctx.feeContext.keccak256 (resetCaches evm).journal.storage accepted.tokenAddress sender slot)]
    rw [executes.l1Fee, l1_fee_same prices] at cheaper
    have same : ctx.feeContext.l1DataFee (resetCaches evm).journal = l1DataFee tip state pooled := by
      rw [← l1_fee_same prices, ← executes.l1Fee]
      rfl
    rw [same]
    exact token_amount_mono _ usable _ _ cheaper
  · rw [if_neg paying, if_neg paying]

theorem token_settlement_spends (token : pooled.tx.feeTokenId ≠ 0) (evm settled : MorphEvm) (balance : U256)
    (cached : evm.cachedTokenFeeInfo = some (entry.intoFeeInfo sender balance)) (gas : Gas)
    (settlement : settleGas ctx evm gas = .ok settled) : Spends state used sender 0 (fun _ => 0) evm.journal settled.journal := by
  have pays := executes.paysToken token
  simp only [settleGas, bind_ok, rewardBeneficiary, reimburseCaller, executes.notL1Msg, pays, cached, Option.isNone_some, Bool.false_eq_true,
    if_false, if_true, or_true, Except.ok.injEq] at settlement
  obtain ⟨reimbursed, refund, rfl⟩ := settlement
  simp only [reimburseCallerTokenFee, cached] at refund
  split at refund
  · cases refund
    exact spends_nothing _
  · generalize (if ctx.feeContext.isCeladon = true then _ else _) = amount at refund
    split at refund
    · cases refund
      exact spends_nothing _
    · cases refund
      exact refund_token_spends tokens executes listed _ _ _

end TokenHooks

end MorphReth.TxPool
