import MorphReth.TxPool.Maintenance

set_option autoImplicit false

namespace MorphReth.TxPool

open Rlp Consensus Transaction Fee

inductive Currency where
  | eth
  | token (id : U16)

structure StructurallyValid (tip : Tip) (pooled : PooledMorphTx) : Prop where
  gas : pooled.tx.gasLimit.toNat ≤ tip.gasLimit.toNat
  jade : ¬(tip.hardfork.isJade = false ∧ pooled.tx.version = morphTxVersion1)
  celadon : ¬(tip.hardfork.isCeladon = false ∧ pooled.tx.version = morphTxVersion2)
  valid : pooled.tx.validate = .ok ()

section Affordability

variable (tip : Tip) (state : StateProvider) (sender : Address)

def tokenBalance (id : U16) : U256 :=
  match fetchTokenInfo state.toPoolDb id sender with
  | .ok info => info.balance
  | .error _ => 0

-- What the fee cap of a transaction costs in its token.
def requiredTokenAmount (pooled : PooledMorphTx) : U256 :=
  match fetchTokenInfo state.toPoolDb pooled.tx.feeTokenId sender with
  | .ok info => info.ethToTokenAmount (saturatingAdd (maxGasFee pooled.tx) (l1DataFee tip state pooled))
  | .error _ => 0

structure UsableToken (pooled : PooledMorphTx) (info : TokenFeeInfo) : Prop where
  fetched : fetchTokenInfo state.toPoolDb pooled.tx.feeTokenId sender = .ok info
  active : info.isActive = true
  priced : info.priceRatio ≠ 0
  limit : pooled.tx.feeLimit ≠ 0 → (requiredTokenAmount tip state sender pooled).toNat ≤ pooled.tx.feeLimit.toNat

structure Admissible (pooled : PooledMorphTx) : Prop where
  structurallyValid : StructurallyValid tip pooled
  usable : pooled.tx.feeTokenId ≠ 0 → ∃ info, UsableToken tip state sender pooled info

def ethNeed (pooled : PooledMorphTx) : Nat :=
  pooled.tx.value.toNat +
    if pooled.tx.feeTokenId = 0 then pooled.tx.gasLimit.toNat * pooled.tx.maxFeePerGas.toNat + (l1DataFee tip state pooled).toNat else 0

-- The same sum as the pool computes it, which stops at the largest word.
def cappedEthNeed (pooled : PooledMorphTx) : Nat :=
  min (ethNeed tip state pooled) (2 ^ 256 - 1)

-- A sender's transactions need ETH and, each, at most one token.
def senderDemand (balance : U256) (ethOf : PooledMorphTx → Nat) : Demand PooledMorphTx Currency where
  admissible := Admissible tip state sender
  need pooled
    | .eth => ethOf pooled
    | .token id => if pooled.tx.feeTokenId = id ∧ id ≠ 0 then (requiredTokenAmount tip state sender pooled).toNat else 0
  supply
    | .eth => balance.toNat
    | .token id => (tokenBalance state sender id).toNat

-- A token that was not met yet has all of its balance left.
def remainingBudget (budget : SenderBudget) : Currency → Nat
  | .eth => budget.ethBalance.toNat
  | .token id => ((budget.tokenBalances id).getD (tokenBalance state sender id)).toNat

end Affordability

section Turn

variable (tip : Tip) (state : StateProvider) (sender : Address) (budget after : SenderBudget) (pooled : PooledMorphTx)

def ethCost : U256 :=
  saturatingAdd (saturatingAdd (maxGasFee pooled.tx) (l1DataFee tip state pooled)) pooled.tx.value

def payEth : SenderBudget :=
  { budget with ethBalance := saturatingSub budget.ethBalance (ethCost tip state pooled) }

def tokenLeft : U256 :=
  (budget.tokenBalances pooled.tx.feeTokenId).getD (tokenBalance state sender pooled.tx.feeTokenId)

def payToken : SenderBudget :=
  { ethBalance := saturatingSub budget.ethBalance pooled.tx.value
    tokenBalances := Function.update budget.tokenBalances pooled.tx.feeTokenId
      (some (saturatingSub (tokenLeft state sender budget pooled) (requiredTokenAmount tip state sender pooled))) }

theorem eth_cost_nat (eth : pooled.tx.feeTokenId = 0) : (ethCost tip state pooled).toNat = cappedEthNeed tip state pooled := by
  rw [ethCost, saturating_add_nat, saturating_add_nat, max_gas_fee_nat, cappedEthNeed, ethNeed, if_pos eth]
  omega

-- The fee part of the validation, by the kind of fee.
def validateFee : Except MorphTxError MorphTxValidationResult :=
  if pooled.tx.feeTokenId = 0 then validateEthFee pooled.tx (validationInput tip state sender budget pooled)
  else validateTokenFee state.toPoolDb pooled.tx (validationInput tip state sender budget pooled)

theorem validate_ok (validation : MorphTxValidationResult) :
    validateMorphTx state.toPoolDb (validationInput tip state sender budget pooled) = .ok validation ↔
      ¬(tip.hardfork.isJade = false ∧ pooled.tx.version = morphTxVersion1) ∧
        ¬(tip.hardfork.isCeladon = false ∧ pooled.tx.version = morphTxVersion2) ∧
        pooled.tx.validate = .ok () ∧ pooled.tx.value.toNat ≤ budget.ethBalance.toNat ∧
        validateFee tip state sender budget pooled = .ok validation := by
  simp only [validateMorphTx, validateFee, validationInput, PooledMorphTx.consensusTx, bind_ok, reject_if_ok, map_error_ok, gt_iff_lt,
    BitVec.not_lt, BitVec.le_def]
  constructor
  · rintro ⟨_, jade, _, celadon, _, valid, _, value, fee⟩
    exact ⟨(reject_if_ok _ _ _).mp jade, (reject_if_ok _ _ _).mp celadon, valid, value, fee⟩
  · rintro ⟨jade, celadon, valid, value, fee⟩
    exact ⟨(), (reject_if_ok _ _ _).mpr jade, (), (reject_if_ok _ _ _).mpr celadon, (), valid, (), value, fee⟩

theorem revalidate_some : revalidate tip state sender budget pooled = some after ↔
    StructurallyValid tip pooled ∧ pooled.tx.value.toNat ≤ budget.ethBalance.toNat ∧
      ∃ validation, validateFee tip state sender budget pooled = .ok validation ∧
        consumeBudget tip state budget pooled validation = (true, after) := by
  have fits : exceedsBlockGasLimit pooled.tx.gasLimit tip.gasLimit = false ↔ pooled.tx.gasLimit.toNat ≤ tip.gasLimit.toNat := by
    simp [exceedsBlockGasLimit, BitVec.le_def]
  constructor
  · intro kept
    rw [revalidate] at kept
    split at kept
    · cases kept
    · next within =>
        split at kept
        · cases kept
        · next validation validated =>
            obtain ⟨jade, celadon, valid, value, fee⟩ := (validate_ok tip state sender budget pooled validation).mp validated
            refine ⟨⟨fits.mp (Bool.eq_false_of_not_eq_true within), jade, celadon, valid⟩, value, validation, fee, ?_⟩
            cases consumed : consumeBudget tip state budget pooled validation with
            | mk affordable rest =>
                simp only [consumed, Option.ite_none_right_eq_some, Option.some.injEq] at kept
                rw [kept.1, kept.2]
  · rintro ⟨structural, value, validation, fee, consumed⟩
    have validated := (validate_ok tip state sender budget pooled validation).mpr ⟨structural.jade, structural.celadon, structural.valid, value, fee⟩
    simp [revalidate, fits.mpr structural.gas, validated, consumed]

theorem consumed_iff (refused : Prop) [Decidable refused] (entered paid : SenderBudget) :
    (if refused then (false, entered) else (true, paid)) = (true, after) ↔ ¬refused ∧ paid = after := by
  by_cases holds : refused
  · simp [holds]
  · simp [holds]

theorem eth_turn (eth : pooled.tx.feeTokenId = 0) : revalidate tip state sender budget pooled = some after ↔
    StructurallyValid tip pooled ∧ (ethCost tip state pooled).toNat ≤ budget.ethBalance.toNat ∧ after = payEth tip state budget pooled := by
  have consumed : consumeBudget tip state budget pooled ⟨false, none, 0, 0⟩ = (true, after) ↔
      (ethCost tip state pooled).toNat ≤ budget.ethBalance.toNat ∧ payEth tip state budget pooled = after := by
    change (if ethCost tip state pooled > budget.ethBalance then (false, budget) else (true, payEth tip state budget pooled)) = _ ↔ _
    rw [consumed_iff, gt_iff_lt, BitVec.not_lt, BitVec.le_def]
  have validated : ∀ validation, validateFee tip state sender budget pooled = .ok validation ↔
      (ethCost tip state pooled).toNat ≤ budget.ethBalance.toNat ∧ ⟨false, none, 0, 0⟩ = validation := by
    intro validation
    rw [validateFee, if_pos eth, validateEthFee, bind_ok]
    simp only [reject_if_ok, gt_iff_lt, BitVec.not_lt, BitVec.le_def, Except.ok.injEq, exists_const]
    rfl
  have covers : (ethCost tip state pooled).toNat ≤ budget.ethBalance.toNat → pooled.tx.value.toNat ≤ budget.ethBalance.toNat := by
    intro enough
    have word := pooled.tx.value.isLt
    rw [ethCost, saturating_add_nat] at enough
    omega
  rw [revalidate_some]
  constructor
  · rintro ⟨structural, _, validation, fee, paid⟩
    obtain ⟨_, rfl⟩ := (validated validation).mp fee
    obtain ⟨enough, same⟩ := consumed.mp paid
    exact ⟨structural, enough, same.symm⟩
  · rintro ⟨structural, enough, same⟩
    exact ⟨structural, covers enough, _, (validated _).mpr ⟨enough, rfl⟩, consumed.mpr ⟨enough, same.symm⟩⟩

theorem limit_covers (limit left required : U256) :
    ¬(if limit = 0 ∨ limit > left then left else limit) < required ↔ (limit ≠ 0 → required.toNat ≤ limit.toNat) ∧ required.toNat ≤ left.toNat := by
  have zero : limit = 0 ↔ limit.toNat = 0 := by rw [← BitVec.toNat_inj]; rfl
  rw [BitVec.not_lt, BitVec.le_def]
  split
  · next clamped =>
      simp only [ne_eq, zero, gt_iff_lt, BitVec.lt_def] at clamped ⊢
      omega
  · next within =>
      simp only [ne_eq, zero, gt_iff_lt, BitVec.lt_def] at within ⊢
      omega

theorem effective_limit_eq (info : TokenFeeInfo) (limit : U256) :
    info.effectiveFeeLimit limit = if limit = 0 ∨ limit > info.balance then info.balance else limit := by
  rw [TokenFeeInfo.effectiveFeeLimit]
  by_cases zero : limit = 0
  · rw [if_pos zero, if_pos (Or.inl zero)]
  · rw [if_neg zero]
    by_cases above : info.balance < limit
    · rw [if_pos (BitVec.le_of_lt above), if_pos (Or.inr above)]
    · rw [if_neg (not_or.mpr ⟨zero, above⟩)]
      split
      · next covered => exact BitVec.le_antisymm covered (BitVec.not_lt.mp above)
      · rfl

section Fetched

variable (info : TokenFeeInfo) (fetched : fetchTokenInfo state.toPoolDb pooled.tx.feeTokenId sender = .ok info)
include fetched

theorem balance_fetched : tokenBalance state sender pooled.tx.feeTokenId = info.balance := by
  rw [tokenBalance, fetched]

theorem required_fetched : requiredTokenAmount tip state sender pooled =
    info.ethToTokenAmount (saturatingAdd (maxGasFee pooled.tx) (l1DataFee tip state pooled)) := by
  rw [requiredTokenAmount, fetched]

theorem consume_token (required : U256) (same : required = requiredTokenAmount tip state sender pooled) :
    consumeBudget tip state budget pooled ⟨true, some info, required, required⟩ = (true, after) ↔
      (pooled.tx.feeLimit ≠ 0 → required.toNat ≤ pooled.tx.feeLimit.toNat) ∧ required.toNat ≤ (tokenLeft state sender budget pooled).toNat ∧
        pooled.tx.value.toNat ≤ budget.ethBalance.toNat ∧ payToken tip state sender budget pooled = after := by
  have covers := limit_covers pooled.tx.feeLimit (tokenLeft state sender budget pooled) required
  simp only [consumeBudget, consumeTokenBudget, if_true, Option.map_some, Option.getD_some, ← balance_fetched state sender pooled info fetched,
    Function.update_idem]
  rw [consumed_iff, not_or, payToken, ← same, ← and_assoc, ← and_assoc, ← covers, ← BitVec.le_def, ← BitVec.not_lt]
  rfl

end Fetched

theorem token_validated (token : pooled.tx.feeTokenId ≠ 0) (validation : MorphTxValidationResult) :
    validateFee tip state sender budget pooled = .ok validation ↔
      ∃ info, UsableToken tip state sender pooled info ∧ (requiredTokenAmount tip state sender pooled).toNat ≤ info.balance.toNat ∧
        validation = ⟨true, some info, requiredTokenAmount tip state sender pooled, requiredTokenAmount tip state sender pooled⟩ := by
  have covers : ∀ info, fetchTokenInfo state.toPoolDb pooled.tx.feeTokenId sender = .ok info →
      (¬info.effectiveFeeLimit pooled.tx.feeLimit < info.ethToTokenAmount (saturatingAdd (maxGasFee pooled.tx) (l1DataFee tip state pooled)) ↔
        (pooled.tx.feeLimit ≠ 0 → (requiredTokenAmount tip state sender pooled).toNat ≤ pooled.tx.feeLimit.toNat) ∧
          (requiredTokenAmount tip state sender pooled).toNat ≤ info.balance.toNat) := by
    intro info fetched
    rw [effective_limit_eq, limit_covers, ← required_fetched tip state sender pooled info fetched]
  simp only [validateFee, if_neg token, validateTokenFee, bind_ok, reject_if_ok, Except.ok.injEq]
  constructor
  · rintro ⟨info, fetched, _, active, _, priced, _, covered, rfl⟩
    obtain ⟨limit, enough⟩ := (covers info fetched).mp covered
    refine ⟨info, ⟨fetched, Bool.eq_true_of_not_eq_false active, priced, limit⟩, enough, ?_⟩
    rw [required_fetched tip state sender pooled info fetched]
    rfl
  · rintro ⟨info, usable, enough, rfl⟩
    refine ⟨info, usable.fetched, (), by simp [usable.active], (), usable.priced, (), (covers info usable.fetched).mpr ⟨usable.limit, enough⟩, ?_⟩
    rw [required_fetched tip state sender pooled info usable.fetched]
    rfl

theorem token_turn (token : pooled.tx.feeTokenId ≠ 0)
    (bounded : (tokenLeft state sender budget pooled).toNat ≤ (tokenBalance state sender pooled.tx.feeTokenId).toNat) :
    revalidate tip state sender budget pooled = some after ↔
      StructurallyValid tip pooled ∧ (∃ info, UsableToken tip state sender pooled info) ∧
        (requiredTokenAmount tip state sender pooled).toNat ≤ (tokenLeft state sender budget pooled).toNat ∧
        pooled.tx.value.toNat ≤ budget.ethBalance.toNat ∧ after = payToken tip state sender budget pooled := by
  rw [revalidate_some]
  constructor
  · rintro ⟨structural, value, validation, validated, paid⟩
    obtain ⟨info, usable, _, rfl⟩ := (token_validated tip state sender budget pooled token validation).mp validated
    obtain ⟨_, enough, _, rfl⟩ := (consume_token tip state sender budget after pooled info usable.fetched _ rfl).mp paid
    exact ⟨structural, ⟨info, usable⟩, enough, value, rfl⟩
  · rintro ⟨structural, ⟨info, usable⟩, enough, value, rfl⟩
    -- The whole balance covers what the rolling budget covers.
    have covered : (requiredTokenAmount tip state sender pooled).toNat ≤ info.balance.toNat := by
      rw [← balance_fetched state sender pooled info usable.fetched]
      exact enough.trans bounded
    exact ⟨structural, value, _, (token_validated tip state sender budget pooled token _).mpr ⟨info, usable, covered, rfl⟩,
      (consume_token tip state sender budget _ pooled info usable.fetched _ rfl).mpr ⟨usable.limit, enough, value, rfl⟩⟩

end Turn

section Pays

variable (tip : Tip) (state : StateProvider) (sender : Address) (balance : U256)

theorem eth_need_of_token (pooled : PooledMorphTx) (token : pooled.tx.feeTokenId ≠ 0) :
    cappedEthNeed tip state pooled = pooled.tx.value.toNat := by
  have word := pooled.tx.value.isLt
  rw [cappedEthNeed, ethNeed, if_neg token]
  omega

section Spending

variable (budget : SenderBudget) (pooled : PooledMorphTx)

theorem eth_spent (eth : pooled.tx.feeTokenId = 0) (enough : (ethCost tip state pooled).toNat ≤ budget.ethBalance.toNat)
    (currency : Currency) :
    (senderDemand tip state sender balance (cappedEthNeed tip state)).need pooled currency +
      remainingBudget state sender (payEth tip state budget pooled) currency = remainingBudget state sender budget currency := by
  cases currency with
  | eth =>
      simp only [senderDemand, remainingBudget, payEth, saturating_sub_nat]
      rw [eth_cost_nat tip state pooled eth] at enough ⊢
      exact Nat.add_sub_of_le enough
  | token id =>
      have unused : ¬(pooled.tx.feeTokenId = id ∧ id ≠ 0) := by
        intro used
        exact used.2 (used.1 ▸ eth)
      simp only [senderDemand, remainingBudget, payEth, if_neg unused, Nat.zero_add]

theorem token_spent (token : pooled.tx.feeTokenId ≠ 0)
    (enough : (requiredTokenAmount tip state sender pooled).toNat ≤ (tokenLeft state sender budget pooled).toNat)
    (value : pooled.tx.value.toNat ≤ budget.ethBalance.toNat) (currency : Currency) :
    (senderDemand tip state sender balance (cappedEthNeed tip state)).need pooled currency +
      remainingBudget state sender (payToken tip state sender budget pooled) currency = remainingBudget state sender budget currency := by
  cases currency with
  | eth =>
      simp only [senderDemand, remainingBudget, payToken, saturating_sub_nat, eth_need_of_token tip state pooled token]
      exact Nat.add_sub_of_le value
  | token id =>
      by_cases same : pooled.tx.feeTokenId = id
      · subst same
        simp only [senderDemand, remainingBudget, payToken, Function.update_self, Option.getD_some, saturating_sub_nat, ne_eq, token,
          not_false_eq_true, and_self, if_true]
        exact Nat.add_sub_of_le enough
      · simp only [senderDemand, remainingBudget, payToken, Function.update_of_ne (Ne.symm same), same, false_and, if_false, Nat.zero_add]

end Spending

-- The rolling budget holds what the sender's balances leave, currency by
-- currency, and a transaction is refused only for want of one of them.
theorem sender_paid : (senderDemand tip state sender balance (cappedEthNeed tip state)).PaidBy (revalidate tip state sender)
    (remainingBudget state sender) where
  paid budget pooled after bounded kept := by
    by_cases eth : pooled.tx.feeTokenId = 0
    · obtain ⟨structural, enough, rfl⟩ := (eth_turn tip state sender budget after pooled eth).mp kept
      exact ⟨⟨structural, fun token => absurd eth token⟩, eth_spent tip state sender balance budget pooled eth enough⟩
    · obtain ⟨structural, usable, enough, value, rfl⟩ := (token_turn tip state sender budget after pooled eth (bounded (.token _))).mp kept
      exact ⟨⟨structural, fun _ => usable⟩, token_spent tip state sender balance budget pooled eth enough value⟩
  refused budget pooled bounded dropped admissible := by
    by_contra covered
    simp only [not_exists, Nat.not_lt] at covered
    have keeps : ∃ after, revalidate tip state sender budget pooled = some after := by
      by_cases eth : pooled.tx.feeTokenId = 0
      · have enough := covered .eth
        simp only [senderDemand, remainingBudget, ← eth_cost_nat tip state pooled eth] at enough
        exact ⟨_, (eth_turn tip state sender budget _ pooled eth).mpr ⟨admissible.structurallyValid, enough, rfl⟩⟩
      · have enough := covered (.token pooled.tx.feeTokenId)
        have value := covered .eth
        simp only [senderDemand, remainingBudget, ne_eq, eth, not_false_eq_true, and_self, if_true] at enough
        simp only [senderDemand, remainingBudget, eth_need_of_token tip state pooled eth] at value
        exact ⟨_, (token_turn tip state sender budget _ pooled eth (bounded (.token _))).mpr
          ⟨admissible.structurallyValid, admissible.usable eth, enough, value, rfl⟩⟩
    obtain ⟨after, kept⟩ := keeps
    rw [dropped] at kept
    cases kept

-- Below the largest word no transaction that fits is capped.
theorem plain_affordable (below : balance ≠ maxWord 256) (items : List PooledMorphTx) :
    (senderDemand tip state sender balance (ethNeed tip state)).Affordable items ↔
      (senderDemand tip state sender balance (cappedEthNeed tip state)).Affordable items := by
  have short : balance.toNat < 2 ^ 256 - 1 := by
    have different : balance.toNat ≠ (maxWord 256).toNat := fun same => below (BitVec.eq_of_toNat_eq same)
    rw [max_word_nat] at different
    omega
  have small : ∀ ethOf : PooledMorphTx → Nat, (senderDemand tip state sender balance ethOf).Affordable items →
      ∀ pooled ∈ items, ethOf pooled < 2 ^ 256 - 1 := by
    intro ethOf affordable pooled member
    exact ((need_le_total _ items pooled member Currency.eth).trans (affordable.covered .eth)).trans_lt short
  have same : (∀ pooled ∈ items, ethNeed tip state pooled = cappedEthNeed tip state pooled) →
      (senderDemand tip state sender balance (ethNeed tip state)).total items =
        (senderDemand tip state sender balance (cappedEthNeed tip state)).total items := by
    intro equal
    funext currency
    cases currency with
    | eth => exact congrArg List.sum (List.map_congr_left equal)
    | token id => rfl
  constructor
  · intro affordable
    have equal := same (fun pooled member => (Nat.min_eq_left (small _ affordable pooled member).le).symm)
    exact ⟨affordable.admissible, fun currency => equal ▸ affordable.covered currency⟩
  · intro affordable
    have equal : ∀ pooled ∈ items, ethNeed tip state pooled = cappedEthNeed tip state pooled := by
      intro pooled member
      have uncapped := small _ affordable pooled member
      rw [cappedEthNeed] at uncapped ⊢
      omega
    exact ⟨affordable.admissible, fun currency => same equal ▸ affordable.covered currency⟩

end Pays

structure KeepsAffordablePrefix (affordable : List PooledMorphTx → Prop) (ordered : List PooledMorphTx) (marks : List B256) : Prop where
  nothing : affordable ordered → marks = []
  first : ¬affordable ordered → ∃ before pooled after, ordered = before ++ pooled :: after ∧ affordable before ∧
    ¬affordable (before ++ [pooled]) ∧ marks = [pooled.hash]

-- A list of the sender's transactions by increasing nonce.
structure NonceOrder (ordered senderTxs : List PooledMorphTx) : Prop where
  same : ordered.Perm senderTxs
  increasing : ordered.Pairwise (fun left right => left.tx.nonce.toNat ≤ right.tx.nonce.toNat)

def pooledMorphTxs (pending queued : List PooledTransaction) : List PooledMorphTx :=
  (pending ++ queued).filterMap PooledTransaction.asMorphTx

def txsOf (sender : Address) (pending queued : List PooledTransaction) : List PooledMorphTx :=
  (pooledMorphTxs pending queued).filter (fun pooled => pooled.sender = sender)

theorem nonce_ordered (senderTxs : List PooledMorphTx) : NonceOrder (nonceOrdered senderTxs) senderTxs := by
  have total : Std.Total (fun left right : PooledMorphTx => left.tx.nonce.toNat ≤ right.tx.nonce.toNat) :=
    ⟨fun left right => Nat.le_total _ _⟩
  have transitive : IsTrans PooledMorphTx (fun left right => left.tx.nonce.toNat ≤ right.tx.nonce.toNat) :=
    ⟨fun left mid right => Nat.le_trans⟩
  exact ⟨List.perm_insertionSort _ senderTxs, List.pairwise_insertionSort _ senderTxs⟩

theorem keeps_prefix (demand : Demand PooledMorphTx Currency) (ordered : List PooledMorphTx) (marked : Option PooledMorphTx)
    (settled : FirstUnaffordable demand.Affordable ordered marked) :
    KeepsAffordablePrefix demand.Affordable ordered (marked.map (·.hash)).toList := by
  cases marked with
  | none => exact ⟨fun _ => rfl, fun exceeds => absurd settled exceeds⟩
  | some pooled =>
      obtain ⟨before, after, split, fits, exceeds⟩ := settled
      refine ⟨fun all => absurd ?_ exceeds, fun _ => ⟨before, pooled, after, split, fits, exceeds, rfl⟩⟩
      apply affordable_prefix demand (before ++ [pooled]) after
      rw [List.append_assoc, List.singleton_append, ← split]
      exact all

section Pass

variable (tip : Tip) (state : StateProvider) (sender : Address) (account : Option U256) (read : state.basic sender = .ok account)
include read

theorem sender_keeps_prefix (senderTxs : List PooledMorphTx) :
    KeepsAffordablePrefix (senderDemand tip state sender (account.getD 0) (cappedEthNeed tip state)).Affordable (nonceOrdered senderTxs)
      (revalidateSender tip state sender senderTxs) := by
  rw [revalidateSender, read]
  apply keeps_prefix
  apply first_refused_settles _ _ (remainingBudget state sender) (sender_paid tip state sender (account.getD 0))
  intro currency
  cases currency <;> rfl

theorem sender_keeps_plain_prefix (below : account.getD 0 ≠ maxWord 256) (senderTxs : List PooledMorphTx) :
    KeepsAffordablePrefix (senderDemand tip state sender (account.getD 0) (ethNeed tip state)).Affordable (nonceOrdered senderTxs)
      (revalidateSender tip state sender senderTxs) := by
  have same : (senderDemand tip state sender (account.getD 0) (ethNeed tip state)).Affordable =
      (senderDemand tip state sender (account.getD 0) (cappedEthNeed tip state)).Affordable :=
    funext (fun items => propext (plain_affordable tip state sender (account.getD 0) below items))
  rw [same]
  exact sender_keeps_prefix tip state sender account read senderTxs

end Pass

theorem pass_by_sender (tip : Tip) (state : StateProvider) (pending queued : List PooledTransaction) :
    ∃ senders : List Address, senders.Nodup ∧ (∀ sender, sender ∈ senders ↔ txsOf sender pending queued ≠ []) ∧
      maintainMorphPool tip (.ok state) pending queued =
        senders.flatMap (fun sender => revalidateSender tip state sender (txsOf sender pending queued)) := by
  have grouped := group_items_grouped PooledMorphTx.sender (pooledMorphTxs pending queued)
  refine ⟨_, grouped.distinct, fun sender => ?_, ?_⟩
  · rw [grouped.keys, txsOf, ne_eq, List.filter_eq_nil_iff]
    simp
  · have visited := grouped.flatMap_eq _ _ _ (revalidateSender tip state)
    rw [maintainMorphPool]
    split
    · next empty =>
        rw [pooledMorphTxs, List.isEmpty_iff.mp empty]
        rfl
    · exact visited

-- One pass marks, for every sender whose account can be read, nothing or the
-- first transaction by nonce that the sender cannot afford after the earlier
-- ones. With less ETH than the largest word the needs are the exact sums.
theorem maintenance_keeps_affordable_prefix (tip : Tip) (state : StateProvider) (pending queued : List PooledTransaction) :
    ∃ senders : List Address, senders.Nodup ∧ (∀ sender, sender ∈ senders ↔ txsOf sender pending queued ≠ []) ∧
      ∃ marks : Address → List B256, maintainMorphPool tip (.ok state) pending queued = senders.flatMap marks ∧
        ∀ sender account, state.basic sender = .ok account → ∃ ordered, NonceOrder ordered (txsOf sender pending queued) ∧
          KeepsAffordablePrefix (senderDemand tip state sender (account.getD 0) (cappedEthNeed tip state)).Affordable ordered (marks sender) ∧
          (account.getD 0 ≠ maxWord 256 →
            KeepsAffordablePrefix (senderDemand tip state sender (account.getD 0) (ethNeed tip state)).Affordable ordered (marks sender)) := by
  obtain ⟨senders, distinct, complete, marked⟩ := pass_by_sender tip state pending queued
  refine ⟨senders, distinct, complete, _, marked, fun sender account read => ⟨_, nonce_ordered _, ?_, fun below => ?_⟩⟩
  · exact sender_keeps_prefix tip state sender account read _
  · exact sender_keeps_plain_prefix tip state sender account read below _

-- Three transactions of one sender, out of order: each needs 40 of the 100
-- tokens, so the third by nonce is marked.
def samplePooled (nonce : U64) : PooledTransaction where
  hash := 100 + nonce.setWidth 256
  sender := 1
  transaction := .morph { sampleTokenTx with nonce := nonce, gasLimit := 40, feeLimit := 0, value := 1 } ⟨true, 1, 1⟩

def sampleTip : Tip := ⟨100, .celadon⟩

def sampleProvider (balance : U256) : StateProvider where
  keccak256 := sampleDigest
  storage := sampleStorage
  evmCallBalanceOf _ _ := .error "no call"
  basic _ := .ok (some balance)

theorem maintenance_keeps_affordable_prefix_sample :
    maintainMorphPool sampleTip (.ok (sampleProvider 5)) [samplePooled 2, samplePooled 0] [samplePooled 1] = [102] ∧
      ∃ ordered marks, NonceOrder ordered (txsOf 1 [samplePooled 2, samplePooled 0] [samplePooled 1]) ∧
        KeepsAffordablePrefix (senderDemand sampleTip (sampleProvider 5) 1 5 (ethNeed sampleTip (sampleProvider 5))).Affordable ordered marks := by
  obtain ⟨_, _, _, marks, _, settled⟩ :=
    maintenance_keeps_affordable_prefix sampleTip (sampleProvider 5) [samplePooled 2, samplePooled 0] [samplePooled 1]
  obtain ⟨ordered, order, _, plain⟩ := settled 1 (some 5) rfl
  exact ⟨by decide +kernel, ordered, marks 1, order, plain (by decide +kernel)⟩

-- The whole ETH supply of the type: value and fee together stop at the largest
-- word, which the balance covers.
def sampleWhole : PooledTransaction where
  hash := 7
  sender := 1
  transaction := .morph { sampleTokenTx with
    version := morphTxVersion1, feeTokenId := 0, feeLimit := 0, gasLimit := 1, maxFeePerGas := 1, value := maxWord 256,
      authorizationList := [] } ⟨true, 1, 1⟩

theorem overflowing_cost_not_marked :
    maintainMorphPool sampleTip (.ok (sampleProvider (maxWord 256))) [sampleWhole] [] = [] ∧
      ¬(senderDemand sampleTip (sampleProvider (maxWord 256)) 1 (maxWord 256) (ethNeed sampleTip (sampleProvider (maxWord 256)))).Affordable
        (txsOf 1 [sampleWhole] []) := by
  refine ⟨by decide +kernel, fun affordable => ?_⟩
  exact absurd (affordable.covered .eth) (by decide +kernel)

end MorphReth.TxPool
