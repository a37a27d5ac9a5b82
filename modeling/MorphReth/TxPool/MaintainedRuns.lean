import MorphReth.TxPool.Spending

set_option autoImplicit false

namespace MorphReth.TxPool

open Rlp Consensus Transaction Fee

structure Pool where
  pending : List PooledTransaction
  queued : List PooledTransaction

namespace Pool

def allTransactions (pool : Pool) : List PooledTransaction := pool.pending ++ pool.queued

def txsOf (pool : Pool) (sender : Address) : List PooledMorphTx := TxPool.txsOf sender pool.pending pool.queued

end Pool

-- The removal of marked transactions is the pool library's. What is relied on:
-- it only removes, and it leaves none of a sender's MorphTx from the nonce of a
-- marked one on.
structure PoolRemoval where
  removeTransactionsAndDescendants : Pool → List B256 → Pool
  fewer : ∀ pool hashes, (removeTransactionsAndDescendants pool hashes).allTransactions.Subperm pool.allTransactions
  cleared : ∀ pool hashes sender, ∀ marked ∈ pool.txsOf sender, marked.hash ∈ hashes →
    ∀ pooled ∈ (removeTransactionsAndDescendants pool hashes).txsOf sender, pooled.tx.nonce.toNat < marked.tx.nonce.toNat

-- In nonce order, what has a lower nonce than an entry stands before it.
theorem earlier_part (before : List PooledMorphTx) (pooled : PooledMorphTx) (after kept : List PooledMorphTx)
    (increasing : (before ++ pooled :: after).Pairwise (fun older newer => older.tx.nonce.toNat ≤ newer.tx.nonce.toNat))
    (part : kept.Subperm (before ++ pooled :: after)) (earlier : ∀ other ∈ kept, other.tx.nonce.toNat < pooled.tx.nonce.toNat) :
    kept.Subperm before := by
  have dropped : (pooled :: after).filter (fun other => other.tx.nonce.toNat < pooled.tx.nonce.toNat) = [] := by
    rw [List.pairwise_append] at increasing
    rw [List.filter_eq_nil_iff]
    intro other later
    rcases List.mem_cons.mp later with same | tail
    · simp [same]
    · have := List.rel_of_pairwise_cons increasing.2.1 tail
      simpa using this
  have lower := part.filter (fun other => other.tx.nonce.toNat < pooled.tx.nonce.toNat)
  rw [List.filter_append, dropped, List.append_nil, List.filter_eq_self.mpr (by simpa using earlier)] at lower
  exact lower.trans List.filter_sublist.subperm

section Maintenance

variable (removal : PoolRemoval)

def maintainTurn (tip : Tip) (stateByBlockHash : Except String StateProvider) (pool : Pool) : Pool :=
  let toRemove := maintainMorphPool tip stateByBlockHash pool.pending pool.queued
  if toRemove.isEmpty then pool else removal.removeTransactionsAndDescendants pool toRemove

theorem txs_of_maintained (tip : Tip) (stateByBlockHash : Except String StateProvider) (pool : Pool) (sender : Address) :
    ((maintainTurn removal tip stateByBlockHash pool).txsOf sender).Subperm (pool.txsOf sender) := by
  rw [maintainTurn]
  split
  · exact List.Subperm.refl _
  · obtain ⟨left, same, part⟩ := removal.fewer pool (maintainMorphPool tip stateByBlockHash pool.pending pool.queued)
    exact ⟨_, (same.filterMap _).filter _, (part.filterMap _).filter _⟩

-- What a turn leaves of a sender's transactions is part of a prefix by nonce
-- that the pass found affordable.
theorem survivors_affordable (tip : Tip) (state : StateProvider) (pool : Pool) (sender : Address) (account : Option U256)
    (read : state.basic sender = .ok account) :
    (senderDemand tip state sender (account.getD 0) (cappedEthNeed tip state)).Affordable
      ((maintainTurn removal tip (.ok state) pool).txsOf sender) := by
  obtain ⟨senders, _, complete, marked⟩ := pass_by_sender tip state pool.pending pool.queued
  have settled := sender_keeps_prefix tip state sender account read (pool.txsOf sender)
  have order := nonce_ordered (pool.txsOf sender)
  have part := (txs_of_maintained removal tip (.ok state) pool sender).trans order.same.symm.subperm
  by_cases all : (senderDemand tip state sender (account.getD 0) (cappedEthNeed tip state)).Affordable (nonceOrdered (pool.txsOf sender))
  · exact affordable_subperm _ _ _ part all
  · obtain ⟨before, pooled, after, split, fits, _, marks⟩ := settled.first all
    have listed : pooled ∈ pool.txsOf sender := by
      rw [← order.same.mem_iff, split]
      exact List.mem_append_right _ List.mem_cons_self
    have member : pooled.hash ∈ maintainMorphPool tip (.ok state) pool.pending pool.queued := by
      rw [marked, List.mem_flatMap]
      refine ⟨sender, (complete sender).mpr (List.ne_nil_of_mem listed), ?_⟩
      change pooled.hash ∈ revalidateSender tip state sender (pool.txsOf sender)
      rw [marks]
      exact List.mem_singleton_self _
    have earlier : ∀ other ∈ (maintainTurn removal tip (.ok state) pool).txsOf sender, other.tx.nonce.toNat < pooled.tx.nonce.toNat := by
      rw [maintainTurn]
      simp only [List.isEmpty_eq_false_iff.mpr (List.ne_nil_of_mem member), Bool.false_eq_true, if_false]
      exact removal.cleared pool _ sender pooled listed member
    rw [split] at part
    exact affordable_subperm _ _ _ (earlier_part before pooled after _ (split ▸ order.increasing) part earlier) fits

-- A second turn for the same tip finds nothing left to remove.
theorem maintained_pool_is_settled (tip : Tip) (state : StateProvider) (pool : Pool) :
    maintainMorphPool tip (.ok state) (maintainTurn removal tip (.ok state) pool).pending
      (maintainTurn removal tip (.ok state) pool).queued = [] := by
  obtain ⟨senders, _, _, marked⟩ := pass_by_sender tip state (maintainTurn removal tip (.ok state) pool).pending
    (maintainTurn removal tip (.ok state) pool).queued
  rw [marked, List.flatMap_eq_nil_iff]
  intro sender _
  cases read : state.basic sender with
  | error error =>
      rw [revalidateSender, read]
  | ok account =>
      have settled := sender_keeps_prefix tip state sender account read
      apply (settled _).nothing
      exact affordable_subperm _ _ _ (nonce_ordered _).same.subperm (survivors_affordable removal tip state pool sender account read)

end Maintenance

-- A pooled transaction in a block, with the main frame of its execution.
structure Inclusion where
  pooled : PooledMorphTx
  ctx : HandlerContext
  mainFrame : Journal → Journal × GasOutcome ctx.tx.gasLimit

def Inclusion.execute (included : Inclusion) (evm : MorphEvm) : Except MorphInvalidTransaction MorphEvm := do
  let deducted ← validateAgainstStateAndDeductCaller included.ctx evm
  let frame := included.mainFrame deducted.journal
  settleGas included.ctx { deducted with journal := frame.1 } frame.2.gas

-- What happens on the chain after a turn: one of the sender's transactions is
-- tried, or anything else changes the state.
inductive ChainEvent where
  | others (after : Journal)
  | inclusion (included : Inclusion)

def ChainEvent.included : ChainEvent → Option PooledMorphTx
  | .others _ => none
  | .inclusion included => some included.pooled

-- A transaction that fails is left out of its block.
def ChainEvent.apply (evm : MorphEvm) : ChainEvent → MorphEvm
  | .others after => { evm with journal := after }
  | .inclusion included => match included.execute evm with
      | .ok after => after
      | .error _ => evm

def runEvents (evm : MorphEvm) (events : List ChainEvent) : MorphEvm := events.foldl ChainEvent.apply evm

def includedTxs (events : List ChainEvent) : List PooledMorphTx := events.filterMap ChainEvent.included

def UsedBy (txs : List PooledMorphTx) (id : U16) : Prop := id ≠ 0 ∧ ∃ pooled ∈ txs, pooled.tx.feeTokenId = id

section Runs

variable (tip : Tip) (state : StateProvider) (used : U16 → Prop) (sender : Address)

-- The main frame takes at most the value from the sender, and none of the
-- tokens that pay the fees. Events of others take nothing.
def EventAllowed (before : Journal) : ChainEvent → Prop
  | .others after => Spends state used sender 0 (fun _ => 0) before after
  | .inclusion included => Executes tip state sender included.ctx included.pooled ∧ (before.balance sender).toNat < 2 ^ 128 ∧
      ∀ journal, Spends state used sender included.pooled.tx.value.toNat (fun _ => 0) journal (included.mainFrame journal).1

def demandAt (journal : Journal) : Demand PooledMorphTx Currency :=
  senderDemand tip (viewOf state journal) sender (journal.balance sender) (ethNeed tip (viewOf state journal))

structure Funded (journal : Journal) (txs : List PooledMorphTx) : Prop where
  prices : SamePrices state journal
  paidIn : ∀ pooled ∈ txs, pooled.tx.feeTokenId ≠ 0 → used pooled.tx.feeTokenId
  affordable : (demandAt tip state sender journal).Affordable txs

variable {tip state used sender} (tokens : FeeTokens state used)

theorem fetched_listed {journal : Journal} (prices : SamePrices state journal) {id : U16} (usable : used id) (info : TokenFeeInfo)
    (slotMode : ∀ id entry, used id → readRegistryEntry state.keccak256 state.storage id = some entry → entry.balanceSlot ≠ none)
    (fetched : fetchTokenInfo (viewOf state journal).toPoolDb id sender = .ok info) :
    ∃ entry slot, Listed state used id entry slot ∧ info = entry.intoFeeInfo sender (held state sender journal entry slot) := by
  have same := registry_entry_congr state.keccak256 prices.registry id
  cases registered : readRegistryEntry state.keccak256 state.storage id with
  | none =>
      rw [registered] at same
      simp only [fetchTokenInfo, loadForCaller, viewOf, same, reduceCtorEq] at fetched
  | some entry =>
      obtain ⟨slot, atSlot⟩ := Option.ne_none_iff_exists'.mp (slotMode id entry usable registered)
      have listed : Listed state used id entry slot := ⟨usable, registered, atSlot⟩
      rw [fetch_listed prices listed] at fetched
      exact ⟨entry, slot, listed, (Except.ok.inj fetched).symm⟩

include tokens

theorem required_same {before after : Journal} (earlier : SamePrices state before) (later : SamePrices state after) (pooled : PooledMorphTx)
    (usable : used pooled.tx.feeTokenId) :
    requiredTokenAmount tip (viewOf state after) sender pooled = requiredTokenAmount tip (viewOf state before) sender pooled := by
  cases registered : readRegistryEntry state.keccak256 state.storage pooled.tx.feeTokenId with
  | none =>
      have first := (registry_entry_congr state.keccak256 earlier.registry pooled.tx.feeTokenId).trans registered
      have second := (registry_entry_congr state.keccak256 later.registry pooled.tx.feeTokenId).trans registered
      simp only [requiredTokenAmount, fetchTokenInfo, loadForCaller, viewOf, first, second]
  | some entry =>
      obtain ⟨slot, atSlot⟩ := Option.ne_none_iff_exists'.mp (tokens.slotMode _ entry usable registered)
      have listed : Listed state used pooled.tx.feeTokenId entry slot := ⟨usable, registered, atSlot⟩
      rw [required_listed later pooled listed 0, required_listed earlier pooled listed 0]

theorem admissible_same {before after : Journal} (earlier : SamePrices state before) (later : SamePrices state after)
    (pooled : PooledMorphTx) (paidIn : pooled.tx.feeTokenId ≠ 0 → used pooled.tx.feeTokenId)
    (admissible : Admissible tip (viewOf state before) sender pooled) :
    Admissible tip (viewOf state after) sender pooled where
  structurallyValid := admissible.structurallyValid
  usable token := by
    obtain ⟨info, usable⟩ := admissible.usable token
    obtain ⟨entry, slot, listed, rfl⟩ := fetched_listed earlier (paidIn token) info tokens.slotMode usable.fetched
    refine ⟨_, fetch_listed later listed, usable.active, usable.priced, ?_⟩
    rw [required_same tokens earlier later pooled (paidIn token)]
    exact usable.limit

-- Transactions that are done with pay for what was spent, and the others stay
-- affordable.
theorem funded_spent {before after : Journal} (done rest : List PooledMorphTx) (funded : Funded tip state used sender before (done ++ rest))
    (spends : Spends state used sender ((demandAt tip state sender before).total done .eth)
      (fun id => (demandAt tip state sender before).total done (.token id)) before after) : Funded tip state used sender after rest := by
  have later := funded.prices.kept spends
  have paidIn : ∀ pooled ∈ rest, pooled.tx.feeTokenId ≠ 0 → used pooled.tx.feeTokenId :=
    fun pooled member => funded.paidIn pooled (List.mem_append_right _ member)
  refine ⟨later, paidIn, affordable_spent _ _ done rest funded.affordable ?_ ?_ ?_⟩
  · intro pooled member admissible
    exact admissible_same tokens funded.prices later pooled (paidIn pooled member) admissible
  · intro pooled member resource
    cases resource with
    | eth => simp only [demandAt, senderDemand, ethNeed, l1_fee_same later, l1_fee_same funded.prices]
    | token id =>
        simp only [demandAt, senderDemand]
        by_cases pays : pooled.tx.feeTokenId = id ∧ id ≠ 0
        · have usable := paidIn pooled member (pays.1 ▸ pays.2)
          rw [if_pos pays, if_pos pays, required_same tokens funded.prices later pooled usable]
        · rw [if_neg pays, if_neg pays]
  · intro pooled member resource needed
    cases resource with
    | eth => exact spends.eth
    | token id =>
        simp only [demandAt, senderDemand, ne_eq, ite_eq_right_iff, Classical.not_imp] at needed
        obtain ⟨⟨rfl, nonzero⟩, _⟩ := needed
        have admissible := funded.affordable.admissible pooled (List.mem_append_right _ member)
        obtain ⟨info, usable⟩ := admissible.usable nonzero
        obtain ⟨entry, slot, listed, _⟩ := fetched_listed funded.prices (paidIn pooled member nonzero) info tokens.slotMode usable.fetched
        have spent := spends.token _ entry slot listed
        simp only [demandAt, senderDemand, token_balance_listed funded.prices listed, token_balance_listed later listed] at spent ⊢
        exact spent

omit tokens in
-- The pool would still keep the next transaction, so it would still admit it.
theorem funded_admitted {journal : Journal} (pooled : PooledMorphTx) (rest : List PooledMorphTx)
    (funded : Funded tip state used sender journal (pooled :: rest)) :
    ∃ result, validateMorphTx (viewOf state journal).toPoolDb (admissionInput tip.hardfork journal pooled.tx pooled.signature sender) =
      .ok result := by
  let budget : SenderBudget := ⟨journal.balance sender, fun _ => none⟩
  have covered : ∀ resource, (senderDemand tip (viewOf state journal) sender (journal.balance sender) (cappedEthNeed tip (viewOf state journal))).need
      pooled resource ≤ remainingBudget (viewOf state journal) sender budget resource := by
    intro resource
    have needed := need_le_total (demandAt tip state sender journal) (pooled :: rest) pooled List.mem_cons_self resource
    have enough := needed.trans (funded.affordable.covered resource)
    cases resource with
    | eth => exact (Nat.min_le_left _ _).trans enough
    | token id => exact enough
  have paidBy := sender_paid tip (viewOf state journal) sender (journal.balance sender)
  have full : ∀ resource, remainingBudget (viewOf state journal) sender budget resource ≤
      (senderDemand tip (viewOf state journal) sender (journal.balance sender) (cappedEthNeed tip (viewOf state journal))).supply resource := by
    intro resource
    cases resource with
    | eth => exact Nat.le_refl _
    | token id => exact Nat.le_refl _
  cases kept : revalidate tip (viewOf state journal) sender budget pooled with
  | none =>
      obtain ⟨resource, short⟩ := paidBy.refused budget pooled full kept (funded.affordable.admissible pooled List.mem_cons_self)
      exact absurd (covered resource) (Nat.not_le_of_lt short)
  | some after =>
      obtain ⟨structural, value, result, fee, _⟩ := (revalidate_some tip (viewOf state journal) sender budget after pooled).mp kept
      exact ⟨result, (validate_ok tip (viewOf state journal) sender budget pooled result).mpr
        ⟨structural.jade, structural.celadon, structural.valid, value, fee⟩⟩

theorem funded_not_rejected (included : Inclusion) (evm : MorphEvm) (rest : List PooledMorphTx)
    (executes : Executes tip state sender included.ctx included.pooled) (small : (evm.journal.balance sender).toNat < 2 ^ 128)
    (funded : Funded tip state used sender evm.journal (included.pooled :: rest)) :
    feeRejected (validateAgainstStateAndDeductCaller included.ctx evm) = false := by
  obtain ⟨result, accepted⟩ := funded_admitted included.pooled rest funded
  have admitted : validateMorphTx ⟨included.ctx.keccak256, evm.journal.storage, state.evmCallBalanceOf⟩
      (admissionInput included.ctx.hardfork evm.journal included.pooled.tx included.pooled.signature sender) = .ok result := by
    rw [executes.digest, executes.hardfork]
    exact accepted
  cases execution : validateAgainstStateAndDeductCaller included.ctx evm with
  | ok deducted => rfl
  | error error =>
      by_cases eth : included.pooled.tx.feeTokenId = 0
      · have pays := executes.paysEth eth
        simp only [validateAgainstStateAndDeductCaller, pays.notL1Msg, pays.notToken, Bool.false_eq_true, if_false] at execution
        exact admitted_eth_deduction included.ctx evm _ _ sender _ result executes.environment admitted small eth error execution
      · have pays := executes.paysToken eth
        simp only [validateAgainstStateAndDeductCaller, executes.notL1Msg, pays, executes.tokenId, Bool.false_eq_true, if_false,
          if_true] at execution
        refine admitted_token_deduction included.ctx evm _ _ sender _ result executes.environment admitted eth ?_ error execution
        intro entry registered
        rw [executes.digest, registry_entry_congr state.keccak256 funded.prices.registry] at registered
        exact tokens.slotMode _ entry (funded.paidIn _ List.mem_cons_self eth) registered

-- Deduction, main frame and settlement together take no more than the pool
-- reckoned with.
theorem inclusion_spends (included : Inclusion) (evm after : MorphEvm) (rest : List PooledMorphTx)
    (executes : Executes tip state sender included.ctx included.pooled)
    (frame : ∀ journal, Spends state used sender included.pooled.tx.value.toNat (fun _ => 0) journal (included.mainFrame journal).1)
    (funded : Funded tip state used sender evm.journal (included.pooled :: rest)) (executed : included.execute evm = .ok after) :
    Spends state used sender ((demandAt tip state sender evm.journal).total [included.pooled] .eth)
      (fun id => (demandAt tip state sender evm.journal).total [included.pooled] (.token id)) evm.journal after.journal := by
  simp only [Inclusion.execute, bind_ok] at executed
  obtain ⟨deducted, deduction, settlement⟩ := executed
  have ran := frame deducted.journal
  by_cases eth : included.pooled.tx.feeTokenId = 0
  · have charged : Spends state used sender _ _ _ _ := eth_deduction_spends executes eth evm deducted deduction
    have settled : Spends state used sender _ _ _ _ := eth_settlement_spends executes eth _ after _ settlement
    refine ((charged.trans ran).trans settled).weaken ?_ (fun id _ => Nat.zero_le _)
    simp only [demandAt, Demand.total, senderDemand, ethNeed, if_pos eth, List.map_cons, List.map_nil, List.sum_cons, List.sum_nil]
    omega
  · obtain ⟨info, usable⟩ := (funded.affordable.admissible _ List.mem_cons_self).usable eth
    obtain ⟨entry, slot, listed, _⟩ :=
      fetched_listed funded.prices (funded.paidIn _ List.mem_cons_self eth) info tokens.slotMode usable.fetched
    simp only [validateAgainstStateAndDeductCaller, executes.notL1Msg, executes.paysToken eth, executes.tokenId, Bool.false_eq_true, if_false,
      if_true] at deduction
    obtain ⟨⟨balance, cached⟩, charged⟩ := token_deduction_spends tokens executes listed evm deducted funded.prices deduction
    have settled := token_settlement_spends tokens executes listed eth { deducted with journal := (included.mainFrame deducted.journal).1 }
      after balance cached _ settlement
    refine ((charged.trans ran).trans settled).weaken ?_ (fun id _ => ?_)
    · simp only [demandAt, Demand.total, senderDemand, ethNeed, if_neg eth, List.map_cons, List.map_nil, List.sum_cons, List.sum_nil]
      omega
    · simp only [demandAt, Demand.total, senderDemand, List.map_cons, List.map_nil, List.sum_cons, List.sum_nil]
      by_cases pays : id = included.pooled.tx.feeTokenId
      · rw [if_pos pays, if_pos ⟨pays.symm, pays ▸ eth⟩]
        omega
      · rw [if_neg pays, if_neg (fun both => pays both.1.symm)]

-- Induction on the events: the transactions still to come are affordable.
theorem run_not_rejected (events : List ChainEvent) (evm : MorphEvm)
    (funded : Funded tip state used sender evm.journal (includedTxs events))
    (allowed : ∀ earlier event later, events = earlier ++ event :: later →
      EventAllowed tip state used sender (runEvents evm earlier).journal event) (earlier later : List ChainEvent) (included : Inclusion)
    (split : events = earlier ++ .inclusion included :: later) :
    feeRejected (validateAgainstStateAndDeductCaller included.ctx (runEvents evm earlier)) = false := by
  induction events generalizing evm earlier with
  | nil => simp at split
  | cons event rest ih =>
      have first := allowed [] event rest rfl
      cases earlier with
      | nil =>
          obtain ⟨rfl, rfl⟩ := List.cons.inj split
          obtain ⟨executes, small, _⟩ := first
          exact funded_not_rejected tokens included evm _ executes small funded
      | cons head before =>
          obtain ⟨rfl, same⟩ := List.cons.inj split
          refine ih (event.apply evm) ?_ (fun earlier other later parts => ?_) before same
          · cases event with
            | others after => exact funded_spent tokens [] _ funded (first.weaken (Nat.le_refl _) (fun _ _ => Nat.le_refl _))
            | inclusion other =>
                obtain ⟨executes, _, frame⟩ := first
                simp only [ChainEvent.apply]
                split
                · next after executed =>
                    exact funded_spent tokens [other.pooled] _ funded
                      (inclusion_spends tokens other evm after _ executes frame funded executed)
                · exact funded_spent tokens [other.pooled] _ funded
                    ((spends_nothing _).weaken (Nat.zero_le _) (fun _ _ => Nat.zero_le _))
          · exact allowed (event :: earlier) other later (by rw [parts]; rfl)

end Runs

theorem start_affordable {tip : Tip} {state : StateProvider} {sender : Address} {journal : Journal}
    (storage : journal.storage = state.storage) {txs : List PooledMorphTx}
    (affordable : (senderDemand tip state sender (journal.balance sender) (ethNeed tip state)).Affordable txs) :
    (demandAt tip state sender journal).Affordable txs := by
  have prices : SamePrices state journal := ⟨fun _ => by rw [storage], fun _ => by rw [storage]⟩
  have same : (viewOf state journal).toPoolDb = state.toPoolDb := by simp only [viewOf, storage]
  have required : ∀ pooled, requiredTokenAmount tip (viewOf state journal) sender pooled = requiredTokenAmount tip state sender pooled := by
    intro pooled
    simp only [requiredTokenAmount, same, l1_fee_same prices]
  apply affordable_spent _ _ [] txs affordable
  · intro pooled _ admissible
    refine ⟨admissible.structurallyValid, fun token => ?_⟩
    obtain ⟨info, usable⟩ := admissible.usable token
    refine ⟨info, ?_, usable.active, usable.priced, ?_⟩
    · rw [same]
      exact usable.fetched
    · rw [required]
      exact usable.limit
  · intro pooled _ resource
    cases resource with
    | eth => simp only [demandAt, senderDemand, ethNeed, l1_fee_same prices]
    | token id => simp only [demandAt, senderDemand, required]
  · intro pooled _ resource _
    cases resource with
    | eth => exact Nat.le_refl _
    | token id => simp only [demandAt, senderDemand, tokenBalance, same, total_nil, Nat.add_zero, Nat.le_refl]

-- After a turn of the maintenance task, whichever of a sender's remaining
-- transactions are tried, in whatever order and between whatever events of
-- others, none is rejected for want of funds.
theorem maintained_pool_pays (removal : PoolRemoval) (tip : Tip) (state : StateProvider) (pool : Pool) (sender : Address)
    (account : Option U256) (read : state.basic sender = .ok account) (small : (account.getD 0).toNat < 2 ^ 128)
    (tokens : FeeTokens state (UsedBy (pool.txsOf sender))) (start : MorphEvm) (storage : start.journal.storage = state.storage)
    (balance : start.journal.balance sender = account.getD 0) (events : List ChainEvent)
    (remaining : (includedTxs events).Subperm ((maintainTurn removal tip (.ok state) pool).txsOf sender))
    (allowed : ∀ earlier event later, events = earlier ++ event :: later →
      EventAllowed tip state (UsedBy (pool.txsOf sender)) sender (runEvents start earlier).journal event)
    (earlier later : List ChainEvent) (included : Inclusion) (split : events = earlier ++ .inclusion included :: later) :
    feeRejected (validateAgainstStateAndDeductCaller included.ctx (runEvents start earlier)) = false := by
  have below : account.getD 0 ≠ maxWord 256 := by
    intro whole
    rw [whole, max_word_nat] at small
    omega
  have part : ∀ pooled ∈ includedTxs events, pooled ∈ pool.txsOf sender := by
    intro pooled member
    exact (txs_of_maintained removal tip (.ok state) pool sender).subset (remaining.subset member)
  have affordable := affordable_subperm _ _ _ remaining
    ((plain_affordable tip state sender (account.getD 0) below _).mpr (survivors_affordable removal tip state pool sender account read))
  rw [← balance] at affordable
  refine run_not_rejected tokens events start ⟨⟨fun _ => by rw [storage], fun _ => by rw [storage]⟩, ?_, ?_⟩ allowed earlier later included split
  · intro pooled member token
    exact ⟨token, pooled, part pooled member, rfl⟩
  · exact start_affordable storage affordable

-- Three transactions that need 40 of 100 tokens each: the third goes, and the
-- two that stay are executed one after the other.
section Sample

def samplePool : Pool := ⟨[samplePooled 2, samplePooled 0], [samplePooled 1]⟩

def sampleRemoval : PoolRemoval where
  removeTransactionsAndDescendants pool hashes :=
    let kept := fun (pooled : PooledTransaction) => pooled.asMorphTx.all (fun morph => (pool.txsOf morph.sender).all (fun marked =>
      decide (marked.hash ∈ hashes → morph.tx.nonce.toNat < marked.tx.nonce.toNat)))
    ⟨pool.pending.filter kept, pool.queued.filter kept⟩
  fewer pool hashes := by
    simp only [Pool.allTransactions, ← List.filter_append]
    exact List.filter_sublist.subperm
  cleared pool hashes sender marked listed isMarked pooled member := by
    simp only [Pool.txsOf, TxPool.txsOf, pooledMorphTxs, ← List.filter_append, List.mem_filter, List.mem_filterMap, decide_eq_true_eq] at member
    obtain ⟨⟨source, ⟨_, kept⟩, form⟩, rfl⟩ := member
    rw [form, Option.all_some, List.all_eq_true] at kept
    exact of_decide_eq_true (kept marked listed) isMarked

def sampleMorphTx (nonce : U64) : PooledMorphTx where
  hash := 100 + nonce.setWidth 256
  sender := 1
  tx := { sampleTokenTx with nonce := nonce, gasLimit := 40, feeLimit := 0, value := 1 }
  signature := ⟨true, 1, 1⟩

def sampleInclusion (nonce : U64) : Inclusion where
  pooled := sampleMorphTx nonce
  ctx := { sampleTokenContext with tx := morphTxEnv (sampleMorphTx nonce).tx ⟨true, 1, 1⟩ 1 }
  mainFrame journal := (journal, ⟨⟨0, 0⟩, by decide, Nat.zero_le _⟩)

theorem sample_fee_tokens : FeeTokens (sampleProvider 5) (UsedBy (samplePool.txsOf 1)) := by
  have txs : samplePool.txsOf 1 = [sampleMorphTx 2, sampleMorphTx 0, sampleMorphTx 1] := by decide +kernel
  have only : ∀ id, UsedBy (samplePool.txsOf 1) id → id = 1 := by
    rintro id ⟨_, pooled, member, rfl⟩
    simp only [txs, List.mem_cons, List.not_mem_nil, or_false] at member
    rcases member with rfl | rfl | rfl
    · rfl
    · rfl
    · rfl
  have registered : readRegistryEntry sampleDigest sampleStorage 1 = some sampleEntry := by decide +kernel
  have entries : ∀ id entry, UsedBy (samplePool.txsOf 1) id →
      readRegistryEntry (sampleProvider 5).keccak256 (sampleProvider 5).storage id = some entry → entry = sampleEntry := by
    intro id entry usable found
    rw [only id usable] at found
    exact Option.some.inj (found.symm.trans registered)
  refine ⟨?_, ?_, ?_, ?_⟩
  · intro id entry usable found
    rw [entries id entry usable found]
    exact Option.some_ne_none _
  · intro id entry usable found
    rw [entries id entry usable found]
    decide
  · intro id entry usable found
    rw [entries id entry usable found]
    decide
  · intro id other _ _ usable otherUsable _ _ _
    rw [only id usable, only other otherUsable]

theorem maintained_pool_pays_sample :
    ((sampleInclusion 0).execute sampleTokenStart).toBool = true ∧
      feeRejected (validateAgainstStateAndDeductCaller (sampleInclusion 1).ctx
        (runEvents sampleTokenStart [.inclusion (sampleInclusion 0)])) = false := by
  have executes : ∀ nonce, Executes sampleTip (sampleProvider 5) 1 (sampleInclusion nonce).ctx (sampleInclusion nonce).pooled :=
    fun _ => ⟨rfl, rfl, rfl, rfl, rfl⟩
  have frame : ∀ nonce journal, Spends (sampleProvider 5) (UsedBy (samplePool.txsOf 1)) 1 (sampleInclusion nonce).pooled.tx.value.toNat (fun _ => 0)
      journal ((sampleInclusion nonce).mainFrame journal).1 :=
    fun _ journal => (spends_nothing journal).weaken (Nat.zero_le _) (fun _ _ => Nat.le_refl _)
  refine ⟨by decide +kernel, maintained_pool_pays sampleRemoval sampleTip (sampleProvider 5) samplePool 1 (some 5) rfl (by decide)
    sample_fee_tokens sampleTokenStart rfl rfl [.inclusion (sampleInclusion 0), .inclusion (sampleInclusion 1)] ?_ ?_
    [.inclusion (sampleInclusion 0)] [] (sampleInclusion 1) rfl⟩
  · have left : (maintainTurn sampleRemoval sampleTip (.ok (sampleProvider 5)) samplePool).txsOf 1 = [sampleMorphTx 0, sampleMorphTx 1] := by
      decide +kernel
    rw [left]
    exact List.Subperm.refl _
  · intro earlier event later split
    match earlier with
    | [] =>
        obtain ⟨rfl, _⟩ := List.cons.inj split
        exact ⟨executes 0, by decide, frame 0⟩
    | [first] =>
        obtain ⟨rfl, same⟩ := List.cons.inj split
        obtain ⟨rfl, _⟩ := List.cons.inj same
        exact ⟨executes 1, by decide +kernel, frame 1⟩
    | _ :: _ :: _ => simp at split

end Sample

end MorphReth.TxPool
