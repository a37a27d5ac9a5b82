import MorphReth.Payload.Builder

set_option autoImplicit false

namespace MorphReth.Payload

open Rlp Transaction Consensus Evm

-- A transaction as a loop includes it: the bytes it reports and the size it
-- counts. Supplied transactions count no size.
structure Inclusion where
  recovered : Recovered
  bytes : Bytes
  size : U64

def Inclusion.ofSupplied (supplied : WithEncoded) : Inclusion := ⟨supplied.value, supplied.encodedBytes, 0⟩

def Inclusion.ofPool (recovered : Recovered) : Inclusion := ⟨recovered, recovered.tx.encode2718, encode2718Len recovered.tx⟩

variable {State Receipt : Type} (config : MorphEvmConfig State Receipt) (env : EvmEnv)

-- What one included transaction does to a build, whichever loop includes it.
structure Included (before after : Building State Receipt) (inclusion : Inclusion) (gasUsed : U64) : Prop where
  fits : before.info.isTxOverLimits (config.ethereumTx.gasLimitOf inclusion.recovered.tx) inclusion.size env.blockEnv.gasLimit = false
  executed : before.builder.executeTransaction config env inclusion.recovered = .ok (gasUsed, after.builder)
  cumulative : after.info.cumulativeGasUsed = before.info.cumulativeGasUsed + gasUsed
  pool : after.info.gasPoolUsed = before.info.gasPoolUsed +
    if inclusion.recovered.tx.isL1Msg then config.ethereumTx.gasLimitOf inclusion.recovered.tx else gasUsed
  size : after.info.cumulativeDaBytesUsed = before.info.cumulativeDaBytesUsed + inclusion.size
  cap : after.info.maxDaBlockSize = before.info.maxDaBlockSize
  index : ∀ queueIndex, inclusion.recovered.tx.queueIndex = some queueIndex →
    queueIndex = before.info.nextL1MessageIndex ∧ after.info.nextL1MessageIndex = queueIndex + 1
  noIndex : inclusion.recovered.tx.queueIndex = none → after.info.nextL1MessageIndex = before.info.nextL1MessageIndex
  bytes : after.executedTxs = before.executedTxs ++ [inclusion.bytes]

inductive Progress (start : Building State Receipt) : List Inclusion → Building State Receipt → Prop
  | start : Progress start [] start
  | snoc (log : List Inclusion) (before after : Building State Receipt) (inclusion : Inclusion) (gasUsed : U64)
      (earlier : Progress start log before) (included : Included config env before after inclusion gasUsed) :
      Progress start (log ++ [inclusion]) after

section Steps

variable {config env}

theorem record_kind_ok (ethereum : EthereumTx) (info recorded : ExecutionInfo) (tx : MorphTxEnvelope) (baseFee gasUsed : U64)
    (accepted : recordKind ethereum info tx baseFee gasUsed = .ok recorded) :
    (∃ next fees, recorded = { info with nextL1MessageIndex := next, totalFees := fees }) ∧
      (∀ queueIndex, tx.queueIndex = some queueIndex → queueIndex = info.nextL1MessageIndex ∧ recorded.nextL1MessageIndex = queueIndex + 1) ∧
      (tx.queueIndex = none → recorded.nextL1MessageIndex = info.nextL1MessageIndex) := by
  rw [recordKind] at accepted
  by_cases isL1 : tx.isL1Msg = true
  · obtain ⟨index, found⟩ := queue_index_of_l1_msg tx isL1
    rw [if_pos isL1, found] at accepted
    simp only at accepted
    split at accepted
    · cases accepted
    · next same =>
        cases accepted
        refine ⟨⟨_, _, rfl⟩, ?_, ?_⟩
        · intro queueIndex present
          cases found.symm.trans present
          exact ⟨not_not.mp same, rfl⟩
        · intro absent
          cases found.symm.trans absent
  · rw [if_neg isL1] at accepted
    cases accepted
    have absent := queue_index_of_l2_tx tx (by simpa using isL1)
    refine ⟨⟨_, _, rfl⟩, ?_, fun _ => rfl⟩
    intro queueIndex present
    cases absent.symm.trans present

inductive SuppliedTurn (config : MorphEvmConfig State Receipt) (env : EvmEnv) (noTxPool : Bool) (state : SuppliedState State Receipt)
    (supplied : WithEncoded) : Flow (SuppliedState State Receipt) → Prop
  | stopped (saw : Bool) (assembling : noTxPool = false) (kept : saw = false → state.sawL2Transaction = false) :
      SuppliedTurn config env noTxPool state supplied (.stop { state with sawL2Transaction := saw })
  | included (after : SuppliedState State Receipt) (gasUsed : U64)
      (included : Included config env state.toBuilding after.toBuilding (.ofSupplied supplied) gasUsed)
      (first : supplied.value.tx.isL1Msg = true → state.sawL2Transaction = false)
      (saw : after.sawL2Transaction = if supplied.value.tx.isL1Msg then state.sawL2Transaction else true) :
      SuppliedTurn config env noTxPool state supplied (.next after)

theorem supplied_turn (noTxPool : Bool) (state : SuppliedState State Receipt) (item : WithEncoded × Nat)
    (flow : Flow (SuppliedState State Receipt)) (stepped : suppliedStep config env noTxPool state item = .ok flow) :
    SuppliedTurn config env noTxPool state item.1 flow := by
  obtain ⟨supplied, txIndex⟩ := item
  simp only [suppliedStep, bind_ok, reject_if_ok] at stepped
  obtain ⟨_, _, _, ordered, stepped⟩ := stepped
  have first : supplied.value.tx.isL1Msg = true → state.sawL2Transaction = false :=
    fun isL1 => by simpa [isL1] using ordered
  split at stepped
  · simp only [bind_ok, reject_if_ok] at stepped
    obtain ⟨_, assembling, stopped⟩ := stepped
    cases stopped
    refine .stopped _ (by simpa using assembling) ?_
    intro unseen
    split at unseen
    · exact unseen
    · cases unseen
  · next fits =>
      simp only [bind_ok, map_error_ok] at stepped
      obtain ⟨⟨gasUsed, builder⟩, executed, recorded, kind, next⟩ := stepped
      cases next
      obtain ⟨⟨next, fees, rfl⟩, index, noIndex⟩ := record_kind_ok _ _ _ _ _ _ kind
      exact .included _ gasUsed ⟨Bool.eq_false_iff.mpr fits, executed, rfl, rfl, (BitVec.add_zero _).symm, rfl, index, noIndex, rfl⟩ first rfl

inductive PoolTurn (config : MorphEvmConfig State Receipt) (env : EvmEnv) (state : PoolState State Receipt) (recovered : Recovered) :
    Flow (PoolState State Receipt) → Prop
  | skipped (flow : Flow (PoolState State Receipt)) (same : flow.state.toBuilding = state.toBuilding) :
      PoolTurn config env state recovered flow
  | included (after : PoolState State Receipt) (gasUsed : U64) (isL2 : recovered.tx.isL1Msg = false)
      (included : Included config env state.toBuilding after.toBuilding (.ofPool recovered) gasUsed) :
      PoolTurn config env state recovered (.next after)

-- An offer is passed over, included, or ends the build because the executor
-- failed on it.
theorem pool_step_cases (breaker : PayloadBuildingBreaker) (state : PoolState State Receipt) (offer : PoolOffer) :
    (∃ flow, poolStep config env breaker state offer = .ok flow ∧ PoolTurn config env state offer.recovered flow) ∨
      (state.info.isTxOverLimits (config.ethereumTx.gasLimitOf offer.recovered.tx) (encode2718Len offer.recovered.tx) env.blockEnv.gasLimit = false ∧
        ∃ fatal, state.builder.executeTransaction config env offer.recovered = .error fatal ∧
          poolStep config env breaker state offer = .error (.evmExecutionError fatal)) := by
  simp only [poolStep]
  split
  · exact .inl ⟨_, rfl, .skipped _ rfl⟩
  split
  · exact .inl ⟨_, rfl, .skipped _ rfl⟩
  split
  · exact .inl ⟨_, rfl, .skipped _ rfl⟩
  split
  · exact .inl ⟨_, rfl, .skipped _ rfl⟩
  next ordinary =>
  have isL2 : offer.recovered.tx.isL1Msg = false := by simpa [isEip4844] using ordinary
  split
  · exact .inl ⟨_, rfl, .skipped _ rfl⟩
  next fits =>
  split
  · next isNonceTooLow _ =>
      refine .inl ⟨_, rfl, .skipped _ ?_⟩
      cases isNonceTooLow <;> rfl
  · exact .inl ⟨_, rfl, .skipped _ rfl⟩
  · next fatal _ _ executed => exact .inr ⟨Bool.eq_false_iff.mpr fits, fatal, executed, rfl⟩
  · next gasUsed builder executed =>
      have absent := queue_index_of_l2_tx offer.recovered.tx isL2
      refine .inl ⟨_, rfl, .included _ gasUsed isL2 ⟨Bool.eq_false_iff.mpr fits, executed, rfl, ?_, rfl, rfl, ?_, fun _ => rfl, rfl⟩⟩
      · simp only [Inclusion.ofPool, isL2, Bool.false_eq_true, if_false]
      · intro queueIndex present
        cases absent.symm.trans present

theorem pool_turn (breaker : PayloadBuildingBreaker) (state : PoolState State Receipt) (offer : PoolOffer)
    (flow : Flow (PoolState State Receipt)) (stepped : poolStep config env breaker state offer = .ok flow) :
    PoolTurn config env state offer.recovered flow := by
  obtain ⟨other, same, turn⟩ | ⟨_, fatal, _, failed⟩ := @pool_step_cases State Receipt config env breaker state offer
  · cases stepped.symm.trans same
    exact turn
  · cases stepped.symm.trans failed

theorem pool_step_error (breaker : PayloadBuildingBreaker) (state : PoolState State Receipt) (offer : PoolOffer)
    (error : PayloadBuilderError) (failed : poolStep config env breaker state offer = .error error) :
    state.info.isTxOverLimits (config.ethereumTx.gasLimitOf offer.recovered.tx) (encode2718Len offer.recovered.tx) env.blockEnv.gasLimit = false ∧
      ∃ fatal, state.builder.executeTransaction config env offer.recovered = .error fatal ∧ error = .evmExecutionError fatal := by
  obtain ⟨flow, stepped, _⟩ | ⟨fits, fatal, executed, same⟩ := @pool_step_cases State Receipt config env breaker state offer
  · cases failed.symm.trans stepped
  · cases failed.symm.trans same
    exact ⟨fits, fatal, executed, rfl⟩

end Steps

section Runs

variable {config env} {start : Building State Receipt}

theorem Progress.trans (log later : List Inclusion) (middle final : Building State Receipt) (earlier : Progress config env start log middle)
    (rest : Progress config env middle later final) : Progress config env start (log ++ later) final := by
  induction rest with
  | start =>
      rw [List.append_nil]
      exact earlier
  | snoc log before after inclusion gasUsed _ included hypothesis =>
      rw [← List.append_assoc]
      exact .snoc _ before after inclusion gasUsed hypothesis included

theorem execute_transaction_ok (builder after : BlockBuilder State Receipt) (recovered : Recovered) (gasUsed : U64)
    (executed : builder.executeTransaction config env recovered = .ok (gasUsed, after)) :
    ∃ output, config.transact env builder.executor.state recovered = .ok output ∧ gasUsed = output.gasUsed ∧
      after = ⟨commitTransaction config builder.executor recovered output, builder.transactions ++ [recovered]⟩ := by
  simp only [BlockBuilder.executeTransaction, bind_ok, Except.ok.injEq, Prod.mk.injEq] at executed
  obtain ⟨output, ran, rfl, rfl⟩ := executed
  simp only [executeTransactionWithoutCommit] at ran
  split at ran
  · cases ran
  · exact ⟨output, (map_error_ok _ _ _).mp ran, rfl, rfl⟩

theorem progress_transactions (log : List Inclusion) (final : Building State Receipt) (progress : Progress config env start log final) :
    final.builder.transactions = start.builder.transactions ++ log.map Inclusion.recovered ∧
      final.executedTxs = start.executedTxs ++ log.map Inclusion.bytes := by
  induction progress with
  | start => simp
  | snoc log before after inclusion gasUsed _ included hypothesis =>
      obtain ⟨_, _, _, same⟩ := execute_transaction_ok _ _ _ _ included.executed
      rw [included.bytes, same, hypothesis.1, hypothesis.2]
      simp

def logTxs (log : List Inclusion) : List MorphTxEnvelope := log.map (fun inclusion => inclusion.recovered.tx)

theorem log_txs_append (log later : List Inclusion) : logTxs (log ++ later) = logTxs log ++ logTxs later := List.map_append

structure SuppliedRun (config : MorphEvmConfig State Receipt) (env : EvmEnv) (start : Building State Receipt) (transactions : List WithEncoded)
    (state : SuppliedState State Receipt) (log : List Inclusion) : Prop where
  progress : Progress config env start log state.toBuilding
  supplied : ∀ inclusion ∈ log, ∃ supplied ∈ transactions, inclusion = .ofSupplied supplied
  ordered : L1First (logTxs log)
  unseen : state.sawL2Transaction = false → ∀ tx ∈ logTxs log, tx.isL1Msg = true

theorem supplied_run_included (transactions : List WithEncoded) (state after : SuppliedState State Receipt) (log : List Inclusion)
    (supplied : WithEncoded) (gasUsed : U64) (run : SuppliedRun config env start transactions state log) (member : supplied ∈ transactions)
    (included : Included config env state.toBuilding after.toBuilding (.ofSupplied supplied) gasUsed)
    (first : supplied.value.tx.isL1Msg = true → state.sawL2Transaction = false)
    (saw : after.sawL2Transaction = if supplied.value.tx.isL1Msg then state.sawL2Transaction else true) :
    SuppliedRun config env start transactions after (log ++ [.ofSupplied supplied]) := by
  refine ⟨.snoc log _ _ _ gasUsed run.progress included, ?_, ?_, ?_⟩
  · intro inclusion listed
    rcases List.mem_append.mp listed with earlier | new
    · exact run.supplied inclusion earlier
    · exact ⟨supplied, member, List.mem_singleton.mp new⟩
  · rw [log_txs_append]
    by_cases isL1 : supplied.value.tx.isL1Msg = true
    · refine ⟨logTxs log ++ [supplied.value.tx], [], (List.append_nil _).symm, ?_, by simp⟩
      intro tx listed
      rcases List.mem_append.mp listed with earlier | new
      · exact run.unseen (first isL1) tx earlier
      · rw [List.mem_singleton.mp new]
        exact isL1
    · exact L1First.append _ _ run.ordered (by simpa [logTxs, Inclusion.ofSupplied] using isL1)
  · intro unseen tx listed
    rw [saw] at unseen
    split at unseen
    · next isL1 =>
        rw [log_txs_append] at listed
        rcases List.mem_append.mp listed with earlier | new
        · exact run.unseen unseen tx earlier
        · rw [List.mem_singleton.mp new]
          exact isL1
    · cases unseen

theorem supplied_visited (noTxPool : Bool) (transactions : List WithEncoded) (state : SuppliedState State Receipt)
    (visited : Visits (suppliedStep config env noTxPool) ⟨start, false⟩ transactions.zipIdx state) :
    ∃ log, SuppliedRun config env start transactions state log := by
  refine visits_invariant _ (fun state => ∃ log, SuppliedRun config env start transactions state log) _ _ _ ?_ ?_ visited
  · intro before item flow member ⟨log, run⟩ stepped
    cases supplied_turn noTxPool before item flow stepped with
    | stopped saw _ kept => exact ⟨log, run.progress, run.supplied, run.ordered, fun unseen => run.unseen (kept unseen)⟩
    | included after gasUsed included first saw =>
        exact ⟨_, supplied_run_included transactions before after log item.1 gasUsed run (List.fst_mem_of_mem_zipIdx member) included first saw⟩
  · exact ⟨[], .start, by simp, ⟨[], [], rfl, by simp, by simp⟩, by simp [logTxs]⟩

structure PoolLog (offers : List PoolOffer) (log : List Inclusion) : Prop where
  offered : ∀ inclusion ∈ log, ∃ offer ∈ offers, inclusion = .ofPool offer.recovered
  isL2 : ∀ tx ∈ logTxs log, tx.isL1Msg = false

theorem pool_visited (breaker : PayloadBuildingBreaker) (offers : List PoolOffer) (state : PoolState State Receipt)
    (visited : Visits (poolStep config env breaker) ⟨start, []⟩ offers state) :
    ∃ log, Progress config env start log state.toBuilding ∧ PoolLog offers log := by
  refine visits_invariant _ (fun state => ∃ log, Progress config env start log state.toBuilding ∧ PoolLog offers log) _ _ _ ?_ ?_ visited
  · intro before offer flow member ⟨log, progress, pooled⟩ stepped
    cases pool_turn breaker before offer flow stepped with
    | skipped _ same => exact ⟨log, by rw [same]; exact progress, pooled⟩
    | included after gasUsed isL2 included =>
        refine ⟨_, .snoc log _ _ _ gasUsed progress included, ?_, ?_⟩
        · intro inclusion listed
          rcases List.mem_append.mp listed with earlier | new
          · exact pooled.offered inclusion earlier
          · exact ⟨offer, member, List.mem_singleton.mp new⟩
        · intro tx listed
          rw [log_txs_append] at listed
          rcases List.mem_append.mp listed with earlier | new
          · exact pooled.isL2 tx earlier
          · rw [List.mem_singleton.mp new]
            exact isL2
  · exact ⟨[], .start, by simp, by simp [logTxs]⟩

end Runs

section Builds

def buildEnv (ctx : MorphPayloadBuilderCtx) : EvmEnv := nextEvmEnv config.chainSpec ctx.parent.header ctx.nextBlockAttrs

-- The states of one build: those the two loops pass through.
inductive Reached (ctx : MorphPayloadBuilderCtx) (db : State) (pool : PoolRun) : Building State Receipt → Prop
  | supplied (state : SuppliedState State Receipt)
      (visited : Visits (suppliedStep config (buildEnv config ctx) ctx.attributes.noTxPool) ⟨startBuilding ctx db, false⟩
        ctx.attributes.transactions.zipIdx state) : Reached ctx db pool state.toBuilding
  | pool (supplied : Building State Receipt) (state : PoolState State Receipt) (including : ctx.attributes.includeTxPool = true)
      (finished : executeSuppliedTransactions config (buildEnv config ctx) ctx.attributes.noTxPool ctx.attributes.transactions
        (startBuilding ctx db) = .ok supplied)
      (visited : Visits (poolStep config (buildEnv config ctx) (ctx.builderConfig.breaker (buildEnv config ctx).blockEnv.gasLimit))
        ⟨supplied, []⟩ pool.offers state) : Reached ctx db pool state.toBuilding

structure BuildLog (ctx : MorphPayloadBuilderCtx) (db : State) (pool : PoolRun) (built : Building State Receipt)
    (suppliedLog poolLog : List Inclusion) : Prop where
  progress : Progress config (buildEnv config ctx) (startBuilding ctx db) (suppliedLog ++ poolLog) built
  supplied : ∀ inclusion ∈ suppliedLog, ∃ supplied ∈ ctx.attributes.transactions, inclusion = .ofSupplied supplied
  ordered : L1First (logTxs suppliedLog)
  pooled : PoolLog pool.offers poolLog

variable {config} {ctx : MorphPayloadBuilderCtx} {db : State} {pool : PoolRun}

theorem execute_supplied_ok (start supplied : Building State Receipt) (noTxPool : Bool) (transactions : List WithEncoded)
    (finished : executeSuppliedTransactions config env noTxPool transactions start = .ok supplied) :
    ∃ flow, loopList (suppliedStep config env noTxPool) ⟨start, false⟩ transactions.zipIdx = .ok flow ∧ supplied = flow.state.toBuilding := by
  obtain ⟨flow, loop, same⟩ := (bind_ok _ _ _).mp finished
  cases same
  exact ⟨flow, loop, rfl⟩

theorem reached_log (built : Building State Receipt) (reached : Reached config ctx db pool built) :
    ∃ suppliedLog poolLog, BuildLog config ctx db pool built suppliedLog poolLog := by
  cases reached with
  | supplied state visited =>
      obtain ⟨log, run⟩ := supplied_visited _ _ state visited
      exact ⟨log, [], by rw [List.append_nil]; exact run.progress, run.supplied, run.ordered, by simp, by simp [logTxs]⟩
  | pool supplied state _ finished visited =>
      obtain ⟨flow, loop, rfl⟩ := execute_supplied_ok _ _ supplied _ _ finished
      obtain ⟨log, run⟩ := supplied_visited _ _ _ (loop_result_visited _ _ _ flow loop)
      obtain ⟨poolLog, progress, pooled⟩ := pool_visited _ _ state visited
      exact ⟨log, poolLog, run.progress.trans log poolLog _ _ progress, run.supplied, run.ordered, pooled⟩

theorem build_finished (access : StateAccess State) (payload : MorphBuiltPayload)
    (result : buildPayloadInner config access ctx db pool = .ok (.better payload)) :
    ∃ built, Reached config ctx db pool built ∧ finishPayload config (buildEnv config ctx) access ctx built = .ok (.better payload) := by
  simp only [buildPayloadInner, bind_ok] at result
  obtain ⟨_, _, supplied, finished, result⟩ := result
  split at result
  · next including =>
      simp only [bind_ok, executePoolTransactions, Except.ok.injEq] at result
      obtain ⟨_, ⟨flow, loop, rfl⟩, result⟩ := result
      have reached : Reached config ctx db pool flow.state.toBuilding :=
        .pool supplied flow.state including finished (loop_result_visited _ _ _ flow loop)
      cases flow with
      | next state => exact ⟨state.toBuilding, reached, result⟩
      | stop state =>
          simp only [Flow.map] at result
          split at result
          · cases result
          · exact ⟨state.toBuilding, reached, result⟩
  · obtain ⟨flow, loop, rfl⟩ := execute_supplied_ok _ _ supplied _ _ finished
    exact ⟨flow.state.toBuilding, .supplied flow.state (loop_result_visited _ _ _ flow loop), result⟩

-- The block that a build seals from its last state.
def sealedBlock (config : MorphEvmConfig State Receipt) (ctx : MorphPayloadBuilderCtx) (built : Building State Receipt) (stateRoot : B256) :
    SealedBlock :=
  let assembled := assembleBlock config (buildEnv config ctx) ctx.parent [] built.builder stateRoot
  Block.seal config.hashHeader { assembled with header := { assembled.header with nextL1MsgIndex := built.info.nextL1MessageIndex } }

-- The header gives back the environment in which its block was built, when the
-- coinbase is not the builder's choice and the header carries the base fee.
theorem sealed_environment (config : MorphEvmConfig State Receipt) (ctx : MorphPayloadBuilderCtx) (built : Building State Receipt)
    (stateRoot : B256) (recipient : config.chainSpec.feeVaultAddress.isSome = true ∨ ctx.attributes.suggestedFeeRecipient = 0)
    (london : config.chainSpec.isLondonActiveAtBlock (ctx.parent.header.number + 1) = true) :
    evmEnv config.chainSpec (sealedBlock config ctx built stateRoot).header = buildEnv config ctx := by
  have number : ((ctx.parent.header.number + 1).setWidth 256).setWidth 64 = ctx.parent.header.number + 1 := by
    simp
  have timestamp : (ctx.attributes.timestamp.setWidth 256).setWidth 64 = ctx.attributes.timestamp := by
    simp
  have beneficiary : config.chainSpec.feeVaultAddress.getD 0 = config.chainSpec.feeVaultAddress.getD ctx.attributes.suggestedFeeRecipient := by
    rcases recipient with vault | zero
    · obtain ⟨address, found⟩ := Option.isSome_iff_exists.mp vault
      simp [found]
    · rw [zero]
  simp only [sealedBlock, Block.seal, assembleBlock, evmEnv, buildEnv, nextEvmEnv, MorphPayloadBuilderCtx.nextBlockAttrs, cfgEnv, number,
    timestamp, beneficiary, london, if_true, Option.getD_some]

theorem finish_payload_ok (access : StateAccess State) (built : Building State Receipt) (payload : MorphBuiltPayload)
    (result : finishPayload config (buildEnv config ctx) access ctx built = .ok (.better payload)) :
    ∃ withdrawTrieRoot stateRoot, payload = {
      block := sealedBlock config ctx built stateRoot
      fees := built.info.totalFees
      executableData := executableData (sealedBlock config ctx built stateRoot) built.executedTxs built.builder.executor.gasUsed
        withdrawTrieRoot built.info.nextL1MessageIndex } := by
  rw [finishPayload] at result
  split at result
  · cases result
  · simp only [bind_ok, map_error_ok, Except.ok.injEq, BuildOutcomeKind.better.injEq] at result
    obtain ⟨withdrawTrieRoot, _, stateRoot, _, same⟩ := result
    exact ⟨withdrawTrieRoot, stateRoot, same.symm⟩

end Builds

end MorphReth.Payload
