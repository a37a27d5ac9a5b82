import MorphReth.Evm.ReceiptBuilder
import MorphReth.Payload.Derivation
import MorphReth.Receipts.RoundTrip

set_option autoImplicit false

namespace MorphReth.Payload

open Rlp Transaction Consensus Evm Receipts

variable {State Receipt : Type}

section Executor

variable (config : MorphEvmConfig State Receipt) (env : EvmEnv)

def executeTransaction (executor : MorphBlockExecutor State Receipt) (recovered : Recovered) :
    Except BlockExecutionError (MorphBlockExecutor State Receipt) := do
  let output ← executeTransactionWithoutCommit config env executor recovered
  .ok (commitTransaction config executor recovered output)

def executeTransactions (db : State) (transactions : List Recovered) : Except BlockExecutionError (MorphBlockExecutor State Receipt) :=
  transactions.foldlM (executeTransaction config env) ⟨0, 0, [], db⟩

-- A follower executes a sealed block: it recovers the senders, warms the
-- oracle account and runs the transactions in the environment of the header.
def executeBlock (recovery : TxRecovery) (access : StateAccess State) (db : State) (block : SealedBlock) :
    Except BlockExecutionError (MorphBlockExecutor State Receipt) := do
  let transactions ← (block.transactions.mapM recovery.tryIntoRecovered).elim (.error (.internal "failed to recover signer")) .ok
  (access.loadL1GasPriceOracle db).mapError .internal
  executeTransactions config (evmEnv config.chainSpec block.header) db transactions

variable {config env}

theorem builder_executes (builder after : BlockBuilder State Receipt) (recovered : Recovered) (gasUsed : U64)
    (executed : builder.executeTransaction config env recovered = .ok (gasUsed, after)) :
    executeTransaction config env builder.executor recovered = .ok after.executor := by
  simp only [BlockBuilder.executeTransaction, bind_ok, Except.ok.injEq, Prod.mk.injEq] at executed
  obtain ⟨output, ran, _, rfl⟩ := executed
  simp only [executeTransaction, ran]
  rfl

-- The transactions that a build has included, executed again in its
-- environment, leave the executor as the build left it.
theorem progress_executes {start final : Building State Receipt} {log : List Inclusion} (progress : Progress config env start log final) :
    (log.map Inclusion.recovered).foldlM (executeTransaction config env) start.builder.executor = .ok final.builder.executor := by
  induction progress with
  | start => rfl
  | snoc log before after inclusion gasUsed _ included ih =>
      rw [List.map_append, List.foldlM_append, ih]
      simp only [List.map_cons, List.map_nil, List.foldlM_cons, List.foldlM_nil, bind, Except.bind,
        builder_executes _ _ _ _ included.executed, pure, Except.pure]

end Executor

section Receipts

variable (evm : MorphEvm State)

def GasRecorded (executor : MorphBlockExecutor State MorphReceipt) : Prop :=
  lastCumulativeGasUsed executor.receipts = executor.gasUsed

theorem execute_records (env : EvmEnv) (executor after : MorphBlockExecutor State MorphReceipt) (recovered : Recovered)
    (executed : executeTransaction evm.config env executor recovered = .ok after) : GasRecorded after := by
  obtain ⟨output, ran, committed⟩ := (bind_ok _ _ _).mp executed
  cases committed
  simp only [executeTransactionWithoutCommit] at ran
  split at ran
  · cases ran
  · obtain ⟨result, _, rfl⟩ := evm.transact_for_block_ok env _ recovered output ((map_error_ok _ _ _).mp ran)
    simp [GasRecorded, lastCumulativeGasUsed, commitTransaction, MorphEvm.receiptOf, build_receipt_inner]

theorem executed_records (env : EvmEnv) (transactions : List Recovered) (start final : MorphBlockExecutor State MorphReceipt)
    (recorded : GasRecorded start) (executed : transactions.foldlM (executeTransaction evm.config env) start = .ok final) :
    GasRecorded final := by
  induction transactions generalizing start with
  | nil =>
      cases executed
      exact recorded
  | cons recovered rest ih =>
      rw [List.foldlM_cons, bind_ok] at executed
      obtain ⟨between, first, later⟩ := executed
      exact ih between (execute_records evm env start between recovered first) later

theorem receipts_accepted (block : SealedBlock) (executor : MorphBlockExecutor State MorphReceipt) (recorded : GasRecorded executor)
    (gasUsed : block.header.gasUsed = executor.gasUsed) (root : block.header.receiptsRoot = evm.hashing.receiptRootNoMemo executor.receipts)
    (bloom : block.header.logsBloom = evm.hashing.logsBloom (executor.receipts.flatMap (fun receipt => receipt.asReceipt.logs)))
    (receiptRootBloom : Option (B256 × Bloom))
    (computed : ∀ pair ∈ receiptRootBloom, pair = (block.header.receiptsRoot, block.header.logsBloom)) :
    validateBlockPostExecution evm.hashing block executor.receipts receiptRootBloom = .ok () := by
  have plain : verifyReceiptsPrecomputed block.header.receiptsRoot block.header.logsBloom block.header.receiptsRoot
      block.header.logsBloom = .ok () := by
    simp [verifyReceiptsPrecomputed, rejectIf, bind, Except.bind]
  simp only [validateBlockPostExecution, show lastCumulativeGasUsed executor.receipts = executor.gasUsed from recorded, gasUsed, ne_eq, not_true,
    rejectIf, if_false, bind, Except.bind]
  cases receiptRootBloom with
  | some pair =>
      obtain rfl := computed pair rfl
      exact plain
  | none =>
      dsimp only
      rw [← precomputed_agrees, ← root, ← bloom]
      exact plain

end Receipts

section Build

variable (recovery : TxRecovery)

theorem decode_supplied_recovered (encoded : List Bytes) (transactions : List WithEncoded)
    (decoded : decodeAllSupplied recovery encoded = .ok transactions) :
    ∀ supplied ∈ transactions, recovery.tryIntoRecovered supplied.value.tx = some supplied.value := by
  induction encoded generalizing transactions with
  | nil =>
      cases decoded
      simp
  | cons data rest ih =>
      simp only [decodeAllSupplied, bind_ok, Except.ok.injEq] at decoded
      obtain ⟨supplied, first, others, later, rfl⟩ := decoded
      refine List.forall_mem_cons.mpr ⟨?_, ih others later⟩
      obtain ⟨⟨tx, buf⟩, _, first⟩ := (bind_ok _ _ _).mp first
      simp only at first
      split at first
      · cases first
      · split at first
        · cases first
        · next recovered found =>
            cases first
            rw [recovered_tx recovery tx recovered found]
            exact found

theorem recover_all (recovereds : List Recovered) (each : ∀ recovered ∈ recovereds, recovery.tryIntoRecovered recovered.tx = some recovered) :
    (recovereds.map Recovered.tx).mapM recovery.tryIntoRecovered = some recovereds := by
  induction recovereds with
  | nil => rfl
  | cons recovered rest ih =>
      have later := ih (fun other member => each other (List.mem_cons_of_mem recovered member))
      simp [List.mapM_cons, each recovered List.mem_cons_self, later]

theorem finish_payload_roots {config : MorphEvmConfig State Receipt} {ctx : MorphPayloadBuilderCtx} (access : StateAccess State)
    (built : Building State Receipt) (payload : MorphBuiltPayload)
    (result : finishPayload config (buildEnv config ctx) access ctx built = .ok (.better payload)) :
    ∃ stateRoot, access.stateRoot built.builder.executor.state = .ok stateRoot ∧ payload.block = sealedBlock config ctx built stateRoot ∧
      access.readWithdrawTrieRoot built.builder.executor.state = .ok payload.executableData.withdrawTrieRoot := by
  rw [finishPayload] at result
  split at result
  · cases result
  · simp only [bind_ok, map_error_ok, Except.ok.injEq, BuildOutcomeKind.better.injEq] at result
    obtain ⟨withdrawTrieRoot, withdraw, stateRoot, rooted, rfl⟩ := result
    exact ⟨stateRoot, rooted, rfl, withdraw⟩

-- Whoever executes a built block on the parent's state reaches its gas,
-- receipts, bloom and roots.
theorem built_block_passes_post_execution (evm : MorphEvm State) (access : StateAccess State) (args : BuildArguments)
    (builder : MorphPayloadBuilder) (payload : MorphBuiltPayload)
    (pooled : ∀ offer ∈ builder.pool.offers, recovery.tryIntoRecovered offer.recovered.tx = some offer.recovered)
    (recipient : evm.chainSpec.feeVaultAddress.isSome = true ∨ args.attributes.suggestedFeeRecipient = 0)
    (london : evm.chainSpec.isLondonActiveAtBlock (args.parent.header.number + 1) = true)
    (result : builder.tryBuild evm.config recovery access args = .ok (.better payload)) :
    ∃ db executor, access.stateByBlockHash args.parent.hash = .ok db ∧
      executeBlock evm.config recovery access db payload.block = .ok executor ∧
      (∀ receiptRootBloom : Option (B256 × Bloom),
        (∀ pair ∈ receiptRootBloom, pair = (evm.hashing.receiptRootNoMemo executor.receipts,
          evm.hashing.logsBloom (executor.receipts.flatMap (fun receipt => receipt.asReceipt.logs)))) →
        validateBlockPostExecution evm.hashing payload.block executor.receipts receiptRootBloom = .ok ()) ∧
      access.stateRoot executor.state = .ok payload.block.header.stateRoot ∧
      access.readWithdrawTrieRoot executor.state = .ok payload.executableData.withdrawTrieRoot := by
  simp only [MorphPayloadBuilder.tryBuild, bind_ok, map_error_ok] at result
  obtain ⟨attributes, accepted, db, parentState, inner⟩ := result
  obtain ⟨decoded, _, _, chosen⟩ := try_new_ok recovery args.attributes attributes accepted
  have warmed : access.loadL1GasPriceOracle db = .ok () := by
    obtain ⟨_, loaded, _⟩ := (bind_ok _ _ _).mp inner
    exact (map_error_ok _ _ _).mp loaded
  obtain ⟨built, reached, finished⟩ := build_finished access payload inner
  obtain ⟨stateRoot, rooted, sealed, withdraw⟩ := finish_payload_roots access built payload finished
  obtain ⟨suppliedLog, poolLog, log⟩ := reached_log built reached
  have executed := progress_executes log.progress
  obtain ⟨included, _⟩ := progress_transactions _ _ log.progress
  have recovered : ∀ one ∈ (suppliedLog ++ poolLog).map Inclusion.recovered, recovery.tryIntoRecovered one.tx = some one := by
    intro one member
    obtain ⟨inclusion, listed, rfl⟩ := List.mem_map.mp member
    rcases List.mem_append.mp listed with supplied | pool
    · obtain ⟨source, here, rfl⟩ := log.supplied inclusion supplied
      exact decode_supplied_recovered recovery _ _ decoded source here
    · obtain ⟨offer, here, rfl⟩ := log.pooled.offered inclusion pool
      exact pooled offer here
  have environment := sealed_environment evm.config ⟨args.parent, attributes, args.bestPayload, builder.config⟩ built stateRoot
    (recipient.imp_right chosen.trans) london
  have transactions : payload.block.transactions = ((suppliedLog ++ poolLog).map Inclusion.recovered).map Recovered.tx := by
    rw [sealed]
    change built.builder.transactions.map Recovered.tx = _
    rw [included]
    rfl
  refine ⟨db, built.builder.executor, parentState, ?_, ?_, ?_, withdraw⟩
  · rw [executeBlock, transactions, recover_all recovery _ recovered, sealed, environment, warmed]
    exact executed
  · intro receiptRootBloom computed
    refine receipts_accepted evm payload.block built.builder.executor (executed_records evm _ _ ⟨0, 0, [], db⟩ _ rfl executed) ?_ ?_ ?_
      receiptRootBloom ?_
    · rw [sealed]; rfl
    · rw [sealed]; rfl
    · rw [sealed]; rfl
    · rw [sealed]
      exact computed
  · rw [sealed]
    exact rooted

end Build

section Sample

-- Each transaction counts, takes the base cost of a transfer and logs its sender.
def loggingEvm : MorphEvm Nat where
  chainSpec := sampleEvmSpec
  ethereumTx := sampleNode.ethereumTx
  transact _ state recovered :=
    let gasLimit := sampleNode.ethereumTx.gasLimitOf recovered.tx
    .ok {
      result := ⟨true, if minTransactionGas ≤ gasLimit then minTransactionGas else gasLimit, [⟨recovered.signer, [], []⟩]⟩
      state := state + 1
      l1Fee := 5
      preFeeLogs := []
      postFeeLogs := []
      cachedTokenFeeInfo := none }
  gasUsedWithin _ _ _ output ran := by
    cases ran
    dsimp only
    split
    · next least => exact BitVec.le_def.mp least
    · exact Nat.le_refl _
  loadStorageOnly _ _ _ := .ok none
  emptyOmmerRootHash := 0
  hashing := ⟨alloyReceipt, fun log => log.address.setWidth 2048, fun encoded => BitVec.ofNat 256 encoded.flatten.length⟩
  hashHeader := sampleHashHeader

def loggingBuilder : MorphPayloadBuilder :=
  ⟨sampleConfig, ⟨[⟨⟨.legacy [1, 2, 3], 0xC1⟩, false, 0⟩], false⟩⟩

def loggingRequest : BuildArguments :=
  { sampleDerivation with attributes := { sampleDerivation.attributes with noTxPool := false } }

theorem built_block_passes_post_execution_sample :
    ∃ payload db executor, loggingBuilder.tryBuild loggingEvm.config sampleRecovery sampleAccess loggingRequest = .ok (.better payload) ∧
      payload.block.transactions.length = 3 ∧ executeBlock loggingEvm.config sampleRecovery sampleAccess db payload.block = .ok executor ∧
      validateBlockPostExecution loggingEvm.hashing payload.block executor.receipts none = .ok () := by
  have built : (payloadOf (loggingBuilder.tryBuild loggingEvm.config sampleRecovery sampleAccess loggingRequest)).map
      (·.block.transactions.length) = some 3 := by decide +kernel
  obtain ⟨payload, found, three⟩ := Option.map_eq_some_iff.mp built
  have result := payload_of_some _ payload found
  obtain ⟨db, executor, _, executed, accepted, _⟩ := built_block_passes_post_execution sampleRecovery loggingEvm sampleAccess loggingRequest
    loggingBuilder payload (by decide) (.inr rfl) rfl result
  exact ⟨payload, db, executor, result, three, executed, accepted none (by simp)⟩

end Sample

end MorphReth.Payload
