import MorphReth.Payload.Progress

set_option autoImplicit false

namespace MorphReth.Payload

open Rlp Transaction Consensus Evm

variable {State Receipt : Type} {config : MorphEvmConfig State Receipt} {env : EvmEnv}

-- The builder's two counters and the executor's.
structure Lockstep (blockGasLimit : U64) (building : Building State Receipt) : Prop where
  pool : building.info.gasPoolUsed = building.builder.executor.gasPoolUsed
  used : building.info.cumulativeGasUsed = building.builder.executor.gasUsed
  ordered : building.info.cumulativeGasUsed.toNat ≤ building.info.gasPoolUsed.toNat
  within : building.info.gasPoolUsed.toNat ≤ blockGasLimit.toNat

theorem exceeds_false (used amount limit : U64) (fits : ExecutionInfo.exceeds used amount limit = false) :
    used.toNat + amount.toNat ≤ limit.toNat := by
  rw [ExecutionInfo.exceeds] at fits
  split at fits
  · cases fits
  · next total added =>
      rw [← checked_add_some used amount total added]
      exact BitVec.le_def.mp (BitVec.not_lt.mp (of_decide_eq_false fits))

theorem within_gas_limit (info : ExecutionInfo) (txGasLimit txSize blockGasLimit : U64)
    (fits : info.isTxOverLimits txGasLimit txSize blockGasLimit = false) :
    info.gasPoolUsed.toNat + txGasLimit.toNat ≤ blockGasLimit.toNat := by
  rw [ExecutionInfo.isTxOverLimits, Bool.or_eq_false_iff] at fits
  exact exceeds_false _ _ _ fits.1

theorem add_within (used amount bound : U64) (room : used.toNat + amount.toNat ≤ bound.toNat) :
    (used + amount).toNat = used.toNat + amount.toNat := by
  have width := bound.isLt
  rw [BitVec.toNat_add, Nat.mod_eq_of_lt (by omega)]

theorem lockstep_included (before after : Building State Receipt) (inclusion : Inclusion) (gasUsed : U64)
    (lockstep : Lockstep env.blockEnv.gasLimit before) (included : Included config env before after inclusion gasUsed) :
    Lockstep env.blockEnv.gasLimit after := by
  obtain ⟨output, ran, rfl, same⟩ := execute_transaction_ok _ _ _ _ included.executed
  have charged := config.gasUsedWithin _ _ _ output ran
  have room := within_gas_limit _ _ _ _ included.fits
  have ordered := lockstep.ordered
  have used := add_within before.info.cumulativeGasUsed output.gasUsed env.blockEnv.gasLimit (by omega)
  refine ⟨?_, ?_, ?_, ?_⟩
  · rw [included.pool, same, lockstep.pool]
    rfl
  · rw [included.cumulative, same, lockstep.used]
    rfl
  · rw [included.cumulative, included.pool, used]
    split
    · rw [add_within _ _ env.blockEnv.gasLimit room]
      omega
    · rw [add_within _ _ env.blockEnv.gasLimit (by omega)]
      omega
  · rw [included.pool]
    split
    · rw [add_within _ _ env.blockEnv.gasLimit room]
      exact room
    · rw [add_within _ _ env.blockEnv.gasLimit (by omega)]
      omega

theorem lockstep_progress (start final : Building State Receipt) (log : List Inclusion) (initial : Lockstep env.blockEnv.gasLimit start)
    (progress : Progress config env start log final) : Lockstep env.blockEnv.gasLimit final := by
  induction progress with
  | start => exact initial
  | snoc log before after inclusion gasUsed _ included hypothesis => exact lockstep_included before after inclusion gasUsed hypothesis included

theorem lockstep_start (ctx : MorphPayloadBuilderCtx) (db : State) (blockGasLimit : U64) :
    Lockstep blockGasLimit (startBuilding ctx db : Building State Receipt) :=
  ⟨rfl, rfl, Nat.le_refl 0, Nat.zero_le _⟩

theorem executor_has_gas (building : Building State Receipt) (recovered : Recovered) (size gasLimit available : U64)
    (lockstep : Lockstep env.blockEnv.gasLimit building)
    (fits : building.info.isTxOverLimits (config.ethereumTx.gasLimitOf recovered.tx) size env.blockEnv.gasLimit = false) :
    building.builder.executeTransaction config env recovered ≠ .error (.exceedsAvailableGas gasLimit available) := by
  have room := within_gas_limit _ _ _ _ fits
  have enough : ¬config.ethereumTx.gasLimitOf recovered.tx > saturatingSub env.blockEnv.gasLimit building.builder.executor.gasPoolUsed := by
    rw [gt_iff_lt, BitVec.not_lt, BitVec.le_def, saturating_sub_nat, ← lockstep.pool]
    omega
  intro failed
  simp only [BlockBuilder.executeTransaction, bind_error, reduceCtorEq, and_false, exists_false, or_false] at failed
  simp only [executeTransactionWithoutCommit, if_neg enough, map_error_error] at failed
  obtain ⟨error, _, same⟩ := failed
  cases error <;> cases same

theorem supplied_step_has_gas (noTxPool : Bool) (state : SuppliedState State Receipt) (item : WithEncoded × Nat) (gasLimit available : U64)
    (lockstep : Lockstep env.blockEnv.gasLimit state.toBuilding) :
    suppliedStep config env noTxPool state item ≠ .error (.evmExecutionError (.exceedsAvailableGas gasLimit available)) := by
  obtain ⟨supplied, txIndex⟩ := item
  intro failed
  simp only [suppliedStep, bind_error, reject_if_error, reduceCtorEq, and_false, false_or] at failed
  obtain ⟨_, _, _, _, failed⟩ := failed
  split at failed
  · simp [bind_error] at failed
  · next fits =>
      simp only [bind_error, map_error_error, reduceCtorEq, and_false, exists_false, or_false] at failed
      rcases failed with ⟨error, executed, same⟩ | ⟨_, _, kind⟩
      · cases error with
        | exceedsAvailableGas limit room =>
            exact executor_has_gas state.toBuilding supplied.value 0 limit room lockstep (Bool.eq_false_iff.mpr fits) executed
        | invalidTx | validation | internal => cases same
      · rw [recordKind] at kind
        split at kind
        · split at kind
          · cases kind
          · split at kind <;> cases kind
        · cases kind

theorem pool_step_has_gas (breaker : PayloadBuildingBreaker) (state : PoolState State Receipt) (offer : PoolOffer)
    (gasLimit available : U64) (lockstep : Lockstep env.blockEnv.gasLimit state.toBuilding) :
    poolStep config env breaker state offer ≠ .error (.evmExecutionError (.exceedsAvailableGas gasLimit available)) := by
  intro failed
  obtain ⟨fits, fatal, executed, same⟩ := pool_step_error breaker state offer _ failed
  cases same
  exact executor_has_gas state.toBuilding offer.recovered _ gasLimit available lockstep fits executed

theorem reached_lockstep (ctx : MorphPayloadBuilderCtx) (db : State) (pool : PoolRun) (built : Building State Receipt)
    (reached : Reached config ctx db pool built) : Lockstep (buildEnv config ctx).blockEnv.gasLimit built := by
  obtain ⟨_, _, log⟩ := reached_log built reached
  exact lockstep_progress _ built _ (lockstep_start ctx db _) log.progress

theorem finish_payload_error (access : StateAccess State) (ctx : MorphPayloadBuilderCtx) (built : Building State Receipt)
    (error : BlockExecutionError) : finishPayload config env access ctx built ≠ .error (.evmExecutionError error) := by
  intro failed
  rw [finishPayload] at failed
  split at failed
  · cases failed
  · simp [bind_error] at failed

theorem build_has_gas (access : StateAccess State) (ctx : MorphPayloadBuilderCtx) (db : State) (pool : PoolRun) (gasLimit available : U64) :
    buildPayloadInner config access ctx db pool ≠ .error (.evmExecutionError (.exceedsAvailableGas gasLimit available)) := by
  intro failed
  simp only [buildPayloadInner, bind_error, map_error_error, reduceCtorEq, and_false, exists_false, false_or] at failed
  obtain ⟨_, _, failed | ⟨supplied, finished, failed⟩⟩ := failed
  · simp only [executeSuppliedTransactions, bind_error, reduceCtorEq, and_false, exists_false, or_false] at failed
    obtain ⟨state, visited, item, _, stepped⟩ := loop_error_visited _ _ _ _ failed
    exact supplied_step_has_gas _ state item gasLimit available (reached_lockstep ctx db pool _ (.supplied state visited)) stepped
  · split at failed
    · next including =>
        simp only [executePoolTransactions, bind_error, bind_ok, reduceCtorEq, and_false, exists_false, or_false] at failed
        rcases failed with failed | ⟨flow, _, failed⟩
        · obtain ⟨state, visited, offer, _, stepped⟩ := loop_error_visited _ _ _ _ failed
          exact pool_step_has_gas _ state offer gasLimit available
            (reached_lockstep ctx db pool _ (.pool supplied state including finished visited)) stepped
        · cases flow with
          | next built => exact finish_payload_error access ctx built _ failed
          | stop built =>
              simp only at failed
              split at failed
              · cases failed
              · exact finish_payload_error access ctx built _ failed
    · exact finish_payload_error access ctx supplied _ failed

theorem gas_pools_in_lockstep (config : MorphEvmConfig State Receipt) (access : StateAccess State) (ctx : MorphPayloadBuilderCtx)
    (db : State) (pool : PoolRun) :
    (∀ built, Reached config ctx db pool built → Lockstep (buildEnv config ctx).blockEnv.gasLimit built) ∧
      (∀ gasLimit available,
        buildPayloadInner config access ctx db pool ≠ .error (.evmExecutionError (.exceedsAvailableGas gasLimit available))) ∧
      ∀ payload, buildPayloadInner config access ctx db pool = .ok (.better payload) →
        payload.block.header.gasUsed ≤ payload.block.header.gasLimit := by
  refine ⟨fun built reached => reached_lockstep ctx db pool built reached,
    fun gasLimit available => build_has_gas access ctx db pool gasLimit available, ?_⟩
  intro payload result
  obtain ⟨built, reached, finished⟩ := build_finished access payload result
  obtain ⟨_, stateRoot, rfl⟩ := finish_payload_ok access built payload finished
  have lockstep := reached_lockstep ctx db pool built reached
  change built.builder.executor.gasUsed ≤ (buildEnv config ctx).blockEnv.gasLimit
  rw [BitVec.le_def, ← lockstep.used]
  exact lockstep.ordered.trans lockstep.within

def sampleEvmSpec : EvmChainSpec where
  toMorphChainSpec := sampleSpec
  chainId := 2818
  feeVaultAddress := none
  feeVault := rfl
  isLondonActiveAtBlock _ := true

-- An EVM whose state counts the transactions, each of which takes the base
-- cost of a transfer or all of its gas.
def sampleNode : MorphEvmConfig Nat U64 where
  chainSpec := sampleEvmSpec
  ethereumTx := ⟨fun _ => 50000, fun _ _ => some 1⟩
  transact _ state recovered :=
    let gasLimit := (EthereumTx.mk (fun _ => 50000) (fun _ _ => some 1)).gasLimitOf recovered.tx
    .ok ⟨if minTransactionGas ≤ gasLimit then minTransactionGas else gasLimit, id, state + 1⟩
  gasUsedWithin _ _ _ result ran := by
    cases ran
    dsimp only
    split
    · next least => exact BitVec.le_def.mp least
    · exact Nat.le_refl _
  emptyOmmerRootHash := 0
  orderedTrieRoot encoded := BitVec.ofNat 256 encoded.length
  calculateReceiptRootNoMemo receipts := BitVec.ofNat 256 receipts.length
  logsBloom _ := 0
  hashHeader := sampleHashHeader

def sampleAccess : StateAccess Nat where
  stateByBlockHash _ := .ok 0
  loadL1GasPriceOracle _ := .ok ()
  readWithdrawTrieRoot _ := .ok 0xC0
  stateRoot state := .ok (BitVec.ofNat 256 state)

def sampleConfig : MorphBuilderConfig := ⟨none, 1000, some 200, none⟩

def sampleSupplied (tx : MorphTxEnvelope) (signer : Address) : WithEncoded := ⟨tx.encode2718, ⟨tx, signer⟩⟩

def sampleCtx : MorphPayloadBuilderCtx where
  parent := sampleParent
  attributes := {
    timestamp := 11
    prevRandao := 0
    suggestedFeeRecipient := 0
    parentBeaconBlockRoot := none
    transactions := [sampleSupplied (sampleMessage 2) 0]
    noTxPool := false
    gasLimit := none
    baseFeePerGas := none }
  bestPayload := none
  builderConfig := sampleConfig

-- The second transaction comes too late.
def samplePool : PoolRun := ⟨[⟨⟨.legacy [1, 2, 3], 0xC1⟩, false, 0⟩, ⟨⟨.legacy [4, 5, 6], 0xC2⟩, false, 1000⟩], false⟩

def payloadOf : Except PayloadBuilderError BuildOutcomeKind → Option MorphBuiltPayload
  | .ok (.better payload) => some payload
  | _ => none

theorem payload_of_some (result : Except PayloadBuilderError BuildOutcomeKind) (payload : MorphBuiltPayload)
    (found : payloadOf result = some payload) : result = .ok (.better payload) := by
  cases result with
  | error error => cases found
  | ok outcome =>
      cases outcome with
      | better payload =>
          cases found
          rfl
      | aborted | cancelled => cases found

theorem gas_pools_in_lockstep_sample : ∃ payload, buildPayloadInner sampleNode sampleAccess sampleCtx 0 samplePool = .ok (.better payload) ∧
    payload.block.header.gasUsed = 42000 ∧ payload.block.header.gasUsed ≤ payload.block.header.gasLimit := by
  have used : (payloadOf (buildPayloadInner sampleNode sampleAccess sampleCtx 0 samplePool)).map (·.block.header.gasUsed) = some 42000 := by
    decide +kernel
  obtain ⟨payload, found, gasUsed⟩ := Option.map_eq_some_iff.mp used
  have result := payload_of_some _ payload found
  exact ⟨payload, result, gasUsed, (gas_pools_in_lockstep sampleNode sampleAccess sampleCtx 0 samplePool).2.2 payload result⟩

end MorphReth.Payload
