import MorphReth.Payload.GasPools

set_option autoImplicit false

namespace MorphReth.Payload

open Rlp Transaction Consensus Evm

variable {State Receipt : Type} {config : MorphEvmConfig State Receipt} {env : EvmEnv}

-- The builder's own configuration reaches the supplied loop only as the size
-- cap kept in the counters.
def ExecutionInfo.withoutCap (info : ExecutionInfo) : ExecutionInfo := { info with maxDaBlockSize := none }

def Building.withoutCap (building : Building State Receipt) : Building State Receipt := { building with info := building.info.withoutCap }

def SuppliedState.withoutCap (state : SuppliedState State Receipt) : SuppliedState State Receipt :=
  { state with info := state.info.withoutCap }

theorem over_limits_without_cap (info : ExecutionInfo) (txGasLimit blockGasLimit : U64) (noSize : info.cumulativeDaBytesUsed = 0) :
    info.withoutCap.isTxOverLimits txGasLimit 0 blockGasLimit = info.isTxOverLimits txGasLimit 0 blockGasLimit := by
  have free : ∀ cap : U64, ExecutionInfo.exceeds 0 0 cap = false := by
    intro cap
    simp [ExecutionInfo.exceeds, checkedAdd]
  simp only [ExecutionInfo.isTxOverLimits, ExecutionInfo.withoutCap, noSize]
  cases info.maxDaBlockSize with
  | none => rfl
  | some cap => simp only [free]

theorem record_kind_without_cap (ethereum : EthereumTx) (info : ExecutionInfo) (tx : MorphTxEnvelope) (baseFee gasUsed : U64) :
    recordKind ethereum info.withoutCap tx baseFee gasUsed = ExecutionInfo.withoutCap <$> recordKind ethereum info tx baseFee gasUsed := by
  rw [recordKind, recordKind]
  split
  · cases tx.queueIndex with
    | none => rfl
    | some queueIndex =>
        by_cases same : queueIndex = info.nextL1MessageIndex
        · simp only [ExecutionInfo.withoutCap, same, ne_eq, not_true_eq_false, if_false]
          rfl
        · simp only [ExecutionInfo.withoutCap, same, ne_eq, not_false_eq_true, if_true]
          rfl
  · rfl

theorem supplied_step_without_cap (noTxPool : Bool) (state : SuppliedState State Receipt) (item : WithEncoded × Nat)
    (noSize : state.info.cumulativeDaBytesUsed = 0) :
    suppliedStep config env noTxPool state.withoutCap item =
      Flow.map SuppliedState.withoutCap <$> suppliedStep config env noTxPool state item := by
  obtain ⟨supplied, txIndex⟩ := item
  have limits := over_limits_without_cap state.info (config.ethereumTx.gasLimitOf supplied.value.tx) env.blockEnv.gasLimit noSize
  simp only [suppliedStep, map_bind]
  refine bind_congr fun _ => bind_congr fun _ => ?_
  change (if state.info.withoutCap.isTxOverLimits _ 0 _ = true then _ else _) = _
  rw [limits]
  split
  · simp only [map_bind]
    rfl
  · simp only [map_bind]
    apply bind_congr
    rintro ⟨gasUsed, builder⟩
    change recordKind _ state.info.withoutCap _ _ _ >>= _ = _
    rw [record_kind_without_cap, bind_map_left]
    rfl

theorem loop_without_cap (noTxPool : Bool) (start : SuppliedState State Receipt) (items : List (WithEncoded × Nat))
    (noSize : start.info.cumulativeDaBytesUsed = 0) :
    loopList (suppliedStep config env noTxPool) start.withoutCap items =
      Flow.map SuppliedState.withoutCap <$> loopList (suppliedStep config env noTxPool) start items := by
  refine loop_map _ _ SuppliedState.withoutCap (fun state => state.info.cumulativeDaBytesUsed = 0) ?_ ?_ start items noSize
  · intro state item noSize
    exact supplied_step_without_cap noTxPool state item noSize
  · intro state item flow noSize stepped
    cases supplied_turn noTxPool state item flow stepped with
    | stopped => exact noSize
    | included after gasUsed included =>
        rw [Flow.state, included.size, noSize]
        rfl

theorem execute_supplied_without_cap (noTxPool : Bool) (transactions : List WithEncoded) (start : Building State Receipt)
    (noSize : start.info.cumulativeDaBytesUsed = 0) :
    executeSuppliedTransactions config env noTxPool transactions start.withoutCap =
      Building.withoutCap <$> executeSuppliedTransactions config env noTxPool transactions start := by
  have loops := @loop_without_cap State Receipt config env noTxPool ⟨start, false⟩ transactions.zipIdx noSize
  change loopList _ (⟨start.withoutCap, false⟩ : SuppliedState State Receipt) _ = _ at loops
  rw [executeSuppliedTransactions, executeSuppliedTransactions, loops, bind_map_left, map_bind]
  refine bind_congr fun flow => ?_
  cases flow <;> rfl

-- A builder with no limits of its own.
def plainConfig : MorphBuilderConfig := ⟨none, 0, none, none⟩

theorem derivation_ignores_builder (access : StateAccess State) (ctx : MorphPayloadBuilderCtx) (db : State) (pool : PoolRun)
    (gasLimit : U64) (derived : ctx.attributes.noTxPool = true) (explicit : ctx.attributes.gasLimit = some gasLimit) :
    buildPayloadInner config access ctx db pool =
      buildPayloadInner config access { ctx with builderConfig := plainConfig } db ⟨[], false⟩ := by
  have attributes : ctx.nextBlockAttrs = ({ ctx with builderConfig := plainConfig } : MorphPayloadBuilderCtx).nextBlockAttrs := by
    simp only [MorphPayloadBuilderCtx.nextBlockAttrs, MorphBuilderConfig.nextHeaderGasLimit, explicit]
  have excluded : ctx.attributes.includeTxPool = false := by
    rw [MorphPayloadBuilderAttributes.includeTxPool, derived]
    rfl
  simp only [buildPayloadInner, ← attributes, excluded, Bool.false_eq_true, if_false]
  refine bind_congr fun _ => ?_
  have supplied := @execute_supplied_without_cap State Receipt config (nextEvmEnv config.chainSpec ctx.parent.header ctx.nextBlockAttrs)
    ctx.attributes.noTxPool ctx.attributes.transactions (startBuilding ctx db) rfl
  change _ = executeSuppliedTransactions _ _ _ _ (startBuilding ctx db).withoutCap >>= _
  rw [supplied, bind_map_left]
  rfl

variable (recovery : TxRecovery)

theorem recovered_tx (tx : MorphTxEnvelope) (recovered : Recovered) (found : recovery.tryIntoRecovered tx = some recovered) :
    recovered.tx = tx := by
  cases tx with
  | l1Msg message =>
      cases found
      rfl
  | legacy | eip2930 | eip1559 | eip7702 | morph =>
      obtain ⟨signer, _, rfl⟩ := Option.map_eq_some_iff.mp found
      rfl

theorem decode_supplied_ok (data : Bytes) (supplied : WithEncoded) (decoded : decodeSupplied recovery data = .ok supplied) :
    supplied.encodedBytes = data ∧ decode2718 recovery.ethereum data = .ok (supplied.value.tx, []) := by
  obtain ⟨⟨tx, buf⟩, envelope, decoded⟩ := (bind_ok _ _ _).mp decoded
  simp only at decoded
  split at decoded
  · cases decoded
  · next consumed =>
      rw [not_not] at consumed
      split at decoded
      · cases decoded
      · next recovered found =>
          cases decoded
          refine ⟨rfl, ?_⟩
          rw [envelope, consumed, recovered_tx recovery tx recovered found]

theorem decode_all_supplied_ok (encoded : List Bytes) (transactions : List WithEncoded)
    (decoded : decodeAllSupplied recovery encoded = .ok transactions) :
    transactions.map WithEncoded.encodedBytes = encoded ∧
      ∀ supplied ∈ transactions, decode2718 recovery.ethereum supplied.encodedBytes = .ok (supplied.value.tx, []) := by
  induction encoded generalizing transactions with
  | nil =>
      cases decoded
      exact ⟨rfl, by simp⟩
  | cons data rest hypothesis =>
      simp only [decodeAllSupplied, bind_ok, Except.ok.injEq] at decoded
      obtain ⟨supplied, first, others, later, rfl⟩ := decoded
      obtain ⟨bytes, envelopes⟩ := hypothesis others later
      obtain ⟨same, envelope⟩ := decode_supplied_ok recovery data supplied first
      rw [List.map_cons, bytes, List.forall_mem_cons, same]
      exact ⟨rfl, envelope, envelopes⟩

theorem supplied_included (start : Building State Receipt) (done : List (WithEncoded × Nat)) (state : SuppliedState State Receipt)
    (item : WithEncoded × Nat) (turn : Flow (SuppliedState State Receipt))
    (progress : Progress config env start (done.map (fun item => Inclusion.ofSupplied item.1)) state.toBuilding)
    (stepped : suppliedStep config env true state item = .ok turn) :
    ∃ after, turn = .next after ∧
      Progress config env start ((done ++ [item]).map (fun item => Inclusion.ofSupplied item.1)) after.toBuilding := by
  cases supplied_turn true state item turn stepped with
  | stopped _ assembling => cases assembling
  | included after gasUsed included =>
      refine ⟨after, rfl, ?_⟩
      rw [List.map_append]
      exact .snoc _ _ _ _ gasUsed progress included

-- Without the pool nothing ends the supplied loop early.
theorem derivation_includes_all (transactions : List WithEncoded) (start supplied : Building State Receipt)
    (finished : executeSuppliedTransactions config env true transactions start = .ok supplied) :
    supplied.builder.transactions = start.builder.transactions ++ transactions.map WithEncoded.value ∧
      supplied.executedTxs = start.executedTxs ++ transactions.map WithEncoded.encodedBytes := by
  obtain ⟨flow, loop, rfl⟩ := execute_supplied_ok _ _ supplied _ _ finished
  obtain ⟨final, rfl, log⟩ := loop_consumes _
    (fun done state => Progress config env start (done.map (fun item => Inclusion.ofSupplied item.1)) state.toBuilding)
    ⟨start, false⟩ transactions.zipIdx [] flow (supplied_included start) .start loop
  have items : transactions.zipIdx.map (fun item => Inclusion.ofSupplied item.1) = transactions.map Inclusion.ofSupplied := by
    conv_rhs => rw [← List.zipIdx_map_fst 0 transactions, List.map_map]
    rfl
  obtain ⟨txs, bytes⟩ := progress_transactions _ _ log
  rw [List.nil_append, items, List.map_map] at txs bytes
  exact ⟨txs, bytes⟩

theorem finish_without_best (access : StateAccess State) (ctx : MorphPayloadBuilderCtx) (built : Building State Receipt)
    (outcome : BuildOutcomeKind) (fresh : ctx.bestPayload = none) (finished : finishPayload config env access ctx built = .ok outcome) :
    ∃ payload, outcome = .better payload := by
  simp only [finishPayload, MorphPayloadBuilderCtx.isBetterPayload, fresh, Bool.true_eq_false, if_false, bind_ok, Except.ok.injEq] at finished
  obtain ⟨_, _, _, _, same⟩ := finished
  exact ⟨_, same.symm⟩

theorem try_new_ok (attributes : MorphPayloadAttributes) (decoded : MorphPayloadBuilderAttributes)
    (accepted : MorphPayloadBuilderAttributes.tryNew recovery attributes = .ok decoded) :
    decodeAllSupplied recovery (attributes.transactions.getD []) = .ok decoded.transactions ∧ decoded.noTxPool = attributes.noTxPool ∧
      decoded.gasLimit = attributes.gasLimit ∧ decoded.suggestedFeeRecipient = attributes.suggestedFeeRecipient := by
  obtain ⟨transactions, all, same⟩ := (bind_ok _ _ _).mp accepted
  cases same
  exact ⟨all, rfl, rfl, rfl⟩

-- The two builds share the parent and the attributes, and through the state
-- access the parent's state.
theorem derivation_deterministic (config : MorphEvmConfig State Receipt) (recovery : TxRecovery) (access : StateAccess State)
    (args : BuildArguments) (gasLimit : U64) (derived : args.attributes.noTxPool = true)
    (explicit : args.attributes.gasLimit = some gasLimit) (fresh : args.bestPayload = none) (builder other : MorphPayloadBuilder) :
    builder.tryBuild config recovery access args = other.tryBuild config recovery access args ∧
      ((∃ error, builder.tryBuild config recovery access args = .error error) ∨
        ∃ payload, builder.tryBuild config recovery access args = .ok (.better payload) ∧
          List.Forall₂ (fun data tx => decode2718 recovery.ethereum data = .ok (tx, []))
            (args.attributes.transactions.getD []) payload.block.transactions ∧
          payload.executableData.transactions = args.attributes.transactions.getD []) := by
  constructor
  · rw [MorphPayloadBuilder.tryBuild, MorphPayloadBuilder.tryBuild]
    cases accepted : MorphPayloadBuilderAttributes.tryNew recovery args.attributes with
    | error error => rfl
    | ok attributes =>
        obtain ⟨_, noTxPool, limit, _⟩ := try_new_ok recovery args.attributes attributes accepted
        change (access.stateByBlockHash args.parent.hash).mapError _ >>= _ = (access.stateByBlockHash args.parent.hash).mapError _ >>= _
        refine bind_congr fun db => ?_
        have ignored (limits : MorphBuilderConfig) (pool : PoolRun) := @derivation_ignores_builder State Receipt config access
          ⟨args.parent, attributes, args.bestPayload, limits⟩ db pool gasLimit (noTxPool.trans derived) (limit.trans explicit)
        rw [ignored builder.config builder.pool, ignored other.config other.pool]
  · cases result : builder.tryBuild config recovery access args with
    | error error => exact .inl ⟨error, rfl⟩
    | ok outcome =>
        right
        simp only [MorphPayloadBuilder.tryBuild, bind_ok, map_error_ok] at result
        obtain ⟨attributes, accepted, db, _, result⟩ := result
        obtain ⟨decoded, noTxPool, _⟩ := try_new_ok recovery args.attributes attributes accepted
        have excluded : attributes.includeTxPool = false := by
          rw [MorphPayloadBuilderAttributes.includeTxPool, noTxPool, derived]
          rfl
        simp only [buildPayloadInner, bind_ok, excluded, Bool.false_eq_true, if_false] at result
        obtain ⟨_, _, supplied, executed, finished⟩ := result
        obtain ⟨payload, rfl⟩ := finish_without_best access _ supplied outcome fresh finished
        obtain ⟨_, stateRoot, rfl⟩ := finish_payload_ok access supplied payload finished
        rw [noTxPool, derived] at executed
        obtain ⟨txs, bytes⟩ := derivation_includes_all _ _ supplied executed
        obtain ⟨encoded, envelopes⟩ := decode_all_supplied_ok recovery _ _ decoded
        refine ⟨_, rfl, ?_, ?_⟩
        · change List.Forall₂ _ _ (supplied.builder.transactions.map Recovered.tx)
          rw [txs, ← encoded, List.map_append, List.map_map]
          exact List.forall₂_map_left_iff.mpr (List.forall₂_map_right_iff.mpr (List.forall₂_same.mpr envelopes))
        · change supplied.executedTxs = _
          rw [bytes, encoded]
          rfl

-- No Ethereum transaction decodes, and every signature is the same account's.
def sampleRecovery : TxRecovery where
  ethereum := {
    decode := fun _ => .error .inputTooShort
    ethereum := fun _ _ _ accepted => by cases accepted
    redecode := fun _ _ _ accepted => by cases accepted
    untyped := fun _ _ _ accepted => by cases accepted }
  recoverSigner _ := some 0xC1

def sampleWireTx : TxMorph := { sampleTx with memo := none }

def sampleMorphTx : MorphTxEnvelope := .morph sampleWireTx ⟨true, 21, 22⟩

def sampleDerivation : BuildArguments where
  parent := sampleParent
  attributes := {
    timestamp := 11
    prevRandao := 0
    suggestedFeeRecipient := 0
    parentBeaconBlockRoot := none
    transactions := some [(sampleMessage 2).encode2718, sampleMorphTx.encode2718]
    noTxPool := true
    gasLimit := some 20000000
    baseFeePerGas := some 7 }
  bestPayload := none

theorem derivation_deterministic_sample :
    ∃ payload, (MorphPayloadBuilder.mk sampleConfig samplePool).tryBuild sampleNode sampleRecovery sampleAccess sampleDerivation =
      .ok (.better payload) ∧
      (MorphPayloadBuilder.mk ⟨some 0, 0, some 0, some 5000⟩ ⟨[], true⟩).tryBuild sampleNode sampleRecovery sampleAccess sampleDerivation =
        .ok (.better payload) ∧
      payload.executableData.transactions = [(sampleMessage 2).encode2718, sampleMorphTx.encode2718] := by
  have built : (payloadOf ((MorphPayloadBuilder.mk sampleConfig samplePool).tryBuild sampleNode sampleRecovery sampleAccess
      sampleDerivation)).isSome =
      true := by decide +kernel
  obtain ⟨payload, found⟩ := Option.isSome_iff_exists.mp built
  have result := payload_of_some _ payload found
  obtain ⟨same, outcome⟩ := derivation_deterministic sampleNode sampleRecovery sampleAccess sampleDerivation 20000000 rfl rfl rfl
    ⟨sampleConfig, samplePool⟩ ⟨⟨some 0, 0, some 0, some 5000⟩, ⟨[], true⟩⟩
  rw [result] at same outcome
  rcases outcome with ⟨error, failed⟩ | ⟨_, equal, _, bytes⟩
  · cases failed
  · cases equal
    exact ⟨payload, result, same.symm, bytes⟩

end MorphReth.Payload
