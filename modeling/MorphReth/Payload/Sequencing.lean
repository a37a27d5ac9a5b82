import MorphReth.Payload.Derivation

set_option autoImplicit false

namespace MorphReth.Payload

open Rlp Transaction Consensus Evm

variable {State Receipt : Type} {config : MorphEvmConfig State Receipt} {env : EvmEnv}

theorem progress_indices (start final : Building State Receipt) (log : List Inclusion) (progress : Progress config env start log final)
    (below : start.info.nextL1MessageIndex.toNat + (l1Indices (logTxs log)).length < 2 ^ 64) :
    l1Indices (logTxs log) = List.range' start.info.nextL1MessageIndex.toNat (l1Indices (logTxs log)).length ∧
      final.info.nextL1MessageIndex.toNat = start.info.nextL1MessageIndex.toNat + (l1Indices (logTxs log)).length := by
  induction progress with
  | start => exact ⟨rfl, rfl⟩
  | snoc log before after inclusion gasUsed _ included hypothesis =>
      rw [log_txs_append, l1_indices_append] at below ⊢
      cases found : inclusion.recovered.tx.queueIndex with
      | none =>
          have nothing : l1Indices (logTxs [inclusion]) = [] := by
            rw [l1Indices, logTxs, List.map_singleton, List.filterMap_cons_none (by rw [found]; rfl)]
            rfl
          rw [nothing, List.append_nil] at below ⊢
          rw [included.noIndex found]
          exact hypothesis below
      | some queueIndex =>
          obtain ⟨same, next⟩ := included.index queueIndex found
          have single : l1Indices (logTxs [inclusion]) = [queueIndex.toNat] := l1_indices_cons_l1 inclusion.recovered.tx [] queueIndex found
          rw [single, List.length_append, List.length_singleton] at below
          obtain ⟨run, reached⟩ := hypothesis (by omega)
          have value : queueIndex.toNat = start.info.nextL1MessageIndex.toNat + (l1Indices (logTxs log)).length := by rw [same, reached]
          rw [single, List.length_append, List.length_singleton]
          refine ⟨?_, ?_⟩
          · rw [List.range'_concat, ← run, value, Nat.one_mul]
          · rw [next, BitVec.toNat_add, value]
            exact Nat.mod_eq_of_lt (by change _ + 1 < 2 ^ 64; omega)

def totalSize (sizes : List U64) : Nat := (sizes.map BitVec.toNat).sum

theorem within_size_cap (info : ExecutionInfo) (txGasLimit txSize blockGasLimit cap : U64) (capped : info.maxDaBlockSize = some cap)
    (fits : info.isTxOverLimits txGasLimit txSize blockGasLimit = false) : info.cumulativeDaBytesUsed.toNat + txSize.toNat ≤ cap.toNat := by
  rw [ExecutionInfo.isTxOverLimits, Bool.or_eq_false_iff, capped] at fits
  exact exceeds_false _ _ _ fits.2

-- What the counter holds is the exact total of the sizes counted so far.
theorem progress_size (start final : Building State Receipt) (log : List Inclusion) (cap : U64)
    (capped : start.info.maxDaBlockSize = some cap) (empty : start.info.cumulativeDaBytesUsed = 0)
    (progress : Progress config env start log final) :
    final.info.maxDaBlockSize = some cap ∧ final.info.cumulativeDaBytesUsed.toNat = totalSize (log.map Inclusion.size) ∧
      totalSize (log.map Inclusion.size) ≤ cap.toNat := by
  induction progress with
  | start =>
      rw [empty]
      exact ⟨capped, rfl, Nat.zero_le _⟩
  | snoc log before after inclusion gasUsed _ included hypothesis =>
      obtain ⟨kept, counted, _⟩ := hypothesis
      have room := within_size_cap before.info _ inclusion.size _ cap kept included.fits
      have total : totalSize ((log ++ [inclusion]).map Inclusion.size) = totalSize (log.map Inclusion.size) + inclusion.size.toNat := by
        simp [totalSize]
      refine ⟨included.cap.trans kept, ?_, ?_⟩
      · rw [included.size, add_within _ _ cap room, counted, total]
      · rw [total, ← counted]
        exact room

theorem fold_saturating (sizes : List U64) (start : U64) (fits : start.toNat + totalSize sizes < 2 ^ 64) :
    (sizes.foldl saturatingAdd start).toNat = start.toNat + totalSize sizes := by
  induction sizes generalizing start with
  | nil => rfl
  | cons size sizes hypothesis =>
      have total : totalSize (size :: sizes) = size.toNat + totalSize sizes := List.sum_cons
      have added : (saturatingAdd start size).toNat = start.toNat + size.toNat := by
        rw [saturating_add_nat]
        omega
      rw [List.foldl_cons, hypothesis _ (by omega), added, total]
      omega

def l2Sizes (txs : List MorphTxEnvelope) : List U64 := (txs.filter (!·.isL1Msg)).map encode2718Len

theorem l2_sizes_append (txs others : List MorphTxEnvelope) : l2Sizes (txs ++ others) = l2Sizes txs ++ l2Sizes others := by
  rw [l2Sizes, List.filter_append, List.map_append]
  rfl

theorem l2_sizes_of_messages (txs : List MorphTxEnvelope) (l1 : ∀ tx ∈ txs, tx.isL1Msg = true) : l2Sizes txs = [] := by
  rw [l2Sizes, List.filter_eq_nil_iff.mpr (fun tx member => by simp [l1 tx member])]
  rfl

theorem l2_sizes_of_pool (offers : List PoolOffer) (log : List Inclusion) (pooled : PoolLog offers log) :
    l2Sizes (logTxs log) = log.map Inclusion.size := by
  rw [l2Sizes, List.filter_eq_self.mpr (fun tx member => by simp [pooled.isL2 tx member]), logTxs, List.map_map]
  apply List.map_congr_left
  intro inclusion member
  obtain ⟨offer, _, rfl⟩ := pooled.offered inclusion member
  rfl

-- Consensus measures a transaction by its EIP-2718 encoding.
def measured (consensus : MorphConsensus) : MorphConsensus := { consensus with encode2718Len := fun tx => tx.encode2718.length }

theorem payload_size_accepted (consensus : MorphConsensus) (txs : List MorphTxEnvelope) (cap : U64)
    (limit : cap ≤ morphMaxTxPayloadBytesPerBlock) (fits : totalSize (l2Sizes txs) ≤ cap.toNat) :
    validateL2TxPayloadSize (measured consensus) txs = .ok () := by
  have width := cap.isLt
  have bytes : l2TxPayloadBytes (measured consensus) txs = (l2Sizes txs).foldl saturatingAdd 0 := rfl
  have total := fold_saturating (l2Sizes txs) 0 (by change 0 + _ < 2 ^ 64; omega)
  rw [validateL2TxPayloadSize, reject_if_ok, gt_iff_lt, BitVec.not_lt, BitVec.le_def, bytes, total]
  change 0 + totalSize (l2Sizes txs) ≤ _
  rw [BitVec.le_def] at limit
  omega

theorem built_transactions (ctx : MorphPayloadBuilderCtx) (db : State) (pool : PoolRun) (built : Building State Receipt)
    (suppliedLog poolLog : List Inclusion) (log : BuildLog config ctx db pool built suppliedLog poolLog) :
    built.builder.transactions.map Recovered.tx = logTxs suppliedLog ++ logTxs poolLog := by
  obtain ⟨txs, _⟩ := progress_transactions _ built log.progress
  rw [txs, ← log_txs_append, List.map_append, List.map_map]
  rfl

structure L1Sound (parent : SealedHeader) (block : SealedBlock) : Prop where
  ordered : L1First block.transactions
  contiguous : l1Indices block.transactions = List.range' parent.header.nextL1MsgIndex.toNat (l1Indices block.transactions).length
  next : block.header.nextL1MsgIndex.toNat = parent.header.nextL1MsgIndex.toNat + (l1Indices block.transactions).length

theorem built_l1_sound (ctx : MorphPayloadBuilderCtx) (db : State) (pool : PoolRun) (built : Building State Receipt) (stateRoot : B256)
    (suppliedLog poolLog : List Inclusion) (log : BuildLog config ctx db pool built suppliedLog poolLog)
    (below : ctx.parent.header.nextL1MsgIndex.toNat + (l1Indices (sealedBlock config ctx built stateRoot).transactions).length < 2 ^ 64) :
    L1Sound ctx.parent (sealedBlock config ctx built stateRoot) := by
  have txs : (sealedBlock config ctx built stateRoot).transactions = logTxs suppliedLog ++ logTxs poolLog :=
    built_transactions ctx db pool built suppliedLog poolLog log
  rw [txs, ← log_txs_append] at below
  obtain ⟨run, next⟩ := progress_indices _ built _ log.progress below
  refine ⟨?_, ?_, ?_⟩
  · rw [txs]
    exact L1First.append _ _ log.ordered log.pooled.isL2
  · rw [txs, ← log_txs_append]
    exact run
  · rw [txs, ← log_txs_append]
    exact next

theorem built_size_within (ctx : MorphPayloadBuilderCtx) (db : State) (pool : PoolRun) (built : Building State Receipt) (stateRoot : B256)
    (suppliedLog poolLog : List Inclusion) (log : BuildLog config ctx db pool built suppliedLog poolLog) (cap : U64)
    (capped : ctx.builderConfig.maxDaBlockSize = some cap)
    (messages : ∀ supplied ∈ ctx.attributes.transactions, supplied.value.tx.isL1Msg = true) :
    totalSize (l2Sizes (sealedBlock config ctx built stateRoot).transactions) ≤ cap.toNat := by
  have txs : (sealedBlock config ctx built stateRoot).transactions = logTxs suppliedLog ++ logTxs poolLog :=
    built_transactions ctx db pool built suppliedLog poolLog log
  have l1 : ∀ tx ∈ logTxs suppliedLog, tx.isL1Msg = true := by
    intro tx member
    obtain ⟨inclusion, listed, rfl⟩ := List.mem_map.mp member
    obtain ⟨supplied, given, rfl⟩ := log.supplied inclusion listed
    exact messages supplied given
  obtain ⟨_, _, within⟩ := progress_size _ built _ cap capped rfl log.progress
  rw [txs, l2_sizes_append, l2_sizes_of_messages _ l1, l2_sizes_of_pool _ _ log.pooled, List.nil_append]
  rw [List.map_append, totalSize, List.map_append, List.sum_append] at within
  exact (Nat.le_add_left _ _).trans within

theorem supplied_messages (recovery : TxRecovery) (encoded : List Bytes) (transactions : List WithEncoded)
    (decoded : decodeAllSupplied recovery encoded = .ok transactions)
    (messages : ∀ data ∈ encoded, ∀ tx rest, decode2718 recovery.ethereum data = .ok (tx, rest) → tx.isL1Msg = true) :
    ∀ supplied ∈ transactions, supplied.value.tx.isL1Msg = true := by
  obtain ⟨rfl, envelopes⟩ := decode_all_supplied_ok recovery encoded transactions decoded
  intro supplied member
  exact messages supplied.encodedBytes (List.mem_map_of_mem member) _ [] (envelopes supplied member)

-- Order and indices hold for every build. The size rule needs a cap and the
-- documented input of a sequencer build: supplied transactions are not measured.
theorem sequenced_block_accepted (config : MorphEvmConfig State Receipt) (recovery : TxRecovery) (access : StateAccess State)
    (args : BuildArguments) (builder : MorphPayloadBuilder) (payload : MorphBuiltPayload)
    (result : builder.tryBuild config recovery access args = .ok (.better payload))
    (below : args.parent.header.nextL1MsgIndex.toNat + (l1Indices payload.block.transactions).length < 2 ^ 64) :
    L1Sound args.parent payload.block ∧
      (∀ isJade, validateL1MessagesInBlock payload.block.transactions payload.block.header.nextL1MsgIndex isJade = .ok ()) ∧
      (∀ engine, sealedHeaderByHash engine payload.block.header.parentHash = .ok (some args.parent) →
        validateNextL1MsgIndex engine payload.block = .ok ()) ∧
      (∀ cap, builder.config.maxDaBlockSize = some cap →
        (∀ data ∈ args.attributes.transactions.getD [], ∀ tx rest, decode2718 recovery.ethereum data = .ok (tx, rest) → tx.isL1Msg = true) →
          totalSize (l2Sizes payload.block.transactions) ≤ cap.toNat ∧
            (cap ≤ morphMaxTxPayloadBytesPerBlock →
              ∀ consensus, validateL2TxPayloadSize (measured consensus) payload.block.transactions = .ok ())) := by
  simp only [MorphPayloadBuilder.tryBuild, bind_ok, map_error_ok] at result
  obtain ⟨attributes, accepted, db, _, inner⟩ := result
  obtain ⟨decoded, _, _⟩ := try_new_ok recovery args.attributes attributes accepted
  obtain ⟨built, reached, finished⟩ := build_finished access payload inner
  obtain ⟨_, stateRoot, rfl⟩ := finish_payload_ok access built payload finished
  obtain ⟨suppliedLog, poolLog, log⟩ := reached_log built reached
  have sound := built_l1_sound _ db builder.pool built stateRoot suppliedLog poolLog log below
  refine ⟨sound, ?_, ?_, ?_⟩
  · intro isJade
    exact l1_messages_accepted _ _ _ isJade sound.ordered sound.contiguous sound.next
  · intro engine found
    exact next_index_accepted engine _ args.parent sound.ordered found sound.contiguous sound.next
  · intro cap capped messages
    have within := built_size_within _ db builder.pool built stateRoot suppliedLog poolLog log cap capped
      (supplied_messages recovery _ _ decoded messages)
    exact ⟨within, fun limit consensus => payload_size_accepted consensus _ cap limit within⟩

theorem decoded_message (ethereum : EthereumDecoder) (message : TxL1Msg) (tx : MorphTxEnvelope) (rest : Bytes)
    (envelope : decode2718 ethereum (MorphTxEnvelope.l1Msg message).encode2718 = .ok (tx, rest)) : tx.isL1Msg = true := by
  rw [MorphTxEnvelope.encode2718, decode_l1_msg] at envelope
  cases decoded : l1MsgCodec.decode.run (l1MsgCodec.encode message) with
  | error error => rw [decoded] at envelope; cases envelope
  | ok pair =>
      rw [decoded] at envelope
      cases envelope
      rfl

def sampleAssembly (supplied : List MorphTxEnvelope) : BuildArguments :=
  { sampleDerivation with
    attributes := { sampleDerivation.attributes with
      transactions := some (supplied.map MorphTxEnvelope.encode2718)
      noTxPool := false
      gasLimit := none } }

theorem sequenced_block_accepted_sample :
    ∃ payload, (MorphPayloadBuilder.mk sampleConfig samplePool).tryBuild sampleNode sampleRecovery sampleAccess
        (sampleAssembly [sampleMessage 2, sampleMessage 3]) = .ok (.better payload) ∧
      payload.block.header.nextL1MsgIndex.toNat = 4 ∧ totalSize (l2Sizes payload.block.transactions) ≤ 200 ∧
      validateL1MessagesInBlock payload.block.transactions payload.block.header.nextL1MsgIndex true = .ok () := by
  have count : (payloadOf ((MorphPayloadBuilder.mk sampleConfig samplePool).tryBuild sampleNode sampleRecovery sampleAccess
      (sampleAssembly [sampleMessage 2, sampleMessage 3]))).map (fun payload => (l1Indices payload.block.transactions).length) = some 2 := by
    decide +kernel
  obtain ⟨payload, found, two⟩ := Option.map_eq_some_iff.mp count
  have result := payload_of_some _ payload found
  have below : sampleParent.header.nextL1MsgIndex.toNat + (l1Indices payload.block.transactions).length < 2 ^ 64 := by
    rw [two]
    decide
  obtain ⟨sound, inBlock, _, size⟩ := sequenced_block_accepted sampleNode sampleRecovery sampleAccess
    (sampleAssembly [sampleMessage 2, sampleMessage 3]) ⟨sampleConfig, samplePool⟩ payload result below
  refine ⟨payload, result, ?_, (size 200 rfl ?_).1, inBlock true⟩
  · rw [sound.next, two]
    rfl
  · intro data given tx rest envelope
    simp only [sampleAssembly, Option.getD_some, List.mem_map, List.mem_cons, List.not_mem_nil, or_false] at given
    obtain ⟨message, rfl | rfl, rfl⟩ := given
    · exact decoded_message _ _ tx rest envelope
    · exact decoded_message _ _ tx rest envelope

theorem supplied_l2_tx_exceeds_cap :
    ¬∀ (config : MorphEvmConfig Nat U64) (recovery : TxRecovery) (access : StateAccess Nat) (args : BuildArguments)
        (builder : MorphPayloadBuilder) (payload : MorphBuiltPayload) (cap : U64), args.attributes.noTxPool = false →
        builder.config.maxDaBlockSize = some cap → cap ≤ morphMaxTxPayloadBytesPerBlock →
        builder.tryBuild config recovery access args = .ok (.better payload) →
          totalSize (l2Sizes payload.block.transactions) ≤ cap.toNat := by
  intro withinCap
  have size : (payloadOf ((MorphPayloadBuilder.mk sampleConfig samplePool).tryBuild sampleNode sampleRecovery sampleAccess
      (sampleAssembly [sampleMorphTx]))).map (fun payload => decide (200 < totalSize (l2Sizes payload.block.transactions))) = some true := by
    decide +kernel
  obtain ⟨payload, found, exceeds⟩ := Option.map_eq_some_iff.mp size
  have within := withinCap sampleNode sampleRecovery sampleAccess (sampleAssembly [sampleMorphTx]) ⟨sampleConfig, samplePool⟩ payload 200 rfl rfl
    (by decide) (payload_of_some _ payload found)
  exact absurd within (Nat.not_le_of_lt (of_decide_eq_true exceeds))

end MorphReth.Payload
