import MorphReth.Engine.L2Blocks
import MorphReth.Payload.Sequencing

set_option autoImplicit false

namespace MorphReth.Engine

open Rlp Transaction Consensus Evm Payload

variable {State Receipt : Type} {api : RealMorphL2EngineApi State Receipt}

theorem resolved_by_attempt (parent : SealedHeader) (attributes : MorphPayloadAttributes) (best : Option MorphBuiltPayload)
    (builders : List MorphPayloadBuilder) (payload : MorphBuiltPayload)
    (resolved : resolvePayload api parent attributes best builders = some payload) :
    best = some payload ∨ ∃ builder ∈ builders, ∃ earlier,
      builder.tryBuild api.config api.recovery api.access ⟨parent, attributes, earlier⟩ = .ok (.better payload) := by
  induction builders generalizing best with
  | nil => exact .inl resolved
  | cons builder builders hypothesis =>
      rw [resolvePayload] at resolved
      split at resolved
      · next found built =>
          rcases hypothesis (some found) resolved with same | ⟨later, member, earlier, attempt⟩
          · cases same
            exact .inr ⟨builder, List.mem_cons_self, best, built⟩
          · exact .inr ⟨later, List.mem_cons_of_mem _ member, earlier, attempt⟩
      · rcases hypothesis best resolved with same | ⟨later, member, earlier, attempt⟩
        · exact .inl same
        · exact .inr ⟨later, List.mem_cons_of_mem _ member, earlier, attempt⟩

theorem resolve_kind_ok (parent : SealedHeader) (attributes : MorphPayloadAttributes) (payload : MorphBuiltPayload)
    (resolved : resolveKind api parent attributes = .ok payload) :
    ∃ builder ∈ api.attempts, ∃ earlier,
      builder.tryBuild api.config api.recovery api.access ⟨parent, attributes, earlier⟩ = .ok (.better payload) := by
  rw [resolveKind] at resolved
  split at resolved
  · cases resolved
  · next found =>
      cases resolved
      exact (resolved_by_attempt parent attributes none api.attempts payload found).resolve_left (by simp)

theorem built_by_attempt (params : AssembleL2BlockParams) (gasLimitOverride : Option U64) (baseFeeOverride : Option U128)
    (parentOverride : Option B256) (policy : TxPoolPolicy) (payload : MorphBuiltPayload)
    (built : buildL2Payload api params gasLimitOverride baseFeeOverride parentOverride policy = .ok payload) :
    ∃ builder ∈ api.attempts, ∃ args, args.attributes.suggestedFeeRecipient = 0 ∧
      builder.tryBuild api.config api.recovery api.access args = .ok (.better payload) := by
  simp only [buildL2Payload, buildNewPayload, bind_ok, Except.ok.injEq] at built
  obtain ⟨_, ⟨_, _, _, _, _, _, rfl⟩, parent, _, resolved⟩ := built
  obtain ⟨builder, member, earlier, attempt⟩ := resolve_kind_ok parent _ payload resolved
  exact ⟨builder, member, _, rfl, attempt⟩

-- The bytes reported for a transaction decode to its normal form, which has
-- the same encoding.
structure Reported (ethereum : EthereumDecoder) (inclusion : Inclusion) : Prop where
  decodes : decode2718 ethereum inclusion.bytes = .ok (inclusion.recovered.tx.normalize, [])
  encoding : inclusion.recovered.tx.normalize.encode2718 = inclusion.recovered.tx.encode2718

theorem supplied_reported (ethereum : EthereumDecoder) (supplied : WithEncoded)
    (decoded : decode2718 ethereum supplied.encodedBytes = .ok (supplied.value.tx, [])) : Reported ethereum (.ofSupplied supplied) := by
  obtain ⟨normal, _⟩ := redecode_2718 ethereum supplied.encodedBytes supplied.value.tx decoded
  refine ⟨?_, ?_⟩
  · rw [Inclusion.ofSupplied, normal]
    exact decoded
  · rw [Inclusion.ofSupplied, normal]

theorem pool_reported (ethereum : EthereumDecoder) (recovered : Recovered) (encodable : Encodable ethereum recovered.tx) :
    Reported ethereum (.ofPool recovered) :=
  ⟨encodable_decodes ethereum recovered.tx encodable, encode_normalize ethereum recovered.tx encodable⟩

theorem decode_transactions_ok (ethereum : EthereumDecoder) (log : List Inclusion) (index : Nat)
    (reported : ∀ inclusion ∈ log, Reported ethereum inclusion) :
    decodeTransactions ethereum index (log.map Inclusion.bytes) = .ok ((logTxs log).map MorphTxEnvelope.normalize) := by
  induction log generalizing index with
  | nil => rfl
  | cons inclusion log hypothesis =>
      rw [List.forall_mem_cons] at reported
      rw [List.map_cons, decodeTransactions, reported.1.decodes]
      simp only [rejectIf, ne_eq, not_true_eq_false, if_false, hypothesis (index + 1) reported.2]
      rfl

theorem base_fee_fits (fee : U64) (error : U128 → MorphEngineApiError) : tryBaseFee (some (fee.setWidth 128)) error = .ok (some fee) := by
  have value : (fee.setWidth 128).toNat = fee.toNat := BitVec.toNat_setWidth_of_le (by decide)
  simp only [tryBaseFee, tryFromU128, value, fee.isLt, if_true]
  rw [BitVec.setWidth_setWidth_of_le _ (by decide), BitVec.setWidth_eq]

theorem bloom_from_slice (bloom : Bloom) : bloomFromSlice (toFixedBytes bloom) = bloom := by
  rw [bloomFromSlice, toFixedBytes, of_digits_to_fixed, BitVec.ofNat_toNat, BitVec.setWidth_eq]

section Block

variable (ctx : MorphPayloadBuilderCtx) (built : Building State Receipt) (stateRoot withdrawTrieRoot : B256) (log : List Inclusion)

theorem reimported_block (txs : built.builder.transactions.map Recovered.tx = logTxs log)
    (bytes : built.executedTxs = log.map Inclusion.bytes) (reported : ∀ inclusion ∈ log, Reported api.recovery.ethereum inclusion)
    (london : api.config.chainSpec.isLondonActiveAtBlock (sealedBlock api.config ctx built stateRoot).header.number = true) :
    headerAndBodyFromExecutableData api (executableData (sealedBlock api.config ctx built stateRoot) built.executedTxs
        built.builder.executor.gasUsed withdrawTrieRoot built.info.nextL1MessageIndex) =
      .ok {
        header := (sealedBlock api.config ctx built stateRoot).header
        transactions := (sealedBlock api.config ctx built stateRoot).transactions.map MorphTxEnvelope.normalize
        ommers := []
        withdrawals := none } := by
  have fee : (sealedBlock api.config ctx built stateRoot).header.baseFeePerGas = some (buildEnv api.config ctx).blockEnv.basefee :=
    if_pos london
  have body : (sealedBlock api.config ctx built stateRoot).transactions = logTxs log := txs
  have coinbase : (sealedBlock api.config ctx built stateRoot).header.beneficiary = 0 := rfl
  have root : calculateTransactionRoot api.config ((logTxs log).map MorphTxEnvelope.normalize) =
      calculateTransactionRoot api.config (built.builder.transactions.map Recovered.tx) := by
    rw [txs, calculateTransactionRoot, calculateTransactionRoot, List.map_map]
    congr 1
    apply List.map_congr_left
    intro tx member
    obtain ⟨inclusion, listed, rfl⟩ := List.mem_map.mp member
    exact (reported inclusion listed).encoding
  have length : (toFixedBytes (sealedBlock api.config ctx built stateRoot).header.logsBloom).length = 256 := to_fixed_bytes_length 2048 256 rfl _
  have decoded := decode_transactions_ok api.recovery.ethereum log 0 reported
  simp only [headerAndBodyFromExecutableData, executableData, fee, Option.map_some, bytes, bind_ok, length, reject_if_ok]
  refine ⟨_, base_fee_fits _ _, (), by simp, _, decoded, ?_⟩
  rw [bloom_from_slice, root, body, ← fee, coinbase, ite_self]
  rfl

end Block

theorem build_reported (args : BuildArguments) (attributes : MorphPayloadBuilderAttributes) (builder : MorphPayloadBuilder) (db : State)
    (held : ∀ offer ∈ builder.pool.offers, Encodable api.recovery.ethereum offer.recovered.tx)
    (accepted : MorphPayloadBuilderAttributes.tryNew api.recovery args.attributes = .ok attributes) (built : Building State Receipt)
    (suppliedLog poolLog : List Inclusion)
    (log : BuildLog api.config ⟨args.parent, attributes, args.bestPayload, builder.config⟩ db builder.pool built suppliedLog poolLog) :
    ∀ inclusion ∈ suppliedLog ++ poolLog, Reported api.recovery.ethereum inclusion := by
  obtain ⟨decoded, _, _⟩ := try_new_ok api.recovery args.attributes attributes accepted
  obtain ⟨_, envelopes⟩ := decode_all_supplied_ok api.recovery _ _ decoded
  intro inclusion member
  rcases List.mem_append.mp member with supplied | pooled
  · obtain ⟨given, listed, rfl⟩ := log.supplied inclusion supplied
    exact supplied_reported _ given (envelopes given listed)
  · obtain ⟨offer, listed, rfl⟩ := log.pooled.offered inclusion pooled
    exact pool_reported _ offer.recovered (held offer listed)

-- The re-imported block. A MorphTx that the node signed itself may carry an
-- absent field as an empty one; the bytes do not tell the two apart.
structure SameBlock (sealed reimported : SealedBlock) : Prop where
  header : reimported.header = sealed.header
  hash : reimported.hash = sealed.hash
  transactions : reimported.transactions = sealed.transactions.map MorphTxEnvelope.normalize
  encodings : reimported.transactions.map MorphTxEnvelope.encode2718 = sealed.transactions.map MorphTxEnvelope.encode2718
  ommers : reimported.ommers = sealed.ommers
  withdrawals : reimported.withdrawals = sealed.withdrawals
  identical : (∀ tx ∈ sealed.transactions, tx.normalize = tx) → reimported = sealed

theorem same_block (sealed : SealedBlock) (hashHeader : Consensus.Header → B256) (hashed : sealed.hash = hashSlow hashHeader sealed.header)
    (noOmmers : sealed.ommers = []) (noWithdrawals : sealed.withdrawals = none)
    (encodings : ∀ tx ∈ sealed.transactions, tx.normalize.encode2718 = tx.encode2718) :
    SameBlock sealed (Block.seal hashHeader ⟨sealed.header, sealed.transactions.map MorphTxEnvelope.normalize, [], none⟩) := by
  refine ⟨rfl, hashed.symm, rfl, ?_, noOmmers.symm, noWithdrawals.symm, ?_⟩
  · rw [Block.seal, List.map_map]
    exact List.map_congr_left encodings
  · intro normal
    have kept : sealed.transactions.map MorphTxEnvelope.normalize = sealed.transactions := by
      conv_rhs => rw [← List.map_id sealed.transactions]
      exact List.map_congr_left normal
    obtain ⟨header, hash, transactions, ommers, withdrawals⟩ := sealed
    simp only at hashed noOmmers noWithdrawals kept
    simp only [Block.seal, kept, hashed, noOmmers, noWithdrawals]

theorem built_block_reimports (api : RealMorphL2EngineApi State Receipt) (params : AssembleL2BlockParams) (gasLimitOverride : Option U64)
    (baseFeeOverride : Option U128) (parentOverride : Option B256) (policy : TxPoolPolicy) (payload : MorphBuiltPayload)
    (result : buildL2Payload api params gasLimitOverride baseFeeOverride parentOverride policy = .ok payload)
    (london : api.config.chainSpec.isLondonActiveAtBlock payload.block.header.number = true) :
    (∃ reimported, executionPayloadFromExecutableData api payload.executableData =
        .ok (⟨reimported, some payload.executableData.withdrawTrieRoot⟩, payload.block.header) ∧ SameBlock payload.block reimported) ∧
      ∃ builder ∈ api.attempts, ∃ ctx db, buildPayloadInner api.config api.access ctx db builder.pool = .ok (.better payload) ∧
        evmEnv api.config.chainSpec payload.block.header = nextEvmEnv api.config.chainSpec ctx.parent.header ctx.nextBlockAttrs := by
  obtain ⟨builder, member, args, recipient, attempt⟩ := built_by_attempt params gasLimitOverride baseFeeOverride parentOverride policy payload result
  simp only [MorphPayloadBuilder.tryBuild, bind_ok, map_error_ok] at attempt
  obtain ⟨attributes, accepted, db, _, inner⟩ := attempt
  obtain ⟨built, reached, finished⟩ := build_finished api.access payload inner
  obtain ⟨withdrawTrieRoot, stateRoot, rfl⟩ := finish_payload_ok api.access built payload finished
  obtain ⟨suppliedLog, poolLog, log⟩ := reached_log built reached
  have reported := build_reported args attributes builder db (api.held builder member) accepted built suppliedLog poolLog log
  have txs := built_transactions _ db builder.pool built suppliedLog poolLog log
  rw [← log_txs_append] at txs
  obtain ⟨_, bytes⟩ := progress_transactions _ built log.progress
  obtain ⟨_, _, _, sameRecipient⟩ := try_new_ok api.recovery args.attributes attributes accepted
  refine ⟨⟨_, ?_, same_block _ api.config.hashHeader rfl rfl rfl ?_⟩, builder, member, _, db, inner, ?_⟩
  · simp only [executionPayloadFromExecutableData, bind_ok]
    refine ⟨_, reimported_block _ built stateRoot withdrawTrieRoot _ txs bytes reported london, (), ?_, rfl⟩
    rw [reject_if_ok, not_not]
    rfl
  · intro tx listed
    change tx ∈ built.builder.transactions.map Recovered.tx at listed
    rw [txs] at listed
    obtain ⟨inclusion, included, rfl⟩ := List.mem_map.mp listed
    exact (reported inclusion included).encoding
  · have number : ((args.parent.header.number + 1).setWidth 256).setWidth 64 = args.parent.header.number + 1 := by simp
    exact sealed_environment api.config _ built stateRoot (.inr (sameRecipient.trans recipient)) (number ▸ london)

-- A pool with one MorphTx that the node signed itself.
def sampleApi (tx : TxMorph) (valid : tx.validate = .ok ()) : RealMorphL2EngineApi Nat U64 where
  provider := ⟨fun _ => .ok (some sampleParent), .ok (some sampleParent)⟩
  config := sampleNode
  recovery := sampleRecovery
  access := sampleAccess
  now := 100
  attempts := [⟨⟨none, 1000, none, none⟩, ⟨[⟨⟨.morph tx ⟨true, 21, 22⟩, 0xC1⟩, false, 0⟩], false⟩⟩]
  held := by
    intro builder member offer listed
    cases List.mem_singleton.mp member
    cases List.mem_singleton.mp listed
    exact .signed tx ⟨true, 21, 22⟩ valid

def sampleParams : AssembleL2BlockParams := ⟨2, [(sampleMessage 2).encode2718], none⟩

theorem built_block_reimports_sample :
    ∃ payload, buildL2Payload (sampleApi sampleWireTx (by decide)) sampleParams none none none .includePool = .ok payload ∧
      payload.block.transactions.length = 2 ∧
      ∃ reimported, executionPayloadFromExecutableData (sampleApi sampleWireTx (by decide)) payload.executableData =
        .ok (⟨reimported, some payload.executableData.withdrawTrieRoot⟩, payload.block.header) ∧ reimported.hash = payload.block.hash := by
  have built : (buildL2Payload (sampleApi sampleWireTx (by decide)) sampleParams none none none
      .includePool).toOption.map (·.block.transactions.length) = some 2 := by decide +kernel
  obtain ⟨payload, found, count⟩ := Option.map_eq_some_iff.mp built
  have result := (to_option_some _ _).mp found
  obtain ⟨⟨reimported, imported, same⟩, _⟩ := built_block_reimports (sampleApi sampleWireTx (by decide)) sampleParams none none none
    .includePool payload result rfl
  exact ⟨payload, result, count, reimported, imported, same.hash⟩

-- The sealed body keeps the empty memo, the re-imported one has none.
theorem empty_memo_not_reimported :
    ¬∀ (api : RealMorphL2EngineApi Nat U64) (params : AssembleL2BlockParams) (policy : TxPoolPolicy) (payload : MorphBuiltPayload),
        buildL2Payload api params none none none policy = .ok payload →
        api.config.chainSpec.isLondonActiveAtBlock payload.block.header.number = true →
        ∃ data header, executionPayloadFromExecutableData api payload.executableData = .ok (data, header) ∧
          data.block.transactions = payload.block.transactions := by
  intro bodyKept
  have differs : (buildL2Payload (sampleApi sampleTx (by decide)) sampleParams none none none .includePool).toOption.map (fun payload =>
      (executionPayloadFromExecutableData (sampleApi sampleTx (by decide)) payload.executableData).toOption.map (fun result =>
        decide (result.1.block.transactions = payload.block.transactions))) = some (some false) := by decide +kernel
  obtain ⟨payload, found, bodies⟩ := Option.map_eq_some_iff.mp differs
  obtain ⟨data, header, imported, same⟩ := bodyKept (sampleApi sampleTx (by decide)) sampleParams .includePool payload
    ((to_option_some _ _).mp found) rfl
  rw [imported] at bodies
  simp [Except.toOption, same] at bodies

end MorphReth.Engine
