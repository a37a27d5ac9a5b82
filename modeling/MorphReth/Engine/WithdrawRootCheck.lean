import MorphReth.Engine.WithdrawRoot

set_option autoImplicit false

namespace MorphReth.Engine

open Rlp Transaction Consensus

-- What can happen to the shared cache between two points of the engine.
inductive EngineEvent where
  | convert (payload : MorphExecutionData)
  | validatePayload (tree : MorphTreeEngineValidator) (payload : MorphExecutionData) (inner : InnerValidation payload.block.hash)
  | validateBlock (tree : MorphTreeEngineValidator) (block : SealedBlock)
      (outcome : Except InsertBlockErrorKind (ValidationOutput block.hash))

def EngineEvent.hash : EngineEvent → B256
  | .convert payload => payload.block.hash
  | .validatePayload _ payload _ => payload.block.hash
  | .validateBlock _ block _ => block.hash

def EngineEvent.isConversion : EngineEvent → Bool
  | .convert _ => true
  | _ => false

-- Whether the event records an expectation for its hash.
def EngineEvent.records : EngineEvent → Bool
  | .convert _ => true
  | .validatePayload _ _ inner => inner.converts
  | .validateBlock _ _ _ => false

def EngineEvent.apply (keccak256 : Bytes → B256) (validator : MorphEngineValidator) : EngineEvent → MorphEngineValidator
  | .convert payload => (convertPayloadToBlock validator payload).2
  | .validatePayload tree payload inner => (Engine.validatePayload keccak256 tree validator payload inner).2
  | .validateBlock tree block outcome => (Engine.validateBlock keccak256 tree validator block outcome).2

def runEvents (keccak256 : Bytes → B256) (validator : MorphEngineValidator) (events : List EngineEvent) : MorphEngineValidator :=
  events.foldl (EngineEvent.apply keccak256) validator

-- The expectation of the last conversion of a block hash.
def lastExpectation (blockHash : B256) (before : Option WithdrawTrieRootExpectation) :
    List EngineEvent → Option WithdrawTrieRootExpectation
  | [] => before
  | .convert payload :: events =>
      lastExpectation blockHash (if payload.block.hash = blockHash then some (payloadExpectation payload) else before) events
  | _ :: events => lastExpectation blockHash before events

def otherRecorded (blockHash : B256) (events : List EngineEvent) : List B256 :=
  ((events.filter EngineEvent.records).map EngineEvent.hash).filter (· != blockHash)

-- The state of one hash in the cache: absent before its first conversion, then
-- queued with its last expectation.
def Holds (validator : MorphEngineValidator) (blockHash : B256) (others : List B256) : Option WithdrawTrieRootExpectation → Prop
  | none => blockHash ∉ validator.entries
  | some expectation => FifoCache.Queued validator blockHash expectation others

-- Cache operations on one hash only, with a recording only where allowed.
inductive TouchesOnly (other : B256) (records : Bool) : MorphEngineValidator → MorphEngineValidator → Prop
  | same (validator : MorphEngineValidator) : TouchesOnly other records validator validator
  | insert (validator next : MorphEngineValidator) (expectation : WithdrawTrieRootExpectation) (allowed : records = true) :
      TouchesOnly other records (recordWithdrawTrieRootExpectation validator other expectation) next →
        TouchesOnly other records validator next
  | remove (validator next : MorphEngineValidator) :
      TouchesOnly other records (FifoCache.remove validator other) next → TouchesOnly other records validator next

section Checks

variable (keccak256 : Bytes → B256) (validator : MorphEngineValidator)

theorem validate_update_touches (blockHash : B256) (stateUpdates : HashedPostStateSorted) :
    (validateWithdrawTrieRootUpdate keccak256 validator blockHash stateUpdates).2 = FifoCache.remove validator blockHash := by
  rw [validateWithdrawTrieRootUpdate, takeWithdrawTrieRootExpectation]
  split
  · next rest same => exact (Prod.mk.inj same).2.symm
  · next rest same => exact (Prod.mk.inj same).2.symm
  · next expected rest same =>
      rw [← (Prod.mk.inj same).2]
      split
      · rfl
      · split
        · rfl
        · rfl

theorem finish_touches (blockHash : B256) (outcome : Except InsertBlockErrorKind (ValidationOutput blockHash)) :
    (finishValidation keccak256 validator blockHash outcome).2 = FifoCache.remove validator blockHash := by
  cases outcome with
  | error error => rfl
  | ok output =>
      have removed := validate_update_touches keccak256 validator output.block.hash output.hashedState
      rw [output.executed] at removed
      rw [finishValidation, output.executed]
      cases result : validateWithdrawTrieRootUpdate keccak256 validator blockHash output.hashedState with
      | mk checked rest =>
          rw [result] at removed
          cases checked with
          | error error => exact removed
          | ok _ => exact removed

theorem event_touches (event : EngineEvent) : TouchesOnly event.hash event.records validator (event.apply keccak256 validator) := by
  cases event with
  | convert payload => exact .insert _ _ _ rfl (.same _)
  | validatePayload tree payload inner =>
      rw [EngineEvent.apply, Engine.validatePayload]
      cases validateNextL1MsgIndex tree payload.block with
      | error error => exact .remove _ _ (.same _)
      | ok _ =>
          simp only [finish_touches]
          split
          · next converts => exact .insert _ _ _ converts (.remove _ _ (.same _))
          · exact .remove _ _ (.same _)
  | validateBlock tree block outcome =>
      rw [EngineEvent.apply, Engine.validateBlock]
      cases validateNextL1MsgIndex tree block with
      | error error => exact .remove _ _ (.same _)
      | ok _ =>
          simp only [finish_touches]
          exact .remove _ _ (.same _)

theorem holds_of_touches (validator next : MorphEngineValidator) (blockHash other : B256) (records : Bool) (others : List B256)
    (expectation : Option WithdrawTrieRootExpectation) (touches : TouchesOnly other records validator next)
    (different : other ≠ blockHash) (recorded : records = true → other ∈ others) (few : others.dedup.length < maxExpectedWithdrawTrieRoots)
    (holds : Holds validator blockHash others expectation) : Holds next blockHash others expectation := by
  induction touches with
  | same validator => exact holds
  | insert validator next written allowed _ hypothesis =>
      apply hypothesis
      cases expectation with
      | none => exact FifoCache.absent_insert_other _ validator blockHash other written holds different
      | some expectation =>
          have bound : (other :: others).dedup.length < maxExpectedWithdrawTrieRoots := by
            rw [List.dedup_cons_of_mem (recorded allowed)]
            exact few
          have kept := FifoCache.queued_insert_other _ validator blockHash other expectation written others holds different bound
          refine FifoCache.queued_weaken _ blockHash expectation (other :: others) others ?_ kept
          intro hash member
          rcases List.mem_cons.mp member with same | older
          · rw [same]
            exact recorded allowed
          · exact older
  | remove validator next _ hypothesis =>
      apply hypothesis
      cases expectation with
      | none => exact FifoCache.absent_remove validator blockHash other holds
      | some expectation => exact FifoCache.queued_remove_other validator blockHash other expectation others holds different

theorem holds_own_conversion (blockHash : B256) (others : List B256) (before : Option WithdrawTrieRootExpectation)
    (expectation : WithdrawTrieRootExpectation) (holds : Holds validator blockHash others before) :
    Holds (recordWithdrawTrieRootExpectation validator blockHash expectation) blockHash others (some expectation) := by
  cases before with
  | none =>
      have fresh := FifoCache.queued_insert_new maxExpectedWithdrawTrieRoots validator blockHash expectation (by decide) holds
      exact FifoCache.queued_weaken _ blockHash expectation [] others (fun _ impossible => by cases impossible) fresh
  | some old => exact FifoCache.queued_overwrite maxExpectedWithdrawTrieRoots validator blockHash old expectation others holds

theorem last_expectation_other (blockHash : B256) (before : Option WithdrawTrieRootExpectation) (event : EngineEvent)
    (events : List EngineEvent) (different : event.hash ≠ blockHash) :
    lastExpectation blockHash before (event :: events) = lastExpectation blockHash before events := by
  cases event with
  | convert payload =>
      have otherHash : payload.block.hash ≠ blockHash := different
      rw [lastExpectation, if_neg otherHash]
  | validatePayload | validateBlock => rfl

theorem run_holds (blockHash : B256) (others : List B256) (few : others.dedup.length < maxExpectedWithdrawTrieRoots)
    (events : List EngineEvent) (validator : MorphEngineValidator) (before : Option WithdrawTrieRootExpectation)
    (holds : Holds validator blockHash others before) (undisturbed : ∀ event ∈ events, event.hash = blockHash → event.isConversion = true)
    (recorded : ∀ event ∈ events, event.hash ≠ blockHash → event.records = true → event.hash ∈ others) :
    Holds (runEvents keccak256 validator events) blockHash others (lastExpectation blockHash before events) := by
  induction events generalizing validator before with
  | nil => exact holds
  | cons event events hypothesis =>
      have laterUndisturbed := fun later member => undisturbed later (List.mem_cons_of_mem event member)
      have laterRecorded := fun later member => recorded later (List.mem_cons_of_mem event member)
      by_cases own : event.hash = blockHash
      · cases event with
        | convert payload =>
            have ownHash : payload.block.hash = blockHash := own
            rw [lastExpectation, if_pos ownHash]
            apply hypothesis _ _ _ laterUndisturbed laterRecorded
            rw [EngineEvent.apply, convertPayloadToBlock, ownHash]
            exact holds_own_conversion validator blockHash others before (payloadExpectation payload) holds
        | validatePayload | validateBlock => cases undisturbed _ List.mem_cons_self own
      · rw [last_expectation_other blockHash before event events own]
        apply hypothesis _ _ _ laterUndisturbed laterRecorded
        exact holds_of_touches validator _ blockHash event.hash event.records others before (event_touches keccak256 validator event) own
          (recorded event List.mem_cons_self own) few holds

-- A storage state by hashed address and hashed slot.
abbrev StorageState := B256 → B256 → U256

def hashedSlotValue (state : HashedPostStateSorted) (address slot : B256) : Option U256 :=
  match state.storages address with
  | none => none
  | some storage => (binarySearchByKey storage slot).map Prod.snd

-- The hashed state of an executed block holds exactly the slots it changed.
def HoldsChanges (state : HashedPostStateSorted) (parent post : StorageState) : Prop :=
  ∀ address slot value, hashedSlotValue state address slot = some value ↔
    post address slot = value ∧ post address slot ≠ parent address slot

theorem update_ok_iff (blockHash : B256) (stateUpdates : HashedPostStateSorted) :
    (validateWithdrawTrieRootUpdate keccak256 validator blockHash stateUpdates).1 = .ok () ↔
      ∀ root value, validator.lookup blockHash = some (.verify root) →
        updatedWithdrawTrieRootFromSortedHashedState keccak256 stateUpdates = some value → value = root := by
  rw [validateWithdrawTrieRootUpdate, takeWithdrawTrieRootExpectation]
  cases validator.lookup blockHash with
  | none => simp
  | some expectation =>
      cases expectation with
      | skipValidation => simp
      | verify expected =>
          cases updatedWithdrawTrieRootFromSortedHashedState keccak256 stateUpdates with
          | none => simp
          | some actual =>
              by_cases same : actual = expected
              · simp [same]
              · simp [same]

theorem payload_expectation_verify (payload : MorphExecutionData) (root : B256) (given : payload.expectedWithdrawTrieRoot = some root)
    (nonzero : root ≠ 0) : payloadExpectation payload = .verify root := by
  rw [payloadExpectation, given]
  exact if_pos nonzero

theorem finish_ok_iff (blockHash : B256) (outcome : Except InsertBlockErrorKind (ValidationOutput blockHash))
    (output : ValidationOutput blockHash) :
    (finishValidation keccak256 validator blockHash outcome).1 = .ok output ↔
      outcome = .ok output ∧ (validateWithdrawTrieRootUpdate keccak256 validator blockHash output.hashedState).1 = .ok () := by
  cases outcome with
  | error error => simp [finishValidation]
  | ok found =>
      rw [finishValidation, found.executed]
      cases result : validateWithdrawTrieRootUpdate keccak256 validator blockHash found.hashedState with
      | mk checked rest =>
          cases checked with
          | error error =>
              refine ⟨fun impossible => (by cases impossible), fun ⟨same, accepted⟩ => ?_⟩
              cases same
              rw [result] at accepted
              cases accepted
          | ok _ =>
              refine ⟨fun same => ?_, fun ⟨same, _⟩ => same⟩
              cases same
              exact ⟨rfl, by rw [result]⟩

theorem validate_payload_ok_iff (tree : MorphTreeEngineValidator) (validator : MorphEngineValidator) (payload : MorphExecutionData)
    (inner : InnerValidation payload.block.hash) (output : ValidationOutput payload.block.hash) :
    (validatePayload keccak256 tree validator payload inner).1 = .ok output ↔
      validateNextL1MsgIndex tree payload.block = .ok () ∧ inner.outcome = .ok output ∧
        (validateWithdrawTrieRootUpdate keccak256 (if inner.converts then (convertPayloadToBlock validator payload).2 else validator)
          payload.block.hash output.hashedState).1 = .ok () := by
  rw [validatePayload]
  cases validateNextL1MsgIndex tree payload.block with
  | error error => simp
  | ok _ =>
      simp only [finish_ok_iff, true_and]

theorem validate_payload_checks (tree : MorphTreeEngineValidator) (validator : MorphEngineValidator) (payload : MorphExecutionData)
    (inner : InnerValidation payload.block.hash) (output : ValidationOutput payload.block.hash) (root : B256) (others : List B256)
    (given : payload.expectedWithdrawTrieRoot = some root) (nonzero : root ≠ 0)
    (holds : Holds validator payload.block.hash others (some (.verify root)))
    (accepted : (validatePayload keccak256 tree validator payload inner).1 = .ok output) (value : B256)
    (updated : updatedWithdrawTrieRootFromSortedHashedState keccak256 output.hashedState = some value) : value = root := by
  obtain ⟨_, _, checked⟩ := (validate_payload_ok_iff keccak256 tree validator payload inner output).mp accepted
  apply (update_ok_iff keccak256 _ payload.block.hash output.hashedState).mp checked root value ?_ updated
  split
  · have own := holds_own_conversion validator payload.block.hash others _ (payloadExpectation payload) holds
    rw [payload_expectation_verify payload root given nonzero] at own
    rw [convertPayloadToBlock, payload_expectation_verify payload root given nonzero]
    exact own.value
  · exact holds.value

end Checks

-- A conversion of the hash enters it into the cache; fewer than 4096 other
-- hashes pass through before the validation, which is the first of this hash.
-- An untouched slot is not compared, so the root is the parent's value then.
theorem withdraw_root_check (keccak256 : Bytes → B256) (tree : MorphTreeEngineValidator) (validator : MorphEngineValidator)
    (events : List EngineEvent) (payload : MorphExecutionData) (root : B256) (inner : InnerValidation payload.block.hash)
    (output : ValidationOutput payload.block.hash) (parent post : StorageState) (given : payload.expectedWithdrawTrieRoot = some root)
    (nonzero : root ≠ 0) (fresh : payload.block.hash ∉ validator.entries)
    (undisturbed : ∀ event ∈ events, event.hash = payload.block.hash → event.isConversion = true)
    (recorded : lastExpectation payload.block.hash none events = some (.verify root))
    (few : (otherRecorded payload.block.hash events).dedup.length < maxExpectedWithdrawTrieRoots)
    (accepted : (validatePayload keccak256 tree (runEvents keccak256 validator events) payload inner).1 = .ok output)
    (changes : HoldsChanges output.hashedState parent post) :
    let before := parent (hashedQueueAddress keccak256) (hashedWithdrawRootSlot keccak256)
    let after := post (hashedQueueAddress keccak256) (hashedWithdrawRootSlot keccak256)
    (after ≠ before → after = root) ∧ (after = root ↔ after ≠ before ∨ before = root) := by
  intro before after
  have others : ∀ event ∈ events, event.hash ≠ payload.block.hash → event.records = true →
      event.hash ∈ otherRecorded payload.block.hash events := by
    intro event member different records
    rw [otherRecorded, List.mem_filter]
    exact ⟨List.mem_map_of_mem (List.mem_filter.mpr ⟨member, records⟩), by simpa using different⟩
  have holds := run_holds keccak256 payload.block.hash _ few events validator none fresh undisturbed others
  rw [recorded] at holds
  have changed : after ≠ before → after = root := by
    intro different
    apply validate_payload_checks keccak256 tree _ payload inner output root _ given nonzero holds accepted after
    exact (changes _ _ after).mpr ⟨rfl, different⟩
  refine ⟨changed, fun same => ?_, fun either => ?_⟩
  · by_cases different : after = before
    · exact .inr (different.symm.trans same)
    · exact .inl different
  · rcases either with different | already
    · exact changed different
    · by_cases different : after = before
      · exact different.trans already
      · exact changed different

-- The real digests of the queue address and of its slot.
def queueDigest : B256 := 0x2cc26fc8c5821171ff09e1cfff8a03b6bc4ce79e0aa734a47ccfbe1c9de9151e

def slotDigest : B256 := 0x3a6357012c1a3ae0a17d304c9920310382d968ebcc4b1771f41c6b304205b570

def sampleKeccak (input : Bytes) : B256 :=
  if input.length = 20 then queueDigest
  else slotDigest

def samplePayload : MorphExecutionData := ⟨skippingBlock, some 0xAA⟩

def sampleOutput (slots : List (B256 × U256)) (sorted : (slots.map Prod.fst).Pairwise (· < ·)) : ValidationOutput skippingBlock.hash where
  block := skippingBlock
  executed := rfl
  hashedState := ⟨fun address =>
    if address = queueDigest then some ⟨slots, sorted⟩ else none⟩

def changedOutput : ValidationOutput skippingBlock.hash :=
  sampleOutput [(slotDigest, 0xAA)] (List.pairwise_singleton _ _)

def unchangedOutput : ValidationOutput skippingBlock.hash :=
  sampleOutput [] List.Pairwise.nil

def samplePost : StorageState := fun address slot =>
  if address = queueDigest ∧
      slot = slotDigest then 0xAA else 0

theorem digest_of_address : hashedQueueAddress sampleKeccak = queueDigest := by
  rw [hashedQueueAddress, sampleKeccak, if_pos (to_fixed_bytes_length 160 20 rfl _)]

theorem digest_of_slot : hashedWithdrawRootSlot sampleKeccak = slotDigest := by
  rw [hashedWithdrawRootSlot, sampleKeccak, if_neg]
  rw [to_fixed_bytes_length 256 32 rfl]
  decide

theorem changed_output_holds : HoldsChanges changedOutput.hashedState (fun _ _ => 0) samplePost := by
  intro address slot value
  simp only [hashedSlotValue, changedOutput, sampleOutput, samplePost]
  by_cases queue : address = queueDigest
  · by_cases root : slot = slotDigest
    · simp [queue, root, binarySearchByKey]
    · have absent : (slotDigest == slot) = false := by simpa using Ne.symm root
      simp [queue, root, binarySearchByKey, absent]
  · simp [queue]

theorem unchanged_output_holds : HoldsChanges unchangedOutput.hashedState (fun _ _ => 0) (fun _ _ => 0) := by
  intro address slot value
  simp only [hashedSlotValue, unchangedOutput, sampleOutput]
  by_cases queue : address = queueDigest
  · simp [queue, binarySearchByKey]
  · simp [queue]

theorem sample_holds (keccak256 : Bytes → B256) :
    Holds (runEvents keccak256 FifoCache.empty [.convert samplePayload]) skippingBlock.hash [] (some (.verify 0xAA)) :=
  run_holds keccak256 skippingBlock.hash [] (by decide) [.convert samplePayload] FifoCache.empty none (AList.notMem_empty _)
    (fun event member _ => by cases List.mem_singleton.mp member; rfl)
    (fun event member different => by cases List.mem_singleton.mp member; exact absurd rfl different)

theorem sample_accepted (keccak256 : Bytes → B256) (output : ValidationOutput skippingBlock.hash)
    (matching : ∀ value, updatedWithdrawTrieRootFromSortedHashedState keccak256 output.hashedState = some value → value = 0xAA) :
    (validatePayload keccak256 sampleEngine (runEvents keccak256 FifoCache.empty [.convert samplePayload]) samplePayload
      ⟨false, .ok output⟩).1 = .ok output := by
  refine (validate_payload_ok_iff keccak256 sampleEngine _ samplePayload ⟨false, .ok output⟩ output).mpr ⟨rfl, rfl, ?_⟩
  refine (update_ok_iff keccak256 _ _ output.hashedState).mpr fun root value found updated => ?_
  have expected := (sample_holds keccak256).value
  rw [matching value updated]
  cases expected.symm.trans found
  rfl

theorem withdraw_root_check_sample :
    (validatePayload sampleKeccak sampleEngine (runEvents sampleKeccak FifoCache.empty [.convert samplePayload]) samplePayload
      ⟨false, .ok changedOutput⟩).1 = .ok changedOutput ∧ samplePost queueDigest slotDigest = 0xAA := by
  have matching : ∀ value, updatedWithdrawTrieRootFromSortedHashedState sampleKeccak changedOutput.hashedState = some value →
      value = 0xAA := by
    intro value updated
    rw [updatedWithdrawTrieRootFromSortedHashedState, digest_of_address, digest_of_slot] at updated
    exact (Option.some.inj updated).symm
  have accepted := sample_accepted sampleKeccak changedOutput matching
  have checked := withdraw_root_check sampleKeccak sampleEngine FifoCache.empty [.convert samplePayload] samplePayload 0xAA
    ⟨false, .ok changedOutput⟩ changedOutput (fun _ _ => 0) samplePost rfl (by decide) (AList.notMem_empty _)
    (fun event member _ => by cases List.mem_singleton.mp member; rfl) (by rfl) (by decide) accepted changed_output_holds
  rw [digest_of_address, digest_of_slot] at checked
  exact ⟨accepted, checked.1 (by decide)⟩

-- The block leaves the slot at zero while the payload expects another root.
theorem withdraw_root_not_sound :
    ¬∀ (keccak256 : Bytes → B256) (tree : MorphTreeEngineValidator) (validator : MorphEngineValidator) (events : List EngineEvent)
      (payload : MorphExecutionData) (root : B256) (inner : InnerValidation payload.block.hash)
      (output : ValidationOutput payload.block.hash) (parent post : StorageState),
      payload.expectedWithdrawTrieRoot = some root → root ≠ 0 → payload.block.hash ∉ validator.entries →
      (∀ event ∈ events, event.hash = payload.block.hash → event.isConversion = true) →
      lastExpectation payload.block.hash none events = some (.verify root) →
      (otherRecorded payload.block.hash events).dedup.length < maxExpectedWithdrawTrieRoots →
      (validatePayload keccak256 tree (runEvents keccak256 validator events) payload inner).1 = .ok output →
      HoldsChanges output.hashedState parent post →
      post (hashedQueueAddress keccak256) (hashedWithdrawRootSlot keccak256) = root := by
  intro rootHolds
  have matching : ∀ value, updatedWithdrawTrieRootFromSortedHashedState sampleKeccak unchangedOutput.hashedState = some value →
      value = 0xAA := by
    intro value updated
    rw [updatedWithdrawTrieRootFromSortedHashedState, digest_of_address] at updated
    cases updated
  have wrong := rootHolds sampleKeccak sampleEngine FifoCache.empty [.convert samplePayload] samplePayload 0xAA
    ⟨false, .ok unchangedOutput⟩ unchangedOutput (fun _ _ => 0) (fun _ _ => 0) rfl (by decide) (AList.notMem_empty _)
    (fun event member _ => by cases List.mem_singleton.mp member; rfl) (by rfl) (by decide)
    (sample_accepted sampleKeccak unchangedOutput matching) unchanged_output_holds
  exact absurd wrong (by decide)

end MorphReth.Engine
