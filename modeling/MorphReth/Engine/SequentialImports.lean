import Mathlib.Logic.Relation
import MorphReth.Engine.ImportRuns

set_option autoImplicit false

namespace MorphReth.Engine

open Rlp Transaction Consensus Evm Payload

-- The requests of the sequential path: they only accept the next block.
def EngineTask.isSequential : EngineTask → Bool
  | .newL2Block _ | .validateL2Block _ | .setBlockTags _ _ => true
  | _ => false

section Calls

variable {Tree State Receipt : Type} (engine : EngineTree Tree) (node : RealMorphL2EngineApi State Receipt)
  (service : PayloadService node.recovery) (state : EngineNode Tree)

-- A request alone: those of the sequential path have at most three pieces.
def complete (task : EngineTask) : EngineNode Tree × EngineTask :=
  let first := advance engine node service state task
  let second := advance engine node service first.1 first.2
  advance engine node service second.1 second.2

theorem submit_tree (payload : MorphExecutionData) : (state.submit engine payload).2.tree = (engine.newPayload state.tree payload).2 := by
  simp only [EngineNode.submit]
  split
  · rfl
  · rfl

theorem update_tree (forkchoice : ForkchoiceState) :
    (state.update engine forkchoice).2.tree = (engine.forkChoiceUpdated state.tree forkchoice).2 := by
  simp only [EngineNode.update]
  split
  · rfl
  · rfl

theorem advance_finished (response : Except MorphEngineApiError EngineResponse) :
    advance engine node service state (.finished response) = (state, .finished response) :=
  rfl

-- How the head may have moved over a request for the next block.
def Advanced (before after : EngineNode Tree) : Prop :=
  engine.head after.tree = engine.head before.tree ∨ Extends (engine.head before.tree) (engine.head after.tree)

section NextBlock

variable (data : ExecutableL2Data) (parentHash : data.parentHash = (engine.head state.tree).hash)
  (number : data.number = (engine.head state.tree).header.number + 1) (payload : MorphExecutionData) (header : MorphHeader)
  (converted : executionPayloadFromExecutableData node data = .ok (payload, header))

include parentHash number converted

theorem converted_extends : Extends (engine.head state.tree) ⟨header, data.hash⟩ := by
  obtain ⟨_, _, sameParent, sameNumber⟩ := payload_converted node data payload header converted
  exact ⟨sameParent.trans parentHash, sameNumber.trans number⟩

omit parentHash number in
theorem submit_head : engine.head (state.submit engine payload).2.tree = engine.head state.tree ∨
    engine.head (state.submit engine payload).2.tree = ⟨header, data.hash⟩ := by
  rw [submit_tree, ← (payload_converted node data payload header converted).1]
  exact engine.payloadHead state.tree payload

theorem submit_advanced : Advanced engine state (state.submit engine payload).2 := by
  rcases submit_head engine node state data payload header converted with same | moved
  · exact .inl same
  · exact .inr (moved ▸ converted_extends engine node state data parentHash number payload header converted)

-- The forkchoice names the block that was just validated, so the head stays
-- or becomes that block. An answer VALID without a move would need the block
-- at or below the head.
theorem update_after_submit (safeBlockHash finalizedBlockHash : B256) (valid : (state.submit engine payload).1 = .ok .valid) :
    let validated := (state.submit engine payload).2
    let updated := validated.update engine ⟨data.hash, safeBlockHash, finalizedBlockHash⟩
    Advanced engine state updated.2 ∧ (updated.1 = .ok .valid → data.number ≠ 0 → (engine.head updated.2.tree).hash = data.hash) := by
  intro validated updated
  have extension := converted_extends engine node state data parentHash number payload header converted
  have target : engine.holds validated.tree ⟨header, data.hash⟩ := by
    rw [submit_tree, ← (payload_converted node data payload header converted).1]
    exact engine.payloadValid valid
  have before := submit_head engine node state data payload header converted
  have after : engine.head updated.2.tree = engine.head validated.tree ∨ engine.head updated.2.tree = ⟨header, data.hash⟩ := by
    rw [update_tree]
    refine (engine.updatedHead validated.tree _).imp id (fun named => ?_)
    exact engine.keyed (engine.updatedHeld (engine.headHeld _)) target named
  refine ⟨?_, fun answered nonzero => ?_⟩
  · rcases after with stayed | moved
    · rcases before with same | made
      · exact .inl (stayed.trans same)
      · exact .inr ((stayed.trans made) ▸ extension)
    · exact .inr (moved ▸ extension)
  · rcases after with stayed | moved
    · rcases before with same | made
      · rcases engine.updatedValid answered with named | ⟨block, held, hash, below⟩
        · rw [update_tree]
          exact named
        · obtain rfl := engine.keyed held target hash
          have grows := (payload_converted node data payload header converted).2.2.2.trans number
          have heightBefore : (engine.head validated.tree).header.number = (engine.head state.tree).header.number := by rw [same]
          rw [heightBefore] at below
          have positive : (engine.head state.tree).header.number + 1 ≠ 0 := number ▸ nonzero
          rw [grows] at below
          bv_omega
      · rw [stayed, made]
    · rw [moved]

end NextBlock

theorem import_on_head (data : ExecutableL2Data) (safeBlockHash : B256) (returnsHeader : Bool)
    (parentHash : data.parentHash = (engine.head state.tree).hash) (number : data.number = (engine.head state.tree).header.number + 1) :
    let first := advance engine node service state (.importL2BlockViaEngine data safeBlockHash returnsHeader)
    let second := advance engine node service first.1 first.2
    Advanced engine state second.1 ∧ ∃ response, second.2 = .finished response ∧
      (∀ value, response = .ok value → data.number ≠ 0 → (engine.head second.1.tree).hash = data.hash) := by
  intro first second
  cases converted : executionPayloadFromExecutableData node data with
  | error error =>
      have ended : first = (state, .finished (.error error)) := by simp only [first, advance, converted]
      simp only [second, ended, advance_finished]
      exact ⟨.inl rfl, _, rfl, fun value failed => by cases failed⟩
  | ok pair =>
      obtain ⟨payload, header⟩ := pair
      cases answered : executionError "newPayload" (state.submit engine payload).1 with
      | error error =>
          have ended : first = ((state.submit engine payload).2, .finished (.error error)) := by simp only [first, advance, converted, answered]
          simp only [second, ended, advance_finished]
          exact ⟨submit_advanced engine node state data parentHash number payload header converted, _, rfl, fun value failed => by cases failed⟩
      | ok done =>
          have going : first = ((state.submit engine payload).2, .updateForkchoice header data.hash safeBlockHash returnsHeader) := by
            simp only [first, advance, converted, answered]
          obtain ⟨advanced, adopted⟩ := update_after_submit engine node state data parentHash number payload header converted safeBlockHash
            ((state.submit engine payload).2.l1FinalizedHash.getD 0) (execution_error_ok _ _ answered)
          simp only [second, going, advance]
          cases updated : executionError "forkchoiceUpdated" ((state.submit engine payload).2.update engine
              ⟨data.hash, safeBlockHash, (state.submit engine payload).2.l1FinalizedHash.getD 0⟩).1 with
          | error error => exact ⟨advanced, _, rfl, fun value failed => by cases failed⟩
          | ok done => exact ⟨advanced, _, rfl, fun _ _ nonzero => adopted (execution_error_ok _ _ updated) nonzero⟩

theorem new_l2_block_complete (data : ExecutableL2Data) :
    Advanced engine state (complete engine node service state (.newL2Block data)).1 ∧
      ∃ response, (complete engine node service state (.newL2Block data)).2 = .finished response ∧
        ∀ value, response = .ok value →
          (data.number < (engine.head state.tree).header.number + 1 ∧ (complete engine node service state (.newL2Block data)).1 = state) ∨
            (data.number ≠ 0 → (engine.head (complete engine node service state (.newL2Block data)).1.tree).hash = data.hash) := by
  cases checked : checkNewBlock (engine.provider state.tree) data with
  | error error =>
      simp only [complete, advance, checked, orFail]
      exact ⟨.inl rfl, _, rfl, fun value failed => by cases failed⟩
  | ok task =>
      have started : advance engine node service state (.newL2Block data) = (state, task) := by simp only [advance, checked, orFail]
      simp only [complete, started]
      rcases new_block_checked engine state.tree data task checked with ⟨rfl, past⟩ | ⟨rfl, parentHash, number⟩
      · simp only [advance_finished]
        exact ⟨.inl rfl, _, rfl, fun value _ => .inl ⟨past, trivial⟩⟩
      · obtain ⟨advanced, response, finished, adopted⟩ := import_on_head engine node service state data 0 false parentHash number
        exact ⟨advanced, response, finished, fun value ok => .inr (adopted value ok)⟩

theorem validate_l2_block_advanced (data : ExecutableL2Data) :
    Advanced engine state (complete engine node service state (.validateL2Block data)).1 := by
  cases checked : checkContinuity (engine.provider state.tree) data with
  | error error =>
      simp only [complete, advance, checked, orFail]
      exact .inl rfl
  | ok task =>
      obtain ⟨rfl, parentHash, number⟩ := continuity_checked engine state.tree data task checked
      cases converted : executionPayloadFromExecutableData node data with
      | error error =>
          simp only [complete, advance, checked, orFail, converted]
          exact .inl rfl
      | ok pair =>
          obtain ⟨payload, header⟩ := pair
          have submitted := submit_advanced engine node state data parentHash number payload header converted
          simp only [complete, advance, checked, orFail, converted]
          cases (state.submit engine payload).1 with
          | error error => exact submitted
          | ok status => exact submitted

theorem set_block_tags_advanced (safeBlockHash finalizedBlockHash : B256) :
    Advanced engine state (complete engine node service state (.setBlockTags safeBlockHash finalizedBlockHash)).1 := by
  cases resolved : resolveBlockTags (engine.provider state.tree) safeBlockHash finalizedBlockHash with
  | error error =>
      simp only [complete, advance, resolved, orFail]
      exact .inl rfl
  | ok task =>
      rcases tags_resolved engine state.tree safeBlockHash finalizedBlockHash task resolved with rfl | ⟨safe, finalized, hash, _, rfl, _⟩
      · simp only [complete, advance, resolved, orFail]
        exact .inl rfl
      · simp only [complete, advance, resolved, orFail]
        cases finalized with
        | none => exact .inl rfl
        | some block => exact .inl rfl

theorem complete_advanced (task : EngineTask) (sequential : task.isSequential = true) :
    Advanced engine state (complete engine node service state task).1 := by
  cases task with
  | newL2Block data => exact (new_l2_block_complete engine node service state data).1
  | validateL2Block data => exact validate_l2_block_advanced engine node service state data
  | setBlockTags safeBlockHash finalizedBlockHash => exact set_block_tags_advanced engine node service state safeBlockHash finalizedBlockHash
  | _ => cases sequential

def callStep (state : EngineNode Tree) (call : EngineTask × PayloadService node.recovery) : EngineNode Tree :=
  (complete engine node call.2 state call.1).1

-- One request after the other: the head is never replaced, only extended.
theorem sequential_imports_extend (calls : List (EngineTask × PayloadService node.recovery))
    (sequential : ∀ call ∈ calls, call.1.isSequential = true) :
    let final := runSteps (callStep engine node) state calls
    Relation.ReflTransGen Extends (engine.head state.tree) (engine.head final.tree) ∧
      ∀ service data, ∃ response, (complete engine node service final (.newL2Block data)).2 = .finished response ∧
        ∀ value, response = .ok value →
          (data.number < (engine.head final.tree).header.number + 1 ∧ (complete engine node service final (.newL2Block data)).1 = final) ∨
            (data.number ≠ 0 → (engine.head (complete engine node service final (.newL2Block data)).1.tree).hash = data.hash) := by
  intro final
  refine ⟨?_, fun service data => (new_l2_block_complete engine node service final data).2⟩
  refine run_invariant (callStep engine node) _ (fun reached => Relation.ReflTransGen Extends (engine.head state.tree) (engine.head reached.tree))
    (fun reached call chain allowed => ?_) state calls .refl
    (each_allowed_of_all _ _ state calls sequential)
  rcases complete_advanced engine node call.2 reached call.1 allowed with same | link
  · rw [callStep, same]
    exact chain
  · exact chain.tail link

end Calls

theorem sequential_imports_extend_sample :
    let final := runSteps (callStep memoryEngine sampleImporter) (EngineNode.boot sampleTree)
      [(.setBlockTags 0xA1 0xA1, idleService), (.newL2Block sampleImport, idleService)]
    (memoryEngine.head final.tree).hash = 0xB2 ∧ Relation.ReflTransGen Extends sampleParent (memoryEngine.head final.tree) := by
  have extended := (sequential_imports_extend memoryEngine sampleImporter (EngineNode.boot sampleTree)
    [(.setBlockTags 0xA1 0xA1, idleService), (.newL2Block sampleImport, idleService)] (by simp [EngineTask.isSequential])).1
  exact ⟨by decide +kernel, extended⟩

end MorphReth.Engine
