import MorphReth.Checks
import MorphReth.Runs
import MorphReth.Consensus.L1Chain
import MorphReth.Engine.Api

set_option autoImplicit false

namespace MorphReth.Engine

open Consensus

-- The two tags the provider keeps and the finalized hash the tracker keeps.
structure BlockTags where
  safe : Option SealedHeader
  finalized : Option SealedHeader
  finalizedHash : Option B256
  deriving DecidableEq, Repr

-- The tags now, and every state of them so far: a reader may look between any
-- two writes.
structure TagLog where
  tags : BlockTags
  observed : List BlockTags

namespace TagLog

def unset : TagLog := ⟨⟨none, none, none⟩, [⟨none, none, none⟩]⟩

def write (log : TagLog) (tags : BlockTags) : TagLog := ⟨tags, tags :: log.observed⟩

def setSafe (log : TagLog) (header : SealedHeader) : TagLog :=
  log.write { log.tags with safe := some header }

def setFinalized (log : TagLog) (header : SealedHeader) : TagLog :=
  log.write { log.tags with finalized := some header }

def recordFinalizedHash (log : TagLog) : Option B256 → TagLog
  | none => log
  | some hash => log.write { log.tags with finalizedHash := some hash }

end TagLog

def validateResolvedBlockTags (safeNumber finalizedNumber : Option U64) (canonicalHeadNumber : U64) : Except MorphEngineApiError Unit := do
  if let some safe := safeNumber then
    rejectIf (safe > canonicalHeadNumber) (.validationFailed
      ("safe block number " ++ toString safe.toNat ++ " exceeds canonical head number " ++ toString canonicalHeadNumber.toNat))
  if let some finalized := finalizedNumber then
    rejectIf (finalized > canonicalHeadNumber) (.validationFailed
      ("finalized block number " ++ toString finalized.toNat ++ " exceeds canonical head number " ++ toString canonicalHeadNumber.toNat))
  if let (some safe, some finalized) := (safeNumber, finalizedNumber) then
    rejectIf (finalized > safe) (.validationFailed
      ("finalized block number " ++ toString finalized.toNat ++ " exceeds safe block number " ++ toString safe.toNat))

-- A zero hash leaves its tag unchanged.
def resolveTag (provider : Provider) (hash : B256) (tagName : String) : Except MorphEngineApiError (Option SealedHeader) :=
  if hash ≠ 0 then (resolveBlockTag provider hash tagName).map some else .ok none

def writeTags (log : TagLog) (safe finalized : Option SealedHeader) (finalizedHash : Option B256) : TagLog :=
  let afterSafe := match safe with
    | some header => log.setSafe header
    | none => log
  let afterFinalized := match finalized with
    | some header => afterSafe.setFinalized header
    | none => afterSafe
  afterFinalized.recordFinalizedHash finalizedHash

def setBlockTags (provider : Provider) (log : TagLog) (safeBlockHash finalizedBlockHash : B256) :
    Except MorphEngineApiError Unit × TagLog :=
  match resolveTag provider safeBlockHash "safe" with
  | .error error => (.error error, log)
  | .ok safe => match resolveTag provider finalizedBlockHash "finalized" with
      | .error error => (.error error, log)
      | .ok finalized =>
          if safe.isNone ∧ finalized.isNone then (.ok (), log)
          else match currentHead provider with
            | .error error => (.error error, log)
            | .ok head =>
                match validateResolvedBlockTags (safe.map (·.header.number)) (finalized.map (·.header.number)) head.number with
                | .error error => (.error error, log)
                | .ok () => (.ok (), writeTags log safe finalized (if finalizedBlockHash ≠ 0 then some finalizedBlockHash else none))

-- One call together with the chain it finds.
structure SetBlockTags where
  provider : Provider
  safeBlockHash : B256
  finalizedBlockHash : B256

def SetBlockTags.run (log : TagLog) (call : SetBlockTags) : TagLog :=
  (setBlockTags call.provider log call.safeBlockHash call.finalizedBlockHash).2

def BlockTags.Ordered (tags : BlockTags) : Prop :=
  ∀ safe ∈ tags.safe, ∀ finalized ∈ tags.finalized, finalized.header.number ≤ safe.header.number

structure TagLog.Ordered (log : TagLog) : Prop where
  current : log.tags.Ordered
  observed : ∀ tags ∈ log.observed, tags.Ordered

-- The check of one call never sees the stored tags. It would have to: a new
-- safe block at or above the stored finalized one, and a new finalized block
-- without a safe one at or below the stored safe one.
def FitsStored (log : TagLog) (call : SetBlockTags) : Prop :=
  (∀ safe, resolveTag call.provider call.safeBlockHash "safe" = .ok (some safe) →
    ∀ finalized ∈ log.tags.finalized, finalized.header.number ≤ safe.header.number) ∧
  (resolveTag call.provider call.safeBlockHash "safe" = .ok none →
    ∀ finalized, resolveTag call.provider call.finalizedBlockHash "finalized" = .ok (some finalized) →
      ∀ safe ∈ log.tags.safe, finalized.header.number ≤ safe.header.number)

theorem set_block_tags_error (provider : Provider) (log : TagLog) (safeBlockHash finalizedBlockHash : B256) (error : MorphEngineApiError)
    (failed : (setBlockTags provider log safeBlockHash finalizedBlockHash).1 = .error error) :
    (setBlockTags provider log safeBlockHash finalizedBlockHash).2 = log := by
  revert failed
  simp only [setBlockTags]
  repeat' split
  all_goals simp

theorem set_block_tags_ok (provider : Provider) (log : TagLog) (safeBlockHash finalizedBlockHash : B256)
    (succeeded : (setBlockTags provider log safeBlockHash finalizedBlockHash).1 = .ok ()) :
    ∃ safe finalized, resolveTag provider safeBlockHash "safe" = .ok safe ∧
      resolveTag provider finalizedBlockHash "finalized" = .ok finalized ∧
      ((setBlockTags provider log safeBlockHash finalizedBlockHash).2 = log ∨
        ∃ head finalizedHash, validateResolvedBlockTags (safe.map (·.header.number)) (finalized.map (·.header.number)) head = .ok () ∧
          (setBlockTags provider log safeBlockHash finalizedBlockHash).2 = writeTags log safe finalized finalizedHash) := by
  revert succeeded
  rw [setBlockTags]
  split
  · simp
  · next safe safeFound =>
      split
      · simp
      · next finalized finalizedFound =>
          intro succeeded
          refine ⟨safe, finalized, safeFound, finalizedFound, ?_⟩
          revert succeeded
          split
          · exact fun _ => .inl rfl
          · split
            · simp
            · next head _ =>
                split
                · simp
                · next valid => exact fun _ => .inr ⟨head.number, _, valid, rfl⟩

theorem validated_order (safe finalized : SealedHeader) (head : U64)
    (valid : validateResolvedBlockTags (some safe.header.number) (some finalized.header.number) head = .ok ()) :
    finalized.header.number ≤ safe.header.number := by
  simp only [validateResolvedBlockTags, bind_ok, reject_if_ok] at valid
  obtain ⟨_, _, _, _, ordered⟩ := valid
  exact BitVec.not_lt.mp ordered

theorem write_ordered (log : TagLog) (ordered : log.Ordered) (tags : BlockTags) (kept : tags.Ordered) : (log.write tags).Ordered := by
  refine ⟨kept, fun seen member => ?_⟩
  rcases List.mem_cons.mp member with rfl | earlier
  · exact kept
  · exact ordered.observed seen earlier

theorem record_ordered (log : TagLog) (ordered : log.Ordered) (hash : Option B256) : (log.recordFinalizedHash hash).Ordered := by
  cases hash with
  | none => exact ordered
  | some hash => exact write_ordered log ordered _ ordered.current

theorem set_safe_ordered (log : TagLog) (ordered : log.Ordered) (header : SealedHeader)
    (above : ∀ finalized ∈ log.tags.finalized, finalized.header.number ≤ header.header.number) : (log.setSafe header).Ordered := by
  refine write_ordered log ordered _ (fun safe isSafe finalized isFinalized => ?_)
  cases isSafe
  exact above finalized isFinalized

theorem set_finalized_ordered (log : TagLog) (ordered : log.Ordered) (header : SealedHeader)
    (below : ∀ safe ∈ log.tags.safe, header.header.number ≤ safe.header.number) : (log.setFinalized header).Ordered := by
  refine write_ordered log ordered _ (fun safe isSafe finalized isFinalized => ?_)
  cases isFinalized
  exact below safe isSafe

theorem run_ordered (log : TagLog) (call : SetBlockTags) (ordered : log.Ordered) (fits : FitsStored log call) : (call.run log).Ordered := by
  rw [SetBlockTags.run]
  cases outcome : (setBlockTags call.provider log call.safeBlockHash call.finalizedBlockHash).1 with
  | error error => rwa [set_block_tags_error _ _ _ _ error outcome]
  | ok done =>
      obtain ⟨safe, finalized, safeFound, finalizedFound, unchanged | ⟨head, hash, valid, written⟩⟩ := set_block_tags_ok _ _ _ _ outcome
      · rwa [unchanged]
      · rw [written]
        apply record_ordered
        cases safe with
        | none =>
            cases finalized with
            | none => exact ordered
            | some finalized => exact set_finalized_ordered log ordered finalized (fits.2 safeFound finalized finalizedFound)
        | some safe =>
            have afterSafe := set_safe_ordered log ordered safe (fits.1 safe safeFound)
            cases finalized with
            | none => exact afterSafe
            | some finalized =>
                refine set_finalized_ordered (log.setSafe safe) afterSafe finalized (fun stored isSafe => ?_)
                cases isSafe
                exact validated_order safe finalized head valid

theorem unset_ordered : TagLog.unset.Ordered := by
  refine ⟨fun safe isSafe => (by cases isSafe), fun tags member => ?_⟩
  rw [List.mem_singleton.mp member]
  exact fun safe isSafe => (by cases isSafe)

theorem finalized_at_most_safe (calls : List SetBlockTags) (legal : EachAllowed SetBlockTags.run FitsStored TagLog.unset calls) :
    (∀ tags ∈ (runSteps SetBlockTags.run TagLog.unset calls).observed, tags.Ordered) ∧
      ∀ provider log safeBlockHash finalizedBlockHash error, (setBlockTags provider log safeBlockHash finalizedBlockHash).1 = .error error →
        (setBlockTags provider log safeBlockHash finalizedBlockHash).2 = log :=
  ⟨(run_invariant SetBlockTags.run FitsStored TagLog.Ordered (fun log call => run_ordered log call) TagLog.unset calls unset_ordered legal).observed,
    set_block_tags_error⟩

def sampleBlock (number : Nat) : SealedHeader := ⟨sampleHeader (BitVec.ofNat 64 number) 0 0, BitVec.ofNat 256 number⟩

def sampleProvider : Provider where
  sealedHeaderByHash hash := .ok (some (sampleBlock hash.toNat))
  latestHeader := .ok (some (sampleBlock 20))

def forwardCalls : List SetBlockTags := [⟨sampleProvider, 10, 5⟩, ⟨sampleProvider, 12, 0⟩, ⟨sampleProvider, 0, 11⟩]

theorem forward_calls_fit : EachAllowed SetBlockTags.run FitsStored TagLog.unset forwardCalls := by
  refine ⟨⟨?_, ?_⟩, ⟨?_, ?_⟩, ⟨?_, ?_⟩, trivial⟩
  · rintro safe found finalized ⟨⟩
  · rintro found
    cases found
  · rintro safe ⟨⟩ finalized ⟨⟩
    decide
  · rintro found
    cases found
  · rintro safe found
    cases found
  · rintro found finalized ⟨⟩ safe ⟨⟩
    decide

theorem finalized_at_most_safe_sample :
    EachAllowed SetBlockTags.run FitsStored TagLog.unset forwardCalls ∧
      ∀ tags ∈ (runSteps SetBlockTags.run TagLog.unset forwardCalls).observed, tags.Ordered :=
  ⟨forward_calls_fit, (finalized_at_most_safe forwardCalls forward_calls_fit).1⟩

-- Safe is moved back below the finalized block of an earlier call.
theorem safe_moved_below_finalized : ¬∀ calls, ∀ tags ∈ (runSteps SetBlockTags.run TagLog.unset calls).observed, tags.Ordered := by
  intro alwaysOrdered
  have ordered := alwaysOrdered [⟨sampleProvider, 10, 5⟩, ⟨sampleProvider, 3, 0⟩] ⟨some (sampleBlock 3), some (sampleBlock 5), some 5⟩
    List.mem_cons_self
  exact absurd (ordered (sampleBlock 3) rfl (sampleBlock 5) rfl) (by decide)

end MorphReth.Engine
