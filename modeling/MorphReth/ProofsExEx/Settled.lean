import MorphReth.ProofsExEx.Chain
import MorphReth.Proofs.History
import MorphReth.Checks

set_option autoImplicit false

namespace MorphReth.ProofsExEx

open Proofs

def storedBlock (history : History) (number : Nat) : Option (BlockWithParent × BlockStateDiff) :=
  history.stored[number - history.anchor - 1]?

def storedHash (history : History) (number : Nat) : Option B256 :=
  (storedBlock history number).map (fun block => block.1.block.hash)

-- The stored blocks above the earliest one, oldest first.
def retained (history : History) : List (BlockWithParent × BlockStateDiff) :=
  history.stored.drop (history.earliest.number - history.anchor)

def retainedHashes (history : History) : List B256 :=
  (retained history).map (fun block => block.1.block.hash)

variable {tree : BlockTree}

-- A stored block is the block with its hash.
structure OwnBlock (tree : BlockTree) (block : BlockWithParent × BlockStateDiff) : Prop where
  parent : block.1.parent = tree.parentOf block.1.block.hash
  diff : block.2 = (tree block.1.block.hash).diff

theorem entry_own (block : ChainBlock tree) : OwnBlock tree block.entry :=
  ⟨block.parent, block.own⟩

-- The window of the store is one branch of the block tree: its blocks are
-- children of each other and the recorded latest block is the last of them.
-- Nothing is said about the earliest block, which a refused revert may leave on
-- an abandoned branch.
structure Settled (tree : BlockTree) (history : History) : Prop where
  anchored : history.anchor ≤ history.earliest.number
  window : history.earliest.number ≤ history.latest.number
  length : history.latest.number = history.anchor + history.stored.length
  own : ∀ block ∈ retained history, OwnBlock tree block
  linked : Linked tree.parentOf (retainedHashes history)
  tip : history.earliest.number < history.latest.number → storedHash history history.latest.number = some history.latest.hash

section Settled

variable (history : History) (settled : Settled tree history)

include settled

theorem retained_length : (retainedHashes history).length = history.latest.number - history.earliest.number := by
  have anchored := settled.anchored
  have length := settled.length
  rw [retainedHashes, List.length_map, retained, List.length_drop]
  omega

theorem retained_hash (index : Nat) : (retainedHashes history)[index]? = storedHash history (history.earliest.number + 1 + index) := by
  have anchored := settled.anchored
  rw [retainedHashes, List.getElem?_map, retained, List.getElem?_drop, storedHash, storedBlock]
  congr 2
  omega

theorem retained_last (last : B256) (isLast : last ∈ (retainedHashes history).getLast?) : last = history.latest.hash := by
  have length := retained_length history settled
  rw [List.getLast?_eq_getElem?, retained_hash history settled, Option.mem_def] at isLast
  have above : history.earliest.number < history.latest.number := by
    by_contra empty
    have window := settled.window
    have nothing : (retainedHashes history)[(retainedHashes history).length - 1]? = none := List.getElem?_eq_none (by omega)
    rw [retained_hash history settled, isLast] at nothing
    cases nothing
  have here : history.earliest.number + 1 + ((retainedHashes history).length - 1) = history.latest.number := by omega
  rw [here, settled.tip above] at isLast
  exact (Option.some.inj isLast).symm

theorem append_settled (block : BlockWithParent × BlockStateDiff) (own : OwnBlock tree block)
    (numbered : block.1.block.number = history.latest.number + 1) (after : History) (appended : history.append block = .ok after) :
    Settled tree after ∧ after.latest.number = history.latest.number + 1 := by
  have anchored := settled.anchored
  have window := settled.window
  have length := settled.length
  rw [History.append] at appended
  split at appended
  · cases appended
  · next accepted =>
      have child : history.latest.hash = block.1.parent := not_not.mp accepted
      cases appended
      have grown : retained { history with stored := history.stored ++ [block], latest := block.1.block } = retained history ++ [block] :=
        List.drop_append_of_le_length (by dsimp only; omega)
      refine ⟨⟨anchored, ?_, ?_, ?_, ?_, ?_⟩, numbered⟩
      · dsimp only
        omega
      · simp only [List.length_append, List.length_singleton]
        omega
      · intro stored member
        rw [grown, List.mem_append, List.mem_singleton] at member
        cases member with
        | inl older => exact settled.own stored older
        | inr newest => exact newest ▸ own
      · rw [retainedHashes, grown, List.map_append]
        refine linked_snoc _ _ settled.linked _ (fun last isLast => ?_)
        rw [retained_last history settled last isLast, child, own.parent]
      · intro _
        have top : block.1.block.number - history.anchor - 1 = history.stored.length := by omega
        simp [storedHash, storedBlock, top]

end Settled

theorem append_all_settled (blocks : List (BlockWithParent × BlockStateDiff)) (history : History) (settled : Settled tree history)
    (own : ∀ block ∈ blocks, OwnBlock tree block) (numbered : NumberedFrom (history.latest.number + 1) blocks) (after : History)
    (appended : history.appendAll blocks = .ok after) : Settled tree after := by
  induction blocks generalizing history with
  | nil =>
      cases appended
      exact settled
  | cons block rest ih =>
      rw [History.appendAll, List.foldlM_cons, bind_ok] at appended
      obtain ⟨next, first, later⟩ := appended
      obtain ⟨nextSettled, nextLatest⟩ := append_settled history settled block (own block List.mem_cons_self) numbered.1 next first
      exact ih next nextSettled (fun other member => own other (List.mem_cons_of_mem block member)) (nextLatest ▸ numbered.2) later

variable (history : History)

theorem prune_latest (newEarliest : NumHash) (after : History) (pruned : history.prune newEarliest = .ok after) :
    after.latest = history.latest := by
  rw [History.prune] at pruned
  split at pruned
  · cases pruned
  · split at pruned <;> cases pruned <;> rfl

theorem prune_window (newEarliest : NumHash) (after : History) (window : history.earliest.number ≤ history.latest.number)
    (pruned : history.prune newEarliest = .ok after) : after.earliest.number ≤ after.latest.number := by
  rw [History.prune] at pruned
  split at pruned
  · cases pruned
  · next within =>
      split at pruned
      · cases pruned
        exact window
      · cases pruned
        exact Nat.le_of_not_lt within

theorem prune_settled (settled : Settled tree history) (newEarliest : NumHash) (after : History)
    (pruned : history.prune newEarliest = .ok after) : Settled tree after ∧ after.latest = history.latest := by
  have anchored := settled.anchored
  rw [History.prune] at pruned
  split at pruned
  · cases pruned
  · split at pruned
    · cases pruned
      exact ⟨settled, rfl⟩
    · next within above =>
        cases pruned
        have shrunk : retained { history with earliest := newEarliest } =
            (retained history).drop (newEarliest.number - history.earliest.number) := by
          rw [retained, retained, List.drop_drop]
          congr 1
          dsimp only
          omega
        refine ⟨⟨?_, ?_, settled.length, ?_, ?_, ?_⟩, rfl⟩
        · dsimp only
          omega
        · dsimp only
          omega
        · intro block member
          rw [shrunk] at member
          exact settled.own block (List.mem_of_mem_drop member)
        · rw [retainedHashes, shrunk, List.map_drop]
          exact linked_drop _ _ settled.linked _
        · intro more
          dsimp only at more
          exact settled.tip (by omega)

-- An unwind that removes blocks records the parent its caller names as the
-- latest block. The condition is that this is the block stored there; below the
-- window there is none to compare with.
def LandsOnParent (history : History) (unwindTo : BlockWithParent) : Prop :=
  history.earliest.number + 1 < unwindTo.block.number → unwindTo.block.number ≤ history.latest.number →
    storedHash history (unwindTo.block.number - 1) = some unwindTo.parent

instance (history : History) (unwindTo : BlockWithParent) : Decidable (LandsOnParent history unwindTo) :=
  inferInstanceAs (Decidable (_ → _ → _))

theorem unwind_settled (settled : Settled tree history) (unwindTo : BlockWithParent) (lands : LandsOnParent history unwindTo)
    (after : History) (unwound : history.unwind unwindTo = .ok after) : Settled tree after := by
  have anchored := settled.anchored
  have length := settled.length
  rw [History.unwind] at unwound
  split at unwound
  · cases unwound
    exact settled
  · split at unwound
    · cases unwound
    · next within above =>
        cases unwound
        have shrunk : retained (history.cut ⟨unwindTo.block.number - 1, unwindTo.parent⟩) =
            (retained history).take (unwindTo.block.number - 1 - history.earliest.number) := by
          rw [retained, retained, History.cut, List.drop_take]
          congr 1
          dsimp only
          omega
        refine ⟨anchored, ?_, ?_, ?_, ?_, ?_⟩
        · dsimp only [History.cut]
          omega
        · dsimp only [History.cut]
          rw [List.length_take]
          omega
        · intro block member
          rw [shrunk] at member
          exact settled.own block (List.mem_of_mem_take member)
        · rw [retainedHashes, shrunk, List.map_take]
          exact linked_take _ _ settled.linked _
        · intro more
          dsimp only [History.cut] at more
          have found := lands (by omega) (by omega)
          rw [storedHash, storedBlock] at found ⊢
          dsimp only [History.cut]
          rw [List.getElem?_take_of_lt (by omega)]
          exact found

-- The recorded latest block pins down the whole window: once it is canonical,
-- every block of the window is the canonical one with its diff.
theorem settled_canonical (settled : Settled tree history) (chain : CanonicalChain tree)
    (anchor : chain.blockHash history.latest.number = some history.latest.hash) (number : Nat) (above : history.earliest.number < number)
    (within : number ≤ history.latest.number) :
    ∃ hash, chain.blockHash number = some hash ∧ (storedBlock history number).map Prod.snd = some (tree hash).diff := by
  have anchored := settled.anchored
  have length := settled.length
  have topStored : (retainedHashes history)[history.latest.number - (history.earliest.number + 1)]? = some history.latest.hash := by
    rw [retained_hash history settled, ← settled.tip (by omega)]
    congr 1
    omega
  have topCanonical : (chain.hashes.drop (history.earliest.number + 1))[history.latest.number - (history.earliest.number + 1)]? =
      some history.latest.hash := by
    rw [List.getElem?_drop, Nat.add_sub_cancel' (by omega)]
    exact anchor
  have agree := linked_agree tree.parentOf _ _ settled.linked (linked_drop _ _ chain.linked _) _ _ topStored topCanonical
    (number - (history.earliest.number + 1)) (by omega)
  rw [retained_hash history settled, List.getElem?_drop, Nat.add_sub_cancel' (by omega)] at agree
  have inside : number - history.anchor - 1 < history.stored.length := by omega
  have present : storedBlock history number = some history.stored[number - history.anchor - 1] := List.getElem?_eq_getElem inside
  have member : history.stored[number - history.anchor - 1] ∈ retained history := by
    rw [retained, List.mem_iff_getElem?]
    refine ⟨number - (history.earliest.number + 1), ?_⟩
    rw [List.getElem?_drop, ← present, storedBlock]
    congr 1
    omega
  rw [storedHash, present] at agree
  exact ⟨_, agree.symm, by rw [present, Option.map_some, (settled.own _ member).diff]⟩

end MorphReth.ProofsExEx
