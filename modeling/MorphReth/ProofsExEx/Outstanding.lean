import MorphReth.ProofsExEx.Canonical

set_option autoImplicit false

namespace MorphReth.ProofsExEx

open Proofs

variable {tree : BlockTree}

def SyncTargetState.revertTo : SyncTargetState → Option BlockWithParent
  | .syncUpTo _ => none
  | .revertThenSync revertTo _ | .revert revertTo => some revertTo

def SyncTargetState.syncTo : SyncTargetState → Option Nat
  | .syncUpTo target | .revertThenSync _ target => some target
  | .revert _ => none

-- The state a notification is turned into, and the blocks it brings.
def ExExNotification.state : ExExNotification tree → SyncTargetState
  | .chainCommitted new => .syncUpTo new.tip.number
  | .chainReorged old new => .revertThenSync old.first.blockWithParent new.tip.number
  | .chainReverted old => .revert old.first.blockWithParent

def ExExNotification.newBlocks : ExExNotification tree → List (ChainBlock tree)
  | .chainCommitted new | .chainReorged _ new => new.blocks
  | .chainReverted _ => []

def HandlerPoint.state : HandlerPoint tree → Option SyncTargetState
  | .caching _ next => some next
  | .starting | .waiting | .stopped => none

def HandlerPoint.blocks : HandlerPoint tree → List (ChainBlock tree)
  | .caching blocks _ => blocks
  | .starting | .waiting | .stopped => []

def SyncPoint.executing : SyncPoint tree → List BlockWithParent
  | .readRevertLatest revertTo _ | .unwind revertTo _ => [revertTo]
  | .idle | .unwound _ _ | .reverted _ _ | .forward _ | .readLatest _ | .takeCached _ _ _ _ | .recoverBlock _ _ _ _ | .storeBatch _ _
  | .stored _ | .requeue _ => []

def SyncPoint.completed : SyncPoint tree → List BlockWithParent
  | .unwound revertTo _ | .reverted revertTo _ => [revertTo]
  | .idle | .readRevertLatest _ _ | .unwind _ _ | .forward _ | .readLatest _ | .takeCached _ _ _ _ | .recoverBlock _ _ _ _
  | .storeBatch _ _ | .stored _ | .requeue _ => []

def SyncPoint.batch : SyncPoint tree → List (BatchBlock tree)
  | .takeCached _ batch _ _ | .recoverBlock _ batch _ _ | .storeBatch _ batch => batch
  | .idle | .readRevertLatest _ _ | .unwind _ _ | .unwound _ _ | .reverted _ _ | .forward _ | .readLatest _ | .stored _ | .requeue _ => []

-- The reverts that the store has not seen yet, nearest to the store first: the
-- one the loop is about to run, the pending one, the one the handler holds and
-- those in the queue.
def queuedReverts (notifications : List (ExExNotification tree)) : List BlockWithParent :=
  notifications.filterMap (fun notification => notification.state.revertTo)

def handedReverts (handler : HandlerPoint tree) (notifications : List (ExExNotification tree)) : List BlockWithParent :=
  (handler.state.bind SyncTargetState.revertTo).toList ++ queuedReverts notifications

def pendingReverts (state : Option SyncTargetState) : List BlockWithParent :=
  (state.bind SyncTargetState.revertTo).toList

def System.waitingReverts {σ : Type} (system : System σ tree) : List BlockWithParent :=
  pendingReverts system.syncTarget.state ++ handedReverts system.handler system.notifications

def Clear (number : Nat) (reverts : List BlockWithParent) : Prop :=
  ∀ revertTo ∈ reverts, number < revertTo.block.number

@[simp] theorem clear_nil (number : Nat) : Clear number [] :=
  fun _ member => (by cases member)

@[simp] theorem clear_append (number : Nat) (left right : List BlockWithParent) :
    Clear number (left ++ right) ↔ Clear number left ∧ Clear number right :=
  List.forall_mem_append

@[simp] theorem clear_singleton (number : Nat) (revertTo : BlockWithParent) : Clear number [revertTo] ↔ number < revertTo.block.number :=
  List.forall_mem_singleton

theorem queued_append (left right : List (ExExNotification tree)) :
    queuedReverts (left ++ right) = queuedReverts left ++ queuedReverts right :=
  List.filterMap_append

theorem queued_cons (notification : ExExNotification tree) (rest : List (ExExNotification tree)) :
    queuedReverts (notification :: rest) = notification.state.revertTo.toList ++ queuedReverts rest := by
  cases found : notification.state.revertTo <;> simp [queuedReverts, found]

-- A block that some part of the system holds is canonical, unless one of the
-- reverts still to come removes it.
def CanonicalUnless (chain : CanonicalChain tree) (reverts : List BlockWithParent) (block : NumHash) : Prop :=
  Clear block.number reverts → chain.blockHash block.number = some block.hash

def parentBlock (revertTo : BlockWithParent) : NumHash :=
  ⟨revertTo.block.number - 1, revertTo.parent⟩

def ParentCanonical (chain : CanonicalChain tree) (reverts : List BlockWithParent) (revertTo : BlockWithParent) : Prop :=
  0 < revertTo.block.number → CanonicalUnless chain reverts (parentBlock revertTo)

def QueueFits (chain : CanonicalChain tree) : List (ExExNotification tree) → Prop
  | [] => True
  | notification :: rest =>
      (∀ revertTo ∈ notification.state.revertTo, ParentCanonical chain (queuedReverts rest) revertTo) ∧
        (∀ block ∈ notification.newBlocks, CanonicalUnless chain (queuedReverts rest) block.blockWithParent.block) ∧ QueueFits chain rest

section Notification

theorem common_agree (left right : List B256) (number : Nat) (below : number < commonLength left right) :
    left[number]? = right[number]? := by
  induction left generalizing right number with
  | nil => simp [commonLength] at below
  | cons first rest ih =>
      cases right with
      | nil => simp [commonLength] at below
      | cons other others =>
          rw [commonLength] at below
          split at below
          · next same =>
              cases number with
              | zero => simp [same]
              | succ number => simpa using ih others number (by omega)
          · omega

theorem blocks_from_member (number : Nat) (hashes : List B256) (block : ChainBlock tree) (member : block ∈ blocksFrom number hashes) :
    number ≤ block.number ∧ hashes[block.number - number]? = some block.blockWithParent.block.hash := by
  induction hashes generalizing number with
  | nil => cases member
  | cons hash rest ih =>
      cases member with
      | head => simp [ChainBlock.of, ChainBlock.number]
      | tail _ later =>
          obtain ⟨above, found⟩ := ih (number + 1) later
          refine ⟨by omega, ?_⟩
          have position : block.number - number = block.number - (number + 1) + 1 := by omega
          rw [position, List.getElem?_cons_succ, found]

theorem blocks_from_tip (number : Nat) (hashes : List B256) (first : ChainBlock tree) (rest : List (ChainBlock tree))
    (blocks : blocksFrom number hashes = first :: rest) : (Chain.tip ⟨first, rest⟩).number + 1 = number + hashes.length := by
  induction hashes generalizing number first rest with
  | nil => cases blocks
  | cons hash others ih =>
      cases others with
      | nil =>
          cases blocks
          rfl
      | cons next later =>
          cases blocks
          have tail := ih (number + 1) (ChainBlock.of (number + 1) next) (blocksFrom (number + 1 + 1) later) rfl
          simp only [Chain.tip, List.length_cons, blocksFrom, List.getLast?_cons] at tail ⊢
          simp only [Option.getD_some]
          omega

variable (before after : CanonicalChain tree)

-- What is sent, by the blocks that leave the chain and those that join it.
inductive Announced (common : Nat) : List B256 → List B256 → Option (ExExNotification tree) → Prop where
  | nothing : Announced common [] [] none
  | committed (hash : B256) (rest : List B256) :
      Announced common [] (hash :: rest) (some (.chainCommitted ⟨.of common hash, blocksFrom (common + 1) rest⟩))
  | reverted (hash : B256) (rest : List B256) :
      Announced common (hash :: rest) [] (some (.chainReverted ⟨.of common hash, blocksFrom (common + 1) rest⟩))
  | reorged (oldHash : B256) (oldRest : List B256) (newHash : B256) (newRest : List B256) :
      Announced common (oldHash :: oldRest) (newHash :: newRest)
        (some (.chainReorged ⟨.of common oldHash, blocksFrom (common + 1) oldRest⟩ ⟨.of common newHash, blocksFrom (common + 1) newRest⟩))

theorem notification_announced :
    Announced (commonLength before.hashes after.hashes) (before.hashes.drop (commonLength before.hashes after.hashes))
      (after.hashes.drop (commonLength before.hashes after.hashes)) (before.notification after) := by
  rw [CanonicalChain.notification]
  cases before.hashes.drop (commonLength before.hashes after.hashes) with
  | nil =>
      cases after.hashes.drop (commonLength before.hashes after.hashes) with
      | nil => exact .nothing
      | cons hash rest => exact .committed hash rest
  | cons oldHash oldRest =>
      cases after.hashes.drop (commonLength before.hashes after.hashes) with
      | nil => exact .reverted oldHash oldRest
      | cons newHash newRest => exact .reorged oldHash oldRest newHash newRest

theorem announced_reverts (common : Nat) (old new : List B256) (sent : Option (ExExNotification tree))
    (announced : Announced common old new sent) :
    queuedReverts sent.toList = (old.head?.map (fun hash => (@ChainBlock.of tree common hash).blockWithParent)).toList := by
  cases announced <;> rfl

theorem announced_new_blocks (common : Nat) (old new : List B256) (notification : ExExNotification tree)
    (announced : Announced common old new (some notification)) : notification.newBlocks = blocksFrom common new := by
  cases announced <;> rfl

theorem announced_nothing (common : Nat) (old new : List B256) (announced : @Announced tree common old new none) : old = [] ∧ new = [] := by
  cases announced
  exact ⟨rfl, rfl⟩

theorem notification_reverts :
    queuedReverts (before.notification after).toList =
      ((before.hashes.drop (commonLength before.hashes after.hashes)).head?.map
        (fun hash => (@ChainBlock.of tree (commonLength before.hashes after.hashes) hash).blockWithParent)).toList :=
  announced_reverts _ _ _ _ (notification_announced before after)

-- A block stays canonical when the chain changes, unless it is one of those
-- that the notification reports as removed.
theorem notification_keeps (number : Nat) (hash : B256) (found : before.blockHash number = some hash)
    (clear : Clear number (queuedReverts (before.notification after).toList)) : after.blockHash number = some hash := by
  have below : number < commonLength before.hashes after.hashes := by
    by_contra above
    have inside : number < before.hashes.length := (List.getElem?_eq_some_iff.mp found).1
    rw [notification_reverts] at clear
    cases removed : before.hashes.drop (commonLength before.hashes after.hashes) with
    | nil =>
        have short := List.drop_eq_nil_iff.mp removed
        omega
    | cons first rest =>
        rw [removed] at clear
        exact above (clear _ (List.mem_singleton.mpr rfl))
  rw [CanonicalChain.blockHash, ← common_agree before.hashes after.hashes number below]
  exact found

theorem unannounced_same (silent : before.notification after = none) : before.hashes = after.hashes := by
  have announced := notification_announced before after
  rw [silent] at announced
  have short := announced_nothing _ _ _ announced
  have bounds := And.intro (List.drop_eq_nil_iff.mp short.1) (List.drop_eq_nil_iff.mp short.2)
  refine List.ext_getElem? (fun number => ?_)
  by_cases below : number < commonLength before.hashes after.hashes
  · exact common_agree before.hashes after.hashes number below
  · rw [List.getElem?_eq_none (by omega), List.getElem?_eq_none (by omega)]

theorem canonical_unless_changed (reverts : List BlockWithParent) (block : NumHash) (held : CanonicalUnless before reverts block) :
    CanonicalUnless after (reverts ++ queuedReverts (before.notification after).toList) block := by
  intro clear
  obtain ⟨older, newest⟩ := (clear_append _ _ _).mp clear
  exact notification_keeps before after block.number block.hash (held older) newest

theorem parent_canonical_changed (reverts : List BlockWithParent) (revertTo : BlockWithParent)
    (held : ParentCanonical before reverts revertTo) :
    ParentCanonical after (reverts ++ queuedReverts (before.notification after).toList) revertTo :=
  fun positive => canonical_unless_changed before after reverts _ (held positive)

theorem notification_parent (revertTo : BlockWithParent) (sent : revertTo ∈ queuedReverts (before.notification after).toList) :
    ParentCanonical after [] revertTo := by
  intro positive _
  rw [notification_reverts, Option.mem_toList, Option.map_eq_some_iff] at sent
  obtain ⟨hash, first, rfl⟩ := sent
  have common : 0 < commonLength before.hashes after.hashes := positive
  have found : before.hashes[commonLength before.hashes after.hashes - 1 + 1]? = some hash := by
    rw [Nat.sub_add_cancel common]
    simpa using first
  have parent := linked_step tree.parentOf before.hashes before.linked _ hash found
  rw [common_agree before.hashes after.hashes _ (by omega)] at parent
  exact parent

theorem notification_blocks_canonical (notification : ExExNotification tree) (sent : before.notification after = some notification)
    (block : ChainBlock tree) (member : block ∈ notification.newBlocks) : CanonicalUnless after [] block.blockWithParent.block := by
  intro _
  have announced := notification_announced before after
  rw [sent] at announced
  rw [announced_new_blocks _ _ _ notification announced] at member
  obtain ⟨above, found⟩ := blocks_from_member _ _ block member
  rw [List.getElem?_drop, Nat.add_sub_cancel' above] at found
  exact found

theorem queue_fits_changed (queue : List (ExExNotification tree)) (fits : QueueFits before queue) :
    QueueFits after (queue ++ (before.notification after).toList) := by
  induction queue with
  | nil =>
      cases sent : before.notification after with
      | none => trivial
      | some notification =>
          refine ⟨fun revertTo member => notification_parent before after revertTo ?_, notification_blocks_canonical before after notification sent,
            trivial⟩
          rw [sent, Option.toList_some, queued_cons]
          exact List.mem_append_left _ (Option.mem_toList.mpr member)
  | cons notification rest ih =>
      rw [List.cons_append, QueueFits, queued_append]
      exact ⟨fun revertTo member => parent_canonical_changed before after _ revertTo (fits.1 revertTo member),
        fun block member => canonical_unless_changed before after _ _ (fits.2.1 block member), ih fits.2.2⟩

end Notification

section Merge

-- Merging keeps the deeper of two reverts, the newer one at equal depth.
theorem deeper_clear (number : Nat) (current new : BlockWithParent) (clear : Clear number [SyncTargetState.deeperRevert current new]) :
    Clear number [current] ∧ Clear number [new] := by
  simp only [clear_singleton, SyncTargetState.deeperRevert] at clear ⊢
  split at clear
  · omega
  · omega

theorem deeper_revert (current new : BlockWithParent) :
    SyncTargetState.deeperRevert current new = new ∨
      (SyncTargetState.deeperRevert current new = current ∧ current.block.number < new.block.number) := by
  rw [SyncTargetState.deeperRevert]
  split
  · exact .inl rfl
  · next shallower => exact .inr ⟨rfl, Nat.lt_of_not_le shallower⟩

variable (current next : SyncTargetState)

theorem apply_next_clear (number : Nat) (clear : Clear number (current.applyNext next).revertTo.toList) :
    Clear number current.revertTo.toList ∧ Clear number next.revertTo.toList := by
  cases next with
  | syncUpTo target =>
      refine ⟨?_, clear_nil number⟩
      cases current <;> exact clear
  | revertThenSync new syncTo =>
      cases current with
      | syncUpTo older => exact ⟨clear_nil number, clear⟩
      | revertThenSync revertTo older => exact deeper_clear number revertTo new clear
      | revert revertTo => exact deeper_clear number revertTo new clear
  | revert new =>
      cases current with
      | syncUpTo older => exact ⟨clear_nil number, clear⟩
      | revertThenSync revertTo older => exact deeper_clear number revertTo new clear
      | revert revertTo => exact deeper_clear number revertTo new clear

theorem apply_next_revert (revertTo : BlockWithParent) (merged : revertTo ∈ (current.applyNext next).revertTo) :
    revertTo ∈ next.revertTo ∨ (revertTo ∈ current.revertTo ∧ ∀ other ∈ next.revertTo, revertTo.block.number < other.block.number) := by
  have deeper (older new : BlockWithParent) (isDeeper : revertTo ∈ some (SyncTargetState.deeperRevert older new)) :
      revertTo ∈ some new ∨ (revertTo ∈ some older ∧ ∀ other ∈ some new, revertTo.block.number < other.block.number) := by
    cases isDeeper
    obtain same | ⟨same, below⟩ := deeper_revert older new
    · exact .inl (congrArg some same.symm)
    · refine .inr ⟨congrArg some same.symm, fun other isNew => ?_⟩
      cases isNew
      rw [same]
      exact below
  cases next with
  | syncUpTo target =>
      refine .inr ⟨?_, fun _ absurd => (by cases absurd)⟩
      cases current <;> exact merged
  | revertThenSync new syncTo =>
      cases current with
      | syncUpTo older => exact .inl merged
      | revertThenSync older _ => exact deeper older new merged
      | revert older => exact deeper older new merged
  | revert new =>
      cases current with
      | syncUpTo older => exact .inl merged
      | revertThenSync older _ => exact deeper older new merged
      | revert older => exact deeper older new merged

end Merge

end MorphReth.ProofsExEx
