import MorphReth.DupCursor

set_option autoImplicit false

namespace MorphReth

section VersionedTable

variable {κ ν : Type} [LinearOrder κ] (visible : ν → Bool)

-- A versioned table that records a sequence of states: the versions above the
-- first state are those listed as touched, and reading at any state of the
-- window gives it back.
structure Recorded (table : DupTable κ (Option ν)) (touched : Nat → κ → Prop) (earliest latest : Nat) (state : Nat → κ → Option ν) : Prop where
  bounded : ∀ key version, (table.versions key version).isSome → version ≤ latest
  listed : ∀ key version, earliest < version → ((table.versions key version).isSome ↔ touched version key)
  view : ∀ block key, earliest ≤ block → block ≤ latest → live visible (table.versions key) block = state block key

variable (table after : DupTable κ (Option ν)) (touched touchedAfter : Nat → κ → Prop) (earliest latest : Nat)
  (state stateAfter : Nat → κ → Option ν)

variable (recorded : Recorded visible table touched earliest latest state)

include recorded

theorem recorded_append (writes : κ → Option (Option ν))
    (versions : ∀ key version, after.versions key version = if version = latest + 1 then writes key else table.versions key version)
    (listedNew : ∀ key, touchedAfter (latest + 1) key ↔ (writes key).isSome)
    (listedOld : ∀ version key, version ≠ latest + 1 → (touchedAfter version key ↔ touched version key))
    (older : ∀ block key, block ≤ latest → stateAfter block key = state block key)
    (newest : ∀ key, stateAfter (latest + 1) key = (writes key).elim (state latest key) (fun value => value.filter visible))
    (window : earliest ≤ latest) : Recorded visible after touchedAfter earliest (latest + 1) stateAfter := by
  have below : ∀ key block, block ≤ latest → live visible (after.versions key) block = live visible (table.versions key) block := by
    intro key block within
    refine live_congr visible _ _ block fun version atMost => ?_
    rw [versions, if_neg (by omega)]
  refine ⟨fun key version stored => ?_, fun key version above => ?_, fun block key since upTo => ?_⟩
  · rw [versions] at stored
    split at stored
    · omega
    · exact Nat.le_succ_of_le (recorded.bounded key version stored)
  · rw [versions]
    split
    · next same =>
        rw [same]
        exact (listedNew key).symm
    · next apart => exact (recorded.listed key version above).trans (listedOld version key apart).symm
  · cases Nat.le_succ_iff.mp upTo with
    | inl within => rw [below key block within, recorded.view block key since within, older block key within]
    | inr top =>
        rw [top, live_succ, versions, if_pos rfl, below key latest (Nat.le_refl latest),
          recorded.view latest key window (Nat.le_refl latest), newest]

theorem recorded_cut (last : Nat)
    (versions : ∀ key version, after.versions key version = if last < version then none else table.versions key version)
    (listed : ∀ version key, touchedAfter version key ↔ version ≤ last ∧ touched version key)
    (same : ∀ block key, block ≤ last → stateAfter block key = state block key) (within : last ≤ latest) :
    Recorded visible after touchedAfter earliest last stateAfter := by
  refine ⟨fun key version stored => ?_, fun key version above => ?_, fun block key since upTo => ?_⟩
  · rw [versions] at stored
    split at stored
    · cases stored
    · omega
  · rw [versions, listed]
    split
    · next beyond => exact ⟨fun stored => (by cases stored), fun kept => absurd kept.1 (by omega)⟩
    · next inside => exact (recorded.listed key version above).trans ⟨fun kept => ⟨by omega, kept⟩, fun kept => kept.2⟩
  · rw [same block key upTo, ← recorded.view block key since (by omega)]
    refine live_congr visible _ _ block fun version atMost => ?_
    rw [versions, if_neg (by omega)]

theorem recorded_prune (target : Nat) (pruned : ∀ key, PrunedTo (table.versions key) (after.versions key) earliest target)
    (listed : ∀ version key, target < version → (touchedAfter version key ↔ touched version key)) (later : earliest ≤ target) :
    Recorded visible after touchedAfter target latest state := by
  refine ⟨fun key version stored => ?_, fun key version above => ?_, fun block key since upTo => ?_⟩
  · exact recorded.bounded key version (pruned_stored _ _ _ _ (pruned key) version stored)
  · rw [listed version key above, ← recorded.listed key version (Nat.lt_of_le_of_lt later above), (pruned key).above version above]
  · rw [← recorded.view block key (Nat.le_trans later since) upTo]
    exact pruned_live visible _ _ _ _ (pruned key) block since

end VersionedTable

end MorphReth
