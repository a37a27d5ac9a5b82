import MorphReth.Proofs.Views

set_option autoImplicit false

namespace MorphReth.Proofs

section StorageTrie

variable (table : HistoryTable StorageTrieKey BranchNodeCompact) (block : Nat) (address : B256)

structure TrieStanding (place : Nibbles) (state : StorageTrieCursor) : Prop where
  bound : state.hashedAddress = some address
  inner : Standing table block (toLex (address, place)) state.inner

theorem positioned_of_standing {κ ν : Type} [LinearOrder κ] (table : HistoryTable κ ν) (block : Nat) (place : κ)
    (state : BlockNumberVersionedCursor κ ν) (standing : Standing table block place state) : state.isPositioned = true :=
  state.cursor.current_of_at_key place standing.here

theorem storage_trie_next (place : Nibbles) (state : StorageTrieCursor) (standing : TrieStanding table block address place state) :
    FirstLive (addressView table block address) (fun path => place < path) state.next.1 ∧
      ∀ path node, state.next.1 = some (path, node) → TrieStanding table block address path state.next.2 := by
  have call : state.next = (ofAddress address state.inner.next.1, { state with inner := state.inner.next.2 }) := by
    simp only [StorageTrieCursor.next, standing.bound, positioned_of_standing _ _ _ _ standing.inner, if_true]
  obtain ⟨first, moved⟩ := address_next table block address place state.inner standing.inner
  rw [call]
  exact ⟨first, fun path node found => ⟨standing.bound, moved path node found⟩⟩

theorem storage_trie_walks_up :
    WalksUp StorageTrieCursor.next (addressView table block address) (fun state place => TrieStanding table block address place state)
      (fun path => rowsFrom table (toLex (address, path))) where
  step state place standing := storage_trie_next table block address place state standing
  fewer state place path standing less := address_fewer table block address place path state.inner standing.inner less

theorem drain_storage_trie :
    Lists (addressView table block address) (fun path => [] ≤ path)
      (drain StorageTrieCursor.next (table.rows.length + 2) (StorageTrieCursor.new table block (some address))) := by
  obtain ⟨first, moved⟩ := address_seek table block address []
  exact drain_from _ _ _ _ (storage_trie_walks_up table block address) _ (fun low high reached less => le_trans reached (le_of_lt less))
    (table.rows.length + 1) _ first (fun path node found => ⟨rfl, moved path node found⟩) (fun path => rows_from_bound table _)

end StorageTrie

section HashedStorage

variable (table : HistoryTable HashedStorageKey U256) (block : Nat) (address : B256)

-- A slot that holds zero counts as absent.
def nonzero (value : U256) : Bool :=
  value ≠ 0

def slotView (slot : B256) : Option U256 :=
  (addressView table block address slot).filter nonzero

structure SlotStanding (place : B256) (state : MdbxStorageCursor) : Prop where
  bound : state.hashedAddress = address
  inner : Standing table block (toLex (address, place)) state.inner

theorem slot_view_of_zero (slot : B256) (held : addressView table block address slot = some 0) :
    slotView table block address slot = none := by
  rw [slotView, held]
  rfl

theorem slot_view_of_none (slot : B256) (held : addressView table block address slot = none) :
    slotView table block address slot = none := by
  rw [slotView, held]
  rfl

theorem slot_view_of_nonzero (slot : B256) (value : U256) (held : addressView table block address slot = some value) (apart : value ≠ 0) :
    slotView table block address slot = some value := by
  rw [slotView, held, Option.filter_some_pos (by simpa [nonzero] using apart)]

theorem first_slot_of_nonzero (test : B256 → Prop) (slot : B256) (value : U256) (apart : value ≠ 0)
    (first : FirstLive (addressView table block address) test (some (slot, value))) :
    FirstLive (slotView table block address) test (some (slot, value)) :=
  ⟨first.1, slot_view_of_nonzero table block address slot value first.2.1 apart,
    fun other passes less => slot_view_of_none table block address other (first.2.2 other passes less)⟩

theorem slots_up_to_zero (test : B256 → Prop) (slot : B256) (first : FirstLive (addressView table block address) test (some (slot, 0)))
    (other : B256) (passes : test other) (below : ¬slot < other) : slotView table block address other = none := by
  cases lt_or_eq_of_le (le_of_not_gt below) with
  | inl less => exact slot_view_of_none table block address other (first.2.2 other passes less)
  | inr same =>
      rw [same]
      exact slot_view_of_zero table block address slot first.2.1

-- By induction on the fuel: a slot that holds zero is left for the next one,
-- and fewer rows remain from there.
theorem skip_zeros (fuel : Nat) (place : B256) (state : MdbxStorageCursor) (standing : SlotStanding table block address place state)
    (enough : rowsFrom table (toLex (address, place)) < fuel) :
    FirstLive (slotView table block address) (fun slot => place < slot) (MdbxStorageCursor.skipZeros fuel state).1 ∧
      ∀ slot value, (MdbxStorageCursor.skipZeros fuel state).1 = some (slot, value) →
        SlotStanding table block address slot (MdbxStorageCursor.skipZeros fuel state).2 := by
  induction fuel generalizing place state with
  | zero => omega
  | succ fuel ih =>
      obtain ⟨first, moved⟩ := address_next table block address place state.inner standing.inner
      rw [MdbxStorageCursor.skipZeros, standing.bound]
      cases result : ofAddress address state.inner.next.1 with
      | none =>
          rw [result] at first
          exact ⟨fun slot above => slot_view_of_none table block address slot (first slot above), fun slot value found => (by cases found)⟩
      | some entry =>
          obtain ⟨slot, value⟩ := entry
          rw [result] at first
          have onward : SlotStanding table block address slot ⟨state.inner.next.2, address⟩ := ⟨rfl, moved slot value result⟩
          by_cases zero : value = 0
          · have fewer := address_fewer table block address place slot state.inner standing.inner first.1
            obtain ⟨later, laterStanding⟩ := ih slot ⟨state.inner.next.2, address⟩ onward (by omega)
            simp only [zero, if_true]
            refine ⟨first_live_widen _ _ _ _ (fun other above => lt_trans first.1 above) (fun other above below => ?_) later, laterStanding⟩
            exact slots_up_to_zero table block address _ slot (zero ▸ first) other above below
          · simp only [zero, if_false]
            refine ⟨first_slot_of_nonzero table block address _ slot value zero first, fun other found same => ?_⟩
            cases same
            exact onward

theorem hashed_storage_next (place : B256) (state : MdbxStorageCursor) (standing : SlotStanding table block address place state) :
    FirstLive (slotView table block address) (fun slot => place < slot) state.next.1 ∧
      ∀ slot value, state.next.1 = some (slot, value) → SlotStanding table block address slot state.next.2 := by
  have call : state.next = MdbxStorageCursor.skipZeros (state.inner.visits + 1) state := by
    rw [MdbxStorageCursor.next, if_pos (positioned_of_standing _ _ _ _ standing.inner)]
  rw [call]
  refine skip_zeros table block address _ place state standing (Nat.lt_succ_of_le ?_)
  rw [← standing.inner.table]
  exact state.inner.rows_from_visits _

theorem hashed_storage_seek (startSlot : B256) :
    FirstLive (slotView table block address) (fun slot => startSlot ≤ slot) ((MdbxStorageCursor.new table block address).seek startSlot).1 ∧
      ∀ slot value, ((MdbxStorageCursor.new table block address).seek startSlot).1 = some (slot, value) →
        SlotStanding table block address slot ((MdbxStorageCursor.new table block address).seek startSlot).2 := by
  obtain ⟨first, moved⟩ := address_seek table block address startSlot
  rw [MdbxStorageCursor.seek, MdbxStorageCursor.new]
  cases result : ofAddress address ((BlockNumberVersionedCursor.new table block).seek (toLex (address, startSlot))).1 with
  | none =>
      rw [result] at first
      dsimp only
      exact ⟨fun slot above => slot_view_of_none table block address slot (first slot above), fun slot value found => (by cases found)⟩
  | some entry =>
      obtain ⟨slot, value⟩ := entry
      rw [result] at first
      have onward : SlotStanding table block address slot
          ⟨((BlockNumberVersionedCursor.new table block).seek (toLex (address, startSlot))).2, address⟩ := ⟨rfl, moved slot value result⟩
      dsimp only
      by_cases zero : value = 0
      · obtain ⟨later, laterStanding⟩ := skip_zeros table block address (table.rows.length + 1) slot _ onward
          (Nat.lt_succ_of_le (List.length_filter_le _ _))
        rw [if_pos zero]
        refine ⟨first_live_widen _ _ _ _ (fun other above => le_of_lt (lt_of_le_of_lt first.1 above)) (fun other above below => ?_) later,
          laterStanding⟩
        exact slots_up_to_zero table block address _ slot (zero ▸ first) other above below
      · rw [if_neg zero]
        refine ⟨first_slot_of_nonzero table block address _ slot value zero first, fun other found same => ?_⟩
        cases same
        exact onward

theorem hashed_storage_walks_up :
    WalksUp MdbxStorageCursor.next (slotView table block address) (fun state place => SlotStanding table block address place state)
      (fun slot => rowsFrom table (toLex (address, slot))) where
  step state place standing := hashed_storage_next table block address place state standing
  fewer state place slot standing less := address_fewer table block address place slot state.inner standing.inner less

theorem drain_hashed_storage :
    Lists (slotView table block address) (fun slot => 0 ≤ slot)
      (drain MdbxStorageCursor.next (table.rows.length + 2) (MdbxStorageCursor.new table block address)) := by
  obtain ⟨first, moved⟩ := hashed_storage_seek table block address 0
  exact drain_from _ _ _ _ (hashed_storage_walks_up table block address) _ (fun low high reached less => le_trans reached (le_of_lt less))
    (table.rows.length + 1) _ first moved (fun slot => rows_from_bound table _)

end HashedStorage

end MorphReth.Proofs
