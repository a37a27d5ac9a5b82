import MorphReth.Proofs.Store
import MorphReth.Proofs.Walks
import MorphReth.Checks

set_option autoImplicit false

namespace MorphReth.Proofs

section Lookup

variable {κ α : Type} [LinearOrder κ]

def lookup (items : List (κ × α)) (key : κ) : Option α :=
  (items.find? (fun entry => entry.1 = key)).map Prod.snd

theorem lookup_cons (entry : κ × α) (rest : List (κ × α)) (key : κ) :
    lookup (entry :: rest) key = if entry.1 = key then some entry.2 else lookup rest key := by
  by_cases same : entry.1 = key
  · rw [if_pos same, lookup, List.find?_cons_of_pos (by simpa using same)]
    rfl
  · rw [if_neg same, lookup, List.find?_cons_of_neg (by simpa using same), lookup]

theorem lookup_is_some (items : List (κ × α)) (key : κ) : (lookup items key).isSome ↔ key ∈ items.map Prod.fst := by
  induction items with
  | nil => simp [lookup]
  | cons entry rest ih =>
      rw [lookup_cons, List.map_cons, List.mem_cons, ← ih]
      by_cases same : entry.1 = key
      · simp [same]
      · simp [same, Ne.symm same]

theorem lookup_none (items : List (κ × α)) (key : κ) (absent : key ∉ items.map Prod.fst) : lookup items key = none := by
  rw [← Option.not_isSome_iff_eq_none, lookup_is_some]
  exact absent

theorem lookup_eq_some (items : List (κ × α)) (distinct : (items.map Prod.fst).Nodup) (key : κ) (value : α) :
    lookup items key = some value ↔ ∃ entry ∈ items, entry.1 = key ∧ entry.2 = value := by
  induction items with
  | nil => simp [lookup]
  | cons entry rest ih =>
      obtain ⟨apart, restDistinct⟩ := List.nodup_cons.mp distinct
      rw [lookup_cons, List.exists_mem_cons_iff]
      by_cases same : entry.1 = key
      · rw [if_pos same]
        refine ⟨fun found => .inl ⟨same, Option.some.inj found⟩, fun found => ?_⟩
        cases found with
        | inl here => rw [here.2]
        | inr later =>
            obtain ⟨other, member, otherKey, _⟩ := later
            exact absurd (List.mem_map.mpr ⟨other, member, otherKey.trans same.symm⟩) apart
      · rw [if_neg same, ih restDistinct]
        exact ⟨.inr, fun found => found.resolve_left (fun here => same here.1)⟩

end Lookup

section Appends

variable {κ ν : Type} [LinearOrder κ]

theorem versions_put (table : HistoryTable κ ν) (key other : κ) (block version : Nat) (value : Option ν) :
    DupTable.versions (table.put (toLex (key, block)) value) other version =
      if other = key ∧ version = block then some value else table.versions other version := by
  rw [DupTable.versions, Table.get_put]
  by_cases same : other = key ∧ version = block
  · rw [if_pos same, if_pos (by rw [same.1, same.2])]
  · rw [if_neg same, if_neg (fun equal => same (by simpa using equal))]
    rfl

theorem append_dup_ok (table : HistoryTable κ ν) (block : Nat) (entry : κ × Option ν)
    (fresh : ∀ version, (table.versions entry.1 version).isSome → version < block) :
    appendDup table block entry = .ok (table.put (toLex (entry.1, block)) entry.2) := by
  rw [appendDup, if_pos]
  cases final : table.last (fun other _ => decide (other = entry.1)) with
  | none => rfl
  | some row =>
      obtain ⟨stored, passes, _⟩ := table.last_some _ _ final
      have same : row.key = entry.1 := by simpa using passes
      rw [same] at stored
      exact decide_eq_true (fresh row.subkey (by rw [stored]; rfl))

-- Entries with distinct keys, appended at a block above every version of these
-- keys, become the versions of that block.
theorem append_all (block : Nat) (items : List (κ × Option ν)) (distinct : (items.map Prod.fst).Nodup) (table : HistoryTable κ ν)
    (fresh : ∀ key ∈ items.map Prod.fst, ∀ version, (table.versions key version).isSome → version < block) :
    ∃ after, items.foldlM (fun table entry => appendDup table block entry) table = .ok after ∧
      ∀ key version, DupTable.versions after key version =
        if version = block then (lookup items key).or (table.versions key version) else table.versions key version := by
  induction items generalizing table with
  | nil =>
      refine ⟨table, rfl, fun key version => ?_⟩
      rw [lookup, List.find?_nil, Option.map_none, Option.none_or, ite_self]
  | cons entry rest ih =>
      obtain ⟨apart, restDistinct⟩ := List.nodup_cons.mp distinct
      have restFresh : ∀ key ∈ rest.map Prod.fst, ∀ version,
          (DupTable.versions (table.put (toLex (entry.1, block)) entry.2) key version).isSome → version < block := by
        intro key member version stored
        have different : ¬(key = entry.1 ∧ version = block) := fun same => apart (same.1 ▸ member)
        rw [versions_put, if_neg different] at stored
        exact fresh key (List.mem_cons_of_mem _ member) version stored
      obtain ⟨after, appended, versions⟩ := ih restDistinct _ restFresh
      refine ⟨after, ?_, fun key version => ?_⟩
      · rw [List.foldlM_cons, append_dup_ok table block entry (fresh entry.1 List.mem_cons_self)]
        exact appended
      · rw [versions, versions_put, lookup_cons]
        by_cases top : version = block
        · rw [if_pos top, if_pos top]
          by_cases same : entry.1 = key
          · rw [if_pos ⟨same.symm, top⟩, if_pos same, lookup_none rest key (same ▸ apart), Option.none_or, Option.some_or]
          · rw [if_neg (fun both => same both.1.symm), if_neg same]
        · rw [if_neg top, if_neg top, if_neg (fun both => top both.2)]

theorem table_keys_distinct {κ α : Type} [LinearOrder κ] (table : Table κ α) : (table.rows.map Prod.fst).Nodup :=
  List.pairwise_map.mpr (table.sorted.imp ne_of_lt)

-- A sorted batch appended above every version of the table.
theorem persist_appends (table : HistoryTable κ ν) (block : Nat) (items : Table κ (Option ν))
    (fresh : ∀ key version, (table.versions key version).isSome → version < block) :
    ∃ after, persistHistoryBatch table block items.rows true = .ok (after, items.rows.map Prod.fst) ∧
      ∀ key version, DupTable.versions after key version = if version = block then items.get key else table.versions key version := by
  obtain ⟨after, appended, versions⟩ := append_all block items.rows (table_keys_distinct items) table (fun key _ => fresh key)
  refine ⟨after, ?_, fun key version => ?_⟩
  · rw [persistHistoryBatch, if_pos rfl, appended]
    rfl
  · rw [versions]
    by_cases top : version = block
    · have nothing : table.versions key version = none := by
        rw [← Option.not_isSome_iff_eq_none]
        intro stored
        exact absurd (fresh key version stored) (by omega)
      rw [if_pos top, if_pos top, nothing, Option.or_none]
      rfl
    · rw [if_neg top, if_neg top]

end Appends

section Addresses

variable {σ ν : Type} [LinearOrder σ]

theorem lookup_in_address (address : B256) (entries : List (σ × Option ν)) (key : AddressKey σ) :
    lookup (inAddress address entries) key = if (ofLex key).1 = address then lookup entries (ofLex key).2 else none := by
  induction entries with
  | nil => simp [inAddress, lookup]
  | cons entry rest ih =>
      rw [show inAddress address (entry :: rest) = (toLex (address, entry.1), entry.2) :: inAddress address rest from rfl, lookup_cons,
        lookup_cons, ih]
      by_cases sameAddress : (ofLex key).1 = address
      · subst sameAddress
        rw [if_pos rfl, if_pos rfl]
        by_cases sameSub : entry.1 = (ofLex key).2
        · rw [if_pos sameSub, if_pos (by rw [sameSub]; rfl)]
        · rw [if_neg sameSub, if_neg (fun same => sameSub (congrArg (fun other => (ofLex other).2) same))]
      · rw [if_neg sameAddress, if_neg sameAddress, if_neg (fun same => sameAddress (congrArg (fun other => (ofLex other).1) same).symm)]

omit [LinearOrder σ] in
theorem in_address_distinct (address : B256) (entries : List (σ × Option ν)) (distinct : (entries.map Prod.fst).Nodup) :
    ((inAddress address entries).map Prod.fst).Nodup := by
  have moved : (inAddress address entries).map Prod.fst = (entries.map Prod.fst).map (fun sub => toLex (address, sub)) := by
    simp [inAddress, Function.comp_def]
  rw [moved]
  exact distinct.map (fun left right same => congrArg (fun key => (ofLex key).2) same)

-- What one address of a diff writes over a view: its own entries, and for a
-- wiped address tombstones at the other live keys.
def updateWrites (view : σ → Option ν) (update : AddressUpdate σ ν) (sub : σ) : Option (Option ν) :=
  (lookup update.entries sub).or (if update.wiped then (view sub).map (fun _ => none) else none)

theorem overlay_get (view : σ → Option ν) (liveEntries : List (σ × ν)) (entries : List (σ × Option ν))
    (distinct : (entries.map Prod.fst).Nodup) (lists : Lists view (fun _ => True) liveEntries) (sub : σ) :
    (overlay liveEntries entries).get sub = (lookup entries sub).or ((view sub).map (fun _ => none)) := by
  have wiped : (Table.putAll Prod.fst (fun _ => none) liveEntries (Table.empty : Table σ (Option ν))).get sub =
      (view sub).map (fun _ => none) := by
    rw [Table.get_put_all Prod.fst (fun _ => none) liveEntries Table.empty sub ((view sub).map (fun _ => none)), Table.get_empty, Option.or_none]
    intro hit
    rw [Option.map_eq_some_iff]
    constructor
    · rintro ⟨value, held, rfl⟩
      exact ⟨(sub, value), (lists.exactly sub value).mpr ⟨trivial, held⟩, rfl, rfl⟩
    · rintro ⟨⟨entrySub, value⟩, member, rfl, rfl⟩
      exact ⟨value, ((lists.exactly _ value).mp member).2, rfl⟩
  have own := Table.get_put_all Prod.fst Prod.snd entries (Table.putAll Prod.fst (fun _ => none) liveEntries (Table.empty : Table σ (Option ν)))
    sub (lookup entries sub) (fun hit => lookup_eq_some entries distinct sub hit)
  rw [wiped] at own
  exact own

-- Entries of one address appended above every version of that address.
theorem append_address (block : Nat) (address : B256) (entries : List (σ × Option ν)) (distinct : (entries.map Prod.fst).Nodup)
    (table : HistoryTable (AddressKey σ) ν)
    (fresh : ∀ sub version, (table.versions (toLex (address, sub)) version).isSome → version ≤ block) :
    ∃ after, (inAddress address entries).foldlM (fun table entry => appendDup table (block + 1) entry) table = .ok after ∧
      ∀ key version, DupTable.versions after key version =
        if version = block + 1 ∧ (ofLex key).1 = address then lookup entries (ofLex key).2 else table.versions key version := by
  obtain ⟨after, appended, versions⟩ := append_all (block + 1) (inAddress address entries) (in_address_distinct address entries distinct) table
    (by
      intro key member version stored
      obtain ⟨⟨other, value⟩, inEntries, rfl⟩ := List.mem_map.mp member
      obtain ⟨⟨sub, subValue⟩, _, same⟩ := List.mem_map.mp inEntries
      cases same
      exact Nat.lt_succ_of_le (fresh sub version stored))
  refine ⟨after, appended, fun key version => ?_⟩
  rw [versions, lookup_in_address]
  by_cases top : version = block + 1
  · by_cases same : (ofLex key).1 = address
    · have nothing : table.versions key version = none := by
        rw [← Option.not_isSome_iff_eq_none]
        intro stored
        have := fresh (ofLex key).2 version (by rw [← same]; exact stored)
        omega
      rw [if_pos top, if_pos same, if_pos ⟨top, same⟩, nothing, Option.or_none]
    · rw [if_pos top, if_neg same, if_neg (fun both => same both.2), Option.none_or]
  · rw [if_neg top, if_neg (fun both => top both.1)]

theorem mem_in_address (address : B256) (entries : List (σ × Option ν)) (key : AddressKey σ) :
    key ∈ (inAddress address entries).map Prod.fst ↔ (ofLex key).1 = address ∧ (lookup entries (ofLex key).2).isSome := by
  rw [← lookup_is_some, lookup_in_address]
  split
  · next same => simp [same]
  · next apart => simp [apart]

variable (visible : ν → Bool) (liveEntries : HistoryTable (AddressKey σ) ν → Nat → B256 → List (σ × ν))

-- A reader of live entries that finds exactly what the versions say.
def ReadsLive : Prop :=
  ∀ table block address, Lists (fun sub => live visible (DupTable.versions table (toLex (address, sub))) block) (fun _ => True)
    (liveEntries table block address)

theorem store_address_appends (reads : ReadsLive visible liveEntries) (block : Nat) (update : AddressUpdate σ ν)
    (distinct : (update.entries.map Prod.fst).Nodup) (state : HistoryTable (AddressKey σ) ν × List (AddressKey σ))
    (fresh : ∀ sub version, (DupTable.versions state.1 (toLex (update.hashedAddress, sub)) version).isSome → version ≤ block) :
    ∃ after keys, storeAddress liveEntries (block + 1) true state update = .ok (after, state.2 ++ keys) ∧
      (∀ key version, DupTable.versions after key version =
        if version = block + 1 ∧ (ofLex key).1 = update.hashedAddress then
          updateWrites (fun sub => live visible (DupTable.versions state.1 (toLex (update.hashedAddress, sub))) block) update (ofLex key).2
        else DupTable.versions state.1 key version) ∧
      ∀ key, key ∈ keys ↔ (ofLex key).1 = update.hashedAddress ∧
        (updateWrites (fun sub => live visible (DupTable.versions state.1 (toLex (update.hashedAddress, sub))) block) update
          (ofLex key).2).isSome := by
  by_cases wiped : update.wiped = true
  · have merged := overlay_get _ (liveEntries state.1 block update.hashedAddress) update.entries distinct
      (reads state.1 block update.hashedAddress)
    have same : ∀ sub, lookup (overlay (liveEntries state.1 block update.hashedAddress) update.entries).rows sub =
        updateWrites (fun sub => live visible (DupTable.versions state.1 (toLex (update.hashedAddress, sub))) block) update sub := by
      intro sub
      rw [updateWrites, if_pos wiped]
      exact merged sub
    obtain ⟨after, appended, versions⟩ := append_address block update.hashedAddress _ (table_keys_distinct _) state.1 fresh
    refine ⟨after, _, ?_, fun key version => by rw [versions, same], fun key => by rw [← same]; exact mem_in_address _ _ key⟩
    rw [storeAddress, wiped, Bool.and_true, if_pos rfl, wipeAndOverlay, Nat.add_sub_cancel]
    rw [show List.foldlM _ _ _ = _ from appended]
    rfl
  · have same : ∀ sub, lookup update.entries sub =
        updateWrites (fun sub => live visible (DupTable.versions state.1 (toLex (update.hashedAddress, sub))) block) update sub := by
      intro sub
      rw [updateWrites, if_neg wiped, Option.or_none]
    obtain ⟨after, appended, versions⟩ := append_address block update.hashedAddress update.entries distinct state.1 fresh
    refine ⟨after, _, ?_, fun key version => by rw [versions, same], fun key => by rw [← same]; exact mem_in_address _ _ key⟩
    rw [storeAddress, Bool.eq_false_iff.mpr wiped, Bool.and_false, if_neg (by decide), persistHistoryBatch, if_pos rfl]
    rw [show List.foldlM _ _ _ = _ from appended]
    rfl

def addressWrites (view : AddressKey σ → Option ν) (updates : List (AddressUpdate σ ν)) (key : AddressKey σ) : Option (Option ν) :=
  (updates.find? (fun update => update.hashedAddress = (ofLex key).1)).bind (fun update =>
    updateWrites (fun sub => view (toLex ((ofLex key).1, sub))) update (ofLex key).2)

theorem address_writes_cons (view : AddressKey σ → Option ν) (update : AddressUpdate σ ν) (rest : List (AddressUpdate σ ν))
    (key : AddressKey σ) :
    addressWrites view (update :: rest) key =
      if update.hashedAddress = (ofLex key).1 then updateWrites (fun sub => view (toLex ((ofLex key).1, sub))) update (ofLex key).2
      else addressWrites view rest key := by
  by_cases same : update.hashedAddress = (ofLex key).1
  · rw [if_pos same, addressWrites, List.find?_cons_of_pos (by simpa using same)]
    rfl
  · rw [if_neg same, addressWrites, List.find?_cons_of_neg (by simpa using same)]
    rfl

theorem address_writes_absent (view : AddressKey σ → Option ν) (updates : List (AddressUpdate σ ν)) (key : AddressKey σ)
    (absent : (ofLex key).1 ∉ updates.map AddressUpdate.hashedAddress) : addressWrites view updates key = none := by
  rw [addressWrites, List.find?_eq_none.mpr]
  · rfl
  · intro update member same
    exact absent (List.mem_map.mpr ⟨update, member, of_decide_eq_true same⟩)

-- By induction on the addresses: each one writes only below itself, so the
-- addresses still to come read the table as it was before the block.
theorem store_addresses_append (reads : ReadsLive visible liveEntries) (block : Nat) (table : HistoryTable (AddressKey σ) ν)
    (fresh : ∀ key version, (table.versions key version).isSome → version ≤ block) (updates : List (AddressUpdate σ ν))
    (distinct : (updates.map AddressUpdate.hashedAddress).Nodup) (entries : ∀ update ∈ updates, (update.entries.map Prod.fst).Nodup)
    (state : HistoryTable (AddressKey σ) ν × List (AddressKey σ))
    (untouched : ∀ key version, (ofLex key).1 ∈ updates.map AddressUpdate.hashedAddress →
      DupTable.versions state.1 key version = table.versions key version) :
    ∃ after keys, updates.foldlM (storeAddress liveEntries (block + 1) true) state = .ok (after, state.2 ++ keys) ∧
      (∀ key version, DupTable.versions after key version =
        if version = block + 1 then
          (addressWrites (fun key => live visible (table.versions key) block) updates key).or (DupTable.versions state.1 key version)
        else DupTable.versions state.1 key version) ∧
      ∀ key, key ∈ keys ↔ (addressWrites (fun key => live visible (table.versions key) block) updates key).isSome := by
  induction updates generalizing state with
  | nil =>
      refine ⟨state.1, [], by rw [List.append_nil]; rfl, fun key version => ?_, fun key => ?_⟩
      · rw [show addressWrites _ [] key = none from rfl, Option.none_or, ite_self]
      · simp [addressWrites]
  | cons update rest ih =>
      obtain ⟨apart, restDistinct⟩ := List.nodup_cons.mp distinct
      have own : ∀ sub version, DupTable.versions state.1 (toLex (update.hashedAddress, sub)) version =
          table.versions (toLex (update.hashedAddress, sub)) version := fun sub version => untouched _ version List.mem_cons_self
      obtain ⟨middle, keys, stored, versions, listed⟩ := store_address_appends visible liveEntries reads block update
        (entries update List.mem_cons_self) state (fun sub version present => fresh _ version (by rw [← own]; exact present))
      have before : (fun sub => live visible (DupTable.versions state.1 (toLex (update.hashedAddress, sub))) block) =
          fun sub => live visible (table.versions (toLex (update.hashedAddress, sub))) block := by
        funext sub
        rw [show DupTable.versions state.1 (toLex (update.hashedAddress, sub)) = _ from funext (own sub)]
      rw [before] at versions listed
      have elsewhere : ∀ key version, (ofLex key).1 ∈ rest.map AddressUpdate.hashedAddress →
          DupTable.versions middle key version = table.versions key version := by
        intro key version member
        have other : ¬(version = block + 1 ∧ (ofLex key).1 = update.hashedAddress) := fun both => apart (both.2 ▸ member)
        rw [versions, if_neg other, untouched key version (List.mem_cons_of_mem _ member)]
      obtain ⟨after, moreKeys, rested, moreVersions, moreListed⟩ := ih restDistinct
        (fun later member => entries later (List.mem_cons_of_mem _ member)) (middle, state.2 ++ keys) elsewhere
      refine ⟨after, keys ++ moreKeys, ?_, fun key version => ?_, fun key => ?_⟩
      · rw [List.foldlM_cons, stored, ← List.append_assoc]
        exact rested
      · rw [moreVersions, versions, address_writes_cons]
        by_cases top : version = block + 1
        · rw [if_pos top, if_pos top]
          by_cases same : update.hashedAddress = (ofLex key).1
          · have nothing : DupTable.versions state.1 key version = none := by
              rw [untouched key version (by rw [← same]; exact List.mem_cons_self), ← Option.not_isSome_iff_eq_none]
              intro present
              have := fresh key version present
              omega
            rw [if_pos same, if_pos ⟨top, same.symm⟩, nothing, Option.or_none, address_writes_absent _ rest key (same ▸ apart), Option.none_or,
              same]
          · rw [if_neg same, if_neg (fun both => same both.2.symm)]
        · rw [if_neg top, if_neg top, if_neg (fun both => top both.1)]
      · rw [List.mem_append, listed, moreListed, address_writes_cons]
        by_cases same : update.hashedAddress = (ofLex key).1
        · rw [if_pos same, address_writes_absent _ rest key (same ▸ apart), same]
          simp
        · rw [if_neg same]
          simp [Ne.symm same]

end Addresses

end MorphReth.Proofs
