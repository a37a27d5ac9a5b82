import MorphReth.Proofs.Writes

set_option autoImplicit false

namespace MorphReth.Proofs

section Deletes

variable {κ ν : Type} [LinearOrder κ] (table : HistoryTable κ ν)

theorem versions_delete (key other : κ) (block version : Nat) :
    DupTable.versions (table.delete (toLex (key, block))) other version =
      if other = key ∧ version = block then none else table.versions other version := by
  rw [DupTable.versions, Table.get_delete]
  by_cases same : other = key ∧ version = block
  · rw [if_pos same, if_pos (by rw [same.1, same.2])]
  · rw [if_neg same, if_neg (fun equal => same (by simpa using equal))]
    rfl

theorem delete_dup_versions (entry : κ × Nat) (key : κ) (version : Nat) :
    DupTable.versions (deleteDup table entry) key version = if (key, version) = entry then none else table.versions key version := by
  obtain ⟨entryKey, block⟩ := entry
  -- a row that is not there needs no deletion
  have absent (missing : table.versions entryKey block = none) :
      table.versions key version = if (key, version) = (entryKey, block) then none else table.versions key version := by
    split
    · next same =>
        cases same
        exact missing
    · rfl
  rw [deleteDup]
  cases found : table.first (fun other version => decide (other = entryKey) && decide (block ≤ version)) with
  | none => exact absent (table.first_none _ found entryKey block (by simp))
  | some row =>
      obtain ⟨stored, passes, least⟩ := table.first_some _ _ found
      rw [Bool.and_eq_true, decide_eq_true_eq, decide_eq_true_eq] at passes
      by_cases exactly : row.subkey = block
      · simp only [exactly, if_true]
        rw [versions_delete]
        simp only [Prod.mk.injEq]
      · simp only [exactly, if_false]
        refine absent ?_
        rw [Option.eq_none_iff_forall_ne_some]
        intro value present
        cases least entryKey block value present (by simp) with
        | inl less => exact absurd passes.1 (ne_of_lt less)
        | inr same => omega

theorem delete_dup_sorted_versions (items : List (κ × Nat)) (table : HistoryTable κ ν) (key : κ) (version : Nat) :
    DupTable.versions (deleteDupSorted table items) key version = if (key, version) ∈ items then none else table.versions key version := by
  induction items generalizing table with
  | nil => rfl
  | cons entry rest ih =>
      rw [deleteDupSorted, List.foldl_cons]
      change DupTable.versions (deleteDupSorted (deleteDup table entry) rest) key version = _
      rw [ih, delete_dup_versions]
      by_cases inRest : (key, version) ∈ rest
      · rw [if_pos inRest, if_pos (List.mem_cons_of_mem _ inRest)]
      · rw [if_neg inRest]
        by_cases same : (key, version) = entry
        · rw [if_pos same, if_pos (same ▸ List.mem_cons_self)]
        · rw [if_neg same, if_neg (fun member => (List.mem_cons.mp member).elim same inRest)]

theorem mem_collect_history (keysOf : ChangeSet → List κ) (changeSets : List (Nat × ChangeSet)) (key : κ) (block : Nat) :
    (key, block) ∈ ProofsDb.collectHistory keysOf changeSets ↔ ∃ changeSet, (block, changeSet) ∈ changeSets ∧ key ∈ keysOf changeSet := by
  rw [ProofsDb.collectHistory, List.mem_map]
  constructor
  · rintro ⟨place, member, same⟩
    rw [List.mem_insertionSort, List.mem_flatMap] at member
    obtain ⟨⟨number, changeSet⟩, inSets, inKeys⟩ := member
    obtain ⟨listed, inChangeSet, rfl⟩ := List.mem_map.mp inKeys
    cases same
    exact ⟨changeSet, inSets, inChangeSet⟩
  · rintro ⟨changeSet, inSets, inChangeSet⟩
    refine ⟨toLex (key, block), ?_, rfl⟩
    rw [List.mem_insertionSort, List.mem_flatMap]
    exact ⟨(block, changeSet), inSets, List.mem_map.mpr ⟨key, inChangeSet, rfl⟩⟩

-- What pruning up to a survivor leaves of a key's versions.
def prunedAt (versions : Nat → Option (Option ν)) (survivor version : Nat) : Option (Option ν) :=
  if version < survivor then none else if version = survivor then (versions survivor).filter Option.isSome else versions version

theorem pruned_at_congr (left right : Nat → Option (Option ν)) (survivor version : Nat)
    (same : ∀ version, survivor ≤ version → left version = right version) :
    prunedAt left survivor version = prunedAt right survivor version := by
  rw [prunedAt, prunedAt, same survivor (Nat.le_refl _)]
  split
  · rfl
  · next reached => rw [same version (by omega)]

-- With nothing below the survivor only its own tombstone can go.
theorem pruned_at_first (versions : Nat → Option (Option ν)) (survivor version : Nat)
    (nothing : ∀ version, version < survivor → versions version = none) :
    prunedAt versions survivor version = if version = survivor then (versions survivor).filter Option.isSome else versions version := by
  rw [prunedAt]
  split
  · next below => rw [if_neg (by omega), nothing version below]
  · rfl

-- The rows a deleting cursor still has ahead are all the versions that are left
-- of its key, oldest first.
structure RowsAhead (table : HistoryTable κ ν) (key : κ) (rows : List (DupRow κ (Option ν))) : Prop where
  ordered : rows.Pairwise (fun earlier later => earlier.subkey < later.subkey)
  exactly : ∀ version value, table.versions key version = some value ↔ ⟨key, version, value⟩ ∈ rows
  sameKey : ∀ row ∈ rows, row.key = key

section Ahead

variable (table : HistoryTable κ ν) (key : κ) (survivor : Nat)

theorem ahead_nil (ahead : RowsAhead table key []) (version : Nat) : table.versions key version = none := by
  rw [Option.eq_none_iff_forall_ne_some]
  intro value stored
  cases (ahead.exactly version value).mp stored

variable (entry : DupRow κ (Option ν)) (rest : List (DupRow κ (Option ν))) (ahead : RowsAhead table key (entry :: rest))

include ahead

theorem ahead_first : table.versions key entry.subkey = some entry.value := by
  rw [ahead.exactly, ← ahead.sameKey entry List.mem_cons_self]
  exact List.mem_cons_self

theorem ahead_none_below (version : Nat) (below : version < entry.subkey) : table.versions key version = none := by
  rw [Option.eq_none_iff_forall_ne_some]
  intro value present
  cases List.mem_cons.mp ((ahead.exactly version value).mp present) with
  | inl first => exact absurd (congrArg DupRow.subkey first) (ne_of_lt below)
  | inr inRest => exact absurd ((List.pairwise_cons.mp ahead.ordered).1 _ inRest) (Nat.lt_asymm below)

theorem ahead_delete : RowsAhead (table.delete (toLex (key, entry.subkey))) key rest := by
  obtain ⟨later, restOrdered⟩ := List.pairwise_cons.mp ahead.ordered
  refine ⟨restOrdered, fun version value => ?_, fun row member => ahead.sameKey row (List.mem_cons_of_mem _ member)⟩
  rw [versions_delete]
  by_cases here : version = entry.subkey
  · rw [if_pos ⟨rfl, here⟩]
    exact ⟨fun found => (by cases found), fun inRest => absurd here.symm (ne_of_lt (later _ inRest))⟩
  · rw [if_neg (fun both => here both.2), ahead.exactly, List.mem_cons]
    exact or_iff_right (fun first => here (congrArg DupRow.subkey first))

-- At the survivor or behind it only the survivor's own tombstone goes.
theorem pruned_at_reached (reached : survivor ≤ entry.subkey) (version : Nat) :
    prunedAt (table.versions key) survivor version =
      if entry.subkey = survivor ∧ entry.value.isNone ∧ version = entry.subkey then none else table.versions key version := by
  rw [pruned_at_first _ survivor version (fun low below => ahead_none_below table key entry rest ahead low (Nat.lt_of_lt_of_le below reached))]
  by_cases atSurvivor : version = survivor
  · subst atSurvivor
    rw [if_pos rfl]
    by_cases exactly : entry.subkey = version
    · rw [← exactly, ahead_first table key entry rest ahead]
      cases entry.value with
      | none => simp
      | some value => simp
    · rw [ahead_none_below table key entry rest ahead version (Nat.lt_of_le_of_ne reached (Ne.symm exactly)), if_neg (fun both => exactly both.1)]
      rfl
  · rw [if_neg atSurvivor, if_neg (fun both => atSurvivor (both.2.2.trans both.1))]

end Ahead

-- By induction on the rows of the key still ahead of the cursor.
theorem prune_preceding_key (key : κ) (survivor : Nat) (rows : List (DupRow κ (Option ν))) (table : HistoryTable κ ν)
    (ahead : RowsAhead table key rows) (other : κ) (version : Nat) :
    DupTable.versions (prunePrecedingKey key survivor rows table).1 other version =
      if other = key then prunedAt (table.versions key) survivor version else table.versions other version := by
  induction rows generalizing table with
  | nil =>
      rw [prunePrecedingKey]
      by_cases same : other = key
      · rw [if_pos same, same, prunedAt, ahead_nil table key ahead, ahead_nil table key ahead]
        simp
      · rw [if_neg same]
  | cons entry rest ih =>
      rw [prunePrecedingKey]
      by_cases reached : survivor ≤ entry.subkey
      · rw [if_pos reached, pruned_at_reached table key survivor entry rest ahead reached]
        by_cases tombstone : entry.subkey = survivor ∧ entry.value.isNone
        · rw [if_pos tombstone, versions_delete]
          by_cases same : other = key
          · simp [same, tombstone]
          · simp [same]
        · rw [if_neg tombstone]
          by_cases same : other = key
          · rw [if_pos same, same, if_neg (fun both => tombstone ⟨both.1, both.2.1⟩)]
          · rw [if_neg same]
      · rw [if_neg reached, ih _ (ahead_delete table key entry rest ahead)]
        by_cases same : other = key
        · rw [if_pos same, if_pos same]
          apply pruned_at_congr _ _ survivor version
          intro low atLeast
          rw [versions_delete, if_neg (by omega)]
        · rw [if_neg same, if_neg same, versions_delete, if_neg (fun both => same both.1)]

theorem dups_ordered (key : κ) : (dupsOf table key).Pairwise (fun earlier later => earlier.subkey < later.subkey) := by
  refine List.pairwise_map.mpr (((table.sorted.filter _).imp_of_mem ?_))
  intro earlier later inEarlier inLater less
  have earlierKey : (ofLex earlier.1).1 = key := by simpa using (List.mem_filter.mp inEarlier).2
  have laterKey : (ofLex later.1).1 = key := by simpa using (List.mem_filter.mp inLater).2
  cases Prod.Lex.lt_iff.mp less with
  | inl lower => exact absurd (earlierKey.trans laterKey.symm) (ne_of_lt lower)
  | inr same => exact same.2

theorem mem_dups (key : κ) (version : Nat) (value : Option ν) :
    table.versions key version = some value ↔ ⟨key, version, value⟩ ∈ dupsOf table key := by
  rw [table.mem_rows, dupsOf, List.mem_map]
  constructor
  · intro member
    exact ⟨_, List.mem_filter.mpr ⟨member, by simp⟩, rfl⟩
  · rintro ⟨⟨place, stored⟩, member, same⟩
    cases same
    exact (List.mem_filter.mp member).1

theorem dups_key (key : κ) (row : DupRow κ (Option ν)) (member : row ∈ dupsOf table key) : row.key = key := by
  obtain ⟨entry, inRows, rfl⟩ := List.mem_map.mp member
  exact of_decide_eq_true (List.mem_filter.mp inRows).2

theorem dups_ahead (key : κ) : RowsAhead table key (dupsOf table key) :=
  ⟨dups_ordered table key, mem_dups table key, dups_key table key⟩

theorem prune_history_versions (items : List (κ × Nat)) (distinct : (items.map Prod.fst).Nodup) (state : HistoryTable κ ν × Nat) (key : κ)
    (version : Nat) :
    DupTable.versions (items.foldl (fun state item =>
        let pruned := prunePrecedingKey item.1 item.2 (dupsOf state.1 item.1) state.1
        (pruned.1, state.2 + pruned.2)) state).1 key version =
      (lookup items key).elim (DupTable.versions state.1 key version)
        (fun survivor => prunedAt (DupTable.versions state.1 key) survivor version) := by
  induction items generalizing state with
  | nil => rfl
  | cons item rest ih =>
      obtain ⟨apart, restDistinct⟩ := List.nodup_cons.mp distinct
      have step := prune_preceding_key item.1 item.2 (dupsOf state.1 item.1) state.1 (dups_ahead state.1 item.1)
      rw [List.foldl_cons, ih restDistinct, lookup_cons]
      by_cases same : item.1 = key
      · rw [if_pos same, lookup_none rest key (same ▸ apart), Option.elim_none, Option.elim_some, ← same]
        exact (step item.1 version).trans (if_pos rfl)
      · rw [if_neg same]
        have unchanged : DupTable.versions (prunePrecedingKey item.1 item.2 (dupsOf state.1 item.1) state.1).1 key = DupTable.versions state.1 key :=
          funext fun version => (step key version).trans (if_neg (Ne.symm same))
        change (lookup rest key).elim (DupTable.versions (prunePrecedingKey item.1 item.2 (dupsOf state.1 item.1) state.1).1 key version) _ = _
        rw [unchanged]

end Deletes

section ChangeSets

open ProofsDb

variable {κ : Type} [LinearOrder κ]

theorem or_insert_get (block : Nat) (keys : List κ) (candidates : Table κ Nat) (key : κ) :
    (keys.foldl (orInsert block) candidates).get key = (candidates.get key).or (if key ∈ keys then some block else none) := by
  induction keys generalizing candidates with
  | nil => simp
  | cons first rest ih =>
      rw [List.foldl_cons, ih, orInsert]
      by_cases held : (candidates.get first).isSome
      · rw [if_pos held]
        by_cases same : key = first
        · obtain ⟨value, found⟩ := Option.isSome_iff_exists.mp held
          rw [same, found, Option.some_or, Option.some_or]
        · simp [same]
      · rw [if_neg held, Table.get_put]
        by_cases same : key = first
        · rw [if_pos same, same, Option.not_isSome_iff_eq_none.mp held]
          simp
        · simp [same]

-- The candidate of a key is the block of the first row of the walk that names
-- it.
theorem survivors_first (keysOf : ChangeSet → List κ) (walked : List (Nat × ChangeSet)) (key : κ) :
    lookup (survivors keysOf walked) key = (walked.find? (fun row => key ∈ keysOf row.2)).map Prod.fst := by
  have first : ∀ (rows : List (Nat × ChangeSet)) (candidates : Table κ Nat),
      (rows.foldl (fun candidates row => (keysOf row.2).foldl (orInsert row.1) candidates) candidates).get key =
        (candidates.get key).or ((rows.find? (fun row => key ∈ keysOf row.2)).map Prod.fst) := by
    intro rows
    induction rows with
    | nil => simp
    | cons row rest ih =>
        intro candidates
        rw [List.foldl_cons, ih, or_insert_get, Option.or_assoc, List.find?_cons]
        by_cases named : key ∈ keysOf row.2
        · simp [named]
        · simp [named]
  exact (first walked Table.empty).trans Option.none_or

theorem survivors_distinct (keysOf : ChangeSet → List κ) (walked : List (Nat × ChangeSet)) :
    ((survivors keysOf walked).map Prod.fst).Nodup :=
  table_keys_distinct _

-- From a present start the backward walk sees the rows up to it, newest first.
theorem walk_back_present {α : Type} (table : Table Nat α) (start : Nat) (present : (table.get start).isSome) :
    walkBack table start = (table.rows.filter (fun row => row.1 ≤ start)).reverse := by
  obtain ⟨value, stored⟩ := Option.isSome_iff_exists.mp present
  have inRows := (table.get_eq_some start value).mp stored
  rw [walkBack]
  cases found : table.rows.find? (fun row => decide (start ≤ row.1)) with
  | none => exact absurd (decide_eq_true (Nat.le_refl start)) (List.find?_eq_none.mp found _ inRows)
  | some first =>
      obtain ⟨_, reaches, least⟩ := table.find_least _ _ found
      have exactly : first.1 = start := Nat.le_antisymm (least _ inRows (decide_eq_true (Nat.le_refl start))) (of_decide_eq_true reaches)
      simp only [exactly]

section Walked

variable {α : Type} (table : Table Nat α) (lower start : Nat) (present : (table.get start).isSome)

include present

theorem walked_descends :
    ((walkBack table start).takeWhile (fun row => decide (lower < row.1))).Pairwise (fun earlier later => later.1 < earlier.1) := by
  rw [walk_back_present table start present]
  exact (List.pairwise_reverse.mpr (table.sorted.filter _)).sublist (List.takeWhile_sublist _)

theorem mem_walked (row : Nat × α) :
    row ∈ (walkBack table start).takeWhile (fun row => decide (lower < row.1)) ↔ row ∈ table.rows ∧ lower < row.1 ∧ row.1 ≤ start := by
  have descends : (walkBack table start).Pairwise (fun earlier later => later.1 < earlier.1) := by
    rw [walk_back_present table start present]
    exact List.pairwise_reverse.mpr (table.sorted.filter _)
  rw [take_while_eq_filter _ _ (descends.imp fun less passes => by simp only [decide_eq_true_eq] at passes ⊢; omega),
    walk_back_present table start present, List.mem_filter, List.mem_reverse, List.mem_filter, decide_eq_true_eq, decide_eq_true_eq, and_assoc,
    and_comm (a := row.1 ≤ start)]

end Walked

theorem get_delete_change_sets (table : Table Nat ChangeSet) (inRange : Nat → Bool) (number : Nat) :
    (deleteChangeSets table inRange).get number = if inRange number then none else table.get number := by
  rw [deleteChangeSets, Table.get_foldl_delete]
  by_cases chosen : inRange number = true
  · rw [if_pos chosen]
    split
    · rfl
    · next absent =>
        rw [Option.eq_none_iff_forall_ne_some]
        intro changeSet stored
        exact absent (List.mem_filter.mpr ⟨List.mem_map.mpr ⟨_, (table.get_eq_some _ _).mp stored, rfl⟩, chosen⟩)
  · rw [if_neg chosen, if_neg (fun member => chosen (List.mem_filter.mp member).2)]

end ChangeSets

end MorphReth.Proofs
