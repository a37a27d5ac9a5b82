import Mathlib.Data.List.Nodup

set_option autoImplicit false

namespace MorphReth

section Grouping

variable {α κ : Type} [DecidableEq κ]

-- A map from keys to lists, as an association list: an item is appended to the
-- list of its key, which is created when it is missing.
def pushGroup (key : α → κ) (groups : List (κ × List α)) (item : α) : List (κ × List α) :=
  if key item ∈ groups.map Prod.fst then
    groups.map (fun group => if group.1 = key item then (group.1, group.2 ++ [item]) else group)
  else groups ++ [(key item, [item])]

def groupItems (key : α → κ) (items : List α) : List (κ × List α) :=
  items.foldl (pushGroup key) []

structure Grouped (key : α → κ) (items : List α) (groups : List (κ × List α)) : Prop where
  distinct : (groups.map Prod.fst).Nodup
  keys : ∀ wanted, wanted ∈ groups.map Prod.fst ↔ ∃ item ∈ items, key item = wanted
  members : ∀ group ∈ groups, group.2 = items.filter (fun item => key item = group.1)

variable (key : α → κ)

theorem push_group_keys (groups : List (κ × List α)) (item : α) :
    (pushGroup key groups item).map Prod.fst =
      if key item ∈ groups.map Prod.fst then groups.map Prod.fst else groups.map Prod.fst ++ [key item] := by
  rw [pushGroup]
  split
  · rw [List.map_map]
    apply List.map_congr_left
    intro group _
    simp only [Function.comp_apply]
    split <;> rfl
  · rw [List.map_append, List.map_singleton]

theorem push_group_members (items : List α) (groups : List (κ × List α)) (item : α) (grouped : Grouped key items groups)
    (group : κ × List α) (member : group ∈ pushGroup key groups item) :
    group.2 = (items ++ [item]).filter (fun other => key other = group.1) := by
  rw [pushGroup] at member
  rw [List.filter_append]
  split at member
  · obtain ⟨before, present, rfl⟩ := List.mem_map.mp member
    have same := grouped.members before present
    by_cases own : before.1 = key item
    · have last : [item].filter (fun other => key other = before.1) = [item] := by simp [own]
      rw [if_pos own, last, ← same]
    · have last : [item].filter (fun other => key other = before.1) = [] := by simp [Ne.symm own]
      rw [if_neg own, last, List.append_nil, ← same]
  · next fresh =>
      rcases List.mem_append.mp member with earlier | created
      · have last : [item].filter (fun other => key other = group.1) = [] := by
          have other : key item ≠ group.1 := fun same => fresh (same ▸ List.mem_map_of_mem earlier)
          simp [other]
        rw [last, List.append_nil, grouped.members group earlier]
      · have none : items.filter (fun other => key other = key item) = [] := by
          rw [List.filter_eq_nil_iff]
          intro other present same
          exact fresh ((grouped.keys _).mpr ⟨other, present, of_decide_eq_true same⟩)
        rw [List.mem_singleton.mp created, none]
        simp

theorem grouped_push (items : List α) (groups : List (κ × List α)) (item : α) (grouped : Grouped key items groups) :
    Grouped key (items ++ [item]) (pushGroup key groups item) where
  distinct := by
    rw [push_group_keys]
    split
    · exact grouped.distinct
    · next fresh => exact List.Nodup.append grouped.distinct (List.nodup_singleton _) (List.disjoint_singleton.mpr fresh)
  keys wanted := by
    rw [push_group_keys]
    split
    · next known =>
        rw [grouped.keys]
        constructor
        · rintro ⟨other, member, rfl⟩
          exact ⟨other, List.mem_append_left _ member, rfl⟩
        · rintro ⟨other, member, rfl⟩
          rcases List.mem_append.mp member with earlier | last
          · exact ⟨other, earlier, rfl⟩
          · rw [List.mem_singleton.mp last]
            exact (grouped.keys _).mp known
    · simp [grouped.keys, or_and_right, exists_or, eq_comm]
  members := push_group_members key items groups item grouped

theorem grouped_fold (items done : List α) (groups : List (κ × List α)) (grouped : Grouped key done groups) :
    Grouped key (done ++ items) (items.foldl (pushGroup key) groups) := by
  induction items generalizing done groups with
  | nil =>
      rw [List.append_nil]
      exact grouped
  | cons item items ih =>
      have pushed := ih (done ++ [item]) (pushGroup key groups item) (grouped_push key done groups item grouped)
      rw [List.append_assoc, List.singleton_append] at pushed
      exact pushed

theorem group_items_grouped (items : List α) : Grouped key items (groupItems key items) :=
  grouped_fold key items [] [] ⟨List.nodup_nil, by simp, by simp⟩

-- A loop over the groups is a loop over the keys.
theorem Grouped.flatMap_eq {γ : Type} (items : List α) (groups : List (κ × List α)) (grouped : Grouped key items groups)
    (visit : κ → List α → List γ) :
    groups.flatMap (fun group => visit group.1 group.2) =
      (groups.map Prod.fst).flatMap (fun wanted => visit wanted (items.filter (fun item => key item = wanted))) := by
  rw [List.flatMap_map]
  apply List.flatMap_congr
  intro group member
  rw [grouped.members group member]

end Grouping

end MorphReth
