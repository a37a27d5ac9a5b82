import Mathlib.Order.Basic

set_option autoImplicit false

namespace MorphReth

section Versions

variable {ν : Type}

-- A key's versions are a partial function of the version number; reading at a
-- bound takes the greatest version not above it.
def latest (versions : Nat → Option ν) : Nat → Option ν
  | 0 => versions 0
  | bound + 1 => (versions (bound + 1)).or (latest versions bound)

theorem latest_congr (left right : Nat → Option ν) (bound : Nat) (same : ∀ version ≤ bound, left version = right version) :
    latest left bound = latest right bound := by
  induction bound with
  | zero => exact same 0 (Nat.le_refl 0)
  | succ bound ih =>
      rw [latest, latest, same (bound + 1) (Nat.le_refl _), ih (fun version atMost => same version (Nat.le_succ_of_le atMost))]

variable (versions : Nat → Option ν)

theorem latest_eq_none (bound : Nat) : latest versions bound = none ↔ ∀ version ≤ bound, versions version = none := by
  induction bound with
  | zero => exact ⟨fun absent version atMost => by rw [Nat.le_zero.mp atMost]; exact absent, fun absent => absent 0 (Nat.le_refl 0)⟩
  | succ bound ih =>
      rw [latest, Option.or_eq_none_iff, ih]
      constructor
      · intro absent version atMost
        cases Nat.le_succ_iff.mp atMost with
        | inl lower => exact absent.2 version lower
        | inr top =>
            rw [top]
            exact absent.1
      · intro absent
        exact ⟨absent _ (Nat.le_refl _), fun version atMost => absent version (Nat.le_succ_of_le atMost)⟩

-- The read above a version that nothing follows up to the bound.
theorem latest_eq_of_gap (version bound : Nat) (atMost : version ≤ bound)
    (gap : ∀ later, version < later → later ≤ bound → versions later = none) : latest versions bound = latest versions version := by
  induction bound with
  | zero => rw [Nat.le_zero.mp atMost]
  | succ bound ih =>
      cases Nat.le_succ_iff.mp atMost with
      | inl lower =>
          rw [latest, gap (bound + 1) (Nat.lt_succ_of_le lower) (Nat.le_refl _), Option.none_or]
          exact ih lower (fun later above within => gap later above (Nat.le_succ_of_le within))
      | inr top => rw [top]

theorem latest_present (version : Nat) (value : ν) (stored : versions version = some value) : latest versions version = some value := by
  cases version with
  | zero => exact stored
  | succ version => rw [latest, stored, Option.some_or]

theorem latest_eq_some (bound : Nat) (value : ν) :
    latest versions bound = some value ↔
      ∃ version ≤ bound, versions version = some value ∧ ∀ later, version < later → later ≤ bound → versions later = none := by
  constructor
  · induction bound with
    | zero => exact fun found => ⟨0, Nat.le_refl 0, found, fun later above within => by omega⟩
    | succ bound ih =>
        intro found
        rw [latest, Option.or_eq_some_iff] at found
        cases found with
        | inl top => exact ⟨bound + 1, Nat.le_refl _, top, fun later above within => by omega⟩
        | inr lower =>
            obtain ⟨version, atMost, stored, gap⟩ := ih lower.2
            refine ⟨version, Nat.le_succ_of_le atMost, stored, fun later above within => ?_⟩
            cases Nat.le_succ_iff.mp within with
            | inl inside => exact gap later above inside
            | inr top =>
                rw [top]
                exact lower.1
  · rintro ⟨version, atMost, stored, gap⟩
    rw [latest_eq_of_gap versions version bound atMost gap, latest_present versions version value stored]

end Versions

section Live

variable {ν : Type}

-- Versions that may be tombstones, and values that count as absent although
-- they are stored.
def live (visible : ν → Bool) (versions : Nat → Option (Option ν)) (bound : Nat) : Option ν :=
  (latest versions bound).join.filter visible

variable (visible : ν → Bool)

theorem live_congr (left right : Nat → Option (Option ν)) (bound : Nat) (same : ∀ version ≤ bound, left version = right version) :
    live visible left bound = live visible right bound := by
  rw [live, live, latest_congr left right bound same]

theorem live_succ (versions : Nat → Option (Option ν)) (bound : Nat) :
    live visible versions (bound + 1) = (versions (bound + 1)).elim (live visible versions bound) (fun value => value.filter visible) := by
  rw [live, latest]
  cases versions (bound + 1) with
  | none => rfl
  | some value => rfl

-- Dropping everything below a version, and the version itself when it is a
-- tombstone, is not seen from that version on.
theorem live_pruned (versions pruned : Nat → Option (Option ν)) (survivor bound : Nat) (atMost : survivor ≤ bound)
    (kept : ∀ version, survivor < version → pruned version = versions version)
    (removed : ∀ version, version < survivor → pruned version = none)
    (stored : (versions survivor).isSome) (atSurvivor : pruned survivor = (versions survivor).filter Option.isSome) :
    live visible pruned bound = live visible versions bound := by
  induction bound with
  | zero =>
      obtain rfl := Nat.le_zero.mp atMost
      rw [live, live, latest, latest, atSurvivor]
      cases versions 0 with
      | none => rfl
      | some value => cases value <;> rfl
  | succ bound ih =>
      cases Nat.le_succ_iff.mp atMost with
      | inl lower =>
          rw [live_succ, live_succ, kept (bound + 1) (Nat.lt_succ_of_le lower), ih lower]
      | inr top =>
          subst top
          have nothing : live visible pruned bound = none := by
            rw [live, (latest_eq_none pruned bound).mpr (fun version within => removed version (Nat.lt_succ_of_le within))]
            rfl
          rw [live_succ, live_succ, atSurvivor, nothing]
          cases found : versions (bound + 1) with
          | none =>
              rw [found] at stored
              cases stored
          | some value => cases value <;> rfl

-- Pruning the versions above one number up to another keeps the newest of them,
-- unless it is a tombstone, and drops what it covers; where there is none, the
-- versions at and below the first number stay.
structure PrunedTo (before after : Nat → Option (Option ν)) (earliest target : Nat) : Prop where
  above : ∀ version, target < version → after version = before version
  covered : ∀ version later, version < later → earliest < later → later ≤ target → (before later).isSome → after version = none
  newest : ∀ version, earliest < version → version ≤ target → (∀ later, version < later → later ≤ target → before later = none) →
    after version = (before version).filter Option.isSome
  untouched : ∀ version, version ≤ earliest → (∀ later, earliest < later → later ≤ target → before later = none) →
    after version = before version

theorem pruned_refl (versions : Nat → Option (Option ν)) (earliest : Nat) : PrunedTo versions versions earliest earliest where
  above _ _ := rfl
  covered _ _ _ above atMost _ := absurd above (Nat.not_lt_of_le atMost)
  newest _ above atMost _ := absurd above (Nat.not_lt_of_le atMost)
  untouched _ _ _ := rfl

section Pruned

variable (before after : Nat → Option (Option ν)) (earliest target : Nat) (pruned : PrunedTo before after earliest target)

include pruned

-- Nothing in the pruned range, nothing dropped.
theorem pruned_quiet (quiet : ∀ later, earliest < later → later ≤ target → before later = none) (version : Nat) :
    after version = before version := by
  by_cases beyond : target < version
  · exact pruned.above version beyond
  · by_cases above : earliest < version
    · have atMost : version ≤ target := Nat.le_of_not_lt beyond
      rw [pruned.newest version above atMost (fun later more within => quiet later (Nat.lt_trans above more) within), quiet version above atMost]
      rfl
    · exact pruned.untouched version (Nat.le_of_not_lt above) quiet

theorem pruned_unique (other : Nat → Option (Option ν)) (alike : PrunedTo before other earliest target) : after = other := by
  funext version
  by_cases beyond : target < version
  · rw [pruned.above version beyond, alike.above version beyond]
  · by_cases covered : ∃ later, version < later ∧ earliest < later ∧ later ≤ target ∧ (before later).isSome
    · obtain ⟨later, more, above, within, stored⟩ := covered
      rw [pruned.covered version later more above within stored, alike.covered version later more above within stored]
    · have nothing : ∀ later, version < later → earliest < later → later ≤ target → before later = none := fun later more above within =>
        Option.not_isSome_iff_eq_none.mp (fun stored => covered ⟨later, more, above, within, stored⟩)
      by_cases above : earliest < version
      · have gap := fun later more within => nothing later more (Nat.lt_trans above more) within
        have atMost : version ≤ target := Nat.le_of_not_lt beyond
        rw [pruned.newest version above atMost gap, alike.newest version above atMost gap]
      · have quiet := fun later more within => nothing later (Nat.lt_of_le_of_lt (Nat.le_of_not_lt above) more) more within
        rw [pruned_quiet before after earliest target pruned quiet, pruned_quiet before other earliest target alike quiet]

theorem pruned_stored (version : Nat) (stored : (after version).isSome) : (before version).isSome := by
  by_cases covered : ∃ later, version < later ∧ earliest < later ∧ later ≤ target ∧ (before later).isSome
  · obtain ⟨later, more, above, within, present⟩ := covered
    rw [pruned.covered version later more above within present] at stored
    cases stored
  · have nothing : ∀ later, version < later → earliest < later → later ≤ target → before later = none := fun later more above within =>
      Option.not_isSome_iff_eq_none.mp (fun present => covered ⟨later, more, above, within, present⟩)
    by_cases inside : earliest < version ∧ version ≤ target
    · rw [pruned.newest version inside.1 inside.2 (fun later more within => nothing later more (Nat.lt_trans inside.1 more) within)] at stored
      cases found : before version with
      | none => simp [found] at stored
      | some value => rfl
    · by_cases beyond : target < version
      · rwa [← pruned.above version beyond]
      · have low : version ≤ earliest := by omega
        rwa [← pruned.untouched version low (fun later more within => nothing later (Nat.lt_of_le_of_lt low more) more within)]

theorem pruned_trans (final : Nat → Option (Option ν)) (last : Nat) (next : PrunedTo after final target last) (first : earliest ≤ target)
    (second : target ≤ last) : PrunedTo before final earliest last where
  above version beyond := (next.above version beyond).trans (pruned.above version (Nat.lt_of_le_of_lt second beyond))
  covered version later more above within stored := by
    by_cases beyond : target < later
    · exact next.covered version later more beyond within (by rwa [pruned.above later beyond])
    · have gone := pruned.covered version later more above (Nat.le_of_not_lt beyond) stored
      by_cases again : ∃ newer, target < newer ∧ newer ≤ last ∧ (after newer).isSome
      · obtain ⟨newer, newerAbove, newerWithin, newerStored⟩ := again
        exact next.covered version newer (by omega) newerAbove newerWithin newerStored
      · rw [pruned_quiet after final target last next, gone]
        exact fun newer newerAbove newerWithin =>
          Option.not_isSome_iff_eq_none.mp (fun newerStored => again ⟨newer, newerAbove, newerWithin, newerStored⟩)
  newest version above within gap := by
    by_cases beyond : target < version
    · rw [next.newest version beyond within, pruned.above version beyond]
      intro later more inside
      rw [pruned.above later (Nat.lt_trans beyond more)]
      exact gap later more inside
    · have atMost : version ≤ target := Nat.le_of_not_lt beyond
      rw [pruned_quiet after final target last next]
      · exact pruned.newest version above atMost (fun later more inside => gap later more (Nat.le_trans inside second))
      · intro later more inside
        rw [pruned.above later more]
        exact gap later (Nat.lt_of_le_of_lt atMost more) inside
  untouched version low quiet := by
    rw [pruned_quiet after final target last next]
    · exact pruned.untouched version low (fun later more inside => quiet later more (Nat.le_trans inside second))
    · intro later more inside
      rw [pruned.above later more]
      exact quiet later (Nat.lt_of_le_of_lt first more) inside

theorem pruned_live (bound : Nat) (since : target ≤ bound) : live visible after bound = live visible before bound := by
  by_cases quiet : ∀ later, earliest < later → later ≤ target → before later = none
  · exact live_congr visible _ _ bound (fun version _ => pruned_quiet before after earliest target pruned quiet version)
  · cases found : latest before target with
    | none => exact absurd (fun later _ within => (latest_eq_none before target).mp found later within) quiet
    | some value =>
        obtain ⟨survivor, atMost, stored, gap⟩ := (latest_eq_some before target value).mp found
        have reached : earliest < survivor := by
          by_contra low
          exact quiet (fun later above within => gap later (Nat.lt_of_le_of_lt (Nat.le_of_not_lt low) above) within)
        refine live_pruned visible before after survivor bound (Nat.le_trans atMost since) (fun version more => ?_) (fun version less => ?_)
          (by rw [stored]; rfl) (pruned.newest survivor reached atMost gap)
        · by_cases beyond : target < version
          · exact pruned.above version beyond
          · have within : version ≤ target := Nat.le_of_not_lt beyond
            rw [pruned.newest version (Nat.lt_trans reached more) within (fun later above => gap later (Nat.lt_trans more above)),
              gap version more within]
            rfl
        · exact pruned.covered version survivor less reached atMost (by rw [stored]; rfl)

end Pruned

end Live

end MorphReth
