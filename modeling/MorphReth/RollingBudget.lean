import Mathlib.Algebra.Order.BigOperators.Group.List
import Mathlib.Algebra.Order.Ring.Nat

set_option autoImplicit false

namespace MorphReth

section RollingBudget

variable {σ α κ : Type}

-- A pass that pays for one item after the other and stops at the first item
-- it does not pay for.
def firstRefused (step : σ → α → Option σ) (state : σ) : List α → Option α
  | [] => none
  | item :: items => match step state item with
      | none => some item
      | some after => firstRefused step after items

-- Items that need some of every resource, and the supply of each. An item may
-- be inadmissible however much is left.
structure Demand (α κ : Type) where
  admissible : α → Prop
  need : α → κ → Nat
  supply : κ → Nat

def Demand.total (demand : Demand α κ) (items : List α) (resource : κ) : Nat :=
  (items.map (fun item => demand.need item resource)).sum

structure Demand.Affordable (demand : Demand α κ) (items : List α) : Prop where
  admissible : ∀ item ∈ items, demand.admissible item
  covered : ∀ resource, demand.total items resource ≤ demand.supply resource

def FirstUnaffordable (affordable : List α → Prop) (items : List α) : Option α → Prop
  | none => affordable items
  | some item => ∃ before after, items = before ++ item :: after ∧ affordable before ∧ ¬affordable (before ++ [item])

-- What a step has to do with what remains. It may rely on no resource having
-- grown beyond its supply.
structure Demand.PaidBy (demand : Demand α κ) (step : σ → α → Option σ) (remaining : σ → κ → Nat) : Prop where
  paid : ∀ state item after, (∀ resource, remaining state resource ≤ demand.supply resource) → step state item = some after →
    demand.admissible item ∧ ∀ resource, demand.need item resource + remaining after resource = remaining state resource
  refused : ∀ state item, (∀ resource, remaining state resource ≤ demand.supply resource) → step state item = none →
    demand.admissible item → ∃ resource, remaining state resource < demand.need item resource

variable (demand : Demand α κ)

@[simp] theorem total_nil (resource : κ) : demand.total [] resource = 0 := rfl

@[simp] theorem total_snoc (items : List α) (item : α) (resource : κ) :
    demand.total (items ++ [item]) resource = demand.total items resource + demand.need item resource := by
  simp [Demand.total]

theorem affordable_nil : demand.Affordable [] where
  admissible _ member := absurd member List.not_mem_nil
  covered _ := Nat.zero_le _

theorem affordable_prefix (before after : List α) (affordable : demand.Affordable (before ++ after)) : demand.Affordable before where
  admissible item member := affordable.admissible item (List.mem_append_left _ member)
  covered resource := by
    have covered := affordable.covered resource
    rw [Demand.total, List.map_append, List.sum_append] at covered
    exact Nat.le_of_add_right_le covered

theorem need_le_total (items : List α) (item : α) (member : item ∈ items) (resource : κ) :
    demand.need item resource ≤ demand.total items resource :=
  List.le_sum_of_mem (List.mem_map_of_mem member)

theorem affordable_snoc (items : List α) (item : α) (state : κ → Nat) (afforded : demand.Affordable items)
    (left : ∀ resource, demand.total items resource + state resource = demand.supply resource) :
    demand.Affordable (items ++ [item]) ↔ demand.admissible item ∧ ∀ resource, demand.need item resource ≤ state resource := by
  constructor
  · intro affordable
    refine ⟨affordable.admissible item (by simp), fun resource => ?_⟩
    have covered := affordable.covered resource
    rw [total_snoc, ← left resource] at covered
    exact Nat.le_of_add_le_add_left covered
  · rintro ⟨admissible, enough⟩
    constructor
    · intro other member
      rcases List.mem_append.mp member with earlier | last
      · exact afforded.admissible other earlier
      · rw [List.mem_singleton.mp last]
        exact admissible
    · intro resource
      rw [total_snoc, ← left resource]
      exact Nat.add_le_add_left (enough resource) _

-- Induction over what is still to be paid: the state holds the supply less the
-- needs of the items paid so far.
theorem first_refused_unaffordable (step : σ → α → Option σ) (remaining : σ → κ → Nat) (paidBy : demand.PaidBy step remaining)
    (done items : List α) (state : σ) (afforded : demand.Affordable done)
    (left : ∀ resource, demand.total done resource + remaining state resource = demand.supply resource) :
    FirstUnaffordable demand.Affordable (done ++ items) (firstRefused step state items) := by
  have bounded : ∀ resource, remaining state resource ≤ demand.supply resource := by
    intro resource
    rw [← left resource]
    exact Nat.le_add_left _ _
  induction items generalizing done state with
  | nil =>
      rw [List.append_nil]
      exact afforded
  | cons item items ih =>
      have next := affordable_snoc demand done item (remaining state) afforded left
      cases stepped : step state item with
      | none =>
          simp only [firstRefused, stepped]
          refine ⟨done, items, rfl, afforded, fun affordable => ?_⟩
          obtain ⟨admissible, enough⟩ := next.mp affordable
          obtain ⟨resource, short⟩ := paidBy.refused state item bounded stepped admissible
          exact absurd (enough resource) (Nat.not_le_of_lt short)
      | some after =>
          obtain ⟨admissible, spent⟩ := paidBy.paid state item after bounded stepped
          have enough : ∀ resource, demand.need item resource ≤ remaining state resource := by
            intro resource
            rw [← spent resource]
            exact Nat.le_add_right _ _
          have rest : ∀ resource, demand.total (done ++ [item]) resource + remaining after resource = demand.supply resource := by
            intro resource
            rw [total_snoc, Nat.add_assoc, spent, left]
          have settled := ih (done ++ [item]) after (next.mpr ⟨admissible, enough⟩) rest
            (fun resource => by rw [← rest resource]; exact Nat.le_add_left _ _)
          rw [List.append_assoc, List.singleton_append] at settled
          simp only [firstRefused, stepped]
          exact settled

theorem first_refused_settles (step : σ → α → Option σ) (remaining : σ → κ → Nat) (paidBy : demand.PaidBy step remaining)
    (items : List α) (state : σ) (full : ∀ resource, remaining state resource = demand.supply resource) :
    FirstUnaffordable demand.Affordable items (firstRefused step state items) :=
  first_refused_unaffordable demand step remaining paidBy [] items state (affordable_nil demand)
    (fun resource => by rw [total_nil, Nat.zero_add, full])

theorem total_append (before after : List α) (resource : κ) :
    demand.total (before ++ after) resource = demand.total before resource + demand.total after resource := by
  rw [Demand.total, List.map_append, List.sum_append]
  rfl

-- Neither the order nor the presence of the other items matters.
theorem affordable_subperm (chosen items : List α) (some : chosen.Subperm items) (affordable : demand.Affordable items) :
    demand.Affordable chosen := by
  obtain ⟨arranged, same, sublist⟩ := some
  constructor
  · intro item member
    exact affordable.admissible item (sublist.subset (same.mem_iff.mpr member))
  · intro resource
    have equal : demand.total chosen resource = demand.total arranged resource := (same.map _).sum_eq.symm
    have less : demand.total arranged resource ≤ demand.total items resource := (sublist.map _).sum_le_sum (fun _ _ => Nat.zero_le _)
    exact equal.le.trans (less.trans (affordable.covered resource))

-- The items that are left stay affordable when no more is spent of what they
-- need than the items that are done with need.
theorem affordable_spent (later : Demand α κ) (done rest : List α) (affordable : demand.Affordable (done ++ rest))
    (admissible : ∀ item ∈ rest, demand.admissible item → later.admissible item)
    (need : ∀ item ∈ rest, ∀ resource, later.need item resource = demand.need item resource)
    (spent : ∀ item ∈ rest, ∀ resource, demand.need item resource ≠ 0 →
      demand.supply resource ≤ later.supply resource + demand.total done resource) : later.Affordable rest where
  admissible item member := admissible item member (affordable.admissible item (List.mem_append_right _ member))
  covered resource := by
    have same : later.total rest resource = demand.total rest resource :=
      congrArg List.sum (List.map_congr_left (fun item member => need item member resource))
    rw [same]
    by_cases needed : ∃ item ∈ rest, demand.need item resource ≠ 0
    · obtain ⟨item, member, positive⟩ := needed
      have covered := affordable.covered resource
      rw [total_append] at covered
      have enough := covered.trans (spent item member resource positive)
      omega
    · have unneeded : demand.total rest resource = 0 := by
        apply List.sum_eq_zero
        intro amount listed
        obtain ⟨item, member, rfl⟩ := List.mem_map.mp listed
        exact not_not.mp (fun positive => needed ⟨item, member, positive⟩)
      rw [unneeded]
      exact Nat.zero_le _

end RollingBudget

end MorphReth
