import Mathlib.Data.List.Chain

set_option autoImplicit false

namespace MorphReth

section ParentChain

variable {α : Type} (parent : α → α)

-- A list of identifiers, oldest first, in which each one names its predecessor
-- as its parent.
def Linked (chain : List α) : Prop :=
  chain.IsChain (fun earlier later => parent later = earlier)

theorem linked_step (chain : List α) (linked : Linked parent chain) (number : Nat) (later : α)
    (found : chain[number + 1]? = some later) : chain[number]? = some (parent later) := by
  obtain ⟨bound, rfl⟩ := List.getElem?_eq_some_iff.mp found
  rw [List.getElem?_eq_getElem (Nat.lt_of_succ_lt bound)]
  exact congrArg some (List.isChain_iff_getElem.mp linked number bound).symm

-- An identifier pins down everything below it: two chains that agree at one
-- height agree at every lower one.
theorem linked_agree (left right : List α) (linkedLeft : Linked parent left) (linkedRight : Linked parent right) (height : Nat) (tip : α)
    (inLeft : left[height]? = some tip) (inRight : right[height]? = some tip) : ∀ number ≤ height, left[number]? = right[number]? := by
  induction height generalizing tip with
  | zero =>
      intro number atMost
      rw [Nat.le_zero.mp atMost, inLeft, inRight]
  | succ height ih =>
      intro number atMost
      by_cases same : number = height + 1
      · rw [same, inLeft, inRight]
      · exact ih (parent tip) (linked_step parent left linkedLeft height tip inLeft)
          (linked_step parent right linkedRight height tip inRight) number (by omega)

theorem linked_take (chain : List α) (linked : Linked parent chain) (length : Nat) : Linked parent (chain.take length) :=
  List.IsChain.take linked length

theorem linked_drop (chain : List α) (linked : Linked parent chain) (length : Nat) : Linked parent (chain.drop length) :=
  List.IsChain.drop linked length

theorem linked_snoc (chain : List α) (linked : Linked parent chain) (next : α) (child : ∀ last ∈ chain.getLast?, parent next = last) :
    Linked parent (chain ++ [next]) := by
  refine List.IsChain.append linked (List.isChain_singleton next) (fun last isLast first isFirst => ?_)
  cases isFirst
  exact child last isLast

end ParentChain

end MorphReth
