import Mathlib.Algebra.BigOperators.Group.Finset.Piecewise
import Mathlib.Algebra.Order.BigOperators.Group.Finset

set_option autoImplicit false

namespace MorphReth

section Holdings

variable {α : Type} [Fintype α]

def totalHeld (held : α → Nat) : Nat := ∑ account, held account

theorem total_held_zero (held : α → Nat) (nothing : ∀ account, held account = 0) : totalHeld held = 0 :=
  Finset.sum_eq_zero (fun account _ => nothing account)

theorem held_le_total (held : α → Nat) (account : α) : held account ≤ totalHeld held :=
  Finset.single_le_sum_of_canonicallyOrdered (Finset.mem_univ account)

theorem total_held_set [DecidableEq α] (held : α → Nat) (account : α) (amount : Nat) :
    totalHeld (fun other => if other = account then amount else held other) + held account = totalHeld held + amount := by
  have replaced : (fun other => if other = account then amount else held other) = Function.update held account amount := by
    funext other
    rw [Function.update_apply]
  have whole := Finset.add_sum_erase Finset.univ held (Finset.mem_univ account)
  rw [replaced, totalHeld, totalHeld, Finset.sum_update_of_mem (Finset.mem_univ account), Finset.sdiff_singleton_eq_erase, ← whole]
  omega

end Holdings

-- How a total may move: a relation that keeps what two totals have in common,
-- such as equality, or the order for steps that lose some of it.
structure TotalRelation (related : Nat → Nat → Prop) : Prop where
  bounds : ∀ {before after}, related after before → after ≤ before
  same : ∀ total, related total total
  follows : ∀ {first second third}, related second first → related third second → related third first
  shift : ∀ {before after} common, related after before → related (after + common) (before + common)

theorem conserved_total : TotalRelation (fun after before => after = before) where
  bounds := Nat.le_of_eq
  same _ := rfl
  follows earlier later := later.trans earlier
  shift common moved := congrArg (· + common) moved

theorem falling_total : TotalRelation (fun after before => after ≤ before) where
  bounds moved := moved
  same := Nat.le_refl
  follows earlier later := later.trans earlier
  shift common moved := Nat.add_le_add_right moved common

end MorphReth
