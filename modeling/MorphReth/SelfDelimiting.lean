import Mathlib.Data.List.Basic

set_option autoImplicit false

namespace MorphReth

section SelfDelimiting

variable {α β : Type}

-- Where an encoding ends can be told from the encoding alone, so that what is
-- appended to it cannot be mistaken for a part of it.
def SelfDelimiting (encode : α → List β) : Prop :=
  ∀ left right leftRest rightRest, encode left ++ leftRest = encode right ++ rightRest → left = right ∧ leftRest = rightRest

variable (encode : α → List β)

theorem self_delimiting_fixed (width : Nat) (length : ∀ value, (encode value).length = width) (injective : Function.Injective encode) :
    SelfDelimiting encode := by
  intro left right leftRest rightRest same
  obtain ⟨heads, rests⟩ := List.append_inj same (by rw [length, length])
  exact ⟨injective heads, rests⟩

def tagged (absent present : β) (encode : α → List β) : Option α → List β
  | none => [absent]
  | some value => present :: encode value

theorem self_delimiting_tagged (absent present : β) (encode : α → List β) (distinct : absent ≠ present) (delimits : SelfDelimiting encode) :
    SelfDelimiting (tagged absent present encode) := by
  intro left right leftRest rightRest same
  cases left with
  | none =>
      cases right with
      | none => exact ⟨rfl, (List.cons.inj same).2⟩
      | some value => exact absurd (List.cons.inj same).1 distinct
  | some value =>
      cases right with
      | none => exact absurd (List.cons.inj same).1.symm distinct
      | some other =>
          obtain ⟨values, rests⟩ := delimits value other leftRest rightRest (List.cons.inj same).2
          exact ⟨congrArg some values, rests⟩

-- A value that leaves nothing behind when it is absent delimits itself only among
-- values of the same presence.
theorem untagged_inj (delimits : SelfDelimiting encode) (written : Option α → List β) (absent : written none = [])
    (kept : ∀ value, written (some value) = encode value) (left right : Option α) (leftRest rightRest : List β)
    (presence : left.isSome = right.isSome) (same : written left ++ leftRest = written right ++ rightRest) :
    left = right ∧ leftRest = rightRest := by
  cases left with
  | none =>
      cases right with
      | none =>
          rw [absent] at same
          exact ⟨rfl, same⟩
      | some value => cases presence
  | some value =>
      cases right with
      | none => cases presence
      | some other =>
          rw [kept, kept] at same
          obtain ⟨values, rests⟩ := delimits value other leftRest rightRest same
          exact ⟨congrArg some values, rests⟩

theorem self_delimiting_list (delimits : SelfDelimiting encode) (left right : List α) (leftRest rightRest : List β)
    (length : left.length = right.length) (same : left.flatMap encode ++ leftRest = right.flatMap encode ++ rightRest) :
    left = right ∧ leftRest = rightRest := by
  induction left generalizing right with
  | nil =>
      obtain rfl := List.eq_nil_of_length_eq_zero length.symm
      exact ⟨rfl, same⟩
  | cons first left ih =>
      cases right with
      | nil => cases length
      | cons other right =>
          rw [List.flatMap_cons, List.flatMap_cons, List.append_assoc, List.append_assoc] at same
          obtain ⟨heads, rests⟩ := delimits first other _ _ same
          obtain ⟨tails, final⟩ := ih right (Nat.succ.inj length) rests
          exact ⟨by rw [heads, tails], final⟩

theorem flat_map_length (width : Nat) (length : ∀ value, (encode value).length = width) (values : List α) :
    (values.flatMap encode).length = values.length * width := by
  induction values with
  | nil => simp
  | cons first values ih => simp [ih, length, Nat.succ_mul, Nat.add_comm]

end SelfDelimiting

end MorphReth
