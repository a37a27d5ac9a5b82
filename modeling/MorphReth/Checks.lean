import Mathlib.Logic.Basic

set_option autoImplicit false

namespace MorphReth

section Checks

variable {ε δ α β : Type}

-- A guard clause: return early with an error when the condition holds.
def rejectIf (condition : Prop) [Decidable condition] (error : ε) : Except ε Unit :=
  if condition then .error error else .ok ()

@[simp] theorem reject_if_ok (condition : Prop) [Decidable condition] (error : ε) (result : Unit) :
    rejectIf condition error = .ok result ↔ ¬condition := by
  by_cases holds : condition
  · simp [rejectIf, holds]
  · simp [rejectIf, holds]

@[simp] theorem reject_if_error (condition : Prop) [Decidable condition] (error found : ε) :
    rejectIf condition error = .error found ↔ condition ∧ error = found := by
  by_cases holds : condition
  · simp [rejectIf, holds]
  · simp [rejectIf, holds]

@[simp] theorem map_error_ok (result : Except ε α) (change : ε → δ) (value : α) :
    result.mapError change = .ok value ↔ result = .ok value := by
  cases result with
  | error error =>
      change Except.error (change error) = .ok value ↔ _
      simp
  | ok found =>
      change Except.ok found = .ok value ↔ _
      simp

@[simp] theorem map_error_error (result : Except ε α) (change : ε → δ) (error : δ) :
    result.mapError change = .error error ↔ ∃ inner, result = .error inner ∧ change inner = error := by
  cases result with
  | error inner =>
      change Except.error (change inner) = .error error ↔ _
      simp
  | ok found =>
      change Except.ok found = .error error ↔ _
      simp

@[simp] theorem to_option_some (result : Except ε α) (value : α) : result.toOption = some value ↔ result = .ok value := by
  cases result with
  | error error => simp [Except.toOption]
  | ok found => simp [Except.toOption]

theorem bind_ok (first : Except ε α) (next : α → Except ε β) (result : β) :
    (first >>= next) = .ok result ↔ ∃ value, first = .ok value ∧ next value = .ok result := by
  cases first with
  | error error => simp [bind, Except.bind]
  | ok value => simp [bind, Except.bind]

theorem bind_error (first : Except ε α) (next : α → Except ε β) (error : ε) :
    (first >>= next) = .error error ↔ first = .error error ∨ ∃ value, first = .ok value ∧ next value = .error error := by
  cases first with
  | error found => simp [bind, Except.bind]
  | ok value => simp [bind, Except.bind]

-- What every step of a loop that may fail keeps, the whole loop keeps.
theorem fold_ok_invariant {σ : Type} (step : σ → α → Except ε σ) (invariant : σ → Prop) (items : List α)
    (preserved : ∀ state item after, item ∈ items → invariant state → step state item = .ok after → invariant after) (start final : σ)
    (initial : invariant start) (result : items.foldlM step start = .ok final) : invariant final := by
  induction items generalizing start with
  | nil =>
      cases result
      exact initial
  | cons item rest ih =>
      rw [List.foldlM_cons, bind_ok] at result
      obtain ⟨between, first, later⟩ := result
      exact ih (fun state other after member => preserved state other after (List.mem_cons_of_mem item member)) between
        (preserved start item between List.mem_cons_self initial first) later

end Checks

end MorphReth
