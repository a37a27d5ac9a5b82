import Mathlib.Logic.Basic

set_option autoImplicit false

namespace MorphReth

-- Why a job did not come to its end: its process was stopped from outside, or
-- the work itself failed.
inductive Halt (ε : Type) where
  | stopped
  | failed (error : ε)
  deriving DecidableEq, Repr

-- A process that is stopped after a number of commits, or never. What counts
-- afterwards is the state that it committed.
structure Process (σ : Type) where
  committed : σ
  commitsLeft : Option Nat

abbrev Job (ε σ α : Type) := EStateM (Halt ε) (Process σ) α

section Jobs

variable {ε σ α β ι : Type}

-- The stop comes between two commits, and a transaction that fails is dropped.
def commit (work : σ → Except ε σ) : Job ε σ Unit := fun process =>
  if process.commitsLeft = some 0 then .error .stopped process
  else
    match work process.committed with
    | .error error => .error (.failed error) process
    | .ok staged => .ok () ⟨staged, process.commitsLeft.map (fun left => left - 1)⟩

def committed (read : σ → α) : Job ε σ α := fun process =>
  .ok (read process.committed) process

def require (checked : Except ε α) : Job ε σ α := fun process =>
  match checked with
  | .ok value => .ok value process
  | .error error => .error (.failed error) process

-- From a committed state the job does not fail. Stopped, it leaves a state that
-- is worth keeping; it comes to its end otherwise, which an unlimited process
-- always does.
def Ends (job : Job ε σ α) (start : σ) (kept : σ → Prop) (after : α → σ → Prop) : Prop :=
  ∀ limit, (∃ value final, job ⟨start, limit⟩ = .ok value final ∧ after value final.committed ∧ (limit = none → final.commitsLeft = none)) ∨
    ∃ final, job ⟨start, limit⟩ = .error .stopped final ∧ limit ≠ none ∧ kept final.committed

theorem ends_pure (value : α) (start : σ) (kept : σ → Prop) (after : α → σ → Prop) (holds : after value start) :
    Ends (pure value : Job ε σ α) start kept after :=
  fun limit => .inl ⟨value, ⟨start, limit⟩, rfl, holds, id⟩

theorem ends_committed (read : σ → α) (start : σ) (kept : σ → Prop) (after : α → σ → Prop) (holds : after (read start) start) :
    Ends (committed read : Job ε σ α) start kept after :=
  fun limit => .inl ⟨read start, ⟨start, limit⟩, rfl, holds, id⟩

theorem ends_require (checked : Except ε α) (value : α) (start : σ) (kept : σ → Prop) (after : α → σ → Prop) (passes : checked = .ok value)
    (holds : after value start) : Ends (require checked) start kept after := by
  subst passes
  exact fun limit => .inl ⟨value, ⟨start, limit⟩, rfl, holds, id⟩

theorem ends_commit (work : σ → Except ε σ) (start staged : σ) (kept : σ → Prop) (after : Unit → σ → Prop)
    (succeeds : work start = .ok staged) (keeps : kept start) (holds : after () staged) : Ends (commit work) start kept after := by
  intro limit
  by_cases spent : limit = some 0
  · right
    refine ⟨⟨start, limit⟩, if_pos spent, ?_, keeps⟩
    rw [spent]
    exact Option.some_ne_none 0
  · left
    refine ⟨(), ⟨staged, limit.map (fun left => left - 1)⟩, ?_, holds, ?_⟩
    · simp only [commit, if_neg spent, succeeds]
    · rintro rfl
      rfl

theorem ends_imp (job : Job ε σ α) (start : σ) (kept weaker : σ → Prop) (after later : α → σ → Prop) (ends : Ends job start kept after)
    (keeps : ∀ state, kept state → weaker state) (holds : ∀ value state, after value state → later value state) :
    Ends job start weaker later := by
  intro limit
  cases ends limit with
  | inl ended =>
      obtain ⟨value, final, ran, reached, unlimited⟩ := ended
      exact .inl ⟨value, final, ran, holds value final.committed reached, unlimited⟩
  | inr stopped =>
      obtain ⟨final, ran, limited, left⟩ := stopped
      exact .inr ⟨final, ran, limited, keeps final.committed left⟩

theorem ends_bind (first : Job ε σ α) (next : α → Job ε σ β) (start : σ) (kept : σ → Prop) (between : α → σ → Prop) (after : β → σ → Prop)
    (firstEnds : Ends first start kept between) (nextEnds : ∀ value state, between value state → Ends (next value) state kept after) :
    Ends (first >>= next) start kept after := by
  intro limit
  cases firstEnds limit with
  | inl ended =>
      obtain ⟨value, ⟨middle, left⟩, ran, reached, unlimited⟩ := ended
      cases nextEnds value middle reached left with
      | inl ended =>
          obtain ⟨result, final, onward, holds, still⟩ := ended
          left
          refine ⟨result, final, ?_, holds, fun never => still (unlimited never)⟩
          simp only [bind, EStateM.bind, ran, onward]
      | inr stopped =>
          obtain ⟨final, onward, limited, keeps⟩ := stopped
          right
          refine ⟨final, ?_, fun never => limited (unlimited never), keeps⟩
          simp only [bind, EStateM.bind, ran, onward]
  | inr stopped =>
      obtain ⟨final, ran, limited, keeps⟩ := stopped
      right
      refine ⟨final, ?_, limited, keeps⟩
      simp only [bind, EStateM.bind, ran]

-- A loop, with an invariant about the items still to come.
theorem ends_fold (step : β → ι → Job ε σ β) (kept : σ → Prop) (invariant : List ι → β → σ → Prop)
    (preserved : ∀ item rest value state, invariant (item :: rest) value state → Ends (step value item) state kept (invariant rest))
    (items : List ι) (value : β) (start : σ) (initial : invariant items value start) :
    Ends (items.foldlM step value) start kept (invariant []) := by
  induction items generalizing value start with
  | nil => exact ends_pure value start kept _ initial
  | cons item rest ih =>
      rw [List.foldlM_cons]
      exact ends_bind _ _ start kept (invariant rest) _ (preserved item rest value start initial) ih

variable (job : Job ε σ α) (start : σ) (kept : σ → Prop) (after : α → σ → Prop) (ends : Ends job start kept after)

include ends

theorem ends_unlimited : ∃ value final, job ⟨start, none⟩ = .ok value final ∧ after value final.committed := by
  cases ends none with
  | inl ended =>
      obtain ⟨value, final, ran, holds, _⟩ := ended
      exact ⟨value, final, ran, holds⟩
  | inr stopped => exact absurd rfl stopped.choose_spec.2.1

theorem ends_ok (limit : Option Nat) (value : α) (final : Process σ) (ran : job ⟨start, limit⟩ = .ok value final) :
    after value final.committed := by
  cases ends limit with
  | inl ended =>
      obtain ⟨found, reached, same, holds, _⟩ := ended
      cases same.symm.trans ran
      exact holds
  | inr stopped => cases stopped.choose_spec.1.symm.trans ran

theorem ends_stopped (limit : Option Nat) (final : Process σ) (ran : job ⟨start, limit⟩ = .error .stopped final) :
    kept final.committed := by
  cases ends limit with
  | inl ended =>
      obtain ⟨found, reached, same, _⟩ := ended
      cases same.symm.trans ran
  | inr stopped =>
      obtain ⟨reached, same, _, keeps⟩ := stopped
      cases same.symm.trans ran
      exact keeps

end Jobs

end MorphReth
