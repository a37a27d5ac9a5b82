import MorphReth.Runs

set_option autoImplicit false

namespace MorphReth

section Interleaving

variable {σ τ ι : Type}

-- Tasks that share a state and advance one piece at a time, in any order. A
-- piece may read an input from outside.
structure Concurrent (σ τ : Type) where
  shared : σ
  tasks : List τ

inductive Turn (τ ι : Type) where
  | start (task : τ)
  | advance (index : Nat) (input : ι)

namespace Concurrent

def step (piece : ι → σ → τ → σ × τ) (system : Concurrent σ τ) : Turn τ ι → Concurrent σ τ
  | .start task => ⟨system.shared, task :: system.tasks⟩
  | .advance index input => match system.tasks[index]? with
      | none => system
      | some task =>
          let moved := piece input system.shared task
          ⟨moved.1, system.tasks.set index moved.2⟩

structure Keeps (holds : σ → Prop) (settled : σ → τ → Prop) (system : Concurrent σ τ) : Prop where
  shared : holds system.shared
  tasks : ∀ task ∈ system.tasks, settled system.shared task

variable (piece : ι → σ → τ → σ × τ) (startable : τ → Prop)

def StartsOnly : Turn τ ι → Prop
  | .start task => startable task
  | .advance _ _ => True

-- A piece keeps the shared invariant and settles its own task, and what it does
-- to the shared state leaves every other task settled.
theorem interleaved_invariant (holds : σ → Prop) (settled : σ → τ → Prop) (started : ∀ state task, startable task → settled state task)
    (own : ∀ input state task, holds state → settled state task → holds (piece input state task).1 ∧
      settled (piece input state task).1 (piece input state task).2)
    (others : ∀ input state task other, holds state → settled state task → settled state other → settled (piece input state task).1 other)
    (system : Concurrent σ τ) (turns : List (Turn τ ι)) (initial : Keeps holds settled system)
    (legal : ∀ turn ∈ turns, StartsOnly startable turn) : Keeps holds settled (runSteps (step piece) system turns) := by
  refine run_invariant (step piece) _ (Keeps holds settled) (fun reached turn kept allowed => ?_) system turns initial
    (each_allowed_of_all _ _ system turns legal)
  cases turn with
  | start task =>
      refine ⟨kept.shared, ?_⟩
      simp only [step, List.forall_mem_cons]
      exact ⟨started _ task allowed, kept.tasks⟩
  | advance index input =>
      simp only [step]
      split
      · exact kept
      · next task found =>
          have mine := kept.tasks task (List.mem_of_getElem? found)
          obtain ⟨keptAfter, settledAfter⟩ := own input reached.shared task kept.shared mine
          refine ⟨keptAfter, fun other member => ?_⟩
          rcases List.mem_or_eq_of_mem_set member with earlier | rfl
          · exact others input reached.shared task other kept.shared mine (kept.tasks other earlier)
          · exact settledAfter

end Concurrent

end Interleaving

end MorphReth
