import Mathlib.Logic.Basic

set_option autoImplicit false

namespace MorphReth.UndoLog

-- A state together with what its changes overwrote, newest first, and the
-- number of checkpoints that are open.
structure Logged (σ δ : Type) where
  state : σ
  entries : List δ
  depth : Nat

section Programs

variable {σ δ ε α β : Type}

def undoAll (undo : δ → σ → σ) (entries : List δ) (state : σ) : σ :=
  entries.foldl (fun state entry => undo entry state) state

def Logged.record (log : Logged σ δ) (entry : δ) (state : σ) : Logged σ δ :=
  { log with state := state, entries := entry :: log.entries }

def checkpoint : EStateM ε (Logged σ δ) Nat :=
  fun log => .ok log.entries.length { log with depth := log.depth + 1 }

def checkpointCommit : EStateM ε (Logged σ δ) Unit :=
  fun log => .ok () { log with depth := log.depth - 1 }

def Logged.revert (undo : δ → σ → σ) (mark : Nat) (log : Logged σ δ) : Logged σ δ :=
  let added := log.entries.length - mark
  { state := undoAll undo (log.entries.take added) log.state, entries := log.entries.drop added, depth := log.depth - 1 }

def checkpointRevert (undo : δ → σ → σ) (mark : Nat) : EStateM ε (Logged σ δ) Unit :=
  fun log => .ok () (log.revert undo mark)

-- Work inside a checkpoint of its own, kept when it succeeds and undone when it
-- fails.
def withCheckpoint (undo : δ → σ → σ) (work : EStateM ε (Logged σ δ) α) : EStateM ε (Logged σ δ) α := do
  let mark ← checkpoint
  let outcome ← fun log => match work log with
    | .ok value after => .ok (Except.ok value) after
    | .error error after => .ok (Except.error error) after
  match outcome with
  | .ok value =>
      checkpointCommit
      pure value
  | .error error =>
      checkpointRevert undo mark
      throw error

-- Everything that happened since is in the log and can be undone from there.
structure Extends (undo : δ → σ → σ) (before after : Logged σ δ) : Prop where
  depth : after.depth = before.depth
  undone : ∃ added, after.entries = added ++ before.entries ∧ undoAll undo added after.state = before.state

def logLeft : EStateM.Result ε (Logged σ δ) α → Logged σ δ
  | .ok _ log => log
  | .error _ log => log

def Undoable (undo : δ → σ → σ) (work : EStateM ε (Logged σ δ) α) : Prop :=
  ∀ before, Extends undo before (logLeft (work before))

variable {undo : δ → σ → σ}

theorem extends_refl (log : Logged σ δ) : Extends undo log log :=
  ⟨rfl, [], rfl, rfl⟩

theorem extends_trans (first second third : Logged σ δ) (earlier : Extends undo first second) (later : Extends undo second third) :
    Extends undo first third := by
  obtain ⟨added, entries, undone⟩ := earlier.undone
  obtain ⟨addedLater, entriesLater, undoneLater⟩ := later.undone
  refine ⟨later.depth.trans earlier.depth, addedLater ++ added, ?_, ?_⟩
  · rw [entriesLater, entries, List.append_assoc]
  · rw [undoAll, List.foldl_append]
    exact (congrArg (undoAll undo added) undoneLater).trans undone

theorem extends_record (log : Logged σ δ) (entry : δ) (state : σ) (restores : undo entry state = log.state) :
    Extends undo log (log.record entry state) :=
  ⟨rfl, [entry], rfl, restores⟩

theorem undoable_pure (value : α) : Undoable undo (pure value : EStateM ε (Logged σ δ) α) :=
  fun before => extends_refl before

theorem undoable_throw (error : ε) : Undoable undo (throw error : EStateM ε (Logged σ δ) α) :=
  fun before => extends_refl before

variable (work : EStateM ε (Logged σ δ) α)

theorem undoable_bind (next : α → EStateM ε (Logged σ δ) β) (first : Undoable undo work) (later : ∀ value, Undoable undo (next value)) :
    Undoable undo (work >>= next) := by
  intro before
  have earlier := first before
  simp only [bind, EStateM.bind]
  cases result : work before with
  | error error after =>
      rw [result] at earlier
      exact earlier
  | ok value after =>
      rw [result] at earlier
      exact extends_trans _ _ _ earlier (later value after)

theorem revert_restores (before after : Logged σ δ) (extended : Extends undo { before with depth := before.depth + 1 } after) :
    after.revert undo before.entries.length = before := by
  obtain ⟨depth, added, entries, undone⟩ := extended
  have count : after.entries.length - before.entries.length = added.length := by
    rw [entries, List.length_append, Nat.add_sub_cancel]
  simp only [Logged.revert, count]
  simp only [entries, List.take_left, List.drop_left, undone, depth, Nat.add_sub_cancel]

theorem program_bind_ok (next : α → EStateM ε (Logged σ δ) β) (before after : Logged σ δ) (value : β) :
    (work >>= next) before = .ok value after ↔ ∃ found staged, work before = .ok found staged ∧ next found staged = .ok value after := by
  simp only [bind, EStateM.bind]
  cases work before with
  | error error staged => simp
  | ok found staged =>
      constructor
      · intro onward
        exact ⟨found, staged, rfl, onward⟩
      · rintro ⟨_, _, same, onward⟩
        cases same
        exact onward

theorem checkpoint_ok (before after : Logged σ δ) (value : α) :
    withCheckpoint undo work before = .ok value after ↔
      ∃ staged, work { before with depth := before.depth + 1 } = .ok value staged ∧ after = { staged with depth := staged.depth - 1 } := by
  simp only [withCheckpoint, checkpoint, bind, EStateM.bind]
  cases work { before with depth := before.depth + 1 } with
  | error error staged =>
      constructor
      · intro impossible
        cases impossible
      · rintro ⟨_, impossible, _⟩
        cases impossible
  | ok found staged =>
      constructor
      · intro committed
        cases committed
        exact ⟨staged, rfl, rfl⟩
      · rintro ⟨_, same, final⟩
        cases same
        rw [final]
        rfl

theorem checkpoint_error (undoable : Undoable undo work) (before after : Logged σ δ) (error : ε)
    (failed : withCheckpoint undo work before = .error error after) :
    after = before ∧ ∃ staged, work { before with depth := before.depth + 1 } = .error error staged := by
  have extended := undoable { before with depth := before.depth + 1 }
  simp only [withCheckpoint, checkpoint, bind, EStateM.bind] at failed
  cases result : work { before with depth := before.depth + 1 } with
  | ok found staged =>
      rw [result] at failed
      cases failed
  | error found staged =>
      rw [result] at failed extended
      cases failed
      exact ⟨revert_restores before staged extended, staged, rfl⟩

end Programs

end MorphReth.UndoLog
