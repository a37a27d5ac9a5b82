import Mathlib.Logic.Basic

set_option autoImplicit false

namespace MorphReth

section Transactions

variable {ε σ α β ι : Type}

-- A transaction works on its own copy of the state and reads what it wrote.
-- The copy is published when the work succeeds and dropped when it fails, in
-- whatever state the failure left it.
def transact (work : EStateM ε σ α) (committed : σ) : Except ε α × σ :=
  match work committed with
  | .ok value staged => (.ok value, staged)
  | .error error _ => (.error error, committed)

theorem get_bind (work : σ → EStateM ε σ α) (state : σ) : (get >>= work) state = work state state :=
  rfl

variable (work : EStateM ε σ α)

theorem transact_error (committed : σ) (error : ε) (failed : (transact work committed).1 = .error error) :
    (transact work committed).2 = committed := by
  rw [transact] at failed ⊢
  cases result : work committed with
  | ok value staged =>
      rw [result] at failed
      cases failed
  | error _ _ => rfl

-- Every piece of work in a transaction of its own, whatever becomes of the
-- others.
def separately (work : ι → EStateM ε σ α) : List ι → σ → List (Except ε α) × σ
  | [], committed => ([], committed)
  | item :: rest, committed =>
      let first := transact (work item) committed
      let later := separately work rest first.2
      (first.1 :: later.1, later.2)

theorem together_of_separately (work : ι → EStateM ε σ α) (items : List ι) (committed : σ) (values : List α)
    (succeeded : (separately work items committed).1 = values.map .ok) :
    (items.mapM work) committed = .ok values (separately work items committed).2 := by
  induction items generalizing committed values with
  | nil =>
      obtain rfl : values = [] := List.map_eq_nil_iff.mp succeeded.symm
      rfl
  | cons item rest ih =>
      cases values with
      | nil => cases succeeded
      | cons value others =>
          obtain ⟨first, later⟩ := List.cons.inj succeeded
          cases result : work item committed with
          | error error staged =>
              simp only [transact, result] at first
              cases first
          | ok found staged =>
              simp only [transact, result] at first later
              obtain rfl : found = value := Except.ok.inj first
              have onward := ih staged others later
              simp only [List.mapM_cons, bind, EStateM.bind, pure, EStateM.pure, result, onward, separately, transact]

theorem separately_of_together (work : ι → EStateM ε σ α) (items : List ι) (committed : σ) (values : List α) (staged : σ)
    (succeeded : (items.mapM work) committed = .ok values staged) : (separately work items committed).1 = values.map .ok := by
  induction items generalizing committed values staged with
  | nil =>
      cases succeeded
      rfl
  | cons item rest ih =>
      simp only [List.mapM_cons, bind, EStateM.bind, pure, EStateM.pure] at succeeded
      cases result : work item committed with
      | error error left =>
          rw [result] at succeeded
          cases succeeded
      | ok value between =>
          rw [result] at succeeded
          dsimp only at succeeded
          cases onward : (rest.mapM work) between with
          | error error left =>
              rw [onward] at succeeded
              cases succeeded
          | ok others final =>
              rw [onward] at succeeded
              cases succeeded
              simp only [separately, transact, result, ih between others _ onward, List.map_cons]

-- One transaction for all the work succeeds exactly when each piece does in its
-- own, and publishes the same state.
theorem transact_together (work : ι → EStateM ε σ α) (items : List ι) (committed : σ) (values : List α) :
    ((transact (items.mapM work) committed).1 = .ok values ↔ (separately work items committed).1 = values.map .ok) ∧
      ((transact (items.mapM work) committed).1 = .ok values →
        (transact (items.mapM work) committed).2 = (separately work items committed).2) := by
  have forward : (transact (items.mapM work) committed).1 = .ok values → (separately work items committed).1 = values.map .ok := by
    intro succeeded
    rw [transact] at succeeded
    cases result : (items.mapM work) committed with
    | error error left =>
        rw [result] at succeeded
        cases succeeded
    | ok found staged =>
        rw [result] at succeeded
        cases succeeded
        exact separately_of_together work items committed values staged result
  have backward : (separately work items committed).1 = values.map .ok →
      transact (items.mapM work) committed = (.ok values, (separately work items committed).2) := by
    intro succeeded
    rw [transact, together_of_separately work items committed values succeeded]
  exact ⟨⟨forward, fun succeeded => by rw [backward succeeded]⟩, fun succeeded => by rw [backward (forward succeeded)]⟩

-- For work without a value: the outcome of the one transaction is the first
-- failure among the separate ones, or success.
theorem transact_for_each (work : ι → EStateM ε σ Unit) (items : List ι) (committed : σ) :
    (transact (items.forM work) committed).1 = (separately work items committed).1.forM id ∧
      ((transact (items.forM work) committed).1 = .ok () →
        (transact (items.forM work) committed).2 = (separately work items committed).2) := by
  induction items generalizing committed with
  | nil => exact ⟨rfl, fun _ => rfl⟩
  | cons item rest ih =>
      cases first : work item committed with
      | error error left =>
          have failed : ((item :: rest).forM work) committed = .error error left := by
            change EStateM.bind (work item) (fun _ => rest.forM work) committed = _
            simp only [EStateM.bind, first]
          simp only [transact, failed, separately, first]
          exact ⟨rfl, fun succeeded => by cases succeeded⟩
      | ok value staged =>
          have onward : ((item :: rest).forM work) committed = (rest.forM work) staged := by
            change EStateM.bind (work item) (fun _ => rest.forM work) committed = _
            simp only [EStateM.bind, first]
          have later := ih staged
          simp only [transact, onward, separately, first] at later ⊢
          cases outcome : (rest.forM work) staged with
          | error error left =>
              rw [outcome] at later
              exact ⟨later.1, fun succeeded => by cases succeeded⟩
          | ok done final =>
              rw [outcome] at later
              exact later

-- What a piece of work comes to, without the state that a failure leaves.
def Computes (work : EStateM ε σ α) (start : σ) : Except ε (α × σ) → Prop
  | .ok result => work start = .ok result.1 result.2
  | .error error => ∃ left, work start = .error error left

theorem computes_error_bind (next : α → EStateM ε σ β) (start : σ) (error : ε) (first : Computes work start (.error error)) :
    Computes (work >>= next) start (.error error) := by
  obtain ⟨left, failed⟩ := first
  exact ⟨left, by simp only [bind, EStateM.bind, failed]⟩

theorem computes_ok_bind (next : α → EStateM ε σ β) (start : σ) (result : α × σ) (outcome : Except ε (β × σ))
    (first : Computes work start (.ok result)) (later : Computes (next result.1) result.2 outcome) :
    Computes (work >>= next) start outcome := by
  have reached : (work >>= next) start = next result.1 result.2 := by
    simp only [bind, EStateM.bind, show work start = .ok result.1 result.2 from first]
  cases outcome with
  | error error =>
      obtain ⟨left, failed⟩ := later
      exact ⟨left, reached.trans failed⟩
  | ok final => exact reached.trans later

-- One stage of a longer computation, given by what it comes to.
theorem computes_stage {τ : Type} (work : EStateM ε σ α) (next : α → EStateM ε σ β) (start : σ) (outcome : Except ε τ) (stage : τ → α × σ)
    (onward : τ → Except ε (β × σ)) (first : Computes work start (outcome.map stage))
    (later : ∀ stored, outcome = .ok stored → Computes (next (stage stored).1) (stage stored).2 (onward stored)) :
    Computes (work >>= next) start (outcome >>= onward) := by
  cases outcome with
  | error error => exact computes_error_bind work next start error first
  | ok stored => exact computes_ok_bind work next start (stage stored) (onward stored) first (later stored rfl)

theorem map_bind_ok {τ : Type} (first : Except ε τ) (next : τ → Except ε α) (change : α → β) :
    (first >>= next).map change = first >>= fun value => (next value).map change := by
  cases first with
  | error error => rfl
  | ok value => rfl

theorem transact_computes (committed : σ) (outcome : Except ε (α × σ)) (computes : Computes work committed outcome) :
    transact work committed = (outcome.map Prod.fst, outcome.toOption.elim committed Prod.snd) := by
  cases outcome with
  | error error =>
      obtain ⟨left, failed⟩ := computes
      simp only [transact, failed]
      rfl
  | ok result =>
      simp only [transact, show work committed = .ok result.1 result.2 from computes]
      rfl

-- Whether it succeeds or fails, the state a piece of work leaves is related to
-- the one it found.
def Maintains (related : σ → σ → Prop) (work : EStateM ε σ α) : Prop :=
  ∀ start, match work start with
    | .ok _ final => related final start
    | .error _ left => related left start

section Maintains

variable {related : σ → σ → Prop}

theorem maintains_pure (same : ∀ state, related state state) (value : α) : Maintains related (pure value : EStateM ε σ α) := same

theorem maintains_throw (same : ∀ state, related state state) (error : ε) : Maintains related (throw error : EStateM ε σ α) := same

theorem maintains_get (work : σ → EStateM ε σ α) (each : ∀ state, Maintains related (work state)) : Maintains related (get >>= work) :=
  fun start => each start start

theorem maintains_bind (next : α → EStateM ε σ β)
    (follows : ∀ first second third, related second first → related third second → related third first) (first : Maintains related work)
    (later : ∀ value, Maintains related (next value)) : Maintains related (work >>= next) := by
  intro start
  have began := first start
  simp only [bind, EStateM.bind]
  cases ran : work start with
  | error error left =>
      rw [ran] at began
      exact began
  | ok value middle =>
      rw [ran] at began
      have ended := later value middle
      dsimp only
      cases finished : next value middle with
      | error error left =>
          rw [finished] at ended
          exact follows _ _ _ began ended
      | ok result final =>
          rw [finished] at ended
          exact follows _ _ _ began ended

end Maintains

end Transactions

end MorphReth
