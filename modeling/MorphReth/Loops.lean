import MorphReth.Checks

set_option autoImplicit false

namespace MorphReth

-- A loop over a list whose body may fail, go on, or break with a last state.
inductive Flow (σ : Type) where
  | next (state : σ)
  | stop (state : σ)

namespace Flow

variable {σ τ : Type}

def state : Flow σ → σ
  | next state => state
  | stop state => state

def map (change : σ → τ) : Flow σ → Flow τ
  | next state => next (change state)
  | stop state => stop (change state)

end Flow

variable {σ τ α ε : Type}

def loopList (step : σ → α → Except ε (Flow σ)) (state : σ) : List α → Except ε (Flow σ)
  | [] => .ok (.next state)
  | item :: items => do
      match ← step state item with
      | .next after => loopList step after items
      | .stop after => .ok (.stop after)

-- The states the loop passes through: the one at the start of each iteration
-- and the last one.
inductive Visits (step : σ → α → Except ε (Flow σ)) : σ → List α → σ → Prop
  | here (state : σ) (items : List α) : Visits step state items state
  | next (state after final : σ) (item : α) (items : List α) (stepped : step state item = .ok (.next after))
      (later : Visits step after items final) : Visits step state (item :: items) final
  | stop (state after : σ) (item : α) (items : List α) (stepped : step state item = .ok (.stop after)) :
      Visits step state (item :: items) after

section Rules

variable (step : σ → α → Except ε (Flow σ))

theorem loop_result_visited (start : σ) (items : List α) (flow : Flow σ) (result : loopList step start items = .ok flow) :
    Visits step start items flow.state := by
  induction items generalizing start with
  | nil =>
      cases result
      exact .here start []
  | cons item items hypothesis =>
      obtain ⟨turn, stepped, rest⟩ := (bind_ok _ _ _).mp result
      cases turn with
      | next after => exact .next start after flow.state item items stepped (hypothesis after rest)
      | stop after =>
          cases rest
          exact .stop start after item items stepped

theorem loop_error_visited (start : σ) (items : List α) (error : ε) (result : loopList step start items = .error error) :
    ∃ state, Visits step start items state ∧ ∃ item ∈ items, step state item = .error error := by
  induction items generalizing start with
  | nil => cases result
  | cons item items hypothesis =>
      rcases (bind_error _ _ _).mp result with failed | ⟨turn, stepped, rest⟩
      · exact ⟨start, .here start _, item, List.mem_cons_self, failed⟩
      · cases turn with
        | next after =>
            obtain ⟨state, visited, failing, member, failed⟩ := hypothesis after rest
            exact ⟨state, .next start after state item items stepped visited, failing, List.mem_cons_of_mem item member, failed⟩
        | stop after => cases rest

theorem visits_invariant (invariant : σ → Prop) (start final : σ) (items : List α)
    (preserved : ∀ state item flow, item ∈ items → invariant state → step state item = .ok flow → invariant flow.state)
    (initial : invariant start) (visited : Visits step start items final) : invariant final := by
  induction visited with
  | here state items => exact initial
  | next state after final item items stepped later hypothesis =>
      apply hypothesis (fun state later flow member => preserved state later flow (List.mem_cons_of_mem item member))
      exact preserved state item (.next after) List.mem_cons_self initial stepped
  | stop state after item items stepped => exact preserved state item (.stop after) List.mem_cons_self initial stepped

-- A loop that never breaks has consumed all of its items when it returns. The
-- invariant may speak about the items consumed so far.
theorem loop_consumes (invariant : List α → σ → Prop) (start : σ) (items done : List α) (flow : Flow σ)
    (preserved : ∀ done state item turn, invariant done state → step state item = .ok turn →
      ∃ after, turn = .next after ∧ invariant (done ++ [item]) after) (initial : invariant done start)
    (result : loopList step start items = .ok flow) : ∃ final, flow = .next final ∧ invariant (done ++ items) final := by
  induction items generalizing start done with
  | nil =>
      cases result
      exact ⟨start, rfl, by rw [List.append_nil]; exact initial⟩
  | cons item items hypothesis =>
      obtain ⟨turn, stepped, rest⟩ := (bind_ok _ _ _).mp result
      obtain ⟨after, rfl, kept⟩ := preserved done start item turn initial stepped
      obtain ⟨final, same, holds⟩ := hypothesis after (done ++ [item]) kept rest
      exact ⟨final, same, by rw [List.append_assoc] at holds; exact holds⟩

end Rules

-- Two loops of which one runs on a projection of the other's state.
theorem loop_map (left : σ → α → Except ε (Flow σ)) (right : τ → α → Except ε (Flow τ)) (project : σ → τ) (invariant : σ → Prop)
    (commutes : ∀ state item, invariant state → right (project state) item = Flow.map project <$> left state item)
    (preserved : ∀ state item flow, invariant state → left state item = .ok flow → invariant flow.state) (start : σ) (items : List α)
    (initial : invariant start) : loopList right (project start) items = Flow.map project <$> loopList left start items := by
  induction items generalizing start with
  | nil => rfl
  | cons item items hypothesis =>
      rw [loopList, loopList, commutes start item initial]
      cases stepped : left start item with
      | error error => rfl
      | ok turn =>
          cases turn with
          | next after => exact hypothesis after (preserved start item (.next after) initial stepped)
          | stop after => rfl

end MorphReth
