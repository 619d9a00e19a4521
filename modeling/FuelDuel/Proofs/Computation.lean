/-!
Computations that carry a state and may fail, run at a state: one equation for each way in which
they are put together, and what a result says about the parts (`bind_eq_ok_iff`). Programs running
on a world and readers of tokens are such computations.
-/

namespace FuelDuel

variable {ε σ α β : Type}

@[simp] theorem pure_apply (value : α) (state : σ) :
    (pure value : EStateM ε σ α) state = .ok value state := rfl

@[simp] theorem throw_apply (error : ε) (state : σ) :
    (throw error : EStateM ε σ α) state = .error error state := rfl

@[simp] theorem get_apply (state : σ) : (get : EStateM ε σ σ) state = .ok state state := rfl

@[simp] theorem modify_apply (change : σ → σ) (state : σ) :
    (modify change : EStateM ε σ PUnit) state = .ok () (change state) := rfl

theorem bind_apply (run : EStateM ε σ α) (next : α → EStateM ε σ β) (state : σ) :
    (run >>= next) state =
      match run state with
      | .ok value after => next value after
      | .error error after => .error error after := by
  cases computed : run state <;> simp [bind, EStateM.bind, computed]

theorem bind_of_ok {run : EStateM ε σ α} {next : α → EStateM ε σ β} {state after : σ} {value : α}
    (computed : run state = .ok value after) : (run >>= next) state = next value after := by
  rw [bind_apply, computed]

theorem bind_of_error {run : EStateM ε σ α} {next : α → EStateM ε σ β} {state after : σ}
    {error : ε} (computed : run state = .error error after) :
    (run >>= next) state = .error error after := by
  rw [bind_apply, computed]

/-- Two computations in sequence give a result if both do. -/
theorem bind_eq_ok_iff {run : EStateM ε σ α} {next : α → EStateM ε σ β} {state after : σ}
    {result : β} :
    (run >>= next) state = .ok result after ↔
      ∃ value middle, run state = .ok value middle ∧ next value middle = .ok result after := by
  rw [bind_apply]
  cases computed : run state with
  | ok value middle =>
      constructor
      · intro later
        exact ⟨value, middle, rfl, later⟩
      · rintro ⟨_, _, same, later⟩
        cases same
        exact later
  | error error middle =>
      constructor
      · intro later
        cases later
      · rintro ⟨_, _, same, -⟩
        cases same

theorem map_eq_ok_iff {run : EStateM ε σ α} {f : α → β} {state after : σ} {result : β} :
    (do return f (← run)) state = .ok result after ↔
      ∃ value, run state = .ok value after ∧ f value = result := by
  rw [bind_eq_ok_iff]
  constructor
  · rintro ⟨value, middle, ran, same⟩
    cases same
    exact ⟨value, ran, rfl⟩
  · rintro ⟨value, ran, rfl⟩
    exact ⟨value, after, ran, rfl⟩

end FuelDuel
