import FuelDuel.Proofs.SteadyWorld

/-!
Steps that fail. Whatever a statement can fail at comes before its effect: a value or a condition is
evaluated first, and an action looks at the slot before it uses it. So a step that fails, inside
nested blocks too and whether or not the slot is used, leaves the world exactly as it was
(`failed_steps_change_nothing`).
-/

namespace FuelDuel.Execution

open FuelDuel.Language
open FuelDuel.World

section Steps

variable {W : Type} [SteadyWorld W] {α β : Type} {world : W}

/-- What a computation that began in the given world has ended with: a result, or a fault in that
same world. It fails at a division by zero or at a second action, and then the fault names the
first one. -/
inductive Atomic (world : W) : EStateM.Result Fault W α → Prop where
  | done (value : α) (after : W) : Atomic world (.ok value after)
  | division : Atomic world (.error .divisionByZero world)
  | secondAction {performed : Action} (attempted : Action)
      (used : World.performed world = some performed) :
      Atomic world (.error (.slotUsed attempted performed) world)

namespace Atomic

theorem unchanged {after : W} {fault : Fault}
    (failed : Atomic world (.error fault after : EStateM.Result Fault W α)) : after = world := by
  cases failed with
  | division => rfl
  | secondAction attempted used => rfl

/-- A computation that only looks may go first. -/
theorem of_settle {run : Run W α} {next : α → Run W β} {value? : Option α}
    (computed : run world = settle value? world)
    (later : ∀ value, Atomic world (next value world)) : Atomic world ((run >>= next) world) := by
  cases value? with
  | none =>
      rw [bind_of_error computed]
      exact .division
  | some value =>
      rw [bind_of_ok computed]
      exact later value

/-- What cannot fail may come last. -/
theorem map {run : Run W α} (first : Atomic world (run world)) (f : α → β) :
    Atomic world ((do return f (← run)) world) := by
  rw [bind_apply]
  generalize run world = result at first
  cases first with
  | done value after => exact .done (f value) after
  | division => exact .division
  | secondAction attempted used => exact .secondAction attempted used

end Atomic

theorem perform_atomic (action : Action) (world : W) : Atomic world (perform action world) := by
  cases slot : World.performed world with
  | none =>
      rw [perform_free slot]
      exact .done () (World.act action world)
  | some performed =>
      simp only [perform, slot]
      exact .secondAction action slot

/-- The count is evaluated before the slot is looked at. -/
theorem performCounted_atomic (action : Action) (count : Option Expr) (world : W) :
    Atomic world (performCounted action count world) := by
  cases count with
  | none => exact (perform_atomic action world).map _
  | some expr =>
      apply Atomic.of_settle (evalExpr_steady expr world)
      intro remaining
      exact (perform_atomic action world).map _

mutual

theorem stepStmt_atomic (stmt : Stmt) (world : W) : Atomic world (stepStmt stmt world) := by
  match stmt with
  | .turn way => exact (perform_atomic (.turn way) world).map fun _ => none
  | .takeFuel => exact (perform_atomic .takeFuel world).map fun _ => none
  | .shield on => exact .done none (World.setShield on world)
  | .move count => exact (performCounted_atomic .move count world).map _
  | .wait count => exact (performCounted_atomic .wait count world).map _
  | .assign name value =>
      apply Atomic.of_settle (evalExpr_steady value world)
      intro result
      exact .done none (World.store name result world)
  | .loop body => exact .done _ world
  | .ifThen cond body =>
      apply Atomic.of_settle (evalCond_steady cond world)
      intro holds
      exact .done _ world
  | .ifElse cond body otherwise =>
      apply Atomic.of_settle (evalCond_steady cond world)
      intro holds
      exact .done _ world
  | .while cond body =>
      apply Atomic.of_settle (evalCond_steady cond world)
      intro holds
      exact .done _ world
  | .block body => exact (stepBlock_atomic body world).map _

theorem stepBlock_atomic (block : Block) (world : W) : Atomic world (stepBlock block world) := by
  match block with
  | .single stmt => exact (stepStmt_atomic stmt world).map _
  | .cons stmt rest => exact (stepStmt_atomic stmt world).map _

end

end Steps

/-- A step that fails changes nothing. If a step of a statement or of a block fails in the arena or
in a rehearsal, on a free slot or on a used one, then no variable has been written, the shield is
set as before and no action has been recorded: the step ends in the world in which it began. -/
theorem failed_steps_change_nothing {fault : Fault} :
    (∀ {view after : View},
      (∀ stmt, stepStmt stmt view = .error fault after → after = view) ∧
      ∀ block, stepBlock block view = .error fault after → after = view) ∧
    ∀ {world after : Rehearsal},
      (∀ stmt, stepStmt stmt world = .error fault after → after = world) ∧
      ∀ block, stepBlock block world = .error fault after → after = world := by
  refine ⟨⟨?_, ?_⟩, ?_, ?_⟩
  · intro stmt failed
    exact (failed ▸ stepStmt_atomic stmt _).unchanged
  · intro block failed
    exact (failed ▸ stepBlock_atomic block _).unchanged
  · intro stmt failed
    exact (failed ▸ stepStmt_atomic stmt _).unchanged
  · intro block failed
    exact (failed ▸ stepBlock_atomic block _).unchanged

/-- A counted move inside a block, and then an assignment. -/
def foray (count : Expr) : Block :=
  .cons (.block (.single (.move (some count)))) (.single (.assign "n" (.num 1)))

/-- A foray after the action of the tick fails at its move in the arena, and in a rehearsal at its
count if that divides by zero. -/
theorem failed_steps_change_nothing_of_foray :
    (∃ after, stepStmt (.block (foray (.num 3)))
        { readings := {}, vars := .empty, decision := ⟨some .wait, some true⟩ : View } =
          .error (.slotUsed .move .wait) after ∧
        after = { readings := {}, vars := .empty, decision := ⟨some .wait, some true⟩ }) ∧
    ∃ after, stepBlock (foray (.binary .div (.num 3) (.var "n")))
        { readings := {}, performed := some .takeFuel : Rehearsal } =
          .error .divisionByZero after ∧
        after = { readings := {}, performed := some .takeFuel } := by
  constructor
  · refine ⟨_, rfl, ?_⟩
    exact failed_steps_change_nothing.1.1 (.block (foray (.num 3))) rfl
  · refine ⟨_, rfl, ?_⟩
    exact failed_steps_change_nothing.2.2 (foray (.binary .div (.num 3) (.var "n"))) rfl

end FuelDuel.Execution
