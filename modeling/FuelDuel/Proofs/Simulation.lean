import FuelDuel.Proofs.Running

/-!
Simulations between worlds. Two worlds that answer every question alike, and go on doing so
whatever is done to both, cannot be told apart by a program: the same program gives the same result
or the same fault on both and leaves them related (`Simulation.execute`).
-/

namespace FuelDuel.Execution

open FuelDuel.Language

variable {V W α β : Type}

/-- Two outcomes with the same value or the same fault, in related worlds. -/
inductive Agree (related : V → W → Prop) :
    EStateM.Result Fault V α → EStateM.Result Fault W α → Prop where
  | ok {left : V} {right : W} (value : α) (same : related left right) :
      Agree related (.ok value left) (.ok value right)
  | error {left : V} {right : W} (fault : Fault) (same : related left right) :
      Agree related (.error fault left) (.error fault right)

theorem Agree.bind {related : V → W → Prop} {left : V} {right : W} {leftRun : Run V α}
    {rightRun : Run W α} {leftNext : α → Run V β} {rightNext : α → Run W β}
    (first : Agree related (leftRun left) (rightRun right))
    (second : ∀ value {leftAfter rightAfter}, related leftAfter rightAfter →
      Agree related (leftNext value leftAfter) (rightNext value rightAfter)) :
    Agree related ((leftRun >>= leftNext) left) ((rightRun >>= rightNext) right) := by
  rw [bind_apply, bind_apply]
  generalize leftRun left = leftResult at first
  generalize rightRun right = rightResult at first
  cases first with
  | ok value same => exact second value same
  | error fault same => exact .error fault same

theorem Agree.map {related : V → W → Prop} {left : V} {right : W} {leftRun : Run V α}
    {rightRun : Run W α} (first : Agree related (leftRun left) (rightRun right)) (f : α → β) :
    Agree related ((do return f (← leftRun)) left) ((do return f (← rightRun)) right) :=
  first.bind fun value _ _ same => .ok (f value) same

/-- Related worlds answer alike and stay related. A variable that was never written may be told
apart from one that holds zero only by looking into the store, which programs cannot do. -/
structure Simulation [World V] [World W] (related : V → W → Prop) : Prop where
  performed : ∀ {left right}, related left right →
    World.performed left = World.performed right
  stored : ∀ {left right}, related left right → ∀ name,
    (World.stored left name).getD 0 = (World.stored right name).getD 0
  store : ∀ {left right}, related left right → ∀ name value,
    related (World.store name value left) (World.store name value right)
  setShield : ∀ {left right}, related left right → ∀ on,
    related (World.setShield on left) (World.setShield on right)
  act : ∀ {left right}, related left right → ∀ action,
    related (World.act action left) (World.act action right)
  sense : ∀ {left right}, related left right → ∀ gauge index,
    Agree related (World.sense gauge index left) (World.sense gauge index right)

section Programs

variable [World V] [World W] {related : V → W → Prop} {left : V} {right : W}

omit [World V] [World W] in
theorem evalBinary_agree (same : related left right) (op : BinaryOp) (first second : Int32) :
    Agree related (evalBinary op first second left) (evalBinary op first second right) := by
  cases op with
  | add => exact .ok _ same
  | sub => exact .ok _ same
  | mul => exact .ok _ same
  | div =>
      by_cases zero : second = 0
      · simpa [evalBinary, zero] using Agree.error .divisionByZero same
      · simpa [evalBinary, zero] using Agree.ok (first / second) same

namespace Simulation

theorem evalExpr (simulation : Simulation related) (expr : Expr) (same : related left right) :
    Agree related (evalExpr expr left) (evalExpr expr right) := by
  induction expr generalizing left right with
  | num value => exact .ok value same
  | var name =>
      have equal := simulation.stored same name
      show Agree related (.ok ((World.stored left name).getD 0) left)
        (.ok ((World.stored right name).getD 0) right)
      rw [equal]
      exact .ok _ same
  | binary op first second ihFirst ihSecond =>
      apply (ihFirst same).bind
      intro firstValue _ _ same
      apply (ihSecond same).bind
      intro secondValue _ _ same
      exact evalBinary_agree same op firstValue secondValue
  | sensor gauge => exact simulation.sense same gauge 0
  | barrelAt axis index ih =>
      apply (ih same).bind
      intro value _ _ same
      exact simulation.sense same (.barrel axis) (barrelIndex value)

theorem evalCond (simulation : Simulation related) (cond : Cond) (same : related left right) :
    Agree related (evalCond cond left) (evalCond cond right) := by
  induction cond generalizing left right with
  | compare op first second =>
      apply (simulation.evalExpr first same).bind
      intro firstValue _ _ same
      exact (simulation.evalExpr second same).map _
  | connect op first second ihFirst ihSecond =>
      apply (ihFirst same).bind
      intro firstValue _ _ same
      exact (ihSecond same).map _
  | not inner ih => exact (ih same).map _

theorem perform (simulation : Simulation related) (action : Action) (same : related left right) :
    Agree related (perform action left) (perform action right) := by
  have equal := simulation.performed same
  unfold Execution.perform
  rw [equal]
  cases World.performed right with
  | none => exact .ok () (simulation.act same action)
  | some performed => exact .error _ same

theorem performCounted (simulation : Simulation related) (action : Action) (count : Option Expr)
    (same : related left right) :
    Agree related (performCounted action count left) (performCounted action count right) := by
  cases count with
  | none => exact (simulation.perform action same).map _
  | some expr =>
      apply (simulation.evalExpr expr same).bind
      intro remaining _ _ same
      exact (simulation.perform action same).map _

mutual

theorem stepStmt (simulation : Simulation related) (stmt : Stmt) (same : related left right) :
    Agree related (stepStmt stmt left) (stepStmt stmt right) := by
  match stmt with
  | .turn way => exact (simulation.perform (.turn way) same).map _
  | .takeFuel => exact (simulation.perform .takeFuel same).map _
  | .shield on => exact .ok none (simulation.setShield same on)
  | .move count => exact (simulation.performCounted .move count same).map _
  | .wait count => exact (simulation.performCounted .wait count same).map _
  | .assign name value =>
      apply (simulation.evalExpr value same).bind
      intro result _ _ same
      exact .ok none (simulation.store same name result)
  | .loop body => exact .ok _ same
  | .ifThen cond body => exact (simulation.evalCond cond same).map _
  | .ifElse cond body otherwise => exact (simulation.evalCond cond same).map _
  | .while cond body => exact (simulation.evalCond cond same).map _
  | .block body => exact (simulation.stepBlock body same).map _

theorem stepBlock (simulation : Simulation related) (block : Block) (same : related left right) :
    Agree related (stepBlock block left) (stepBlock block right) := by
  match block with
  | .single stmt => exact (simulation.stepStmt stmt same).map _
  | .cons stmt rest => exact (simulation.stepStmt stmt same).map _

end

theorem runSteps (simulation : Simulation related) (steps : Nat) (stmts : List Stmt)
    (same : related left right) :
    Agree related (runSteps steps stmts left) (runSteps steps stmts right) := by
  induction steps generalizing stmts left right with
  | zero =>
      cases stmts with
      | nil =>
          rw [runSteps_nil, runSteps_nil]
          exact .ok [] same
      | cons stmt rest =>
          by_cases free : World.performed right = none
          · rw [runSteps_zero stmt rest ((simulation.performed same).trans free),
              runSteps_zero stmt rest free]
            exact .error _ same
          · rw [runSteps_used 0 _ (simulation.performed same ▸ free), runSteps_used 0 _ free]
            exact .ok _ same
  | succ steps ih =>
      cases stmts with
      | nil =>
          rw [runSteps_nil, runSteps_nil]
          exact .ok [] same
      | cons stmt rest =>
          by_cases free : World.performed right = none
          · rw [runSteps_succ steps stmt rest ((simulation.performed same).trans free),
              runSteps_succ steps stmt rest free]
            apply (simulation.stepStmt stmt same).bind
            intro residual _ _ same
            exact ih (splice residual rest) same
          · rw [runSteps_used _ _ (simulation.performed same ▸ free), runSteps_used _ _ free]
            exact .ok _ same

/-- A program gives the same result or the same fault on related worlds. -/
theorem execute (simulation : Simulation related) (program : Program)
    (same : related left right) :
    Agree related (execute program left) (execute program right) :=
  (simulation.runSteps maxSteps program.stmts same).map _

end Simulation

end Programs

end FuelDuel.Execution
