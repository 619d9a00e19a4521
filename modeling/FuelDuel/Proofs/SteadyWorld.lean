import FuelDuel.Proofs.Running
import FuelDuel.World.Rehearsal
import FuelDuel.World.View

/-!
Worlds that hold still while a program runs. The sensors of a steady world show fixed readings and
never fail, so an expression has a value that the readings and the variables determine
(`evalExpr_steady`, `evalCond_steady`), and a step of a statement has at most one effect
(`stepStmt_outcome`). Views and rehearsals are steady; scripted worlds are not.
-/

namespace FuelDuel.Execution

open FuelDuel.Language
open FuelDuel.World

/-! ### Effects -/

/-- One thing that a running program does to its world. -/
inductive Effect where
  | wrote (name : String) (value : Int32)
  | shielded (on : Bool)
  | acted (action : Action)
  deriving DecidableEq, Repr

/-- Whether an effect is an action. -/
def Effect.isAction : Effect → Bool
  | .acted _ => true
  | _ => false

/-- The world after an effect. -/
def Effect.apply {W : Type} [World W] : Effect → W → W
  | .wrote name value => World.store name value
  | .shielded on => World.setShield on
  | .acted action => World.act action

/-! ### Steady worlds -/

/-- A world whose sensors show fixed readings, and in which just an action uses the slot. -/
class SteadyWorld (W : Type) extends World W where
  /-- What the sensors show. -/
  readings : W → Readings
  sense_eq : ∀ gauge index (world : W),
    sense gauge index world = .ok ((readings world).sense gauge index) world
  performed_store : ∀ name value (world : W), performed (store name value world) = performed world
  performed_setShield : ∀ on (world : W), performed (setShield on world) = performed world
  performed_act : ∀ action (world : W), performed (act action world) = some action

attribute [simp] SteadyWorld.performed_store SteadyWorld.performed_setShield
  SteadyWorld.performed_act

instance : SteadyWorld View where
  readings view := view.readings
  sense_eq _ _ _ := rfl
  performed_store _ _ _ := rfl
  performed_setShield _ _ := rfl
  performed_act _ _ := rfl

instance : SteadyWorld Rehearsal where
  readings world := world.readings
  sense_eq _ _ _ := rfl
  performed_store _ _ _ := rfl
  performed_setShield _ _ := rfl
  performed_act _ _ := rfl

/-! ### Values of expressions and conditions -/

section Looking

variable {W α β : Type}

/-- A computation that only looks: it gives the value, or the fault of a division by zero if there
is none, and leaves the world alone. -/
def settle (value? : Option α) : Run W α := fun world =>
  match value? with
  | some value => .ok value world
  | none => .error .divisionByZero world

@[simp] theorem settle_some (value : α) (world : W) :
    settle (some value) world = .ok value world := rfl

@[simp] theorem settle_none (world : W) :
    settle (none : Option α) world = .error .divisionByZero world := rfl

/-- Two computations that only look, one after the other, only look. -/
theorem bind_settle {run : Run W α} {next : α → Run W β} {value? : Option α}
    {result? : α → Option β} {world : W} (first : run world = settle value? world)
    (second : ∀ value, next value world = settle (result? value) world) :
    (run >>= next) world = settle (value? >>= result?) world := by
  cases value? with
  | none => exact bind_of_error first
  | some value => exact (bind_of_ok first).trans (second value)

/-- A computation that only looks has found a value if it goes on. -/
theorem of_bind_settle {run : Run W α} {next : α → Run W β} {value? : Option α}
    {world reached : W} {result : β} (computed : run world = settle value? world)
    (ran : (run >>= next) world = .ok result reached) :
    ∃ value, value? = some value ∧ next value world = .ok result reached := by
  cases value? with
  | none =>
      rw [bind_of_error computed] at ran
      cases ran
  | some value =>
      rw [bind_of_ok computed] at ran
      exact ⟨value, rfl, ran⟩

end Looking

/-- An operator applied to two values; `none` is a division by zero. -/
def binaryValue? (op : BinaryOp) (left right : Int32) : Option Int32 :=
  match op with
  | .add => some (left + right)
  | .sub => some (left - right)
  | .mul => some (left * right)
  | .div => if right = 0 then none else some (left / right)

section Values

variable (readings : Readings) (stored : String → Option Int32)

/-- The value of an expression under the given readings and variables; `none` is a division by
zero. -/
def exprValue? : Expr → Option Int32
  | .num value => some value
  | .var name => some ((stored name).getD 0)
  | .binary op left right => do
      let leftValue ← exprValue? left
      let rightValue ← exprValue? right
      binaryValue? op leftValue rightValue
  | .sensor gauge => some (readings.sense gauge 0)
  | .barrelAt axis index => do
      let value ← exprValue? index
      return readings.sense (.barrel axis) (barrelIndex value)

/-- The truth value of a condition under the given readings and variables; `none` is a division by
zero. -/
def condValue? : Cond → Option Bool
  | .compare op left right => do
      let leftValue ← exprValue? readings stored left
      let rightValue ← exprValue? readings stored right
      return evalCompare op leftValue rightValue
  | .connect op left right => do
      let leftValue ← condValue? left
      let rightValue ← condValue? right
      return evalConnective op leftValue rightValue
  | .not inner => do return !(← condValue? inner)

end Values

theorem evalBinary_settle {W : Type} (op : BinaryOp) (left right : Int32) (world : W) :
    evalBinary op left right world = settle (binaryValue? op left right) world := by
  cases op with
  | add => rfl
  | sub => rfl
  | mul => rfl
  | div =>
      by_cases zero : right = 0
      · simp [evalBinary, binaryValue?, zero]
      · simp [evalBinary, binaryValue?, zero]

section Evaluation

variable {W : Type} [SteadyWorld W]

/-- An expression is evaluated to its value under the readings and variables of the world. -/
theorem evalExpr_steady (expr : Expr) (world : W) :
    evalExpr expr world =
      settle (exprValue? (SteadyWorld.readings world) (World.stored world) expr) world := by
  induction expr with
  | num value => rfl
  | var name => rfl
  | binary op left right ihLeft ihRight =>
      apply bind_settle ihLeft
      intro leftValue
      apply bind_settle ihRight
      intro rightValue
      exact evalBinary_settle op leftValue rightValue world
  | sensor gauge => exact SteadyWorld.sense_eq gauge 0 world
  | barrelAt axis index ih =>
      apply bind_settle ih
      intro value
      exact SteadyWorld.sense_eq (.barrel axis) (barrelIndex value) world

/-- A condition is evaluated to its truth value under the readings and variables of the world. -/
theorem evalCond_steady (cond : Cond) (world : W) :
    evalCond cond world =
      settle (condValue? (SteadyWorld.readings world) (World.stored world) cond) world := by
  induction cond with
  | compare op left right =>
      apply bind_settle (evalExpr_steady left world)
      intro leftValue
      apply bind_settle (evalExpr_steady right world)
      intro rightValue
      rfl
  | connect op left right ihLeft ihRight =>
      apply bind_settle ihLeft
      intro leftValue
      apply bind_settle ihRight
      intro rightValue
      rfl
  | not inner ih =>
      apply bind_settle ih
      intro value
      rfl

/-! ### What a step can do -/

/-- What a step that starts in the given world can end with: it fails at a division by zero and
has changed nothing, or it has had no effect, or just one. -/
inductive StepOutcome {α : Type} (world : W) : EStateM.Result Fault W α → Prop where
  | failed : StepOutcome world (.error .divisionByZero world)
  | silent (value : α) : StepOutcome world (.ok value world)
  | effective (value : α) (effect : Effect) : StepOutcome world (.ok value (effect.apply world))

theorem StepOutcome.map {α β : Type} {run : Run W α} {world : W}
    (outcome : StepOutcome world (run world)) (f : α → β) :
    StepOutcome world ((do return f (← run)) world) := by
  rw [bind_apply]
  generalize run world = result at outcome
  cases outcome with
  | failed => exact .failed
  | silent value => exact .silent (f value)
  | effective value effect => exact .effective (f value) effect

theorem StepOutcome.of_settle {α β : Type} {run : Run W α} {value? : Option α} {world : W}
    (computed : run world = settle value? world) {next : α → Run W β}
    (later : ∀ value, StepOutcome world (next value world)) :
    StepOutcome world ((run >>= next) world) := by
  cases value? with
  | none =>
      rw [bind_of_error computed]
      exact .failed
  | some value =>
      rw [bind_of_ok computed]
      exact later value

theorem StepOutcome.of_perform {α : Type} {action : Action} {world : W}
    (free : World.performed world = none) (value : α) :
    StepOutcome world ((do perform action; return value) world) := by
  rw [bind_of_ok (perform_free free)]
  exact .effective value (.acted action)

theorem performCounted_outcome (action : Action) (count : Option Expr) {world : W}
    (free : World.performed world = none) :
    StepOutcome world (performCounted action count world) := by
  cases count with
  | none => exact .of_perform free _
  | some expr =>
      apply StepOutcome.of_settle (evalExpr_steady expr world)
      intro value
      exact .of_perform free _

mutual

/-- A step of a statement on a free slot has at most one effect, and none if it fails. -/
theorem stepStmt_outcome (stmt : Stmt) {world : W} (free : World.performed world = none) :
    StepOutcome world (stepStmt stmt world) := by
  match stmt with
  | .turn way => exact .of_perform free none
  | .takeFuel => exact .of_perform free none
  | .shield on => exact .effective none (.shielded on)
  | .move count => exact (performCounted_outcome .move count free).map _
  | .wait count => exact (performCounted_outcome .wait count free).map _
  | .assign name value =>
      apply StepOutcome.of_settle (evalExpr_steady value world)
      intro result
      exact .effective none (.wrote name result)
  | .loop body => exact .silent _
  | .ifThen cond body =>
      apply StepOutcome.of_settle (evalCond_steady cond world)
      intro holds
      exact .silent _
  | .ifElse cond body otherwise =>
      apply StepOutcome.of_settle (evalCond_steady cond world)
      intro holds
      exact .silent _
  | .while cond body =>
      apply StepOutcome.of_settle (evalCond_steady cond world)
      intro holds
      exact .silent _
  | .block body => exact (stepBlock_outcome body free).map _

/-- A step of a block is a step of its first statement. -/
theorem stepBlock_outcome (block : Block) {world : W} (free : World.performed world = none) :
    StepOutcome world (stepBlock block world) := by
  match block with
  | .single stmt => exact (stepStmt_outcome stmt free).map _
  | .cons stmt rest => exact (stepStmt_outcome stmt free).map _

end

end Evaluation

end FuelDuel.Execution
