import FuelDuel.Execution.Session
import FuelDuel.Proofs.Everywhere

/-!
What programs write. In views, rehearsals and scripted worlds the variables are in a store of their
own, and nothing but a write touches it (`StoreWorld`). A step writes the target of its leading
statement, if this is an assignment, and nothing else (`stepStmt_keeps`), and no step puts a new
assignment into a program (`Spares.advances`). So whatever a program does in a tick, and even if it
ends in a fault, the variables that it assigns to nowhere stay as they are (`execute_keeps`).
-/

namespace FuelDuel.Language

/-- The variable that a statement assigns to. -/
def Stmt.target? : Stmt → Option String
  | .assign name _ => some name
  | _ => none

/-- The variables that a program assigns to, at any depth. -/
def Program.targets (program : Program) : List String := program.nodes.filterMap Stmt.target?

/-- None of the statements, at any depth, assigns to the variable. -/
def Spares (name : String) (stmts : List Stmt) : Prop :=
  Everywhere (fun node => node.target? ≠ some name) stmts

theorem spares_of_not_mem_targets {program : Program} {name : String}
    (missing : name ∉ program.targets) : Spares name program.stmts := by
  intro node inside target
  exact missing (List.mem_filterMap.mpr ⟨node, inside, target⟩)

end FuelDuel.Language

namespace FuelDuel.Execution

open FuelDuel.Language
open FuelDuel.World

/-! ### Stores -/

/-- The same outcome, in another world. -/
def moveTo {W α : Type} (move : W → W) :
    EStateM.Result Fault W α → EStateM.Result Fault W α
  | .ok value world => .ok value (move world)
  | .error fault world => .error fault (move world)

/-- A world with a store of variables that nothing else in the world depends on. -/
class StoreWorld (W : Type) [World W] where
  vars : W → Vars
  withVars : Vars → W → W
  vars_withVars : ∀ store (world : W), vars (withVars store world) = store
  withVars_vars : ∀ world : W, withVars (vars world) world = world
  withVars_withVars : ∀ store earlier (world : W),
    withVars store (withVars earlier world) = withVars store world
  stored_eq : ∀ (world : W) name, World.stored world name = (vars world).get? name
  store_eq : ∀ name value (world : W),
    World.store name value world = withVars ((vars world).set name value) world
  performed_withVars : ∀ store (world : W),
    World.performed (withVars store world) = World.performed world
  act_withVars : ∀ action store (world : W),
    World.act action (withVars store world) = withVars store (World.act action world)
  setShield_withVars : ∀ on store (world : W),
    World.setShield on (withVars store world) = withVars store (World.setShield on world)
  sense_withVars : ∀ gauge index store (world : W),
    World.sense gauge index (withVars store world) =
      moveTo (withVars store) (World.sense gauge index world)

export StoreWorld (vars withVars)

attribute [simp] StoreWorld.vars_withVars StoreWorld.withVars_vars StoreWorld.withVars_withVars

instance : StoreWorld View where
  vars view := view.vars
  withVars store view := { view with vars := store }
  vars_withVars _ _ := rfl
  withVars_vars _ := rfl
  withVars_withVars _ _ _ := rfl
  stored_eq _ _ := rfl
  store_eq _ _ _ := rfl
  performed_withVars _ _ := rfl
  act_withVars _ _ _ := rfl
  setShield_withVars _ _ _ := rfl
  sense_withVars _ _ _ _ := rfl

instance : StoreWorld Rehearsal where
  vars world := world.vars
  withVars store world := { world with vars := store }
  vars_withVars _ _ := rfl
  withVars_vars _ := rfl
  withVars_withVars _ _ _ := rfl
  stored_eq _ _ := rfl
  store_eq _ _ _ := rfl
  performed_withVars _ _ := rfl
  act_withVars _ _ _ := rfl
  setShield_withVars _ _ _ := rfl
  sense_withVars _ _ _ _ := rfl

instance : StoreWorld Scripted where
  vars world := world.vars
  withVars store world := { world with vars := store }
  vars_withVars _ _ := rfl
  withVars_vars _ := rfl
  withVars_withVars _ _ _ := rfl
  stored_eq _ _ := rfl
  store_eq _ _ _ := rfl
  performed_withVars _ _ := rfl
  act_withVars _ _ _ := rfl
  setShield_withVars _ _ _ := rfl
  sense_withVars gauge index store world := by
    obtain ⟨outputs, log, vars, performed⟩ := world
    cases outputs <;> rfl

section Laws

variable {W : Type} [World W] [StoreWorld W]

/-- What does not depend on the store leaves it alone. -/
theorem vars_of_blind {change : W → W} {world : W}
    (blind : ∀ store, change (withVars store world) = withVars store (change world)) :
    vars (change world) = vars world := by
  have same := blind (vars world)
  rw [StoreWorld.withVars_vars] at same
  rw [same, StoreWorld.vars_withVars]

@[simp] theorem vars_act (action : Action) (world : W) :
    vars (World.act action world) = vars world :=
  vars_of_blind fun store => StoreWorld.act_withVars action store world

@[simp] theorem vars_setShield (on : Bool) (world : W) :
    vars (World.setShield on world) = vars world :=
  vars_of_blind fun store => StoreWorld.setShield_withVars on store world

@[simp] theorem vars_store (name : String) (value : Int32) (world : W) :
    vars (World.store name value world) = (vars world).set name value := by
  rw [StoreWorld.store_eq, StoreWorld.vars_withVars]

@[simp] theorem vars_sense (gauge : Sensor) (index : Nat) (world : W) :
    vars (reached (World.sense gauge index world)) = vars world := by
  have same := StoreWorld.sense_withVars gauge index (vars world) world
  rw [StoreWorld.withVars_vars] at same
  rw [same]
  cases World.sense gauge index world with
  | ok value after => exact StoreWorld.vars_withVars _ _
  | error fault after => exact StoreWorld.vars_withVars _ _

end Laws

/-! ### What a computation preserves -/

/-- What holds of the world before still holds of the one that the computation has reached, with a
result or in a fault. -/
def Preserves {W α : Type} (holds : W → Prop) (run : Run W α) : Prop :=
  ∀ world, holds world → holds (reached (run world))

namespace Preserves

variable {W α β : Type} {holds : W → Prop} {run : Run W α}

theorem pure (value : α) : Preserves holds (pure value : Run W α) := fun _ before => before

theorem throw (fault : Fault) : Preserves holds (throw fault : Run W α) := fun _ before => before

theorem modify {change : W → W} (keeps : ∀ world, holds world → holds (change world)) :
    Preserves holds (modify change : Run W PUnit) := keeps

theorem bind {next : α → Run W β} (first : Preserves holds run)
    (later : ∀ value, Preserves holds (next value)) : Preserves holds (run >>= next) := by
  intro world before
  have middle := first world before
  rw [bind_apply]
  cases ran : run world with
  | ok value after =>
      rw [ran] at middle
      exact later value after middle
  | error fault after =>
      rw [ran] at middle
      exact middle

theorem map (first : Preserves holds run) (f : α → β) :
    Preserves holds (do return f (← run)) :=
  first.bind fun value => .pure (f value)

end Preserves

section Evaluation

variable {W : Type} [World W] {holds : W → Prop}
  (senses : ∀ gauge index, Preserves holds (World.sense gauge index))
include senses

/-- What every reading preserves, the evaluation of an expression preserves. -/
theorem evalExpr_preserves (expr : Expr) : Preserves holds (evalExpr expr) := by
  induction expr with
  | num value => exact .pure value
  | var name =>
      intro world before
      exact before
  | binary op left right ihLeft ihRight =>
      refine ihLeft.bind fun leftValue => ihRight.bind fun rightValue => ?_
      cases op with
      | add | sub | mul => exact .pure _
      | div =>
          by_cases zero : rightValue = 0
          · simpa [evalBinary, zero] using Preserves.throw .divisionByZero
          · simpa [evalBinary, zero] using Preserves.pure (leftValue / rightValue)
  | sensor gauge => exact senses gauge 0
  | barrelAt axis index ih => exact ih.bind fun value => senses (.barrel axis) (barrelIndex value)

theorem evalCond_preserves (cond : Cond) : Preserves holds (evalCond cond) := by
  induction cond with
  | compare op left right =>
      exact (evalExpr_preserves senses left).bind fun leftValue =>
        (evalExpr_preserves senses right).map _
  | connect op left right ihLeft ihRight => exact ihLeft.bind fun leftValue => ihRight.map _
  | not inner ih => exact ih.map _

variable (acts : ∀ action world, holds world → holds (World.act action world))
include acts

omit senses in
theorem perform_preserves (action : Action) : Preserves holds (perform action) := by
  intro world before
  unfold perform
  cases World.performed world with
  | none => exact acts action world before
  | some performed => exact before

theorem performCounted_preserves (action : Action) (count : Option Expr) :
    Preserves holds (performCounted action count) := by
  cases count with
  | none => exact (perform_preserves acts action).map _
  | some expr =>
      exact (evalExpr_preserves senses expr).bind fun remaining =>
        (perform_preserves acts action).map _

end Evaluation

section Steps

variable {W : Type} [World W] [StoreWorld W] {name : String}

/-- The world has the value, or none, for a variable. -/
def Holds (name : String) (value? : Option Int32) (world : W) : Prop :=
  (vars world).get? name = value?

variable {value? : Option Int32}

theorem sense_keeps (gauge : Sensor) (index : Nat) :
    Preserves (Holds (W := W) name value?) (World.sense gauge index) := by
  intro world before
  rwa [Holds, vars_sense]

theorem act_keeps (action : Action) (world : W) (before : Holds name value? world) :
    Holds name value? (World.act action world) := by
  rwa [Holds, vars_act]

mutual

/-- A step writes nothing but the target of its leading statement. -/
theorem stepStmt_keeps (stmt : Stmt) (spares : stmt.lead.target? ≠ some name) :
    Preserves (Holds (W := W) name value?) (stepStmt stmt) := by
  match stmt with
  | .turn way => exact (perform_preserves act_keeps _).map _
  | .takeFuel => exact (perform_preserves act_keeps _).map _
  | .shield on =>
      refine (Preserves.modify fun world before => ?_).bind fun _ => .pure none
      rwa [Holds, vars_setShield]
  | .move count => exact (performCounted_preserves sense_keeps act_keeps _ _).map _
  | .wait count => exact (performCounted_preserves sense_keeps act_keeps _ _).map _
  | .assign target value =>
      refine (evalExpr_preserves sense_keeps value).bind fun result => ?_
      refine (Preserves.modify fun world before => ?_).bind fun _ => .pure none
      have other : name ≠ target := fun same => spares (congrArg some same.symm)
      rwa [Holds, vars_store, Vars.get?_set, if_neg other]
  | .loop body => exact .pure _
  | .ifThen cond body => exact (evalCond_preserves sense_keeps cond).map _
  | .ifElse cond body otherwise => exact (evalCond_preserves sense_keeps cond).map _
  | .while cond body => exact (evalCond_preserves sense_keeps cond).map _
  | .block body => exact (stepBlock_keeps body spares).map _

theorem stepBlock_keeps (block : Block) (spares : block.lead.target? ≠ some name) :
    Preserves (Holds (W := W) name value?) (stepBlock block) := by
  match block with
  | .single stmt => exact (stepStmt_keeps stmt spares).map _
  | .cons stmt rest => exact (stepStmt_keeps stmt spares).map _

end

/-- No step puts a new assignment into a sequence of statements. -/
theorem Spares.advances {stmts rest : List Stmt} (spares : Spares name stmts)
    (advances : Advances stmts rest) : Spares name rest :=
  advances.everywhere ⟨fun _ => nofun, fun _ => nofun⟩ spares

theorem runSteps_keeps (steps : Nat) {stmts : List Stmt} (spares : Spares name stmts) :
    Preserves (Holds (W := W) name value?) (runSteps steps stmts) := by
  induction steps generalizing stmts with
  | zero =>
      intro world before
      cases stmts with
      | nil =>
          rw [runSteps_nil]
          exact before
      | cons stmt rest =>
          by_cases free : World.performed world = none
          · rw [runSteps_zero stmt rest free]
            exact before
          · rw [runSteps_used _ _ free]
            exact before
  | succ steps ih =>
      intro world before
      cases stmts with
      | nil =>
          rw [runSteps_nil]
          exact before
      | cons stmt rest =>
          by_cases free : World.performed world = none
          · have middle := stepStmt_keeps stmt
              ((everywhere_cons_iff.mp spares).1 _ stmt.lead_mem_nodes) world before
            rw [runSteps_succ steps stmt rest free, bind_apply]
            cases stepped : stepStmt stmt world with
            | ok residual after =>
                rw [stepped] at middle
                have advances : Advances (stmt :: rest) (splice residual rest) := by
                  rw [splice_append]
                  exact .first (stepStmt_rewrites stmt stepped) rest
                exact ih (Spares.advances spares advances) after middle
            | error fault after =>
                rw [stepped] at middle
                exact middle
          · rw [runSteps_used _ _ free]
            exact before

/-- A tick of a program writes no variable that the program assigns to nowhere. -/
theorem execute_keeps {program : Program} (spares : Spares name program.stmts) :
    Preserves (Holds (W := W) name value?) (execute program) :=
  (runSteps_keeps maxSteps spares).map _

omit [StoreWorld W] in
theorem Spares.execute {program rest : Program} {world after : W}
    (spares : Spares name program.stmts) (ran : execute program world = .ok rest after) :
    Spares name rest.stmts := by
  have left : LeftOver program rest := .tick .start ran
  apply left.keeps (Spares name) _ everywhere_nil spares
  intro stmts rest advances before
  exact Spares.advances before advances

end Steps

/-! ### Sessions that go on -/

namespace Session

variable {W : Type} [World W]

/-- A tick of a session, after which the world is changed by `renew`: it frees the slot, shows other
readings or does anything else. After a fault the session goes on with the program it had. -/
def tick (renew : W → W) (session : Session W) : Session W :=
  { session.execute.2 with world := renew session.execute.2.world }

/-- A session after some ticks. -/
def afterTicks (renew : Nat → W → W) (session : Session W) : (ticks : Nat) → Session W
  | 0 => session
  | ticks + 1 => (session.afterTicks renew ticks).tick (renew ticks)

variable [StoreWorld W] {name : String} {value? : Option Int32} {session : Session W}

/-- The program of a session does not assign to the variable, which has the value. -/
structure Keeps (name : String) (value? : Option Int32) (session : Session W) : Prop where
  spares : Spares name session.program.stmts
  holds : Holds name value? session.world

theorem Keeps.execute (keeps : Keeps name value? session) :
    Keeps name value? session.execute.2 := by
  have holds := execute_keeps keeps.spares session.world keeps.holds
  unfold Session.execute apply
  cases ran : Execution.execute session.program session.world with
  | ok rest after =>
      rw [ran] at holds
      exact ⟨Spares.execute keeps.spares ran, holds⟩
  | error fault after =>
      rw [ran] at holds
      exact ⟨keeps.spares, holds⟩

/-- What happens between the ticks may depend on anything but the store. -/
theorem Keeps.afterTicks {renew : Nat → W → W}
    (blind : ∀ tick store world,
      renew tick (withVars store world) = withVars store (renew tick world))
    (keeps : Keeps name value? session) (ticks : Nat) :
    Keeps name value? (session.afterTicks renew ticks) := by
  induction ticks with
  | zero => exact keeps
  | succ ticks ih =>
      obtain ⟨spares, holds⟩ := ih.execute
      refine ⟨spares, ?_⟩
      show (vars (renew ticks _)).get? name = value?
      rw [vars_of_blind (blind ticks · _)]
      exact holds

end Session

end FuelDuel.Execution
