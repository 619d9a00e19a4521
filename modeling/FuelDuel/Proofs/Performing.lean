import FuelDuel.Proofs.SlotUse

/-!
Programs that do nothing but act. In some ticks a program neither reads nor writes anything: it
performs an action, and what is left of it is known beforehand, whatever the world (`ActsNext`).
A performance is a sequence of such ticks (`Performs`). What happens between the ticks does not
matter to it, so its course tick by tick is known as well (`Performs.course`), and so is its
rehearsal (`Performs.actionsFrom`).
-/

namespace FuelDuel.Execution

open FuelDuel.Language
open FuelDuel.World

/-! ### One tick -/

section Ticks

variable {W : Type} [World W] {world reached : W} {stmt : Stmt} {residual : Option Stmt}

/-- A step that uses the slot is the last one of its tick. -/
theorem runSteps_of_stepStmt (free : World.performed world = none)
    (stepped : stepStmt stmt world = .ok residual reached) (used : World.performed reached ≠ none)
    (steps : Nat) (rest : List Stmt) :
    runSteps (steps + 1) (stmt :: rest) world = .ok (splice residual rest) reached := by
  rw [runSteps_succ steps stmt rest free, bind_of_ok stepped, runSteps_used steps _ used]

theorem execute_of_stepStmt (free : World.performed world = none)
    (stepped : stepStmt stmt world = .ok residual reached) (used : World.performed reached ≠ none)
    (rest : List Stmt) : execute ⟨stmt :: rest⟩ world = .ok ⟨splice residual rest⟩ reached :=
  bind_of_ok (runSteps_of_stepStmt free stepped used 9999 rest)

/-- After a tick that gives a result the course goes on from the renewed world. -/
theorem course_of_ok {program rest : Program} (ran : execute program world = .ok rest reached)
    (renew : Nat → W → W) (ticks : Nat) :
    course renew (ticks + 1) program world =
      ⟨deeds program world ::
          (course (fun tick => renew (tick + 1)) ticks rest (renew 0 reached)).deeds,
        (course (fun tick => renew (tick + 1)) ticks rest (renew 0 reached)).ending⟩ := by
  rw [course, ran]

end Ticks

/-- A step of the statement does nothing but perform the action, whatever the world. -/
def StepActs (action : Action) (stmt : Stmt) (residual : Option Stmt) : Prop :=
  ∀ (W : Type) [World W] [LawfulWorld W] (world : W), World.performed world = none →
    stepStmt stmt world = .ok residual (World.act action world)

/-- In its next tick the program does nothing but perform the action, whatever the world. -/
def ActsNext (action : Action) (program rest : Program) : Prop :=
  ∀ (W : Type) [World W] [LawfulWorld W] (world : W), World.performed world = none →
    execute program world = .ok rest (World.act action world)

section OneAction

variable {action : Action} {stmt : Stmt} {residual : Option Stmt} {program rest : Program}

theorem performed_act_ne_none {W : Type} [World W] [LawfulWorld W] (action : Action) (world : W) :
    World.performed (World.act action world) ≠ none := by
  simp [LawfulWorld.performed_act]

theorem StepActs.actsNext (acts : StepActs action stmt residual) (rest : List Stmt) :
    ActsNext action ⟨stmt :: rest⟩ ⟨splice residual rest⟩ :=
  fun W _ _ world free =>
    execute_of_stepStmt free (acts W world free) (performed_act_ne_none action world) rest

/-- A loop whose body starts with an action performs it in the tick in which it is unrolled. -/
theorem StepActs.actsNext_loop (acts : StepActs action stmt residual) {body : Block}
    {others : List Stmt} (starts : body.toList = stmt :: others) (rest : List Stmt) :
    ActsNext action ⟨.loop body :: rest⟩ ⟨splice residual (others ++ .loop body :: rest)⟩ := by
  intro W _ _ world free
  refine bind_of_ok ?_
  -- One step unrolls the loop, and the next one acts.
  show runSteps (9998 + 1 + 1) (.loop body :: rest) world = _
  rw [runSteps_loop _ body rest free, starts]
  exact runSteps_of_stepStmt free (acts W world free) (performed_act_ne_none action world) 9998 _

theorem ActsNext.deeds (acts : ActsNext action program rest) {W : Type} [World W] [LawfulWorld W]
    {world : W} (free : World.performed world = none) :
    deeds program world = [.did (.acted action)] := by
  have start : World.performed (Watched.start world) = none := free
  rw [Execution.deeds, acts _ _ start]
  rfl

/-- A program that acts has something left to run. -/
theorem ActsNext.isFinished (acts : ActsNext action program rest) :
    program.isFinished = false := by
  obtain ⟨stmts⟩ := program
  cases stmts with
  | cons stmt others => rfl
  | nil =>
      have free : World.performed ({ readings := {} } : Rehearsal) = none := rfl
      have ran := acts Rehearsal _ free
      rw [execute, bind_of_ok (runSteps_nil maxSteps)] at ran
      cases ran

end OneAction

/-! ### Many ticks -/

/-- The program performs the actions, one in each tick, does nothing else, and leaves the rest. -/
inductive Performs : List Action → Program → Program → Prop where
  | nil (program : Program) : Performs [] program program
  | cons {action : Action} {actions : List Action} {program middle rest : Program}
      (first : ActsNext action program middle) (later : Performs actions middle rest) :
      Performs (action :: actions) program rest

/-- The world after a performance in which each tick is followed by a renewal. -/
def actThrough {W : Type} [World W] (renew : Nat → W → W) : List Action → W → W
  | [], world => world
  | action :: actions, world =>
      actThrough (fun tick => renew (tick + 1)) actions (renew 0 (World.act action world))

namespace Performs

variable {actions : List Action} {program rest : Program}

theorem append {more : List Action} {middle : Program} (first : Performs actions program middle)
    (second : Performs more middle rest) : Performs (actions ++ more) program rest := by
  induction first with
  | nil => exact second
  | cons acts later ih => exact .cons acts (ih second)

/-- The course of a performance, if the slot is free at the start of each tick. -/
theorem course {W : Type} [World W] [LawfulWorld W] {renew : Nat → W → W} {world : W}
    (performs : Performs actions program rest)
    (frees : ∀ tick reached, World.performed (renew tick reached) = none)
    (free : World.performed world = none) :
    Execution.course renew actions.length program world =
      ⟨actions.map fun action => [.did (.acted action)],
        .ok rest (actThrough renew actions world)⟩ := by
  induction performs generalizing renew world with
  | nil program => rfl
  | cons acts later ih =>
      rw [List.length_cons, course_of_ok (acts W world free), acts.deeds free,
        ih (fun tick => frees (tick + 1)) (frees 0 _)]
      rfl

/-- The rehearsal of a performance lists its actions, up to the last tick of the rehearsal. -/
theorem actionsFrom (performs : Performs actions program rest) {ticks : Nat}
    (within : ticks ≤ actions.length) {world : Rehearsal} (free : World.performed world = none) :
    Rehearsal.actionsFrom ticks program world = .ok (actions.take ticks) := by
  induction performs generalizing ticks world with
  | nil program =>
      obtain rfl := Nat.le_zero.mp within
      rfl
  | @cons action actions program middle rest acts later ih =>
      cases ticks with
      | zero => rfl
      | succ ticks =>
          have fewer : ticks ≤ actions.length := Nat.le_of_succ_le_succ within
          have freed : World.performed (World.act action world).endTick = none := rfl
          rw [Rehearsal.actionsFrom, acts.isFinished, if_neg Bool.false_ne_true,
            acts Rehearsal world free]
          show (Rehearsal.actionsFrom ticks middle (World.act action world).endTick).map _ = _
          rw [ih fewer freed]
          rfl

end Performs

end FuelDuel.Execution
