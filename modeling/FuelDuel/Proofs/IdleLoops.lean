import FuelDuel.Proofs.ActionSlot
import FuelDuel.Proofs.Everywhere

/-!
Loops that cannot act. A tick that has come to a loop without any action in it never leaves it: each
step rewrites what stands in front of the loop or unrolls the loop, and the loop stays where it is
with statements in front of it that do not act either (`runSteps_trapped`). So the tick fails, and
in the same way whatever stands behind the loop (`idle_loops_always_fault`).
-/

namespace FuelDuel.Execution

open FuelDuel.Language
open FuelDuel.World

/-- The statement is not an action statement. -/
def Idle (stmt : Stmt) : Prop := stmt.action? = none

instance (stmt : Stmt) : Decidable (Idle stmt) :=
  inferInstanceAs (Decidable (stmt.action? = none))

theorem idle_inherited : Inherited Idle where
  moved idle := by simp [Idle, Stmt.action?] at idle
  waited idle := by simp [Idle, Stmt.action?] at idle

section Steps

variable {W : Type} [World W] [LawfulWorld W] {world : W} {body : Block}

/-- A step without an action in the statement leaves the slot as it was. -/
theorem stepStmt_idle {stmt : Stmt} {residual : Option Stmt} {after : W}
    (idle : ∀ node ∈ stmt.nodes, Idle node) (stepped : stepStmt stmt world = .ok residual after) :
    World.performed after = World.performed world := by
  have slot := stepStmt_performed stmt stepped
  rwa [idle stmt.lead stmt.lead_mem_nodes, Option.none_or] at slot

/-- The steps of a tick never get past a loop that cannot act. They fail in the same world and with
the same fault whatever stands behind the loop. -/
theorem runSteps_trapped (inside : ∀ node ∈ body.nodes, Idle node) (steps : Nat)
    {front : List Stmt} (idle : Everywhere Idle front) (free : World.performed world = none) :
    ∃ fault after, ∀ rest,
      runSteps steps (front ++ .loop body :: rest) world = .error fault after := by
  induction steps generalizing front world with
  | zero =>
      refine ⟨.stepLimit maxSteps, world, fun rest => ?_⟩
      cases front with
      | nil => exact runSteps_zero (.loop body) rest free
      | cons stmt others => exact runSteps_zero stmt (others ++ .loop body :: rest) free
  | succ steps ih =>
      cases front with
      | nil =>
          have again : Everywhere Idle body.toList := everywhere_toList_iff.mpr inside
          obtain ⟨fault, after, failed⟩ := ih again free
          refine ⟨fault, after, fun rest => ?_⟩
          rw [List.nil_append, runSteps_loop steps body rest free]
          exact failed rest
      | cons stmt others =>
          obtain ⟨first, later⟩ := everywhere_cons_iff.mp idle
          cases stepped : stepStmt stmt world with
          | error fault after =>
              refine ⟨fault, after, fun rest => ?_⟩
              rw [List.cons_append, runSteps_succ steps stmt _ free, bind_of_error stepped]
          | ok residual after =>
              have stillFree : World.performed after = none :=
                (stepStmt_idle first stepped).trans free
              have advanced := (Advances.first (stepStmt_rewrites stmt stepped) others).everywhere
                idle_inherited idle
              obtain ⟨fault, reached, failed⟩ := ih advanced stillFree
              refine ⟨fault, reached, fun rest => ?_⟩
              rw [List.cons_append, runSteps_succ steps stmt _ free, bind_of_ok stepped,
                splice_append, ← List.append_assoc]
              exact failed rest

/-- A tick fails in the same world and with the same fault whatever stands behind the loop. -/
theorem execute_trapped {front : List Stmt}
    (idle : ∀ node ∈ front.flatMap Stmt.nodes ++ body.nodes, Idle node)
    (free : World.performed world = none) :
    ∃ fault after, ∀ rest, execute ⟨front ++ .loop body :: rest⟩ world = .error fault after := by
  obtain ⟨before, inside⟩ := List.forall_mem_append.mp idle
  obtain ⟨fault, after, failed⟩ := runSteps_trapped inside maxSteps before free
  exact ⟨fault, after, fun rest => bind_of_error (failed rest)⟩

end Steps

/-- A tick of a program that comes to the loop fails at a division by zero or at the limit of steps.
The slot stays free, and nothing that stands behind the loop is run: it changes neither the fault
nor the world in which the tick ends, nor what is read and done until then. -/
def Trapped {W : Type} [World W] (front : List Stmt) (body : Block) (world : W) : Prop :=
  ∃ fault after done, (fault = .divisionByZero ∨ fault = .stepLimit maxSteps) ∧
    World.performed after = none ∧
    ∀ rest, execute ⟨front ++ .loop body :: rest⟩ world = .error fault after ∧
      deeds ⟨front ++ .loop body :: rest⟩ world = done

theorem trapped_of_steady {W : Type} [SteadyWorld W] {front : List Stmt} {body : Block}
    (idle : ∀ node ∈ front.flatMap Stmt.nodes ++ body.nodes, Idle node) {world : W}
    (free : World.performed world = none) : Trapped front body world := by
  obtain ⟨fault, after, failed⟩ := execute_trapped idle free
  -- A watched run is trapped as well: what is read and done does not depend on the rest either.
  have watchedFree : World.performed (Watched.start world) = none := free
  obtain ⟨_, watched, seen⟩ := execute_trapped idle watchedFree
  have told (rest : List Stmt) :
      deeds ⟨front ++ .loop body :: rest⟩ world = watched.deeds := by
    rw [deeds, seen rest]
    rfl
  have outcome := execute_outcome ⟨front ++ [.loop body]⟩ free
  rw [failed []] at outcome
  rcases outcome with ⟨_, _, _, _, _, ran⟩ | ⟨_, ran⟩ | ⟨quiet, _, cause, ran⟩
  · cases ran
  · cases ran
  · cases ran
    exact ⟨fault, _, watched.deeds, cause, (performed_replay quiet world).trans free,
      fun rest => ⟨failed rest, told rest⟩⟩

/-- A loop that cannot act always faults. If none of the statements in front of a loop and in its
body, at any depth, is an action, then every tick on a free slot that starts with them fails, at a
division by zero or at the limit of steps; the slot stays free, and nothing behind the loop is
run. -/
theorem idle_loops_always_fault {front : List Stmt} {body : Block}
    (idle : ∀ node ∈ front.flatMap Stmt.nodes ++ body.nodes, Idle node) :
    (∀ view : View, World.performed view = none → Trapped front body view) ∧
      ∀ world : Rehearsal, World.performed world = none → Trapped front body world :=
  ⟨fun _ => trapped_of_steady idle, fun _ => trapped_of_steady idle⟩

/-- Divides by what is left of three in each round, and would lower the shield after the fifth. -/
def countdown : Block :=
  .ofCons (.assign "n" (.binary .add (.var "n") (.num 1)))
    [.while (.compare .lt (.num 5) (.var "n")) (.single (.shield false)),
      .assign "q" (.binary .div (.num 6) (.binary .sub (.num 3) (.var "n")))]

/-- The third round of a countdown is its last, and no statement behind it can help that. -/
theorem idle_loops_always_fault_of_countdown :
    (∀ node ∈ [Stmt.shield true].flatMap Stmt.nodes ++ countdown.nodes, Idle node) ∧
    ∃ after, ∀ rest, execute ⟨[.shield true] ++ .loop countdown :: rest⟩
      ({ readings := {} } : Rehearsal) = .error .divisionByZero after := by
  have idle : ∀ node ∈ [Stmt.shield true].flatMap Stmt.nodes ++ countdown.nodes, Idle node := by
    decide
  have free : World.performed ({ readings := {} } : Rehearsal) = none := rfl
  have alone : execute ⟨[.shield true] ++ [.loop countdown]⟩ ({ readings := {} } : Rehearsal) =
      .error .divisionByZero
        { readings := {}, vars := ⟨[("n", 3), ("q", 6)]⟩, shield := true } := by rfl
  obtain ⟨fault, after, done, -, -, failed⟩ := (idle_loops_always_fault idle).2 _ free
  cases alone.symm.trans (failed []).1
  exact ⟨idle, _, fun rest => (failed rest).1⟩

end FuelDuel.Execution
