import FuelDuel.Execution.Step
import FuelDuel.Proofs.Computation

/-!
The four ways in which a tick goes on: the slot is used, nothing is left to run, no step is left, or
the first statement is stepped. What is left of that statement stands before the others
(`splice_append`).
-/

namespace FuelDuel.Execution

open FuelDuel.Language

variable {W : Type} [World W] {world : W}

theorem used_eq_false_iff : World.used world = false ↔ World.performed world = none := by
  simp [World.used]

theorem used_eq_true_iff : World.used world = true ↔ World.performed world ≠ none := by
  simp [World.used, Option.isSome_iff_ne_none]

theorem perform_free {action : Action} (free : World.performed world = none) :
    perform action world = .ok () (World.act action world) := by
  simp [perform, free]

theorem runSteps_nil (steps : Nat) : runSteps steps [] world = .ok [] world := by
  rw [runSteps.eq_1, bind_of_ok (get_apply world)]
  split <;> rfl

theorem runSteps_used (steps : Nat) (stmts : List Stmt) (used : World.performed world ≠ none) :
    runSteps steps stmts world = .ok stmts world := by
  have taken := used_eq_true_iff.mpr used
  cases stmts with
  | nil => exact runSteps_nil steps
  | cons stmt rest =>
      cases steps with
      | zero =>
          rw [runSteps.eq_2, bind_of_ok (get_apply world), if_pos taken]
          rfl
      | succ steps =>
          rw [runSteps.eq_3, bind_of_ok (get_apply world), if_pos taken]
          rfl

theorem runSteps_zero (stmt : Stmt) (rest : List Stmt) (free : World.performed world = none) :
    runSteps 0 (stmt :: rest) world = .error (.stepLimit maxSteps) world := by
  rw [runSteps.eq_2, bind_of_ok (get_apply world),
    if_neg (by simp [used_eq_false_iff.mpr free])]
  rfl

theorem runSteps_succ (steps : Nat) (stmt : Stmt) (rest : List Stmt)
    (free : World.performed world = none) :
    runSteps (steps + 1) (stmt :: rest) world =
      (stepStmt stmt >>= fun residual => runSteps steps (splice residual rest)) world := by
  rw [runSteps.eq_3, bind_of_ok (get_apply world),
    if_neg (by simp [used_eq_false_iff.mpr free])]

/-- A loop is unrolled in one step: its body is put in front of it. -/
theorem runSteps_loop (steps : Nat) (body : Block) (rest : List Stmt)
    (free : World.performed world = none) :
    runSteps (steps + 1) (.loop body :: rest) world =
      runSteps steps (body.toList ++ .loop body :: rest) world := by
  have unrolled : stepStmt (.loop body) world =
      .ok (some (.block (body.append (.single (.loop body))))) world := rfl
  rw [runSteps_succ steps (.loop body) rest free, bind_of_ok unrolled]
  simp [splice, Block.toList]

/-! ### What is left of a statement -/

theorem splice_append (residual : Option Stmt) (rest : List Stmt) :
    splice residual rest = splice residual [] ++ rest := by
  cases residual with
  | none => rfl
  | some stmt => cases stmt <;> simp [splice]

theorem splice_ofList (stmts : List Stmt) :
    splice ((Block.ofList? stmts).map .block) [] = stmts := by
  cases stmts <;> simp [Block.ofList?, splice]

/-- The count that is left after one action of several. -/
theorem toInt_sub_one {count : Int32} (more : 1 < count) :
    (count - 1).toInt = count.toInt - 1 := by
  have above : (1 : Int) < count.toInt := Int32.lt_iff_toInt_lt.mp more
  exact Int32.toInt_sub_of_le count 1 (by decide) (Int32.le_iff_toInt_le.mpr (Int.le_of_lt above))

/-- The residual of a counted action is no block. -/
theorem splice_counted (left : Option Expr) {make : Expr → Stmt}
    (simple : ∀ expr body, make expr ≠ .block body) :
    splice (left.map make) [] = (left.map make).toList := by
  cases left with
  | none => rfl
  | some expr =>
      cases made : make expr with
      | block body => exact absurd made (simple expr body)
      | _ => simp [splice, made]

end FuelDuel.Execution
