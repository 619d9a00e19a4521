import FuelDuel.Execution.Eval

/-!
Resumable execution. A step of a statement performs at most one action and gives what is left of
the statement to run, or nothing. There is no program counter: a loop that goes on becomes its body
followed by the loop itself, and a block that is left over is spliced into the sequence around it.
`execute` runs a program for one tick.
-/

namespace FuelDuel.Execution

open FuelDuel.Language

variable {W : Type} [World W]

/-- The number of steps that a program may run in one tick without performing an action. -/
def maxSteps : Nat := 10000

/-- Performs an action once, after its count has been evaluated, and gives the literal count that
is left, if any. A count that is not positive counts as one. -/
def performCounted (action : Action) (count : Option Expr) : Run W (Option Expr) := do
  let remaining ← match count with
    | some expr => evalExpr expr
    | none => pure 1
  perform action
  return if 1 < remaining then some (.num (remaining - 1)) else none

/-- The sequence `rest` with what is left of the statement before it: nothing, the statements of a
block, or one statement. -/
def splice : Option Stmt → List Stmt → List Stmt
  | none, rest => rest
  | some (.block inner), rest => inner.toList ++ rest
  | some stmt, rest => stmt :: rest

mutual

/-- One step of a statement: what is left of it to run. -/
def stepStmt : Stmt → Run W (Option Stmt)
  | .turn way => do perform (.turn way); return none
  | .takeFuel => do perform .takeFuel; return none
  | .shield on => do modify (World.setShield on); return none
  | .move count => do return (← performCounted .move count).map fun left => .move (some left)
  | .wait count => do return (← performCounted .wait count).map fun left => .wait (some left)
  | .assign name value => do
      let result ← evalExpr value
      modify (World.store name result)
      return none
  | .loop body => return some (.block (body.append (.single (.loop body))))
  | .ifThen cond body => do
      return if ← evalCond cond then some (.block body) else none
  | .ifElse cond body otherwise => do
      return some (.block (if ← evalCond cond then body else otherwise))
  | .while cond body => do
      return if ← evalCond cond then some (.block (body.append (.single (.while cond body))))
        else none
  | .block body => do return (← stepBlock body).map .block

/-- One step of a block: a step of its first statement. -/
def stepBlock : Block → Run W (Option Block)
  | .single stmt => do return Block.ofList? (splice (← stepStmt stmt) [])
  | .cons stmt rest => do return Block.ofList? (splice (← stepStmt stmt) rest.toList)

end

/-- Steps the first statement until an action has been performed or nothing is left, for at most
`steps` steps. -/
def runSteps : Nat → List Stmt → Run W (List Stmt)
  | steps, stmts => do
      if World.used (← get) then return stmts
      match stmts, steps with
      | [], _ => return []
      | _ :: _, 0 => throw (.stepLimit maxSteps)
      | stmt :: rest, steps + 1 => runSteps steps (splice (← stepStmt stmt) rest)

/-- Runs a program until it has performed an action or has nothing left to run; gives the program
that remains for the next tick. -/
def execute (program : Program) : Run W Program := do
  return ⟨← runSteps maxSteps program.stmts⟩

end FuelDuel.Execution
